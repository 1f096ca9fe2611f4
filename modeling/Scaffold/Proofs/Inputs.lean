import Scaffold.Generation.Run
import Scaffold.Proofs.Sessions

/-! What a run reads. Templates depend on the library and the workspace alone, columns on the
database alone; reading them says things and changes nothing. Each reading is stated as a function,
and the action is shown to give what the function gives. -/
namespace Scaffold

open Files Files.Workspace Scaffold.Action Schema Running

variable {α : Type} {w w' : Workspace} {name : String}

/-! ## Templates -/

namespace Template

/-- The text of the file that a path leads to. -/
def textIn (path : Path) (w : Workspace) : Except Failure String :=
  match w.read path with
  | .error fault => .error (.file fault)
  | .ok bytes =>
    match Text.fileText? bytes with
    | some text => .ok text
    | none => .error .notText

/-- A file that is there is read; it may only hold no text. -/
theorem textIn_of_isFile {path : Path} {failure : Failure} (file : w.isFile path = true)
    (failed : textIn path w = .error failure) : failure = .notText := by
  unfold textIn at failed
  split at failed
  · rename_i unread
    unfold Workspace.isFile at file
    unfold Workspace.read at unread
    split at file
    · rename_i found
      rw [found] at unread
      cases unread
    · cases file
  · split at failed
    · cases failed
    · cases failed
      rfl

/-- The body that a library has under a name. -/
def Library.bodyIn (library : Library) (name : String) (w : Workspace) : Except Failure String :=
  match library.file? w name with
  | some path => (textIn path w).mapError (unread name path)
  | none =>
    match library.builtIn.lookup name with
    | some body => .ok body
    | none => .error (.templateMissing name (library.path? name))

theorem answers_readText (path : Path) :
    Answers (Emission.readText path) (textIn path) := by
  have decoded : ∀ bytes, Answers
      (match Text.fileText? bytes with
        | some text => return text
        | none => throw .notText : Action String)
      fun _ => match Text.fileText? bytes with
        | some text => .ok text
        | none => .error .notText := by
    intro bytes
    cases Text.fileText? bytes with
    | none => exact answers_throw _
    | some text => exact answers_pure _
  apply ((answers_ask (·.read path)).bind decoded).congr
  intro w
  rw [textIn]
  cases w.read path <;> rfl

/-- Reading a template says which of the failures it is when its file is not to be read. -/
theorem answers_load (path : Path) (name : String) : Answers (do
    let body ← tryCatch (Emission.readText path) fun failure =>
      throw (Library.unread name path failure)
    say .debug .templates ("Template '" ++ name ++ "' loaded from " ++ path.text)
    return body : Action String) fun w => (textIn path w).mapError (Library.unread name path) := by
  have caught := (answers_readText path).catch fun failure =>
    answers_throw (Library.unread name path failure)
  apply (caught.bind fun body => (answers_pure body).afterSaying rfl).congr
  intro w
  cases textIn path w <;> rfl

theorem answers_get (library : Library) (name : String) :
    Answers (library.get name) (library.bodyIn name) := by
  apply Answers.ofWorkspace
  intro held
  simp only [Library.bodyIn]
  cases library.file? held name with
  | some path => exact ⟨_, answers_load path name, rfl⟩
  | none =>
    cases library.builtIn.lookup name with
    | some body => exact ⟨_, (answers_pure body).afterSaying rfl, rfl⟩
    | none => exact ⟨_, answers_throw _, rfl⟩

/-- The inputs of fields, from the templates that a workspace has for them. -/
def inputsIn (library : Library) (base : Filling) (fields : List Field) (w : Workspace) :
    Except Failure (List String) :=
  fields.mapM fun field => do
    let body ← library.bodyIn (inputName field.kind) w
    return fragment body base field

private theorem answers_inputs (library : Library) (base : Filling) (fields : List Field) :
    Answers (inputs library base fields) (inputsIn library base fields) := by
  induction fields with
  | nil => exact answers_pure []
  | cons field rest ih =>
    refine ((answers_get library (inputName field.kind)).bind fun body =>
      ih.bind fun more => answers_pure (fragment body base field :: more)).congr fun w => ?_
    simp only [inputsIn, List.mapM_cons]
    cases library.bodyIn (inputName field.kind) w <;> rfl

/-- What fills the views, from the templates that a workspace has for the fields. -/
def viewFillingIn (naming : Naming) (config : Config) (columns : List Column) (fields : List Field)
    (library : Library) (w : Workspace) : Except Failure Filling := do
  let base := baseFilling naming config columns
  let head ← library.bodyIn "fields/head" w
  let cell ← library.bodyIn "fields/cell" w
  let view ← library.bodyIn "fields/view" w
  let form ← inputsIn library base fields w
  return base ++
    [(.tableHeader, Text.join "\n" (fields.map (fragment head base))),
     (.tableBody, Text.join "\n" (fields.map (fragment cell base))),
     (.viewRows, Text.join "\n" (fields.map (fragment view base))),
     (.form, Text.join "\n" form)]

theorem answers_viewFilling (naming : Naming) (config : Config) (columns : List Column)
    (fields : List Field) (library : Library) :
    Answers (viewFilling naming config columns fields library)
      (viewFillingIn naming config columns fields library) :=
  (answers_get library _).bind fun _ => (answers_get library _).bind fun _ =>
    (answers_get library _).bind fun _ => (answers_inputs library _ fields).bind fun _ =>
      answers_pure _

end Template

/-! ## Tables -/

namespace Schema.Source

/-- The column that a database describes. -/
def columnOf (key : List String) (raw : RawColumn) : Except Failure Column :=
  let declared := match raw.type with
    | .spelled text => text
    | .unspelled className => Text.upper className
  match Column.ofEntries [(.text "name", .text raw.name), (.text "declared_type", .text declared),
      (.text "nullable", .bool raw.nullable), (.text "primary_key", .bool (key.contains raw.name)),
      (.text "autoincrement", .bool raw.autoincrement)] with
  | .ok column => .ok column
  | .error issues => .error (.invalid issues)

/-- The columns of a table in order. -/
def columnsOf (source : Source) (name : String) : Except Failure (List Column) :=
  match source.readTable name with
  | .error fault => .error (.schema fault)
  | .ok table => table.columns.mapM (columnOf table.key)

private theorem answers_column (source : Source) (key : List String) (raw : RawColumn) :
    Answers (source.column key raw) fun _ => columnOf key raw := by
  have checked : ∀ entries, Answers
      (match Column.ofEntries entries with
        | .ok column => return column
        | .error issues => throw (.invalid issues) : Action Column)
      fun _ => match Column.ofEntries entries with
        | .ok column => .ok column
        | .error issues => .error (.invalid issues) := by
    intro entries
    cases Column.ofEntries entries with
    | ok column => exact answers_pure column
    | error issues => exact answers_throw _
  cases raw with
  | mk name type nullable autoincrement =>
  cases type with
  | spelled text => exact (answers_pure text).bind fun _ => checked _
  | unspelled className =>
    exact ((answers_pure (Text.upper className)).afterSaying rfl).bind fun _ => checked _

private theorem answers_mapM {β : Type} {f : β → Action α} {g : β → Except Failure α}
    (each : ∀ b, Answers (f b) fun _ => g b) (items : List β) :
    Answers (items.mapM f) fun _ => items.mapM g := by
  induction items with
  | nil => exact answers_pure []
  | cons item rest ih =>
    rw [List.mapM_cons, List.mapM_cons]
    exact (each item).bind fun _ => ih.bind fun _ => answers_pure _

private theorem answers_columns (source : Source) (name : String) :
    Answers (source.columns name) fun _ => source.columnsOf name := by
  unfold columns columnsOf
  cases source.readTable name with
  | error fault => exact answers_throw _
  | ok table =>
    refine ((answers_mapM (answers_column source table.key) table.columns).bind fun columns =>
      (answers_pure columns).afterSaying rfl).congr fun _ => ?_
    change _ = table.columns.mapM (columnOf table.key)
    cases table.columns.mapM (columnOf table.key) <;> rfl

/-- Whether a table is there, unless the database refuses to say. -/
def hasTable (source : Source) (table : String) : Except Failure Bool :=
  match source.database.refusals.lookup with
  | some reason => .error (.schema (.lookup table reason))
  | none => .ok (source.database.table? source.schema table).isSome

private theorem answers_tableExists (source : Source) (table : String) :
    Answers (source.tableExists table) fun _ => source.hasTable table := by
  unfold tableExists hasTable
  cases source.database.refusals.lookup with
  | some reason => exact answers_throw _
  | none => exact (answers_pure _).afterSaying rfl

end Schema.Source

/-! ## What a generator makes of them -/

namespace Generation

open Emission Inflection Template

/-- The rule set that a request asks for. -/
def rulesIn (language : Option String) : Except Failure RuleSet :=
  match rulesFor? language with
  | none => .error (.unsupportedLanguage (language.getD ""))
  | some rules => .ok rules

/-- The text of a template with its holes filled. -/
def contentIn (g : Generator) (name : String) (filling : Filling) (w : Workspace) :
    Except Failure String :=
  (g.library.bodyIn name w).map (render · filling.bindings)

/-- What a run knows of its table. -/
def inspected (g : Generator) (table : String) : Except Failure (Option (List Column)) := do
  if ← g.source.hasTable table then
    return some (← g.source.columnsOf table)
  else return none

theorem rulesIn_error_iff {language : Option String} {failure : Failure} :
    rulesIn language = .error failure ↔
      rulesFor? language = none ∧ failure = .unsupportedLanguage (language.getD "") := by
  unfold rulesIn
  cases rulesFor? language with
  | none => simp [eq_comm]
  | some rules => simp

/-- Nothing is known of a table when the database does not say whether it is there, or that it is but
not what its columns are. -/
theorem inspected_error_iff {g : Generator} {table : String}
    {failure : Failure} : inspected g table = .error failure ↔
    g.source.hasTable table = .error failure ∨
      g.source.hasTable table = .ok true ∧ g.source.columnsOf table = .error failure := by
  unfold inspected
  cases g.source.hasTable table with
  | error reason => simp [bind, Except.bind]
  | ok found =>
    cases found with
    | false => simp [bind, Except.bind, pure, Except.pure]
    | true => cases g.source.columnsOf table <;> simp [bind, Except.bind, pure, Except.pure]

theorem answers_rulesOf (language : Option String) :
    Answers (rulesOf language) fun _ => rulesIn language := by
  unfold rulesOf rulesIn
  cases rulesFor? language with
  | none => exact answers_throw _
  | some rules =>
    cases language with
    | none => exact answers_pure rules
    | some name => exact Answers.perhapsSaying rfl (answers_pure rules)

theorem answers_resolveNames (rules : RuleSet) (request : Request) :
    Answers (resolveNames rules request) fun _ => .ok (Naming.resolve rules request) :=
  (answers_pure _).afterSaying rfl

private theorem answers_fieldsOf (policy : FieldPolicy) (columns : List Column) :
    Answers (fieldsOf policy columns) fun _ => .ok (policy.fields columns) :=
  Answers.perhapsSaying rfl (answers_pure _)

theorem answers_inspect (g : Generator) (table : String) :
    Answers (inspect g table) fun _ =>
      (inspected g table).map (·.map fun columns => (columns, g.policy.fields columns)) := by
  have known : ∀ found : Bool, Answers
      (if found then do
        let columns ← g.source.columns table
        let fields ← fieldsOf g.policy columns
        return some (columns, fields)
      else return none : Action (Option (List Column × List Field)))
      fun _ => (if found then do return some (← g.source.columnsOf table)
        else return none : Except Failure (Option (List Column))).map
          (·.map fun columns => (columns, g.policy.fields columns)) := by
    intro found
    cases found with
    | false => exact answers_pure none
    | true =>
      refine ((Source.answers_columns g.source table).bind fun columns =>
        (answers_fieldsOf g.policy columns).bind fun fields =>
          answers_pure (some (columns, fields))).congr fun _ => ?_
      cases g.source.columnsOf table <;> rfl
  refine ((Source.answers_tableExists g.source table).bind known).congr fun _ => ?_
  unfold inspected
  cases g.source.hasTable table <;> rfl

theorem answers_renderTemplate (g : Generator) (name : String) (filling : Filling) :
    Answers (renderTemplate g name filling) (contentIn g name filling) := by
  refine ((answers_get g.library name).bind (g := fun body _ =>
    .ok (render body filling.bindings)) fun body => ?_).congr fun w => ?_
  · have told : Answers (do
        say .debug .generator ("Rendered '" ++ name ++ "' (" ++
          toString (Text.lineCount (render body filling.bindings)) ++ " lines)")
        return render body filling.bindings : Action String)
        fun _ => .ok (render body filling.bindings) := (answers_pure _).afterSaying rfl
    cases bound : (unbound body filling.bindings).isEmpty with
    | true =>
      simp only [bound]
      exact told
    | false =>
      simp only [bound]
      exact (told.afterSaying rfl).afterSaying rfl
  · unfold contentIn
    cases g.library.bodyIn name w <;> rfl

end Generation

end Scaffold
