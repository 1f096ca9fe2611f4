import Scaffold.Generation.Run
import Scaffold.Proofs.Sessions

/-! How a run goes from stage to stage. An action takes the run along some stages in a row, most of
them along none; when it fails, it has come a part of the way, and never because a step was not
allowed. What the trace held before makes no difference to what any action does. -/
namespace Scaffold

open Files Generation Emission Running Schema Template

/-- The stage that an event says was come to. -/
def Event.stage? : Event → Option Stage
  | .entered stage => some stage
  | _ => none

/-- The failure of a step that no stage allows. -/
def Failure.isIllegalStep : Failure → Bool
  | .illegalStep .. => true
  | _ => false

namespace Session

/-- The stages that were come to, in order. -/
def visited (session : Session) : List Stage :=
  session.events.filterMap Event.stage?

/-- The same session with an older trace before its own. -/
def above (session : Session) (older : List Event) : Session :=
  { session with trace := session.trace ++ older }

end Session

namespace Action

variable {α β : Type} {action : Action α} {next : α → Action β} {s : Stage} {path rest : List Stage}
  {marks more : Bool}

/-- An action that does the same whatever the trace held before, and adds the same to it. -/
def Framed (action : Action α) : Prop :=
  ∀ session older, action.run (session.above older) =
    ((action.run session).1, (action.run session).2.above older)

theorem Framed.bind (first : Framed action) (second : ∀ a, Framed (next a)) :
    Framed (action >>= next) := by
  intro session older
  rw [run_bind, run_bind, first]
  rcases action.run session with ⟨_ | a, middle⟩
  · rfl
  · exact second a middle older

/-- An action that goes along some stages from another one: all the way when it succeeds, a part of it
when it fails. It marks the run as successful or leaves the mark alone. -/
structure Moves (action : Action α) (s : Stage) (path : List Stage) (marks : Bool) : Prop where
  framed : Framed action
  goes : ∀ {session after : Session} {result : Except Failure α},
    action.run session = (result, after) → session.report.stage = s →
    ∃ taken, taken <+: path ∧ after.visited = session.visited ++ taken ∧
      after.report.stage = taken.getLastD s ∧
      (marks = false → after.report.success = session.report.success) ∧
      (∀ failure, result = .error failure → failure.isIllegalStep = false) ∧
      ∀ a, result = .ok a → taken = path ∧ (marks = true → after.report.success = true)

/-- An action that leaves the stage of the run alone. -/
def Tame (action : Action α) : Prop :=
  ∀ s, Moves action s [] false

theorem Moves.bind (first : Moves action s path marks)
    (second : ∀ a, Moves (next a) (path.getLastD s) rest more) :
    Moves (action >>= next) s (path ++ rest) (marks || more) := by
  refine ⟨first.framed.bind fun a => (second a).framed, ?_⟩
  · intro session after result ran stage
    rw [run_bind] at ran
    split at ran
    · rename_i a middle done
      obtain ⟨taken, -, visited, reached, kept, -, all⟩ := first.goes done stage
      obtain ⟨whole, marked⟩ := all a rfl
      subst whole
      obtain ⟨later, part, visited', reached', kept', legal, all'⟩ := (second a).goes ran reached
      refine ⟨taken ++ later, List.prefix_append_right_inj taken |>.mpr part, ?_, ?_, ?_, legal, ?_⟩
      · rw [visited', visited, List.append_assoc]
      · rw [reached']
        simp [List.getLastD_eq_getLast?, List.getLast?_append]
      · intro unmarked
        obtain ⟨rfl, rfl⟩ := Bool.or_eq_false_iff.mp unmarked
        exact (kept' rfl).trans (kept rfl)
      · intro b given
        obtain ⟨rfl, marked'⟩ := all' b given
        refine ⟨rfl, fun marking => ?_⟩
        cases more with
        | true => exact marked' rfl
        | false =>
          rw [Bool.or_false] at marking
          exact (kept' rfl).trans (marked marking)
    · rename_i failure middle failed
      obtain ⟨taken, part, visited, reached, kept, legal, -⟩ := first.goes failed stage
      cases ran
      refine ⟨taken, part.trans (List.prefix_append _ _), visited, reached, ?_, ?_, ?_⟩
      · exact fun unmarked => kept (Bool.or_eq_false_iff.mp unmarked).1
      · intro reason given
        cases given
        exact legal failure rfl
      · exact fun _ given => by cases given

theorem Moves.congr {path' : List Stage} {marks' : Bool} (moves : Moves action s path marks)
    (stages : path = path') (mark : marks = marks') : Moves action s path' marks' :=
  stages ▸ mark ▸ moves

/-! ## Actions that leave the stage alone -/

theorem Tame.framed (tame : Tame action) : Framed action :=
  (tame .start).framed

theorem Tame.still (tame : Tame action) {session after : Session} {result : Except Failure α}
    (ran : action.run session = (result, after)) :
    after.visited = session.visited ∧ after.report.stage = session.report.stage ∧
      after.report.success = session.report.success ∧
      ∀ failure, result = .error failure → failure.isIllegalStep = false := by
  obtain ⟨_, part, visited, reached, kept, legal, -⟩ := (tame _).goes ran rfl
  obtain rfl := List.prefix_nil.mp part
  exact ⟨by rw [visited, List.append_nil], reached, kept rfl, legal⟩

/-- Something that is done before the run goes on. -/
theorem Tame.before (tame : Tame action) (moves : ∀ a, Moves (next a) s path marks) :
    Moves (action >>= next) s path marks :=
  (tame s).bind moves

theorem Tame.bind (first : Tame action) (second : ∀ a, Tame (next a)) : Tame (action >>= next) :=
  fun s => first.before fun a => second a s

/-- Catching a failure, which is never that of a step that was not allowed. -/
theorem Tame.catch {handle : Failure → Action α} (tame : Tame action)
    (handled : ∀ failure, failure.isIllegalStep = false → Tame (handle failure)) :
    Tame (tryCatch action handle) := by
  intro s
  constructor
  · intro session older
    rw [run_tryCatch, run_tryCatch, tame.framed]
    rcases ran : action.run session with ⟨failure | a, middle⟩
    · obtain ⟨-, -, -, legal⟩ := tame.still ran
      exact (handled failure (legal failure rfl)).framed middle older
    · rfl
  · intro session after result ran stage
    rw [run_tryCatch] at ran
    split at ran
    · rename_i a middle done
      cases ran
      exact (tame s).goes done stage
    · rename_i failure middle failed
      obtain ⟨visited, reached, kept, legal⟩ := tame.still failed
      obtain ⟨taken, part, visited', reached', kept', all⟩ :=
        (handled failure (legal failure rfl) s).goes ran (reached.trans stage)
      exact ⟨taken, part, visited ▸ visited', reached', fun unmarked => (kept' unmarked).trans kept,
        all⟩

/-- An action that does the same whatever the trace holds, and adds nothing to it that says where the
run is. -/
theorem tame_of_run (framed : Framed action)
    (still : ∀ session, (action.run session).2.visited = session.visited ∧
      (action.run session).2.report.stage = session.report.stage ∧
      (action.run session).2.report.success = session.report.success)
    (legal : ∀ session failure, (action.run session).1 = .error failure →
      failure.isIllegalStep = false) : Tame action := by
  intro s
  refine ⟨framed, fun {session after result} ran stage => ?_⟩
  obtain ⟨visited, reached, kept⟩ := still session
  have failures := legal session
  rw [ran] at visited reached kept failures
  exact ⟨[], List.prefix_rfl, by rw [visited, List.append_nil], reached.trans stage, fun _ => kept,
    failures, fun _ _ => ⟨rfl, fun marking => by cases marking⟩⟩

theorem tame_pure (a : α) : Tame (pure a : Action α) :=
  tame_of_run (fun _ _ => rfl) (fun _ => ⟨rfl, rfl, rfl⟩) fun _ _ given => by cases given

theorem tame_throw {failure : Failure} (legal : failure.isIllegalStep = false) :
    Tame (throw failure : Action α) :=
  tame_of_run (fun _ _ => rfl) (fun _ => ⟨rfl, rfl, rfl⟩) fun _ _ given => by
    cases given
    exact legal

private theorem visited_note (session : Session) (events : List Event) :
    ({ session with trace := events.reverse ++ session.trace } : Session).visited =
      session.visited ++ events.filterMap Event.stage? := by
  simp [Session.visited, Session.events]

theorem tame_note {events : List Event} (silent : events.filterMap Event.stage? = []) :
    Tame (note events) := by
  refine tame_of_run (fun session older => ?_) (fun session => ⟨?_, rfl, rfl⟩)
    fun _ _ given => by cases given
  · change (Except.ok (), ({ session with trace := events.reverse ++ (session.trace ++ older) } :
      Session)) = (Except.ok (), { session with trace := events.reverse ++ session.trace ++ older })
    rw [List.append_assoc]
  · exact (visited_note session events).trans (by rw [silent, List.append_nil])

theorem tame_say (level : Level) (channel : Channel) (text : String) :
    Tame (say level channel text) :=
  tame_note rfl

/-- Saying something first on some condition. -/
theorem Tame.perhapsSaying {level : Level} {channel : Channel} {text : String} {rest : Action α}
    {condition : Prop} [Decidable condition] (tame : Tame rest) :
    Tame (if condition then say level channel text >>= fun _ => rest else rest) := by
  split
  · exact (tame_say _ _ _).bind fun _ => tame
  · exact tame

theorem tame_workspace : Tame workspace :=
  tame_of_run (fun _ _ => rfl) (fun _ => ⟨rfl, rfl, rfl⟩) fun _ _ given => by cases given

/-- No answer says where the run is. -/
theorem answer_silent (consent : Consent) (question : String) (default : Bool) :
    (consent.answer question default).2.2.filterMap Event.stage? = [] := by
  unfold Consent.answer
  split <;> rfl

private theorem tame_confirm (question : String) (default : Bool) :
    Tame (confirm question default) := by
  refine tame_of_run (fun session older => ?_) (fun session => ⟨?_, rfl, rfl⟩)
    fun _ _ given => by cases given
  · change (Except.ok (session.consent.answer question default).1, ({ session with
        consent := (session.consent.answer question default).2.1
        trace := (session.consent.answer question default).2.2.reverse ++
          (session.trace ++ older) } : Session)) =
      (Except.ok (session.consent.answer question default).1, { session with
        consent := (session.consent.answer question default).2.1
        trace := (session.consent.answer question default).2.2.reverse ++ session.trace ++ older })
    rw [List.append_assoc]
  · have said := visited_note session (session.consent.answer question default).2.2
    rw [answer_silent, List.append_nil] at said
    exact said

private theorem tame_change (c : Change α) : Tame (change c) := by
  refine tame_of_run (fun session older => ?_) (fun session => ?_) fun session failure given => ?_
  · rw [change_run, change_run]
    rfl
  · rw [change_run]
    exact ⟨rfl, rfl, rfl⟩
  · rw [change_run] at given
    cases outcome : (c.run session.workspace).1 with
    | ok a =>
      simp only [outcome] at given
      cases given
    | error fault =>
      simp only [outcome] at given
      cases given
      rfl

private theorem tame_record {change : Report → Report}
    (stage : ∀ report, (change report).stage = report.stage)
    (success : ∀ report, (change report).success = report.success) : Tame (record change) :=
  tame_of_run (fun _ _ => rfl) (fun session => ⟨rfl, stage session.report, success session.report⟩)
    fun _ _ given => by cases given

theorem Tame.ite {other : Action α} (condition : Bool) (first : Tame action) (second : Tame other) :
    Tame (if condition then action else other) := by
  cases condition with
  | true => exact first
  | false => exact second

theorem Tame.mapM {f : α → Action β} (each : ∀ a, Tame (f a)) (items : List α) :
    Tame (items.mapM f) := by
  induction items with
  | nil => exact tame_pure []
  | cons item rest ih =>
    rw [List.mapM_cons]
    exact (each item).bind fun _ => ih.bind fun _ => tame_pure _

theorem Tame.timed (label : String) (tame : Tame action) : Tame (timed label action) :=
  (tame.catch fun _ legal => (tame_say _ _ _).bind fun _ => tame_throw legal).bind fun a =>
    (tame_say _ _ _).bind fun _ => tame_pure a

theorem Tame.refusedAs {failure : Fault → Failure} (tame : Tame action)
    (legal : ∀ fault, (failure fault).isIllegalStep = false) : Tame (refusedAs failure action) := by
  refine tame.catch fun reason known => ?_
  cases reason with
  | file fault =>
    refine tame_throw ?_
    split
    · exact legal fault
    · rfl
  | _ => exact tame_throw known

end Action

open Scaffold.Action

/-! ## What runs are made of -/

section

variable {path : Path} {content name label template : String} {filling : Filling} {g : Generator}
  {naming : Naming} {columns : List Column} {fields : List Field}

private theorem tame_ensureDirectory (path : Path) : Tame (ensureDirectory path) :=
  (tame_change _).bind fun _ => tame_say _ _ _

private theorem tame_writeText (path : Path) (content : String) (inOneStep : Bool) :
    Tame (writeText path content inOneStep) :=
  (tame_change _).bind fun _ => (tame_ensureDirectory _).bind fun _ => (tame_change _).bind fun _ =>
    (tame_say _ _ _).bind fun _ => tame_pure _

theorem tame_readText (path : Path) : Tame (readText path) := by
  refine (tame_change _).bind fun bytes => ?_
  cases Text.fileText? bytes with
  | some text => exact tame_pure text
  | none => exact tame_throw rfl

private theorem tame_place (path : Path) (content : String) : Tame (place path content) :=
  ((tame_writeText path content true).refusedAs fun _ => rfl).bind fun _ => tame_pure _

private theorem tame_write (path : Path) (content : String) : Tame (write path content) := by
  refine tame_workspace.bind fun w => .ite _ ((tame_confirm _ _).bind fun _ => .ite _ ?_ ?_) ?_
  · exact (tame_place _ _).bind fun _ => (tame_say _ _ _).bind fun _ => tame_pure _
  · exact (tame_say _ _ _).bind fun _ => tame_pure _
  · exact (tame_place _ _).bind fun _ => (tame_say _ _ _).bind fun _ => tame_pure _

private theorem tame_writeIfMissing (path : Path) (content : String) :
    Tame (writeIfMissing path content) := by
  refine tame_workspace.bind fun w => .ite _ ?_ ?_
  · exact (tame_say _ _ _).bind fun _ => tame_pure _
  · exact (tame_place _ _).bind fun _ => (tame_say _ _ _).bind fun _ => tame_pure _

private theorem tame_addLine (style : RouteStyle) (path : Path) (line : String) :
    Tame (addLine style path line) :=
  (tame_ensureDirectory _).bind fun _ => tame_workspace.bind fun _ => (tame_change _).bind fun _ =>
    .ite _ (tame_say _ _ _) (tame_pure _)

private theorem tame_appendRoute (style : RouteStyle) (path : Path)
    (routeName controller : String) :
    Tame (appendRoute style path routeName controller) :=
  ((tame_addLine _ _ _).refusedAs fun _ => rfl).bind fun _ => (tame_say _ _ _).bind fun _ =>
    tame_pure _

private theorem tame_get (library : Library) (name : String) : Tame (library.get name) := by
  refine tame_workspace.bind fun w => ?_
  cases library.file? w name with
  | some path =>
    refine Tame.bind ((tame_readText path).catch fun failure legal => ?_) fun _ =>
      (tame_say _ _ _).bind fun _ => tame_pure _
    refine tame_throw ?_
    cases failure with
    | notText => rfl
    | file fault =>
      rw [Library.unread]
      split <;> rfl
    | _ => exact legal
  | none =>
    cases library.builtIn.lookup name with
    | some body => exact (tame_say _ _ _).bind fun _ => tame_pure body
    | none => exact tame_throw rfl

private theorem tame_inputs (library : Library) (base : Filling) (fields : List Field) :
    Tame (inputs library base fields) := by
  induction fields with
  | nil => exact tame_pure []
  | cons field rest ih => exact (tame_get _ _).bind fun _ => ih.bind fun _ => tame_pure _

private theorem tame_viewFilling (naming : Naming) (config : Config) (columns : List Column)
    (fields : List Field) (library : Library) :
    Tame (viewFilling naming config columns fields library) :=
  (tame_get _ _).bind fun _ => (tame_get _ _).bind fun _ => (tame_get _ _).bind fun _ =>
    (tame_inputs _ _ _).bind fun _ => tame_pure _

private theorem tame_tableExists (source : Source) (table : String) :
    Tame (source.tableExists table) := by
  unfold Source.tableExists
  cases source.database.refusals.lookup with
  | some reason => exact tame_throw rfl
  | none => exact (tame_say _ _ _).bind fun _ => tame_pure _

private theorem tame_column (source : Source) (key : List String) (raw : RawColumn) :
    Tame (source.column key raw) := by
  refine Tame.bind ?_ fun declared => ?_
  · cases raw.type with
    | spelled text => exact tame_pure text
    | unspelled className => exact (tame_say _ _ _).bind fun _ => tame_pure _
  · generalize Column.ofEntries _ = checked
    cases checked with
    | ok column => exact tame_pure column
    | error issues => exact tame_throw rfl

private theorem tame_columns (source : Source) (name : String) : Tame (source.columns name) := by
  unfold Source.columns
  cases source.readTable name with
  | error fault => exact tame_throw rfl
  | ok table =>
    exact (Tame.mapM (tame_column _ _) _).bind fun _ => (tame_say _ _ _).bind fun _ => tame_pure _

private theorem tame_fieldsOf (policy : FieldPolicy) (columns : List Column) :
    Tame (fieldsOf policy columns) :=
  Tame.perhapsSaying (tame_pure _)

private theorem tame_inspect (g : Generator) (table : String) : Tame (inspect g table) :=
  (tame_tableExists _ _).bind fun _ => .ite _
    ((tame_columns _ _).bind fun _ => (tame_fieldsOf _ _).bind fun _ => tame_pure _) (tame_pure _)

private theorem tame_rulesOf (language : Option String) : Tame (rulesOf language) := by
  unfold rulesOf
  cases Inflection.rulesFor? language with
  | none => exact tame_throw rfl
  | some rules =>
    cases language with
    | none => exact tame_pure rules
    | some name => exact Tame.perhapsSaying (tame_pure rules)

private theorem tame_resolveNames (rules : Inflection.RuleSet) (request : Request) :
    Tame (resolveNames rules request) :=
  (tame_say _ _ _).bind fun _ => tame_pure _

private theorem tame_renderTemplate (g : Generator) (name : String) (filling : Filling) :
    Tame (renderTemplate g name filling) :=
  (tame_get _ _).bind fun _ =>
    have told := (tame_say _ _ _).bind fun _ => tame_pure _
    .ite _ ((tame_say _ _ _).bind fun _ => (tame_say _ _ _).bind fun _ => told) told

private theorem tame_recordStep (name : String) (success : Bool) (detail : String) :
    Tame (recordStep name success detail) :=
  tame_record (fun _ => rfl) fun _ => rfl

private theorem tame_recordNaming (naming : Naming) :
    Tame (record fun report => { report with naming := some naming }) :=
  tame_record (fun _ => rfl) fun _ => rfl

private theorem tame_emit (g : Generator) (label : String) (path : Path) (template : String)
    (filling : Filling) : Tame (emit g label path template filling) :=
  (tame_renderTemplate _ _ _).bind fun _ => (tame_write _ _).bind fun _ =>
    tame_record (fun _ => rfl) fun _ => rfl

private theorem tame_buildController (g : Generator) (naming : Naming) (columns : List Column) :
    Tame (buildController g naming columns) :=
  (tame_say _ _ _).bind fun _ => tame_emit _ _ _ _ _

private theorem tame_buildModel (g : Generator) (naming : Naming) (columns : List Column)
    (fields : List Field) : Tame (buildModel g naming columns fields) :=
  (tame_say _ _ _).bind fun _ => (tame_say _ _ _).bind fun _ => tame_emit _ _ _ _ _

private theorem tame_buildLayout (g : Generator) : Tame (buildLayout g) := by
  refine tame_workspace.bind fun w => .ite _ (.ite _ ?_ (tame_throw rfl)) (tame_pure _)
  exact (tame_get _ _).bind fun _ => (tame_writeIfMissing _ _).bind fun _ =>
    tame_record (fun _ => rfl) fun _ => rfl

private theorem tame_viewList (g : Generator) (naming : Naming) (filling : Filling)
    (views : List String) :
    Tame (views.forM (buildView g naming filling)) := by
  induction views with
  | nil => exact tame_pure _
  | cons view rest ih => exact (tame_emit _ _ _ _ _).bind fun _ => ih

private theorem tame_buildViews (g : Generator) (naming : Naming) (columns : List Column)
    (fields : List Field) : Tame (buildViews g naming columns fields) :=
  (tame_say _ _ _).bind fun _ => (tame_viewFilling _ _ _ _ _).bind fun _ =>
    (tame_buildLayout _).bind fun _ => tame_viewList _ _ _ _

private theorem tame_buildRoute (g : Generator) (naming : Naming) : Tame (buildRoute g naming) :=
  (tame_say _ _ _).bind fun _ => (tame_appendRoute _ _ _ _).bind fun _ =>
    tame_record (fun _ => rfl) fun _ => rfl

end

/-! ## From stage to stage -/

namespace Generation

variable {s t : Stage}

/-- Going on to a stage that may follow. -/
theorem moves_advance (allowed : s.next.contains t = true) : Moves (advance t) s [t] false := by
  have ran : ∀ session : Session, session.report.stage = s → (advance t).run session =
      (.ok (), { session with
        report := { session.report with stage := t }
        trace := .entered t :: .message .debug .generator ("State " ++ s.name ++ " → " ++ t.name) ::
          session.trace }) := by
    intro session stage
    simp only [advance, run_bind, run_get, stage, allowed, if_true, run_set]
    rfl
  have framed : ∀ session older, (advance t).run (session.above older) =
      (((advance t).run session).1, ((advance t).run session).2.above older) := by
    intro session older
    simp only [advance, run_bind, run_get, Session.above]
    split
    · rfl
    · rfl
  refine ⟨framed, fun {session after result} done stage => ?_⟩
  rw [ran session stage] at done
  cases done
  refine ⟨[t], List.prefix_rfl, ?_, rfl, fun _ => rfl, fun _ given => (by cases given),
    fun _ _ => ⟨rfl, fun marking => (by cases marking)⟩⟩
  exact visited_note session
    [.message .debug .generator ("State " ++ s.name ++ " → " ++ t.name), .entered t]

/-- Saying that the run was successful. -/
theorem moves_succeed : Moves (record fun report => { report with success := true }) s [] true := by
  refine ⟨fun _ _ => rfl, fun {session after result} ran stage => ?_⟩
  cases ran
  exact ⟨[], List.prefix_rfl, (List.append_nil _).symm, stage, fun unmarked => (by cases unmarked),
    fun _ given => (by cases given), fun _ _ => ⟨rfl, fun _ => rfl⟩⟩

/-- The stages of a run that is completed, behind the first one. -/
def Stage.course : List Stage :=
  [.validated, .namingResolved, .controllerBuilt, .modelBuilt, .viewsBuilt, .routeAppended, .done]

private theorem moves_build (g : Generator) (rules : Inflection.RuleSet) (request : Request)
    (columns : List Column) (fields : List Field) :
    Moves (build g rules request columns fields) .start Stage.course true := by
  refine Moves.congr ((moves_advance rfl).bind fun _ => (tame_recordStep _ _ _).before fun _ =>
    ((tame_resolveNames _ _).timed "naming").before fun _ =>
    (tame_recordNaming _).before fun _ =>
    (moves_advance rfl).bind fun _ => (tame_recordStep _ _ _).before fun _ =>
    ((tame_buildController _ _ _).timed "controller").before fun _ =>
    (moves_advance rfl).bind fun _ => (tame_recordStep _ _ _).before fun _ =>
    ((tame_buildModel _ _ _ _).timed "model").before fun _ =>
    (moves_advance rfl).bind fun _ => (tame_recordStep _ _ _).before fun _ =>
    ((tame_buildViews _ _ _ _).timed "views").before fun _ =>
    (moves_advance rfl).bind fun _ => (tame_recordStep _ _ _).before fun _ =>
    ((tame_buildRoute _ _).timed "route").before fun _ =>
    (moves_advance rfl).bind fun _ => (tame_recordStep _ _ _).before fun _ =>
    (moves_advance rfl).bind fun _ => moves_succeed.bind fun _ => tame_say _ _ _ _) rfl rfl

private theorem moves_abort (table : String) : Moves (abort table) .start [.aborted] false := by
  refine (tame_say _ _ _).before fun _ => (moves_advance rfl).bind fun _ =>
    (tame_recordStep _ _ _).before fun _ => (?_ : Tame _) _
  exact tame_record (fun _ => rfl) fun _ => rfl

private theorem tame_report : Tame (do return (← get).report : Action Report) :=
  tame_of_run (fun _ _ => rfl) (fun _ => ⟨rfl, rfl, rfl⟩) fun _ _ given => by cases given

/-- What a run does once its report is made. -/
def begun (g : Generator) (request : Request) : Action Report := do
  Action.say .info .generator
    ("Running CRUD generator for table '" ++ request.tableName ++ "' ...")
  let rules ← rulesOf request.language
  match ← Action.timed "validate" (inspect g request.tableName) with
  | none => abort request.tableName
  | some (columns, fields) => build g rules request columns fields
  return (← get).report

theorem generate_run (g : Generator) (request : Request) (session : Session) :
    (generate g request).run session =
      (begun g request).run { session with report := { tableName := request.tableName } } :=
  rfl

variable {g : Generator} {request : Request} {session after : Session}
  {result : Except Failure Report}

theorem framed_begun (g : Generator) (request : Request) : Framed (begun g request) := by
  refine (tame_say _ _ _).framed.bind fun _ => (tame_rulesOf _).framed.bind fun rules =>
    ((tame_inspect _ _).timed "validate").framed.bind fun found => ?_
  cases found with
  | none => exact (moves_abort _).framed.bind fun _ => tame_report.framed
  | some known => exact (moves_build _ _ _ _ _).framed.bind fun _ => tame_report.framed

/-- How a run goes on from its start. No step is refused. Its stages are a beginning of the course of
a completed run, or the stage of a run whose table is missing; with a report it is at the end of one of
the two, and is successful when it took the course. -/
structure Proceeds (session : Session) (result : Except Failure Report) (after : Session) :
    Prop where
  legal : ∀ failure, result = .error failure → failure.isIllegalStep = false
  goes : ∃ taken, after.visited = session.visited ++ taken ∧
    after.report.stage = taken.getLastD .start ∧ (taken <+: Stage.course ∨ taken = [.aborted]) ∧
    ∀ report, result = .ok report → report = after.report ∧
      (taken = Stage.course ∧ report.success = true ∨ taken = [.aborted] ∧ report.success = false)

/-- A report in which nothing has happened yet. -/
def Report.AtStart (report : Report) : Prop :=
  report.stage = .start ∧ report.success = false

/-- Something that leaves the stage alone comes first. -/
theorem Proceeds.behind {α : Type} {action : Action α} {next : α → Action Report}
    (tame : Tame action)
    (rest : ∀ {a middle result after}, middle.report.AtStart →
      (next a).run middle = (result, after) → Proceeds middle result after)
    (ran : (action >>= next).run session = (result, after)) (start : session.report.AtStart) :
    Proceeds session result after := by
  rw [run_bind] at ran
  rcases done : action.run session with ⟨outcome, middle⟩
  obtain ⟨visited, reached, kept, legal⟩ := tame.still done
  rw [done] at ran
  cases outcome with
  | error failure =>
    cases ran
    refine ⟨fun reason given => legal reason ?_, [], by rw [visited, List.append_nil],
      reached.trans start.1, .inl List.nil_prefix, fun _ given => by cases given⟩
    cases given
    rfl
  | ok a =>
    obtain ⟨legal', goes⟩ := rest ⟨reached.trans start.1, kept.trans start.2⟩ ran
    rw [visited] at goes
    exact ⟨legal', goes⟩

/-- A report after moving along one of the two ways. -/
theorem Proceeds.ofMoves {action : Action Unit} {path : List Stage} {marks : Bool}
    (moves : Moves action .start path marks)
    (way : path = Stage.course ∧ marks = true ∨ path = [.aborted] ∧ marks = false)
    (ran : (action >>= fun _ => do return (← get).report).run session = (result, after))
    (start : session.report.AtStart) : Proceeds session result after := by
  rw [run_bind] at ran
  rcases done : action.run session with ⟨outcome, middle⟩
  obtain ⟨taken, part, visited, reached, kept, legal, all⟩ := moves.goes done start.1
  have along : taken <+: Stage.course ∨ taken = [.aborted] := by
    rcases way with ⟨rfl, -⟩ | ⟨rfl, -⟩
    · exact .inl part
    · rcases List.prefix_cons_iff.mp part with rfl | ⟨rest, rfl, tail⟩
      · exact .inl List.nil_prefix
      · rw [List.prefix_nil.mp tail]
        exact .inr rfl
  rw [done] at ran
  cases outcome with
  | error failure =>
    cases ran
    refine ⟨fun reason given => legal reason ?_, taken, visited, reached, along,
      fun _ given => by cases given⟩
    cases given
    rfl
  | ok _ =>
    cases ran
    obtain ⟨rfl, marked⟩ := all () rfl
    refine ⟨fun _ given => (by cases given), taken, visited, reached, along, fun _ given => ?_⟩
    cases given
    refine ⟨rfl, ?_⟩
    rcases way with ⟨whole, marks⟩ | ⟨whole, marks⟩
    · exact .inl ⟨whole, marked marks⟩
    · exact .inr ⟨whole, (kept marks).trans start.2⟩

theorem generate_proceeds (ran : (generate g request).run session = (result, after)) :
    Proceeds session result after := by
  rw [generate_run] at ran
  have proceeds : Proceeds { session with report := { tableName := request.tableName } } result
      after := by
    refine Proceeds.behind (tame_say _ _ _) (fun start ran => ?_) ran ⟨rfl, rfl⟩
    refine Proceeds.behind (tame_rulesOf _) (fun start ran => ?_) ran start
    refine Proceeds.behind ((tame_inspect _ _).timed "validate") (fun {known} _ _ _ start ran => ?_)
      ran start
    cases known with
    | none => exact .ofMoves (moves_abort _) (.inr ⟨rfl, rfl⟩) ran start
    | some known => exact .ofMoves (moves_build _ _ _ _ _) (.inl ⟨rfl, rfl⟩) ran start
  exact ⟨proceeds.legal, proceeds.goes⟩

/-- A run does the same on every session with the same workspace and the same consent, whatever was
left there by an earlier run, and adds the same to the trace. -/
theorem generate_fresh (g : Generator) (request : Request) (session : Session) :
    let fresh := (generate g request).run ⟨session.workspace, session.consent, [], {}⟩
    (generate g request).run session = (fresh.1, fresh.2.above session.trace) := by
  intro fresh
  have framed := framed_begun g request
    ⟨session.workspace, session.consent, [], { tableName := request.tableName }⟩ session.trace
  rwa [generate_run]

end Generation

end Scaffold
