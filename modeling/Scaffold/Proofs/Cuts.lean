import Scaffold.Proofs.Runs

/-! Runs that do not complete. All that can be found wrong with a request or a schema is found
before the first file is touched. A later failure cuts the work at one piece: what came before it is
finished, and the piece itself and all that follows it have changed no file. -/
namespace Scaffold

open Files Running

/-- Failures of a request or of the schema of its table. -/
def Failure.isRejection : Failure → Bool
  | .unsupportedLanguage _ | .noDatabase | .schema _ | .invalid _ => true
  | _ => false

/-- What is wrong with files is no fault of a request. -/
theorem Failure.isRejection_of_isFileTrouble {failure : Failure}
    (trouble : failure.isFileTrouble = true) : failure.isRejection = false := by
  cases failure with
  | templateMissing | layoutMissing | templateUnreadable | templateRefused | artifact | route => rfl
  | _ => cases trouble

namespace Template

variable {library : Library} {w : Workspace} {failure : Failure}

/-- The file of a template is there to be read; only what it holds may be no text. -/
theorem bodyIn_trouble {name : String} (missing : library.bodyIn name w = .error failure) :
    failure.isFileTrouble = true := by
  unfold Library.bodyIn at missing
  split at missing
  · rename_i path own
    cases read : textIn path w with
    | ok text =>
      rw [read] at missing
      cases missing
    | error reason =>
      rw [read] at missing
      cases missing
      rw [textIn_of_isFile (Option.filter_eq_some_iff.mp own).2 read]
      rfl
  · split at missing
    · cases missing
    · cases missing
      rfl

private theorem inputsIn_missing {base : Filling} {fields : List Schema.Field}
    (missing : inputsIn library base fields w = .error failure) :
    ∃ name, library.bodyIn name w = .error failure := by
  induction fields with
  | nil => cases missing
  | cons field rest ih =>
    rw [inputsIn, List.mapM_cons] at missing
    rcases error_of_bind missing with missing | ⟨text, _, missing⟩
    · rcases error_of_bind missing with missing | ⟨body, _, missing⟩
      · exact ⟨_, missing⟩
      · cases missing
    · rcases error_of_bind missing with missing | ⟨texts, _, missing⟩
      · exact ih missing
      · cases missing

/-- What fills the views is missing when one of the templates is. -/
theorem viewFillingIn_missing {naming : Naming} {config : Config} {columns : List Schema.Column}
    {fields : List Schema.Field}
    (missing : viewFillingIn naming config columns fields library w = .error failure) :
    ∃ name, library.bodyIn name w = .error failure := by
  rcases error_of_bind missing with missing | ⟨head, _, missing⟩
  · exact ⟨_, missing⟩
  rcases error_of_bind missing with missing | ⟨cell, _, missing⟩
  · exact ⟨_, missing⟩
  rcases error_of_bind missing with missing | ⟨view, _, missing⟩
  · exact ⟨_, missing⟩
  rcases error_of_bind missing with missing | ⟨form, _, missing⟩
  · exact inputsIn_missing missing
  · cases missing

end Template

namespace Emission

private theorem refusal_trouble {failure : Fault → Failure} {fault : Fault}
    (apart : (failure fault).isRejection = false) : (refusal failure fault).isRejection = false := by
  unfold refusal
  split
  · exact apart
  · rfl

end Emission

namespace Schema

/-- Every column of every table has a name. -/
def Database.Named (db : Database) : Prop :=
  ∀ schema name table, db.table? schema name = some table → ∀ raw ∈ table.columns, raw.name ≠ ""

/-- Where there are no schemas but the default one, its tables are all there are. -/
theorem Database.named_of_tables {db : Database} (bare : db.schemas = [])
    (named : ∀ entry ∈ db.tables, ∀ raw ∈ entry.2.columns, raw.name ≠ "") : db.Named := by
  intro schema name table found
  have listed : db.tables.lookup name = some table := by
    unfold Database.table? at found
    split at found
    · exact found
    · split at found
      · exact found
      · simp [bare] at found
  exact named _ (Data.mem_of_lookup listed)

/-- A column with a name is as it is described, whatever else is said of it. -/
theorem Column.ofEntries_named {name : String} (named : name ≠ "") (declared : String)
    (nullable key counted : Bool) :
    Column.ofEntries [(.text "name", .text name), (.text "declared_type", .text declared),
      (.text "nullable", .bool nullable), (.text "primary_key", .bool key),
      (.text "autoincrement", .bool counted)] = .ok ⟨name, declared, nullable, key, counted⟩ := by
  have filled : Validation.readFilledText (.text name) = .ok name := by
    change (if name.isEmpty then _ else _) = _
    simp [named]
  simp only [Column.ofEntries, Validation.readField, Data.Entries.get?, List.findSome?, BEq.rfl,
    if_true, Option.elim, filled]
  rfl

namespace Source

private theorem mapM_columnOf_rejection {key : List String} {raws : List RawColumn}
    {failure : Failure}
    (refused : raws.mapM (columnOf key) = .error failure) : failure.isRejection = true := by
  induction raws with
  | nil => cases refused
  | cons raw rest ih =>
    rw [List.mapM_cons] at refused
    rcases error_of_bind refused with refused | ⟨column, _, refused⟩
    · simp only [columnOf] at refused
      generalize Column.ofEntries _ = checked at refused
      cases checked with
      | ok column => cases refused
      | error issues =>
        cases refused
        rfl
    · rcases error_of_bind refused with refused | ⟨columns, _, refused⟩
      · exact ih refused
      · cases refused

private theorem columnsOf_rejection {source : Source} {name : String} {failure : Failure}
    (refused : source.columnsOf name = .error failure) : failure.isRejection = true := by
  unfold columnsOf at refused
  split at refused
  · cases refused
    rfl
  · exact mapM_columnOf_rejection refused

private theorem mapM_columnOf_of_named (key : List String) {raws : List RawColumn}
    (named : ∀ raw ∈ raws, raw.name ≠ "") : ∃ columns, raws.mapM (columnOf key) = .ok columns := by
  induction raws with
  | nil => exact ⟨[], rfl⟩
  | cons raw rest ih =>
    obtain ⟨first, others⟩ := List.forall_mem_cons.mp named
    obtain ⟨columns, later⟩ := ih others
    have here : ∃ column, columnOf key raw = .ok column := by
      simp only [columnOf, Column.ofEntries_named first]
      exact ⟨_, rfl⟩
    obtain ⟨column, here⟩ := here
    exact ⟨column :: columns, by rw [List.mapM_cons, here, later]; rfl⟩

/-- The columns of a database in which they all have names are only refused as those of its schema. -/
theorem columnsOf_fault {source : Source} {name : String} {failure : Failure}
    (named : source.database.Named) (refused : source.columnsOf name = .error failure) :
    ∃ fault, failure = .schema fault := by
  unfold columnsOf at refused
  cases read : source.readTable name with
  | error fault =>
    rw [read] at refused
    cases refused
    exact ⟨fault, rfl⟩
  | ok table =>
    have known : ∃ schema, source.database.table? schema name = some table := by
      unfold readTable at read
      split at read
      · cases read
      · cases read
      · cases read
      · rename_i found _
        split at read
        · cases read
        · cases read
          exact ⟨_, found⟩
    obtain ⟨schema, known⟩ := known
    obtain ⟨columns, given⟩ := mapM_columnOf_of_named table.key (named _ _ _ known)
    rw [read] at refused
    dsimp only at refused
    rw [given] at refused
    cases refused

/-- A database that does not say whether a table is there refuses as one with a fault in its schema. -/
theorem hasTable_fault {source : Source} {table : String} {failure : Failure}
    (refused : source.hasTable table = .error failure) : ∃ fault, failure = .schema fault := by
  unfold hasTable at refused
  split at refused
  · cases refused
    exact ⟨_, rfl⟩
  · cases refused

end Source

end Schema

namespace Generation

open Emission Schema Template

variable {g : Generator} {job : Job} {work : Work} {request : Request} {failure : Failure}
  {before : Standing} {session after : Session} {result : Except Failure Report}

/-- Without its template there is no content. -/
theorem contentIn_missing {name : String} {filling : Filling} {w : Workspace}
    (missing : contentIn g name filling w = .error failure) :
    g.library.bodyIn name w = .error failure := by
  rw [contentIn] at missing
  cases found : g.library.bodyIn name w with
  | error reason =>
    rw [found] at missing
    cases missing
    rfl
  | ok body =>
    rw [found] at missing
    cases missing

/-- Work that breaks has not found fault with the request. -/
theorem Breaks.trouble {stood : Standing} (breaks : Breaks g job work failure before stood) :
    failure.isRejection = false := by
  cases breaks with
  | template missing =>
    exact Failure.isRejection_of_isFileTrouble (bodyIn_trouble (contentIn_missing missing))
  | artifact _ fails | layout _ fails =>
    obtain ⟨fault, rfl⟩ := fails.reason
    exact refusal_trouble rfl
  | fragments missing =>
    obtain ⟨_, missing⟩ := viewFillingIn_missing missing
    exact Failure.isRejection_of_isFileTrouble (bodyIn_trouble missing)
  | ownLayout => rfl
  | layoutTemplate missing => exact Failure.isRejection_of_isFileTrouble (bodyIn_trouble missing)
  | route => exact refusal_trouble rfl

/-- What is found before any work is a fault of the request or of the schema. -/
theorem early_rejection (early : rulesIn request.language = .error failure ∨
    inspected g request.tableName = .error failure) : failure.isRejection = true := by
  rcases early with unsupported | unread
  · obtain ⟨-, rfl⟩ := rulesIn_error_iff.mp unsupported
    rfl
  · rcases inspected_error_iff.mp unread with refused | ⟨-, refused⟩
    · obtain ⟨fault, rfl⟩ := Source.hasTable_fault refused
      rfl
    · exact Source.columnsOf_rejection refused

/-- What is found wrong with a table is a fault of its schema. -/
theorem inspected_fault {table : String} (named : g.source.database.Named)
    (refused : inspected g table = .error failure) : ∃ fault, failure = .schema fault := by
  rcases inspected_error_iff.mp refused with refused | ⟨-, refused⟩
  · exact Source.hasTable_fault refused
  · exact Source.columnsOf_fault named refused

/-- A run that does not complete makes a clean cut. When the table does not exist, or the request or
the schema is at fault, nothing has changed and nobody was asked. After any other failure the work
before one piece is finished; that piece and what follows it have made directories at most, and no
route is registered. -/
theorem generate_cuts (ran : (generate g request).run session = (result, after)) :
    ((∃ report, result = .ok report ∧ report.stage = .aborted) ∨
        (∃ failure, result = .error failure ∧ failure.isRejection = true) →
      after.workspace = session.workspace ∧ after.consent = session.consent ∧
        after.events.filter Event.isDecision = session.events.filter Event.isDecision) ∧
    ∀ failure, result = .error failure → failure.isRejection = false →
      ∃ rules columns filling finished work rest middle,
        rulesIn request.language = .ok rules ∧
        inspected g request.tableName = .ok (some columns) ∧
        works g (.of g rules request columns) filling = finished ++ work :: rest ∧
        Course g (.of g rules request columns) finished session.standing.fresh (.ok ()) middle ∧
        Breaks g (.of g rules request columns) work failure middle after.standing ∧
        middle.workspace.Widens after.workspace ∧ .route ∉ finished := by
  constructor
  · intro ended
    have same : ∀ {standing : Standing}, after.standing = standing →
        standing.workspace = session.workspace → standing.consent = session.consent →
        standing.decisions = session.standing.decisions →
        after.workspace = session.workspace ∧ after.consent = session.consent ∧
          after.events.filter Event.isDecision = session.events.filter Event.isDecision := by
      rintro _ rfl workspace consent decisions
      exact ⟨workspace, consent, decisions⟩
    cases generate_ends ran with
    | refused early stands => exact same stands rfl rfl rfl
    | aborted missing stands => exact same stands rfl rfl rfl
    | @built rules columns filling outcome _ selected known course finished =>
      exfalso
      cases outcome with
      | ok _ =>
        rcases ended with ⟨report, given, aborted⟩ | ⟨failure, given, -⟩
        · cases given
          rw [finished rfl] at aborted
          cases aborted
        · cases given
      | error reason =>
        rcases ended with ⟨report, given, -⟩ | ⟨failure, given, rejected⟩
        · cases given
        · cases given
          obtain ⟨_, work, rest, middle, -, -, breaks⟩ := course.cut
          rw [breaks.trouble] at rejected
          cases rejected
  · intro failure given trouble
    cases generate_ends ran with
    | refused early stands =>
      cases given
      rw [early_rejection early] at trouble
      cases trouble
    | aborted => cases given
    | @built rules columns filling outcome _ selected known course finished =>
      cases outcome with
      | ok _ => cases given
      | error reason =>
        cases given
        obtain ⟨finished, work, rest, middle, split, course, breaks, unrouted⟩ := course.cut_works
        obtain ⟨way, paves⟩ := breaks.paves
        exact ⟨rules, columns, filling, finished, work, rest, middle, selected, known, split, course,
          breaks, paves.toWidens, unrouted⟩

/-- Without a template for the model, a run is cut behind the controller. -/
theorem generate_cuts_behind_controller :
    ∃ (after : Session) (job : Job) (filling : Template.Filling) (finished rest : List Work)
        (work : Work) (middle : Standing),
      (generate (smallGenerator [("controller", "c")]) smallRequest).run emptySession =
          (.error (.templateMissing "model" none), after) ∧
        works (smallGenerator [("controller", "c")]) job filling = finished ++ work :: rest ∧
        Course (smallGenerator [("controller", "c")]) job finished emptySession.standing.fresh
          (.ok ()) middle ∧
        Breaks (smallGenerator [("controller", "c")]) job work (.templateMissing "model" none) middle
          after.standing ∧
        middle.workspace.Widens after.workspace ∧ .route ∉ finished := by
  have failed : ((generate (smallGenerator [("controller", "c")]) smallRequest).run
      emptySession).1 = .error (.templateMissing "model" none) := by decide +kernel
  rcases ran : (generate (smallGenerator [("controller", "c")]) smallRequest).run
    emptySession with ⟨result, after⟩
  rw [ran] at failed
  obtain rfl : result = .error (.templateMissing "model" none) := failed
  obtain ⟨rules, columns, filling, finished, work, rest, middle, -, -, split, course, breaks, widens,
    unrouted⟩ := (generate_cuts ran).2 (.templateMissing "model" none) rfl rfl
  exact ⟨after, _, filling, finished, rest, work, middle, rfl, split, course, breaks, widens, unrouted⟩

end Generation

end Scaffold
