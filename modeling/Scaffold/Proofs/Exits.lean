import Scaffold.CommandLine.Program
import Scaffold.Proofs.Configuring
import Scaffold.Proofs.Failing

/-! How calls of the program end. The code of a call says what came of it, and of several things that
are wrong at once it tells the first in a fixed order: the request and the settings, the database that
is configured, the language and whether the table is there, the schema, the files. Up to the files
nothing is changed and nobody is asked. Only the failures that escape from a run have no code. -/
namespace Scaffold

open Data Files Files.Workspace Scaffold.Action Running

namespace Generation

open Emission Schema

variable {config : Config} {db : Database} {request : Request} {session first second after : Session}
  {g : Generator} {result : Except Failure Report} {failure : Failure}

/-! ## How a run over a database ends -/

/-- The address of the database that a configuration names. No address is the same as an empty one. -/
def address (config : Config) : String :=
  config.databaseUrl.getD ""

/-- A run that cannot be asked for: no database is configured, or there is one, but no rules for the
language or no such table. -/
def Unserved (config : Config) (db : Database) (request : Request) : Prop :=
  address config = "" ∨ ∃ source, Source.openAt (address config) config.dbSchema db = .ok source ∧
    (Inflection.rulesFor? request.language = none ∨
      source.hasTable request.tableName = .ok false)

/-- A run whose table cannot be read: the database cannot be opened, or does not say whether there is
such a table, or what its columns are. -/
def Unread (config : Config) (db : Database) (request : Request) : Prop :=
  (∃ fault, Source.openAt (address config) config.dbSchema db = .error fault) ∨
    ∃ source failure, Source.openAt (address config) config.dbSchema db = .ok source ∧
      (source.hasTable request.tableName = .error failure ∨
        source.hasTable request.tableName = .ok true ∧
          source.columnsOf request.tableName = .error failure)

private theorem open?_eq (config : Config) (db : Database) : Generator.open? config db =
    if address config = "" then .error .noDatabase
    else match Source.openAt (address config) config.dbSchema db with
      | .ok source => .ok (.ofConfig config source)
      | .error fault => .error (.schema fault) := by
  unfold Generator.open? address
  cases config.databaseUrl with
  | none => rfl
  | some url => exact if_congr String.isEmpty_iff rfl rfl

private theorem openAt_database {url : String} {schema : Option String} {source : Source}
    (opened : Source.openAt url schema db = .ok source) : source.database = db := by
  unfold Source.openAt at opened
  split at opened
  · cases opened
    rfl
  · cases opened

theorem generateOnce_opened (opened : Generator.open? config db = .ok g) :
    generateOnce config db request = generate g request := by
  unfold generateOnce
  rw [opened]

private theorem generateOnce_closed (closed : Generator.open? config db = .error failure)
    (ran : (generateOnce config db request).run session = (result, after)) :
    result = .error failure ∧ after = session := by
  unfold generateOnce at ran
  rw [closed] at ran
  cases ran
  exact ⟨rfl, rfl⟩

/-- Sessions that stand alike go on alike. -/
theorem generateOnce_of_standing (config : Config) (db : Database) (request : Request)
    (same : first.standing = second.standing) :
    ((generateOnce config db request).run first).1 =
        ((generateOnce config db request).run second).1 ∧
      ((generateOnce config db request).run first).2.standing =
        ((generateOnce config db request).run second).2.standing := by
  cases opened : Generator.open? config db with
  | error failure =>
    simp only [generateOnce, opened, run_throw]
    exact ⟨trivial, same⟩
  | ok g =>
    have decisions : first.events.filter Event.isDecision = second.events.filter Event.isDecision :=
      congrArg Standing.decisions same
    rw [generateOnce_opened opened, generate_fresh g request first, generate_fresh g request second,
      workspace_of_standing same, consent_of_standing same]
    simp only [Session.events] at decisions
    simp [Session.standing, Session.above, Session.events, decisions]

end Generation

/-- Nothing has changed and nobody was asked. -/
structure Standing.Unmoved (before after : Standing) : Prop where
  workspace : after.workspace = before.workspace
  consent : after.consent = before.consent
  decisions : after.decisions = before.decisions

namespace CommandLine

open Generation Schema

variable {config : Config} {db : Database} {request : Request} {session after : Session}
  {result : Except Failure Report} {failure : Failure}

/-- The code for what came of a run. Some failures have none. -/
def ExitCode.ofResult : Except Failure Report → Except Failure ExitCode
  | .ok report => .ok (if report.success then .success else .validation)
  | .error failure =>
    match ofFailure? failure with
    | some (code, _) => .ok code
    | none => .error failure

private theorem unmoved_of_cut {g : Generator}
    (ran : (generate g request).run session = (result, after))
    (ended : (∃ report, result = .ok report ∧ report.stage = .aborted) ∨
      ∃ failure, result = .error failure ∧ failure.isRejection = true) :
    session.standing.Unmoved after.standing := by
  obtain ⟨workspace, consent, decisions⟩ := (generate_cuts ran).1 ended
  exact ⟨workspace, consent, decisions⟩

/-- A run that cannot be asked for ends with the code for that, before anything is done. -/
theorem generateOnce_unserved (unserved : Unserved config db request)
    (ran : (generateOnce config db request).run session = (result, after)) :
    ExitCode.ofResult result = .ok .validation ∧ session.standing.Unmoved after.standing := by
  have opened := open?_eq config db
  by_cases unnamed : address config = ""
  · rw [if_pos unnamed] at opened
    obtain ⟨rfl, rfl⟩ := generateOnce_closed opened ran
    exact ⟨rfl, rfl, rfl, rfl⟩
  rw [if_neg unnamed] at opened
  obtain ⟨source, there, reason⟩ := unserved.resolve_left unnamed
  rw [there] at opened
  rw [generateOnce_opened opened] at ran
  cases selected : rulesIn request.language with
  | error failure =>
    obtain rfl := generate_unsupported selected ran
    obtain ⟨-, rfl⟩ := rulesIn_error_iff.mp selected
    exact ⟨rfl, unmoved_of_cut ran (.inr ⟨_, rfl, rfl⟩)⟩
  | ok rules =>
    have missing : source.hasTable request.tableName = .ok false := by
      refine reason.resolve_left fun unknown => ?_
      cases selected.symm.trans (rulesIn_error_iff.mpr ⟨unknown, rfl⟩)
    have aborted := (aborts_iff ran).mpr ⟨⟨rules, selected⟩, missing⟩
    obtain ⟨report, rfl⟩ := (returns_iff ran).mpr (.inr aborted)
    obtain ⟨rfl, success, -⟩ := reports_ending ran report rfl
    refine ⟨?_, unmoved_of_cut ran (.inl ⟨_, rfl, aborted⟩)⟩
    have failed : after.report.success ≠ true := by
      rw [Ne, success, aborted]
      decide
    simp [ExitCode.ofResult, failed]

/-- A run whose table cannot be read ends with the code for that, before anything is done. -/
theorem generateOnce_unread (named : db.Named) (served : ¬ Unserved config db request)
    (unread : Unread config db request)
    (ran : (generateOnce config db request).run session = (result, after)) :
    ExitCode.ofResult result = .ok .schema ∧ session.standing.Unmoved after.standing := by
  have opened := open?_eq config db
  rw [if_neg fun unnamed => served (.inl unnamed)] at opened
  rcases unread with ⟨fault, closed⟩ | ⟨source, reason, there, refused⟩
  · rw [closed] at opened
    obtain ⟨rfl, rfl⟩ := generateOnce_closed opened ran
    exact ⟨rfl, rfl, rfl, rfl⟩
  rw [there] at opened
  rw [generateOnce_opened opened] at ran
  have known : inspected (.ofConfig config source) request.tableName = .error reason :=
    inspected_error_iff.mpr refused
  obtain ⟨fault, rfl⟩ := inspected_fault (by rwa [← openAt_database there] at named) known
  cases generate_ends ran with
  | refused early =>
    rcases early with unsupported | unread
    · exact absurd (.inr ⟨source, there, .inl (rulesIn_error_iff.mp unsupported).1⟩) served
    · cases unread.symm.trans known
      exact ⟨rfl, unmoved_of_cut ran (.inr ⟨_, rfl, rfl⟩)⟩
  | aborted missing => cases missing.symm.trans known
  | built _ found => cases found.symm.trans known

/-- A run whose table is read comes to its end, has trouble with files, or fails in a way that escapes
by one of the paths it writes to. -/
theorem generateOnce_read (tree : session.workspace.WellFormed) (clean : session.workspace.Clean)
    (acyclic : session.workspace.Acyclic) (served : ¬ Unserved config db request)
    (read : ¬ Unread config db request)
    (ran : (generateOnce config db request).run session = (result, after)) :
    (∃ report, result = .ok report ∧ report.success = true ∧ report.stage = .done) ∨
    ∃ failure, result = .error failure ∧ (failure.isFileTrouble = true ∨
      ∃ g rules, Generator.open? config db = .ok g ∧ rulesIn request.language = .ok rules ∧
        Escapes session.workspace (targets g (Naming.resolve rules request) ++ [g.config.routesPath])
          after.workspace failure) := by
  have opened := open?_eq config db
  rw [if_neg fun unnamed => served (.inl unnamed)] at opened
  cases there : Source.openAt (address config) config.dbSchema db with
  | error fault => exact absurd (.inl ⟨fault, there⟩) read
  | ok source =>
  rw [there] at opened
  rw [generateOnce_opened opened] at ran
  cases selected : rulesIn request.language with
  | error failure =>
    exact absurd (.inr ⟨source, there, .inl (rulesIn_error_iff.mp selected).1⟩) served
  | ok rules =>
  cases known : inspected (.ofConfig config source) request.tableName with
  | error failure =>
    exact absurd (.inr ⟨source, failure, there, inspected_error_iff.mp known⟩) read
  | ok found =>
  cases found with
  | none => exact absurd (.inr ⟨source, there, .inr (hasTable_of_inspected known)⟩) served
  | some columns =>
  rcases generate_settles tree clean acyclic selected known ran with
    ended | ⟨failure, failed, trouble | escapes⟩
  · exact .inl ended
  · exact .inr ⟨failure, failed, .inl trouble⟩
  · exact .inr ⟨failure, failed, .inr ⟨_, rules, opened, rfl, escapes⟩⟩

/-! ## How a call ends -/

/-- The configuration of a call. -/
def Invocation.configIn (call : Invocation) (w : Workspace) : Except Failure Config :=
  Settings.configIn call.options.settingsFile call.options.settings w

/-- A call whose request or whose settings cannot be had. -/
def Unusable (call : Invocation) (w : Workspace) : Prop :=
  (∃ issues, call.request = .error issues) ∨ ∃ failure, call.configIn w = .error failure

variable {call : Invocation}

private theorem answers_endWith (code : ExitCode) (text : String) :
    Answers (endWith code text) fun _ => .ok code :=
  (answers_pure code).afterSaying rfl

private theorem runRequest_ends (config : Config) (db : Database) (request : Request)
    (session : Session) :
    ((runRequest config db request).run session).1 =
        ExitCode.ofResult ((generateOnce config db request).run session).1 ∧
      ((runRequest config db request).run session).2.standing =
        ((generateOnce config db request).run session).2.standing := by
  rw [runRequest, run_bind, attempt_run]
  rcases (generateOnce config db request).run session with ⟨failure | report, after⟩
  · cases coded : ExitCode.ofFailure? failure with
    | none =>
      simp only [ExitCode.ofResult, coded]
      exact answers_throw failure after
    | some known =>
      obtain ⟨code, words⟩ := known
      simp only [ExitCode.ofResult, coded]
      exact answers_endWith _ _ after
  · refine ⟨rfl, ?_⟩
    exact (standing_note [.shown (report.summary ++ "\n")] after).trans (by simp [Event.isDecision])

private theorem work_unusable (unusable : Unusable call session.workspace) :
    ((work call db).run session).1 = .ok .input ∧
      ((work call db).run session).2.standing = session.standing := by
  unfold work
  cases requested : call.request with
  | error issues => exact answers_endWith _ _ session
  | ok request =>
    obtain ⟨failure, failed⟩ := unusable.resolve_left fun ⟨_, refused⟩ => by
      cases requested.symm.trans refused
    obtain ⟨given, stands⟩ :=
      Settings.answers_configure call.options.settingsFile call.options.settings session
    rw [run_bind, attempt_run, given, show Settings.configIn _ _ _ = _ from failed]
    simp only [Settings.configIn_fails failed, if_true]
    obtain ⟨ended, stands'⟩ := answers_endWith .input
      ("Failed to load configuration: " ++ failure.message)
      ((Settings.configure call.options.settingsFile call.options.settings).run session).2
    exact ⟨ended, stands'.trans stands⟩

private theorem work_usable (db : Database) (requested : call.request = .ok request)
    (configured : call.configIn session.workspace = .ok config) :
    ((work call db).run session).1 =
        ExitCode.ofResult ((generateOnce config db request).run session).1 ∧
      ((work call db).run session).2.standing =
        ((generateOnce config db request).run session).2.standing := by
  obtain ⟨given, stands⟩ :=
    Settings.answers_configure call.options.settingsFile call.options.settings session
  unfold work
  rw [requested]
  dsimp only
  rw [run_bind, attempt_run, given, show Settings.configIn _ _ _ = _ from configured]
  obtain ⟨ended, stood⟩ := runRequest_ends config db request
    ((Settings.configure call.options.settingsFile call.options.settings).run session).2
  obtain ⟨same, standing⟩ := generateOnce_of_standing config db request stands
  exact ⟨ended.trans (by rw [same]), stood.trans standing⟩

/-- What comes of a call is what comes of its work. -/
theorem perform_ends (call : Invocation) (db : Database) (session : Session) :
    ∃ first, first.standing = session.standing ∧
      ((perform call db).run session).1 = ((work call db).run first).1 ∧
      ((perform call db).run session).2.standing = ((work call db).run first).2.standing := by
  rcases said : (say .info .program "Running Crud Generator ...").run session with ⟨outcome, first⟩
  obtain ⟨rfl, stands⟩ := (answers_say rfl).gives said
  refine ⟨first, stands, ?_⟩
  rw [perform, run_bind, said]
  dsimp only
  rw [run_bind]
  rcases (work call db).run first with ⟨failure | code, after⟩
  · exact ⟨rfl, rfl⟩
  · exact Answers.perhapsSaying rfl (answers_pure code) after

private theorem perform_unusable (db : Database) (session : Session)
    (unusable : Unusable call session.workspace) :
    ((perform call db).run session).1 = .ok .input ∧
      ((perform call db).run session).2.standing = session.standing := by
  obtain ⟨first, stands, ended, stood⟩ := perform_ends call db session
  obtain ⟨ended', stood'⟩ := work_unusable (workspace_of_standing stands ▸ unusable)
  exact ⟨ended.trans ended', (stood.trans stood').trans stands⟩

private theorem perform_usable (db : Database) (session : Session)
    (requested : call.request = .ok request)
    (configured : call.configIn session.workspace = .ok config) :
    ((perform call db).run session).1 =
        ExitCode.ofResult ((generateOnce config db request).run session).1 ∧
      ((perform call db).run session).2.standing =
        ((generateOnce config db request).run session).2.standing := by
  obtain ⟨first, stands, ended, stood⟩ := perform_ends call db session
  obtain ⟨ended', stood'⟩ := work_usable db requested
    (workspace_of_standing stands ▸ configured)
  obtain ⟨same, standing⟩ := generateOnce_of_standing config db request stands
  exact ⟨(ended.trans ended').trans (by rw [same]), (stood.trans stood').trans standing⟩

/-- The session that an invocation leaves. -/
def Invocation.last (call : Invocation) (replies : List (Option String)) (db : Database)
    (w : Workspace) : Session :=
  ((perform call db).runIn (call.session replies w)).2

/-- The session of a call is left as its run leaves one. -/
theorem last_standing (replies : List (Option String)) (db : Database) {w : Workspace}
    (requested : call.request = .ok request) (configured : call.configIn w = .ok config) :
    (call.last replies db w).standing =
      ((generateOnce config db request).run (call.session replies w)).2.standing :=
  (perform_usable db (call.session replies w) requested configured).2

/-- What comes of an invocation is what is left of its session, and what of that is printed. -/
theorem run_eq (call : Invocation) (replies : List (Option String)) (db : Database) (w : Workspace) :
    call.run replies db w = {
      status := ((perform call db).run (call.session replies w)).1.map (·.number)
      output := (call.last replies db w).events.filterMap (printed call.loudness)
      workspace := (call.last replies db w).workspace } := by
  rcases ran : (perform call db).runIn (call.session replies w) with ⟨result, last⟩
  have ran' : (perform call db).run (call.session replies w) = (result, last) := ran
  simp only [Invocation.run, Invocation.last, ran, ran']

/-- When nobody was asked, nothing that is printed awaits a reply. -/
theorem printed_of_unasked {loudness : Loudness} {session : Session}
    (unasked : session.standing.decisions = []) :
    ∀ piece ∈ session.events.filterMap (printed loudness), piece.awaits = false := by
  intro piece member
  obtain ⟨event, among, shown⟩ := List.mem_filterMap.mp member
  have apart : event.isDecision = false := by
    by_contra decision
    have kept : event ∈ session.standing.decisions :=
      List.mem_filter.mpr ⟨among, by simpa using decision⟩
    rw [unasked] at kept
    cases kept
  unfold printed at shown
  split at shown
  · split at shown
    · cases shown
      rfl
    · cases shown
  · cases apart
  · cases apart
  · split at shown
    · cases shown
    · cases shown
      rfl
  · cases shown
  · cases shown

/-- How a call whose request and settings can be had ends, by what a run for them comes to from the
same session. -/
structure Classified (config : Config) (db : Database) (request : Request) (w : Workspace)
    (generated : Except Failure Report × Session) (status : Except Failure Nat) : Prop where
  /-- One: no database is configured, or in the one that can be opened there is no such table, or
  there are no rules for the language. -/
  validation : status = .ok 1 ↔ Unserved config db request
  /-- Two: otherwise, the database cannot be opened or the table cannot be read. -/
  schema : status = .ok 2 ↔ ¬ Unserved config db request ∧ Unread config db request
  /-- Three: otherwise, there is trouble with files. -/
  files : status = .ok 3 ↔ ¬ Unserved config db request ∧ ¬ Unread config db request ∧
    ∃ failure, generated.1 = .error failure ∧ failure.isFileTrouble = true
  /-- Zero: otherwise, the run comes to its end. -/
  success : status = .ok 0 ↔ ¬ Unserved config db request ∧ ¬ Unread config db request ∧
    ∃ report, generated.1 = .ok report ∧ report.stage = .done
  /-- There is no other code. A call without a code has met a failure that escapes from a run by one
  of the paths that it writes to. -/
  exhaustive : status ∈ [.ok 0, .ok 1, .ok 2, .ok 3] ∨ ∃ failure g rules, status = .error failure ∧
    generated.1 = .error failure ∧ Generator.open? config db = .ok g ∧
    rulesIn request.language = .ok rules ∧
    Escapes w (targets g (Naming.resolve rules request) ++ [g.config.routesPath])
      generated.2.workspace failure

private theorem ofFailure?_of_trouble (trouble : failure.isFileTrouble = true) :
    ∃ words, ExitCode.ofFailure? failure = some (.files, words) := by
  cases failure with
  | templateMissing | layoutMissing | templateUnreadable | templateRefused | artifact | route => exact ⟨_, rfl⟩
  | _ => cases trouble

variable {replies : List (Option String)} {w : Workspace}

private theorem classified_of_usable (replies : List (Option String)) (tree : w.WellFormed)
    (clean : w.Clean) (acyclic : w.Acyclic) (named : db.Named) (requested : call.request = .ok request)
    (configured : call.configIn w = .ok config) :
    Classified config db request w ((generateOnce config db request).run (call.session replies w))
      (call.run replies db w).status := by
  have coded : (call.run replies db w).status = (ExitCode.ofResult
      ((generateOnce config db request).run (call.session replies w)).1).map (·.number) := by
    rw [run_eq, (perform_usable db (call.session replies w) requested configured).1]
  rcases ran : (generateOnce config db request).run (call.session replies w) with ⟨result, after⟩
  rw [ran] at coded
  rw [coded]
  by_cases unserved : Unserved config db request
  · rw [(generateOnce_unserved unserved ran).1]
    constructor <;> simp [Except.map, ExitCode.number, unserved]
  by_cases unread : Unread config db request
  · rw [(generateOnce_unread named unserved unread ran).1]
    constructor <;> simp [Except.map, ExitCode.number, unserved, unread]
  rcases generateOnce_read tree clean acyclic unserved unread ran with
    ⟨report, rfl, success, done⟩ | ⟨failure, rfl, trouble | ⟨g, rules, opened, selected, escapes⟩⟩
  · constructor <;>
      simp [Except.map, ExitCode.ofResult, ExitCode.number, unserved, unread, success, done]
  · obtain ⟨words, told⟩ := ofFailure?_of_trouble trouble
    constructor <;>
      simp [Except.map, ExitCode.ofResult, ExitCode.number, unserved, unread, told, trouble]
  · have untold : ExitCode.ofFailure? failure = none ∧ failure.isFileTrouble = false := by
      cases escapes <;> exact ⟨rfl, rfl⟩
    refine ⟨?_, ?_, ?_, ?_, .inr ⟨failure, g, rules, ?_, rfl, opened, selected, escapes⟩⟩ <;>
      simp [Except.map, ExitCode.ofResult, unserved, unread, untold]

/-- How a call ends. -/
structure Answered (call : Invocation) (replies : List (Option String)) (db : Database)
    (w : Workspace) : Prop where
  /-- Four: the request is not valid, or the settings cannot be had. -/
  input : (call.run replies db w).status = .ok 4 ↔ Unusable call w
  /-- All other codes follow from what is configured, the database and the run. -/
  classified : ∀ request config, call.request = .ok request → call.configIn w = .ok config →
    Classified config db request w ((generateOnce config db request).run (call.session replies w))
      (call.run replies db w).status
  /-- A call does to the files what the run does, and asks what the run asks. -/
  effects : ∀ request config, call.request = .ok request → call.configIn w = .ok config →
    (call.run replies db w).workspace =
        ((generateOnce config db request).run (call.session replies w)).2.workspace ∧
      (call.last replies db w).consent =
        ((generateOnce config db request).run (call.session replies w)).2.consent
  /-- With one, two or four nothing has changed, nobody was asked and no reply was taken. -/
  untouched : ∀ code ∈ [1, 2, 4], (call.run replies db w).status = .ok code →
    (call.run replies db w).workspace = w ∧
      (call.last replies db w).consent = call.options.consent replies ∧
      ∀ piece ∈ (call.run replies db w).output, piece.awaits = false

/-- Nothing comes of a call whose session stands at its end as it did at the start. -/
theorem untouched_of_unmoved
    (unmoved : (call.session replies w).standing.Unmoved (call.last replies db w).standing) :
    (call.run replies db w).workspace = w ∧
      (call.last replies db w).consent = call.options.consent replies ∧
      ∀ piece ∈ (call.run replies db w).output, piece.awaits = false := by
  rw [run_eq]
  generalize call.last replies db w = last at unmoved
  exact ⟨unmoved.workspace, unmoved.consent, printed_of_unasked unmoved.decisions⟩

private theorem answered_of_unusable (unusable : Unusable call w) : Answered call replies db w := by
  obtain ⟨ended, stands⟩ := perform_unusable db (call.session replies w) unusable
  have coded : (call.run replies db w).status = .ok 4 := by
    rw [run_eq, ended]
    rfl
  have unmoved : (call.session replies w).standing.Unmoved (call.last replies db w).standing :=
    ⟨congrArg Standing.workspace stands, congrArg Standing.consent stands,
      congrArg Standing.decisions stands⟩
  have never : ∀ request config, call.request = .ok request → call.configIn w ≠ .ok config := by
    intro request config requested configured
    rcases unusable with ⟨_, refused⟩ | ⟨_, refused⟩
    · cases requested.symm.trans refused
    · cases configured.symm.trans refused
  exact ⟨⟨fun _ => unusable, fun _ => coded⟩,
    fun request config requested configured => absurd configured (never _ _ requested),
    fun request config requested configured => absurd configured (never _ _ requested),
    fun _ _ _ => untouched_of_unmoved unmoved⟩

/-- A run that ends with one or two leaves its session as it stood. -/
theorem unmoved_of_classified (named : db.Named) {status : Except Failure Nat} {code : Nat}
    (classified : Classified config db request session.workspace
      ((generateOnce config db request).run session) status)
    (early : code = 1 ∨ code = 2) (coded : status = .ok code) :
    session.standing.Unmoved ((generateOnce config db request).run session).2.standing := by
  rcases ran : (generateOnce config db request).run session with ⟨result, after⟩
  rcases early with rfl | rfl
  · exact (generateOnce_unserved (classified.validation.mp coded) ran).2
  · obtain ⟨served, unread⟩ := classified.schema.mp coded
    exact (generateOnce_unread named served unread ran).2

/-- Every call ends with the code for the first thing that is wrong, or for success, unless a failure
escapes from its run. -/
theorem run_answered (call : Invocation) (replies : List (Option String)) (db : Database)
    (w : Workspace) (tree : w.WellFormed) (clean : w.Clean) (acyclic : w.Acyclic)
    (named : db.Named) : Answered call replies db w := by
  by_cases unusable : Unusable call w
  · exact answered_of_unusable unusable
  obtain ⟨request, requested⟩ : ∃ request, call.request = .ok request := by
    cases requested : call.request with
    | ok request => exact ⟨request, rfl⟩
    | error issues => exact absurd (.inl ⟨issues, requested⟩) unusable
  obtain ⟨config, configured⟩ : ∃ config, call.configIn w = .ok config := by
    cases configured : call.configIn w with
    | ok config => exact ⟨config, rfl⟩
    | error failure => exact absurd (.inr ⟨failure, configured⟩) unusable
  have known := classified_of_usable replies tree clean acyclic named requested configured
  have lower : (call.run replies db w).status ≠ .ok 4 := by
    intro four
    rcases known.exhaustive with low | ⟨failure, _, _, escaped, -⟩
    · simp [four] at low
    · cases four.symm.trans escaped
  refine ⟨⟨fun four => absurd four lower, fun refused => absurd refused unusable⟩,
    fun _ _ => classified_of_usable replies tree clean acyclic named,
    fun _ _ requested configured => ?_, fun code member coded => ?_⟩
  · have stands := last_standing replies db requested configured
    have workspace := workspace_of_standing stands
    have consent := consent_of_standing stands
    simp only [run_eq]
    exact ⟨workspace, consent⟩
  · have early : code = 1 ∨ code = 2 := by
      simp only [List.mem_cons, List.not_mem_nil, or_false] at member
      rcases member with rfl | rfl | rfl
      · exact .inl rfl
      · exact .inr rfl
      · exact absurd coded lower
    refine untouched_of_unmoved ?_
    rw [last_standing replies db requested configured]
    exact unmoved_of_classified named known early coded

/-- A call in a language without rules. -/
def foreignCall : Invocation :=
  ⟨"t", { language := some "xx", databaseUrl := some "sqlite://" }, {}⟩

/-- A database that does not say which tables it has. -/
def silentDatabase : Database :=
  { refusals := { lookup := some "locked" } }

/-- The language comes before the table: that the database does not say whether it is there makes no
difference to a call in a language without rules. -/
theorem run_answered_foreign :
    (foreignCall.run [] silentDatabase (.empty [])).status = .ok 1 ∧
      (foreignCall.run [] silentDatabase (.empty [])).workspace = .empty [] := by
  have clean : (Workspace.empty []).Clean :=
    ⟨rfl, fun place target found => absurd found (empty_linkless place target)⟩
  have acyclic : (Workspace.empty []).Acyclic :=
    fun place target found => absurd found (empty_linkless place target)
  have named : silentDatabase.Named :=
    Database.named_of_tables rfl fun _ member => absurd member List.not_mem_nil
  have answered := run_answered foreignCall [] silentDatabase (.empty []) empty_wellFormed clean
    acyclic named
  obtain ⟨request, requested, unknown⟩ : ∃ request, foreignCall.request = .ok request ∧
      Inflection.rulesFor? request.language = none := ⟨_, rfl, by decide +kernel⟩
  obtain ⟨config, configured, url⟩ : ∃ config, foreignCall.configIn (.empty []) = .ok config ∧
      config.databaseUrl = some "sqlite://" := ⟨_, rfl, rfl⟩
  have unserved : Unserved config silentDatabase request := by
    refine .inr ⟨⟨silentDatabase, config.dbSchema, "sqlite"⟩, ?_, .inl unknown⟩
    rw [address, url, Option.getD_some]
    rfl
  have coded := (answered.classified _ _ requested configured).validation.mpr unserved
  exact ⟨coded, (answered.untouched 1 (by decide) coded).1⟩

/-- A workspace with a settings file that puts a null character into a path, and with a template. -/
def nullWorkspace : Workspace where
  home := []
  entries := [(["s"], .directory), (["s", "controller.stub"], .file 0o644 [120]),
    (["crudgen.json"], .file 0o644 (Text.encode "\x7b\"controller_dir\": \"a\\u0000b\"\x7d"))]

/-- A database with a table of one column. -/
def plainDatabase : Database where
  tables := [("t", ⟨[⟨"id", .spelled "INTEGER", false, false⟩], ["id"]⟩)]

/-- A null character in a path that a run writes to makes a call fail without a code. -/
theorem null_character_uncoded :
    nullWorkspace.WellFormed ∧
      (∀ place target, nullWorkspace.entryAt place ≠ some (.link target)) ∧ plainDatabase.Named ∧
      (run ["t", "--database-url", "sqlite://", "--stub-path", "s"] [] plainDatabase
        nullWorkspace).status = .error (.file .nullCharacter) := by
  refine ⟨.of_entries rfl (by decide), fun place target found => ?_, ?_, by decide +kernel⟩
  · have member := mem_of_entryAt found (by rintro rfl; cases found)
    simp [nullWorkspace] at member
  · exact Database.named_of_tables rfl (by decide)

end CommandLine

end Scaffold
