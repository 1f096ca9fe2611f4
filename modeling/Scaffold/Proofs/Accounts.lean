import Scaffold.Proofs.Confining

/-! What the report of a completed run accounts for. When the paths of the run lie apart, the report
lists what was written in order, the questions are those for the files that were there, and each
file holds its template as the run read it. -/
namespace Scaffold

open Files Files.Workspace

/-! ## Answers -/

namespace Consent

/-- The answers to some questions in turn, who answers the next one, and what was seen. -/
def answers (consent : Consent) (default : Bool) : List String → List Bool × Consent × List Event
  | [] => ([], consent, [])
  | question :: rest =>
    let (answer, next, events) := consent.answer question default
    let (more, last, later) := next.answers default rest
    (answer :: more, last, events ++ later)

private theorem answers_cons {consent next last : Consent} {default answer : Bool}
    {question : String}
    {events later : List Event} {rest : List String} {more : List Bool}
    (first : consent.answer question default = (answer, next, events))
    (second : next.answers default rest = (more, last, later)) :
    consent.answers default (question :: rest) = (answer :: more, last, events ++ later) := by
  simp only [answers, first, second]

private theorem answers_singleton {consent next : Consent} {default answer : Bool}
    {question : String}
    {events : List Event} (answered : consent.answer question default = (answer, next, events)) :
    consent.answers default [question] = ([answer], next, events) := by
  have last : next.answers default [] = ([], next, []) := rfl
  rw [answers_cons answered last, List.append_nil]

private theorem answers_append {consent next last : Consent} {default : Bool}
    {events later : List Event}
    {questions rest : List String} {given more : List Bool}
    (first : consent.answers default questions = (given, next, events))
    (second : next.answers default rest = (more, last, later)) :
    consent.answers default (questions ++ rest) = (given ++ more, last, events ++ later) := by
  induction questions generalizing consent given events with
  | nil =>
    cases first
    exact second
  | cons question questions ih =>
    rcases asked : consent.answer question default with ⟨answer, middle, seen⟩
    rcases answered : middle.answers default questions with ⟨others, final, shown⟩
    rw [answers_cons asked answered] at first
    cases first
    rw [List.cons_append, List.cons_append, List.append_assoc]
    exact answers_cons asked (ih answered)

private theorem answers_length {consent next : Consent} {default : Bool} {events : List Event}
    {questions : List String} {given : List Bool}
    (answered : consent.answers default questions = (given, next, events)) :
    given.length = questions.length := by
  induction questions generalizing consent given events with
  | nil =>
    cases answered
    rfl
  | cons question questions ih =>
    rcases asked : consent.answer question default with ⟨answer, middle, seen⟩
    rcases others : middle.answers default questions with ⟨more, final, shown⟩
    rw [answers_cons asked others] at answered
    cases answered
    simp [ih others]

end Consent

/-! ## Templates -/

namespace Template

variable {library : Library} {w now : Workspace} {name : String} {stub : Path} {paths : List Path}

/-- A template whose stub is a file reads as that file. -/
theorem Library.bodyIn_of_file {place : Location} {mode : Nat} {bytes : Text.Bytes}
    (named : library.path? name = some stub) (located : w.locate .follow stub = .ok place)
    (found : w.entryAt place = some (.file mode bytes)) :
    library.bodyIn name w = match Text.fileText? bytes with
      | some text => .ok text
      | none => .error (.templateUnreadable name stub) := by
  have file : w.isFile stub = true := isFile_iff.mpr ⟨place, mode, bytes, located, found⟩
  have own : library.file? w name = some stub := by
    rw [file?, named, Option.filter_some, if_pos file]
  have read : w.read stub = .ok bytes := by
    rw [Workspace.read, find?, located]
    simp only [found]
  cases text : Text.fileText? bytes <;> simp only [bodyIn, own, textIn, read, text] <;> rfl

/-- A template whose stub is no file reads as it is built in. -/
theorem Library.bodyIn_of_not_file (absent : ∀ stub, library.path? name = some stub →
    w.isFile stub = false) : library.bodyIn name w = match library.builtIn.lookup name with
      | some body => .ok body
      | none => .error (.templateMissing name (library.path? name)) := by
  have missing : library.file? w name = none := by
    rw [file?, Option.filter_eq_none_iff]
    intro stub named
    simp [absent stub named]
  cases built : library.builtIn.lookup name <;> simp only [bodyIn, missing, built]

/-- A template reads as it read in an earlier workspace. There is one exception: a stub behind two
dots, which nothing led to because a directory before the dots was missing. -/
def Library.Recalls (library : Library) (name : String) (w now : Workspace) : Prop :=
  library.bodyIn name now = library.bodyIn name w ∨
    ∃ stub place, library.path? name = some stub ∧ w.isThere stub = false ∧
      (∀ goal, ¬ w.LeadsTo false stub goal) ∧ now.locate .follow stub = .ok place ∧
      w.entryAt place ≠ none

/-- Growth at paths that are no stubs leaves the templates as they are. -/
theorem Library.recalls (tree : w.WellFormed) (confined : w.Confined paths now)
    (stubs : ∀ stub, library.path? name = some stub → ∀ path ∈ paths, ∀ place,
      w.LeadsTo false path place → ¬ w.LeadsTo true stub place) : library.Recalls name w now := by
  have kept : ∀ stub place mode bytes, library.path? name = some stub → w.LeadsTo true stub place →
      (now.entryAt place = some (.file mode bytes) ↔
        w.entryAt place = some (.file mode bytes)) := by
    intro stub place mode bytes named leads
    have off : ∀ path ∈ paths, ¬ w.LeadsTo false path place :=
      fun path member toPlace => stubs stub named path member place toPlace leads
    rcases confined.others off with same | ⟨missing, made, -⟩
    · rw [same]
    · simp [missing, made]
  by_cases file : ∃ stub, library.path? name = some stub ∧ now.isFile stub = true
  · obtain ⟨stub, named, file⟩ := file
    obtain ⟨place, mode, bytes, located, found⟩ := isFile_iff.mp file
    have leads := (leadsTo_of_locate located (by simp)).back confined.extends_
    have formerly := (kept stub place mode bytes named leads).mp found
    by_cases reached : w.locate .follow stub = .ok place
    · left
      rw [bodyIn_of_file named located found, bodyIn_of_file named reached formerly]
    · refine .inr ⟨stub, place, named, ?_, fun goal straight => ?_, located, by simp [formerly]⟩
      · by_contra there
        obtain ⟨other, here, -⟩ := isThere_iff.mp (by simpa using there)
        have same := locate_forth confined.extends_ here
        rw [located] at same
        cases same
        exact reached here
      · exact reached (locate_back tree confined.extends_ straight located (by simp [formerly]))
  · left
    push Not at file
    rw [bodyIn_of_not_file (w := now) fun stub named => by simpa using file stub named]
    refine (bodyIn_of_not_file ?_).symm
    intro stub named
    by_contra formerly
    obtain ⟨place, mode, bytes, located, found⟩ := isFile_iff.mp (by simpa using formerly)
    have leads := leadsTo_of_locate located (by simp)
    refine file stub named (isFile_iff.mpr ⟨place, mode, bytes, ?_, ?_⟩)
    · exact locate_forth confined.extends_ located
    · exact (kept stub place mode bytes named leads).mpr found

end Template

/-! ## Tallies -/

namespace Generation

open Emission Inflection Template Text

variable {g : Generator} {job : Job} {work : Work} {pieces rest : List Work} {filling : Filling}
  {before middle after : Standing} {w w' : Workspace} {path : Path} {place : Location}
  {added more : List Artifact} {given others : List Bool} {events later : List Event}

/-- What a piece of finished work adds to the report. -/
def Work.listed (g : Generator) (w : Workspace) : Work → List (String × Path)
  | .artifact label path _ _ => [(label, path)]
  | .layout =>
    if g.config.usesDefaultLayout ∧ w.isThere g.config.layoutPath = false then
      [("Layout", g.config.layoutPath)]
    else []
  | .reach _ | .fragments _ | .route => []

/-- The path that a piece of work writes to with consent alone. -/
def Work.guarded? : Work → Option Path
  | .artifact _ path _ _ => some path
  | .reach _ | .fragments _ | .layout | .route => none

/-- The paths that some work asks about, in order: where something is. -/
def askedIn (w : Workspace) (pieces : List Work) : List Path :=
  (pieces.filterMap Work.guarded?).filter w.isThere

private theorem askedIn_append (w : Workspace) (first rest : List Work) :
    askedIn w (first ++ rest) = askedIn w first ++ askedIn w rest := by
  rw [askedIn, List.filterMap_append, List.filter_append, askedIn, askedIn]

/-- What the answer to a question makes of a file. -/
def outcomeOf (answer : Bool) : Outcome :=
  if answer then .overwritten else .skipped

/-- What some work adds to the report, and what is asked and answered for it. -/
structure Tally (g : Generator) (w : Workspace) (pieces : List Work) (before after : Standing)
    (added : List Artifact) (given : List Bool) (events : List Event) : Prop where
  artifacts : after.artifacts = before.artifacts ++ added
  listed : added.map (fun artifact => (artifact.label, artifact.path)) =
    pieces.flatMap (·.listed g w)
  asked : before.consent.answers true ((askedIn w pieces).map question) =
    (given, after.consent, events)
  decisions : after.decisions = before.decisions ++ events
  decided : (added.filter (·.outcome != .created)).map
      (fun artifact => (artifact.path, artifact.outcome)) =
    (askedIn w pieces).zip (given.map outcomeOf)

theorem Tally.none (listed : pieces.flatMap (·.listed g w) = [])
    (asked : askedIn w pieces = []) (artifacts : after.artifacts = before.artifacts)
    (consent : after.consent = before.consent) (decisions : after.decisions = before.decisions) :
    Tally g w pieces before after [] [] [] where
  artifacts := by rw [artifacts, List.append_nil]
  listed := listed.symm
  asked := by
    rw [asked, consent]
    rfl
  decisions := by rw [decisions, List.append_nil]
  decided := by
    rw [asked]
    rfl

/-- The tally of a file that is there and is decided about. -/
theorem Tally.one {label template : String} {answer : Bool} {consent : Consent}
    (there : w.isThere path = true)
    (answered : before.consent.answer (question path) true = (answer, consent, events))
    (artifacts : after.artifacts = before.artifacts ++ [⟨label, path, outcomeOf answer⟩])
    (next : after.consent = consent) (decisions : after.decisions = before.decisions ++ events) :
    Tally g w [.artifact label path template filling] before after
      [⟨label, path, outcomeOf answer⟩] [answer] events := by
  have asks : askedIn w [.artifact label path template filling] = [path] := by
    simp [askedIn, Work.guarded?, there]
  refine ⟨artifacts, rfl, ?_, decisions, ?_⟩
  · rw [asks, next]
    exact Consent.answers_singleton answered
  · rw [asks]
    cases answer <;> rfl

theorem Tally.append (first : Tally g w pieces before middle added given events)
    (second : Tally g w rest middle after more others later) :
    Tally g w (pieces ++ rest) before after (added ++ more) (given ++ others) (events ++ later) where
  artifacts := by rw [second.artifacts, first.artifacts, List.append_assoc]
  listed := by rw [List.map_append, first.listed, second.listed, List.flatMap_append]
  asked := by
    rw [askedIn_append, List.map_append]
    exact Consent.answers_append first.asked second.asked
  decisions := by rw [second.decisions, first.decisions, List.append_assoc]
  decided := by
    have length := Consent.answers_length first.asked
    rw [List.length_map] at length
    rw [List.filter_append, List.map_append, first.decided, second.decided, askedIn_append,
      List.map_append, List.zip_append (by rw [List.length_map, length])]

/-- A tally depends on whether the paths of the work lead to anything. -/
theorem Tally.congr (tally : Tally g w pieces before after added given events)
    (same : ∀ path ∈ pathsOf g pieces, w'.isThere path = w.isThere path) :
    Tally g w' pieces before after added given events := by
  have listed : pieces.flatMap (·.listed g w') = pieces.flatMap (·.listed g w) := by
    apply List.flatMap_congr
    intro work member
    cases work with
    | layout =>
      have writes : g.config.layoutPath ∈ pathsOf g pieces :=
        List.mem_filterMap.mpr ⟨.layout, member, rfl⟩
      simp [Work.listed, same _ writes]
    | artifact | reach | fragments | route => rfl
  have asked : askedIn w' pieces = askedIn w pieces := by
    refine List.filter_congr fun path member => same path ?_
    obtain ⟨work, among, guarded⟩ := List.mem_filterMap.mp member
    refine List.mem_filterMap.mpr ⟨work, among, ?_⟩
    cases work with
    | artifact => exact guarded
    | reach | fragments | layout | route => cases guarded
  refine ⟨tally.artifacts, ?_, ?_, tally.decisions, ?_⟩
  · rw [listed, tally.listed]
  · rw [asked, tally.asked]
  · rw [asked, tally.decided]

theorem Finishes.tally (finishes : Finishes g job work before after) :
    ∃ added given events, Tally g before.workspace [work] before after added given events := by
  cases finishes with
  | reach | fragments | route => exact ⟨[], [], [], .none rfl rfl rfl rfl rfl⟩
  | layoutThere there =>
    exact ⟨[], [], [], .none (by simp [Work.listed, there]) rfl rfl rfl rfl⟩
  | layout default _ writes =>
    cases writes with
    | created absent =>
      refine ⟨[⟨"Layout", g.config.layoutPath, .created⟩], [], [], rfl, ?_, rfl, ?_, rfl⟩
      · simp [Work.listed, default, absent]
      · exact (List.append_nil _).symm
  | @artifact _ _ label template _ path filling _ _ writes =>
    cases writes with
    | skipped there answered => exact ⟨_, _, _, .one there answered rfl rfl rfl⟩
    | overwritten there answered => exact ⟨_, _, _, .one there answered rfl rfl rfl⟩
    | created absent =>
      have asks : askedIn before.workspace [.artifact label path template filling] = [] := by
        simp [askedIn, Work.guarded?, absent]
      refine ⟨[⟨label, path, .created⟩], [], [], rfl, rfl, ?_, ?_, ?_⟩
      · rw [asks]
        rfl
      · exact (List.append_nil _).symm
      · rw [asks]
        rfl

/-- The tally of a whole course is what the first workspace makes of its work. -/
theorem Course.tally (tree : before.workspace.WellFormed)
    (proper : ∀ path ∈ pathsOf g pieces, path.Proper)
    (separate : before.workspace.Separate (pathsOf g pieces))
    (course : Course g job pieces before (.ok ()) after) :
    ∃ added given events, Tally g before.workspace pieces before after added given events := by
  generalize ended : Except.ok () = outcome at course
  induction course with
  | done => exact ⟨[], [], [], .none rfl rfl rfl rfl rfl⟩
  | @step work rest before middle _ _ finishes _ ih =>
    rw [pathsOf_cons] at proper separate
    have ahead := separate.of_sublist (List.sublist_append_right _ _)
    have first : before.workspace.Confined (pathsOf g [work]) middle.workspace :=
      finishes.confined tree (fun path member => proper path (List.mem_append_left _ member))
        (separate.of_sublist (List.sublist_append_left _ _))
    obtain ⟨_, _, _, one⟩ := finishes.tally
    obtain ⟨_, _, _, onward⟩ := ih first.tree
      (fun path member => proper path (List.mem_append_right _ member))
      (ahead.forth first.extends_) ended
    -- What the other paths lead to is still as it was at first.
    have same : ∀ path ∈ pathsOf g rest,
        before.workspace.isThere path = middle.workspace.isThere path := by
      intro path member
      obtain ⟨place, leads⟩ := ahead.straight path member
      have apart : ∀ other ∈ pathsOf g [work], before.workspace.Apart path other :=
        fun other among =>
          ((List.pairwise_append.mp separate.apart).2.2 other among path member).symm
      exact (first.isThere_eq tree leads apart).symm
    exact ⟨_, _, _, one.append (onward.congr same)⟩
  | broken => cases ended

/-! ## Accounts -/

/-- A workspace that a run comes through: only paths of the run have changed, and templates read in
it as they did. -/
structure Passes (g : Generator) (paths : List Path) (w now : Workspace) : Prop where
  confined : w.Confined paths now
  recalls : ∀ name, g.library.Recalls name w now

/-- The text that a piece of work makes in a workspace for an artifact of the report. -/
inductive Makes (g : Generator) (now : Workspace) : Work → String → Path → String → Prop where
  | artifact {label template content : String} {path : Path} {filling : Filling}
      (rendered : contentIn g template filling now = .ok content) :
      Makes g now (.artifact label path template filling) label path content
  | layout {body : String} (found : g.library.bodyIn "layouts/app" now = .ok body) :
      Makes g now .layout "Layout" g.config.layoutPath body

/-- What became of an artifact of the report: it is new exactly when nothing was there, it is as it
was when it was skipped, and else it holds the text that was made for it. -/
structure Accounted (g : Generator) (pieces : List Work) (before after : Standing)
    (artifact : Artifact) : Prop where
  created : artifact.outcome = .created ↔ before.workspace.isThere artifact.path = false
  skipped : artifact.outcome = .skipped → ∀ place,
    before.workspace.LeadsTo false artifact.path place →
      after.workspace.entryAt place = before.workspace.entryAt place
  written : ∃ work ∈ pieces, ∃ now content, Passes g (pathsOf g pieces) before.workspace now ∧
    Makes g now work artifact.label artifact.path content ∧
    (artifact.outcome ≠ .skipped → ∀ place,
      before.workspace.LeadsTo false artifact.path place →
        after.workspace.entryAt place =
          some (.file (before.workspace.modeAt place) (encode content)))

/-- Writing a file accounts for it. -/
theorem Writes.accounts {text : String} {outcome : Outcome} (tree : before.workspace.WellFormed)
    (proper : path.Proper) (leads : before.workspace.LeadsTo false path place)
    (writes : Writes path text outcome before after) :
    (outcome = .created ↔ before.workspace.isThere path = false) ∧
      (outcome = .skipped → after.workspace = before.workspace) ∧
      (outcome ≠ .skipped → after.workspace.entryAt place =
        some (.file (before.workspace.modeAt place) (encode text))) := by
  cases writes with
  | skipped there => simp [there]
  | overwritten there _ puts =>
    obtain ⟨left, mid, _, mode, puts⟩ := puts
    exact ⟨by simp [there], by simp, fun _ => (puts.delivers tree proper leads).written⟩
  | created absent puts =>
    obtain ⟨left, mid, _, mode, puts⟩ := puts
    exact ⟨by simp [absent], by simp, fun _ => (puts.delivers tree proper leads).written⟩

/-- A piece of work that writes a file accounts for it at the end of the course, too. -/
theorem Visit.accounted {label text : String} {outcome : Outcome} {here next final : Standing}
    (visit : Visit g job pieces work before here next after)
    (passes : Passes g (pathsOf g pieces) before.workspace here.workspace)
    (target : path ∈ pathsOf g [work]) (proper : path.Proper)
    (straight : ∃ place, before.workspace.LeadsTo false path place)
    (makes : Makes g here.workspace work label path text)
    (writes : Writes path text outcome here final) (ends : next.workspace = final.workspace) :
    Accounted g pieces before after ⟨label, path, outcome⟩ := by
  have facts : ∀ place, before.workspace.LeadsTo false path place →
      (outcome = .created ↔ before.workspace.isThere path = false) ∧
      (outcome = .skipped →
        after.workspace.entryAt place = before.workspace.entryAt place) ∧
      (outcome ≠ .skipped → after.workspace.entryAt place =
        some (.file (before.workspace.modeAt place) (encode text))) := by
    intro place leads
    obtain ⟨same, there, stays⟩ := visit.undisturbed path target place leads
    obtain ⟨created, skipped, written⟩ :=
      Writes.accounts visit.tree proper (leads.forth passes.confined.extends_) writes
    rw [there] at created
    refine ⟨created, ?_, ?_⟩
    · intro kept
      rw [stays, ends, skipped kept, same]
    · intro replaced
      have moded : here.workspace.modeAt place = before.workspace.modeAt place := by
        rw [modeAt, modeAt, same]
      rw [stays, ends, written replaced, moded]
  obtain ⟨place, leads⟩ := straight
  exact ⟨(facts place leads).1, fun kept place leads => (facts place leads).2.1 kept,
    work, visit.member, here.workspace, text, passes, makes,
    fun replaced place leads => (facts place leads).2.2 replaced⟩

/-- A completed course accounts for every artifact that it reports. -/
theorem Course.accounts {artifact : Artifact} (tree : before.workspace.WellFormed)
    (proper : ∀ path ∈ pathsOf g pieces, path.Proper)
    (separate : before.workspace.Separate (pathsOf g pieces))
    (passing : ∀ now, before.workspace.Confined (pathsOf g pieces) now →
      Passes g (pathsOf g pieces) before.workspace now)
    (course : Course g job pieces before (.ok ()) after) (fresh : before.artifacts = [])
    (member : artifact ∈ after.artifacts) : Accounted g pieces before after artifact := by
  rcases course.records member with old | ⟨first, work, rest, here, next, rfl, start, finishes,
    onward, added⟩
  · rw [fresh] at old
    cases old
  · have visit := start.visit tree proper separate finishes onward
    have passes := passing _ visit.confined
    have within : ∀ path ∈ pathsOf g [work], path ∈ pathsOf g (first ++ work :: rest) := by
      intro path among
      rw [pathsOf_append, pathsOf_cons]
      exact List.mem_append_right _ (List.mem_append_left _ among)
    cases finishes with
    | reach | fragments | layoutThere | route =>
      have length := congrArg List.length added
      simp [Standing.reached, Standing.registered, Standing.within] at length
    | artifact rendered writes =>
      rw [Standing.recorded_artifacts, writes.report.2.1] at added
      cases List.append_cancel_left added
      have among := within _ List.mem_cons_self
      exact visit.accounted passes List.mem_cons_self (proper _ among)
        (separate.straight _ among) (.artifact rendered) writes rfl
    | layout _ found writes =>
      rw [Standing.recorded_artifacts, writes.report.2.1] at added
      cases List.append_cancel_left added
      have among := within _ List.mem_cons_self
      exact visit.accounted passes List.mem_cons_self (proper _ among)
        (separate.straight _ among) (.layout found) writes rfl

/-- The paths of the files that a run asks about before it replaces them, in order. -/
def guardedPaths (g : Generator) (naming : Naming) : List Path :=
  [g.config.controllerPath naming, g.config.modelPath naming] ++
    viewNames.map (g.config.viewPath naming)

/-- What the report of a completed run accounts for, from one standing to another. -/
structure Account (g : Generator) (job : Job) (before after : Standing) : Prop where
  /-- The report lists what the run writes, in order, and the layout when the run has to make it. -/
  listed : after.artifacts.map (fun artifact => (artifact.label, artifact.path)) =
    [("Controller", g.config.controllerPath job.naming), ("Model", g.config.modelPath job.naming)] ++
    (if g.config.usesDefaultLayout ∧ before.workspace.isThere g.config.layoutPath = false then
      [("Layout", g.config.layoutPath)] else []) ++
    viewNames.map fun view => ("View " ++ view, g.config.viewPath job.naming view)
  /-- One question is asked for each file that was there, in order, and its answer decides. -/
  decided : ∃ given events,
    before.consent.answers true
      (((guardedPaths g job.naming).filter before.workspace.isThere).map question) =
        (given, after.consent, events) ∧
    after.decisions = before.decisions ++ events ∧
    (after.artifacts.filter (·.outcome != .created)).map
        (fun artifact => (artifact.path, artifact.outcome)) =
      ((guardedPaths g job.naming).filter before.workspace.isThere).zip (given.map outcomeOf)
  /-- Every file holds what was made of its template, unless it was skipped. -/
  written : ∃ filling,
    (∃ now, Passes g (pathsOf g (works g job filling)) before.workspace now ∧
      viewFillingIn job.naming g.config job.columns job.fields g.library now = .ok filling) ∧
    ∀ artifact ∈ after.artifacts, Accounted g (works g job filling) before after artifact
  /-- The routes file has the line of the run behind what it had. -/
  routed : after.routeLine = some (job.line g) ∧
    ∀ place, before.workspace.LeadsTo false g.config.routesPath place →
      after.workspace.entryAt place = some (.file (before.workspace.modeAt place)
        ((before.workspace.bytesAt place).getD [] ++ encode
          (g.routes.addition ((before.workspace.bytesAt place).getD []) (job.line g))))
  /-- Nothing else has changed but for new directories on the way. -/
  others : before.workspace.Confined (targets g job.naming ++ [g.config.routesPath]) after.workspace

private theorem Course.account (tree : before.workspace.WellFormed)
    (separate : before.workspace.Separate (targets g job.naming ++ [g.config.routesPath]))
    (stubs : ∀ name stub, g.library.path? name = some stub →
      ∀ path ∈ targets g job.naming ++ [g.config.routesPath], ∀ place,
        before.workspace.LeadsTo false path place → ¬ before.workspace.LeadsTo true stub place)
    (fresh : before.artifacts = [])
    (course : Course g job (works g job filling) before (.ok ()) after) :
    Account g job before after := by
  have proper := @pathsOf_proper g job filling
  rw [← pathsOf_works filling] at separate stubs
  have passing : ∀ now, before.workspace.Confined (pathsOf g (works g job filling)) now →
      Passes g (pathsOf g (works g job filling)) before.workspace now :=
    fun now confined => ⟨confined, fun name => Library.recalls tree confined (stubs name)⟩
  obtain ⟨added, given, events, tally⟩ := course.tally tree proper separate
  have all : after.artifacts = added := by rw [tally.artifacts, fresh, List.nil_append]
  constructor
  · rw [all, tally.listed]
    rfl
  · rw [all]
    exact ⟨given, events, tally.asked, tally.decisions, tally.decided⟩
  · have member : .fragments filling ∈ works g job filling := by simp [works, writings]
    obtain ⟨here, next, visit⟩ := course.comes_by tree proper separate member
    have filled : viewFillingIn job.naming g.config job.columns job.fields g.library
        here.workspace = .ok filling := by
      cases visit.finishes with
      | fragments filled => exact filled
    exact ⟨filling, ⟨here.workspace, passing _ visit.confined, filled⟩,
      fun artifact => course.accounts tree proper separate passing fresh⟩
  · have member : Work.route ∈ works g job filling := by simp [works]
    obtain ⟨here, next, visit⟩ := course.comes_by tree proper separate member
    obtain ⟨_, _, _, _, _, _, _, _, last⟩ := course.completes
    refine ⟨by rw [last]; rfl, ?_⟩
    intro place leads
    obtain ⟨same, -, stays⟩ := visit.undisturbed _ List.mem_cons_self place leads
    have within := proper g.config.routesPath (by rw [pathsOf_works]; simp)
    have toPlace := leads.forth visit.confined.extends_
    have added : next.workspace.entryAt place = some (.file (here.workspace.modeAt place)
        ((here.workspace.bytesAt place).getD [] ++ encode
          (g.routes.addition ((here.workspace.bytesAt place).getD []) (job.line g)))) := by
      cases visit.finishes with
      | route adds =>
        obtain ⟨rfl, delivers⟩ := adds.delivers visit.tree within toPlace
        exact delivers.written
    rw [stays, added, modeAt, modeAt, bytesAt, bytesAt, same]
  · rw [← pathsOf_works filling]
    exact course.confined tree proper separate

/-- The account is the same from the standing before the run and from the start of its report. -/
theorem Account.of_fresh (account : Account g job before.fresh after) :
    Account g job before after := by
  obtain ⟨filling, filled, each⟩ := account.written
  refine ⟨account.listed, account.decided, ⟨filling, filled, fun artifact member => ?_⟩,
    account.routed, account.others⟩
  obtain ⟨created, skipped, written⟩ := each artifact member
  exact ⟨created, skipped, written⟩

/-- The report of a run that is completed accounts exactly for what the run did, when the paths that
it writes to lie apart and none of them is a template. -/
theorem completed_run_accounts {request : Request} {rules : RuleSet} {session final : Session}
    {report : Report} (tree : session.workspace.WellFormed)
    (selected : rulesIn request.language = .ok rules)
    (separate : session.workspace.Separate
      (targets g (Naming.resolve rules request) ++ [g.config.routesPath]))
    (stubs : ∀ name stub, g.library.path? name = some stub →
      ∀ path ∈ targets g (Naming.resolve rules request) ++ [g.config.routesPath], ∀ place,
        session.workspace.LeadsTo false path place → ¬ session.workspace.LeadsTo true stub place)
    (ran : (generate g request).run session = (.ok report, final)) (done : report.stage = .done) :
    report = final.report ∧ ∃ columns, inspected g request.tableName = .ok (some columns) ∧
      Account g (.of g rules request columns) session.standing final.standing := by
  generalize ended : Except.ok report = result at ran
  cases generate_ends ran with
  | refused => cases ended
  | aborted missing stands =>
    have stage : final.report.stage = .aborted := congrArg Standing.stage stands
    cases ended
    rw [stage] at done
    cases done
  | @built rules' columns filling outcome _ selected' known course =>
    rw [selected] at selected'
    cases selected'
    cases outcome with
    | error failure => cases ended
    | ok _ =>
      cases ended
      have named : (Job.of g rules request columns).naming = Naming.resolve rules request := rfl
      rw [← named] at separate stubs
      have account : Account g (.of g rules request columns) session.standing.fresh
          final.standing := course.account tree separate stubs rfl
      exact ⟨rfl, columns, known, account.of_fresh⟩

/-- Without links, and at home at the top, paths lie apart as their names do. -/
theorem linkless_separate {w : Workspace} {paths : List Path} (home : w.home = [])
    (linkless : ∀ place target, w.entryAt place ≠ some (.link target))
    (real : ∀ path ∈ paths, ∀ name ∈ path.names, isRealName name)
    (apart : paths.Pairwise fun path other =>
      ¬ path.names <+: other.names ∧ ¬ other.names <+: path.names) : w.Separate paths :=
  separate_of_names (fun path member => linkless_leads home linkless (real path member)) apart

/-- A session in which the controller, the model and the routes file of a small run are there. The
first of its questions is answered with yes, the second with no. -/
def begunSession : Session where
  workspace :=
    { home := []
      entries := [(["c"], .directory), (["c", "a_controller.py"], .file 0o600 [33]),
        (["m"], .directory), (["m", "a.py"], .file 0o644 [33]), (["r"], .file 0o644 [35, 10])] }
  consent := .script [true, false]

private theorem begun_wellFormed : begunSession.workspace.WellFormed :=
  .of_entries rfl (by decide)

private theorem begun_linkless (place : Location) (target : String) :
    begunSession.workspace.entryAt place ≠ some (.link target) := by
  intro found
  have member := mem_of_entryAt found (by rintro rfl; simp at found)
  simp [begunSession] at member

/-- The report of a run that overwrites the controller, skips the model and creates the rest accounts
for what the run did. -/
theorem completed_run_accounts_begun : ∃ rules report final columns,
    (generate (smallGenerator smallTemplates) smallRequest).run begunSession =
      (.ok report, final) ∧ report.stage = .done ∧
    report.artifacts.map (·.outcome) =
      [.overwritten, .skipped, .created, .created, .created, .created, .created, .created] ∧
    Account (smallGenerator smallTemplates)
      (.of (smallGenerator smallTemplates) rules smallRequest columns)
      begunSession.standing final.standing := by
  have completes : ((generate (smallGenerator smallTemplates) smallRequest).run
      begunSession).1.toOption.map (fun report => (report.stage, report.artifacts.map (·.outcome))) =
        some (.done, [.overwritten, .skipped, .created, .created, .created, .created, .created,
          .created]) := by decide +kernel
  rcases ran : (generate (smallGenerator smallTemplates) smallRequest).run begunSession
    with ⟨result, final⟩
  rw [ran] at completes
  cases result with
  | error failure => cases completes
  | ok report =>
    rcases selected : rulesIn smallRequest.language with failure | rules
    · cases selected
    obtain ⟨done, outcomes⟩ := Prod.mk.inj (Option.some.inj completes)
    obtain ⟨real, apart⟩ := small_paths selected
    have separate := linkless_separate rfl begun_linkless real apart
    have noStubs : ∀ name stub, (smallGenerator smallTemplates).library.path? name = some stub →
        ∀ path ∈ targets (smallGenerator smallTemplates) (Naming.resolve rules smallRequest) ++
          [smallConfig.routesPath], ∀ place,
          begunSession.workspace.LeadsTo false path place →
            ¬ begunSession.workspace.LeadsTo true stub place := by
      intro name stub named
      cases named
    obtain ⟨-, columns, -, account⟩ := completed_run_accounts begun_wellFormed selected separate
      noStubs ran done
    exact ⟨rules, report, final, columns, rfl, done, outcomes, account⟩

end Generation

end Scaffold
