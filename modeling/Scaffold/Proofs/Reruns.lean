import Scaffold.Proofs.Accounts
import Scaffold.Proofs.Histories
import Scaffold.Proofs.Repeating

/-! A run that is made again after it was completed. When nothing was declined, every file it wrote is
in its seat, and what it wrote is no template; so the second run reads what the first one read, writes
what is there already, and adds one line to the routes file. -/
namespace Scaffold

open Files Files.Workspace

/-! ## Consent to everything -/

namespace Consent

/-- Whoever says yes to each question that has yes as its default. -/
def Agrees : Consent → Prop
  | always answer => answer = true
  | script answers => ∀ answer ∈ answers, answer = true
  | console replies => ∀ reply ∈ replies, ∀ text, reply = some text → meaning text true = true

theorem Agrees.answer {consent : Consent} (agrees : consent.Agrees) (question : String) :
    ∃ next events, consent.answer question true = (true, next, events) ∧ next.Agrees := by
  cases consent with
  | always answer =>
    cases agrees
    exact ⟨_, _, rfl, rfl⟩
  | script answers =>
    cases answers with
    | nil => exact ⟨_, _, rfl, agrees⟩
    | cons answer rest =>
      obtain rfl := agrees answer List.mem_cons_self
      exact ⟨_, _, rfl, fun other member => agrees other (List.mem_cons_of_mem _ member)⟩
  | console replies =>
    cases replies with
    | nil => exact ⟨_, _, rfl, agrees⟩
    | cons reply rest =>
      have onward : (console rest).Agrees :=
        fun other member => agrees other (List.mem_cons_of_mem _ member)
      cases reply with
      | none => exact ⟨_, _, rfl, onward⟩
      | some text =>
        have yes := agrees _ List.mem_cons_self text rfl
        exact ⟨_, _, by rw [Consent.answer, yes], onward⟩

end Consent

/-- The same session with someone who says yes to everything. -/
def Session.agreeing (session : Session) : Session :=
  { session with consent := .always true }

/-! ## Templates that a run cannot disturb -/

namespace Template

open Schema

variable {library : Library} {w now : Workspace} {paths : List Path}

/-- The names of the templates that runs read. -/
def standardNames : List String :=
  standardBodies.map (·.1)

private theorem inputName_mem (kind : FieldKind) : inputName kind ∈ standardNames := by
  cases kind <;> decide

/-- The templates that runs read have the same bodies in two workspaces. -/
def Library.ReadsAlike (library : Library) (w now : Workspace) : Prop :=
  ∀ name ∈ standardNames, library.bodyIn name now = library.bodyIn name w

/-- No stub of a template that runs read is at the end of one of the paths, and none that is missing
would be found behind two dots. -/
structure Library.Steady (library : Library) (w : Workspace) (paths : List Path) : Prop where
  apart : ∀ name ∈ standardNames, ∀ stub, library.path? name = some stub → ∀ path ∈ paths, ∀ place,
    w.LeadsTo false path place → ¬ w.LeadsTo true stub place
  level : ∀ name ∈ standardNames, ∀ stub, library.path? name = some stub → w.isThere stub = false →
    ∀ place, w.LeadsTo true stub place → w.LeadsTo false stub place

/-- Files and directories on other paths do not change what is read. -/
theorem Library.Steady.readsAlike (tree : w.WellFormed) (steady : library.Steady w paths)
    (confined : w.Confined paths now) : library.ReadsAlike w now := by
  intro name member
  rcases Library.recalls tree confined (steady.apart name member) with
    same | ⟨stub, place, named, missing, crooked, located, -⟩
  · exact same
  · have leads := (leadsTo_of_locate located (by simp)).back confined.extends_
    exact absurd (steady.level name member stub named missing place leads) (crooked place)

private theorem viewFillingIn_congr {naming : Naming} {config : Config} {columns : List Column}
    {fields : List Field} (alike : library.ReadsAlike w now) :
    viewFillingIn naming config columns fields library now =
      viewFillingIn naming config columns fields library w := by
  have inputs : ∀ base, inputsIn library base fields now = inputsIn library base fields w := by
    intro base
    simp only [inputsIn, alike _ (inputName_mem _)]
  simp only [viewFillingIn, inputs, alike "fields/head" (by decide), alike "fields/cell" (by decide),
    alike "fields/view" (by decide)]

end Template

/-! ## What a completed run leaves -/

namespace Emission

variable {style : RouteStyle} {path : Path} {line : String} {w w' mid : Workspace} {place : Location}
  {mode : Nat} {old : Text.Bytes}

/-- A line that was added can be followed by others. -/
theorem Adds.located_after (adds : Adds style path line w w' mid place mode old) :
    w'.locate .make path = .ok place ∧ ∃ bytes, w'.entryAt place = some (.file mode bytes) ∧
      bytes ≠ [] := by
  have real : place ≠ [] := by
    rintro rfl
    exact adds.solid (entryAt_root mid)
  have plain : ∀ target, mid.entryAt place ≠ some (.link target) := by
    intro target found
    rcases adds.held with held | ⟨missing, -⟩ <;> simp_all
  have last : mid.Extends w' := by
    rw [adds.result]
    exact extends_set_file adds.solid plain
  refine ⟨locate_forth last adds.located, _, by rw [adds.result]; exact entryAt_set_self real, ?_⟩
  exact List.append_ne_nil_of_right_ne_nil _ (encode_line_ne_nil _)

end Emission

namespace Generation

open Emission Inflection Template Text

variable {g : Generator} {job : Job} {work : Work} {pieces : List Work} {filling : Filling}
  {before after : Standing} {w w' : Workspace} {path : Path} {paths : List Path} {place : Location}

/-- Whoever says yes to a question does so to the next one. -/
theorem Writes.agrees {text : String} {outcome : Outcome} (agrees : before.consent.Agrees)
    (writes : Writes path text outcome before after) :
    outcome ≠ .skipped ∧ after.consent.Agrees := by
  obtain ⟨next, events, yes, onward⟩ := agrees.answer (question path)
  cases writes with
  | skipped _ answered =>
    rw [yes] at answered
    cases answered
  | overwritten _ answered =>
    rw [yes] at answered
    cases answered
    exact ⟨by simp, onward⟩
  | created => exact ⟨by simp, agrees⟩

private theorem Finishes.agrees (agrees : before.consent.Agrees)
    (finishes : Finishes g job work before after) :
    after.consent.Agrees := by
  cases finishes with
  | reach | fragments | layoutThere | route => exact agrees
  | artifact _ writes | layout _ _ writes => exact (Writes.agrees agrees writes).2

private theorem Course.agrees (agrees : before.consent.Agrees)
    (course : Course g job pieces before (.ok ()) after) : after.consent.Agrees := by
  generalize ended : Except.ok () = outcome at course
  induction course with
  | done => exact agrees
  | step finishes _ ih => exact ih (finishes.agrees agrees) ended
  | broken => cases ended

/-- A file that is written has its seat then. -/
theorem Writes.seated {text : String} {outcome : Outcome} (tree : before.workspace.WellFormed)
    (proper : path.Proper) (leads : before.workspace.LeadsTo false path place)
    (agrees : before.consent.Agrees) (writes : Writes path text outcome before after) :
    after.workspace.Seated path (encode text) := by
  have written := (Writes.agrees agrees writes).1
  cases writes with
  | skipped => exact absurd rfl written
  | overwritten _ _ puts | created _ puts =>
    obtain ⟨left, mid, there, mode, puts⟩ := puts
    exact puts.seated tree proper leads

/-- The template that a piece of work fills. -/
def Work.template? : Work → Option String
  | .artifact _ _ template _ => some template
  | .reach _ | .fragments _ | .layout | .route => none

private theorem works_standard {work : Work} {template : String}
    (member : work ∈ works g job filling)
    (fills : work.template? = some template) : template ∈ standardNames := by
  have templates : (works g job filling).filterMap Work.template? =
      ["controller", "model"] ++ viewNames.map ("views/" ++ ·) := rfl
  have known : ∀ template ∈ ["controller", "model"] ++ viewNames.map ("views/" ++ ·),
      template ∈ standardNames := by decide
  refine known template ?_
  rw [← templates]
  exact List.mem_filterMap.mpr ⟨work, member, fills⟩

/-- Work that was finished with consent can be done again. -/
theorem Finishes.repeatable (tree : before.workspace.WellFormed)
    (proper : ∀ path ∈ pathsOf g [work], path.Proper)
    (separate : before.workspace.Separate (pathsOf g [work])) (agrees : before.consent.Agrees)
    (standard : ∀ template, work.template? = some template → template ∈ standardNames)
    (alike : g.library.ReadsAlike before.workspace after.workspace)
    (finishes : Finishes g job work before after) :
    Repeatable g job after.workspace work := by
  cases finishes with
  | reach => exact .reach
  | fragments filled => exact .fragments filled
  | layoutThere there => exact .layoutThere there
  | @artifact _ middle label template content path filling outcome rendered writes =>
    obtain ⟨place, leads⟩ := separate.straight _ List.mem_cons_self
    have seated := Writes.seated tree (proper _ List.mem_cons_self) leads agrees writes
    have same : contentIn g template filling middle.workspace = .ok content := by
      rw [contentIn, show g.library.bodyIn template middle.workspace = _ from
        alike template (standard template rfl)]
      exact rendered
    exact .artifact same seated
  | @layout _ middle body default found writes =>
    obtain ⟨place, leads⟩ := separate.straight _ List.mem_cons_self
    have seated := Writes.seated tree (proper _ List.mem_cons_self) leads agrees writes
    have same : g.library.bodyIn "layouts/app" middle.workspace = .ok body :=
      (alike _ (by decide)).trans found
    exact .layout default same seated
  | route adds =>
    obtain ⟨located, bytes, held, nonempty⟩ := adds.located_after
    exact .route located held nonempty

/-- Work can still be done again after files were written on paths that lie apart. -/
theorem Repeatable.forth (tree : w.WellFormed) (proper : ∀ path ∈ pathsOf g [work], path.Proper)
    (straight : ∀ path ∈ pathsOf g [work], ∃ place, w.LeadsTo false path place)
    (apart : ∀ path ∈ pathsOf g [work], ∀ other ∈ paths, w.Apart path other)
    (confined : w.Confined paths w')
    (standard : ∀ template, work.template? = some template → template ∈ standardNames)
    (alike : g.library.ReadsAlike w w') (again : Repeatable g job w work) :
    Repeatable g job w' work := by
  have seated : ∀ {path bytes}, path ∈ pathsOf g [work] → w.Seated path bytes →
      w'.Seated path bytes := by
    intro path bytes member seated
    obtain ⟨place, leads⟩ := straight path member
    exact seated.forth tree (proper path member) leads confined.extends_
      (confined.entryAt_eq leads (apart path member))
  cases again with
  | reach => exact .reach
  | fragments filled => exact .fragments ((viewFillingIn_congr alike).trans filled)
  | layoutThere there => exact .layoutThere (isThere_forth confined.extends_ there)
  | @artifact label template content path filling rendered held =>
    have same : contentIn g template filling w' = .ok content := by
      rw [contentIn, alike template (standard template rfl)]
      exact rendered
    exact .artifact same (seated List.mem_cons_self held)
  | layout default found held =>
    exact .layout default ((alike _ (by decide)).trans found) (seated List.mem_cons_self held)
  | @route place mode old located held nonempty =>
    obtain ⟨goal, leads⟩ := straight _ List.mem_cons_self
    obtain rfl : place = goal :=
      Leads.unique (leadsTo_of_locate located (by simp)) leads
    have kept := confined.entryAt_eq leads (apart _ List.mem_cons_self)
    exact .route (locate_forth confined.extends_ located) (kept.trans held) nonempty

/-- All work of a completed course can be done again when nothing was declined. -/
theorem Course.repeatable (tree : before.workspace.WellFormed)
    (proper : ∀ path ∈ pathsOf g pieces, path.Proper)
    (separate : before.workspace.Separate (pathsOf g pieces)) (agrees : before.consent.Agrees)
    (standard : ∀ work ∈ pieces, ∀ template, work.template? = some template →
      template ∈ standardNames)
    (alike : ∀ now, before.workspace.Confined (pathsOf g pieces) now →
      g.library.ReadsAlike before.workspace now)
    (course : Course g job pieces before (.ok ()) after) :
    ∀ work ∈ pieces, Repeatable g job after.workspace work := by
  generalize ended : Except.ok () = outcome at course
  induction course with
  | done => exact fun _ member => by cases member
  | @step work rest before middle after _ finishes onward ih =>
    subst ended
    rw [pathsOf_cons] at proper separate alike
    have here := separate.of_sublist (List.sublist_append_left _ _)
    have properHere : ∀ path ∈ pathsOf g [work], path.Proper :=
      fun path member => proper path (List.mem_append_left _ member)
    have properRest : ∀ path ∈ pathsOf g rest, path.Proper :=
      fun path member => proper path (List.mem_append_right _ member)
    have first : before.workspace.Confined (pathsOf g [work]) middle.workspace :=
      finishes.confined tree properHere here
    have ahead := (separate.of_sublist (List.sublist_append_right _ _)).forth first.extends_
    have last := onward.confined first.tree properRest ahead
    have alikeHere := alike middle.workspace
      (first.mono fun path member => List.mem_append_left _ member)
    have alikeLater : ∀ now, middle.workspace.Confined (pathsOf g rest) now →
        g.library.ReadsAlike middle.workspace now := fun now confined name member =>
      (alike now (first.trans confined) name member).trans (alikeHere name member).symm
    have done := finishes.repeatable tree properHere here agrees
      (standard work List.mem_cons_self) alikeHere
    intro piece member
    rcases List.mem_cons.mp member with rfl | later
    · -- The rest of the work writes elsewhere, so it does not disturb what is done by now.
      refine done.forth first.tree properHere ?_ ?_ last (standard _ List.mem_cons_self)
        (alikeLater _ last)
      · exact (here.forth first.extends_).straight
      · intro path among other among'
        exact Apart.forth first.extends_
          ((List.pairwise_append.mp separate.apart).2.2 path among other among')
    · exact ih first.tree properRest ahead (finishes.agrees agrees)
        (fun other among => standard other (List.mem_cons_of_mem _ among)) alikeLater rfl piece later
  | broken => cases ended

/-! ## The second run -/

/-- Files that are there are overwritten with consent, and none is made. -/
theorem Course.overwritten {artifact : Artifact} (tree : before.workspace.WellFormed)
    (proper : ∀ path ∈ pathsOf g pieces, path.Proper)
    (separate : before.workspace.Separate (pathsOf g pieces)) (agrees : before.consent.Agrees)
    (there : ∀ path ∈ pathsOf g pieces, before.workspace.isThere path = true)
    (course : Course g job pieces before (.ok ()) after) (fresh : before.artifacts = [])
    (member : artifact ∈ after.artifacts) : artifact.outcome = .overwritten := by
  rcases course.records member with old | ⟨first, work, rest, here, next, rfl, start, finishes,
    onward, added⟩
  · rw [fresh] at old
    cases old
  have visit := start.visit tree proper separate finishes onward
  have seen : ∀ path ∈ pathsOf g [work], here.workspace.isThere path = true := by
    intro path among
    refine isThere_forth visit.confined.extends_ (there path ?_)
    rw [pathsOf_append, pathsOf_cons]
    exact List.mem_append_right _ (List.mem_append_left _ among)
  have overwritten : ∀ {path text outcome middle}, path ∈ pathsOf g [work] →
      Writes path text outcome here middle → outcome = .overwritten := by
    intro path text outcome middle among writes
    have written := (Writes.agrees (start.agrees agrees) writes).1
    cases writes with
    | skipped => exact absurd rfl written
    | overwritten => rfl
    | created absent =>
      rw [seen path among] at absent
      cases absent
  cases finishes with
  | reach | fragments | layoutThere | route =>
    have length := congrArg List.length added
    simp [Standing.reached, Standing.registered, Standing.within] at length
  | artifact _ writes | layout _ _ writes =>
    rw [Standing.recorded_artifacts, writes.report.2.1] at added
    cases List.append_cancel_left added
    exact overwritten List.mem_cons_self writes

/-- The paths of work that can be done again are seen, as far as looking gets through links. -/
theorem Repeatable.isThere (again : Repeatable g job w work) (writes : work.path? g = some path)
    (sees : work ≠ .route → w.isLink path = true → w.isThere path = true) :
    w.isThere path = true := by
  cases again with
  | reach | fragments => cases writes
  | artifact _ seated | layout _ _ seated =>
    cases writes
    exact seated.isThere (sees (by simp))
  | layoutThere there =>
    cases writes
    exact there
  | route located held =>
    cases writes
    exact isThere_iff.mpr ⟨_, locate_follow located, by simp [held]⟩

/-- The artifacts of a run that finds the files of an earlier one and may overwrite them. -/
def overwrittenArtifacts (g : Generator) (naming : Naming) : List Artifact :=
  [⟨"Controller", g.config.controllerPath naming, .overwritten⟩,
    ⟨"Model", g.config.modelPath naming, .overwritten⟩] ++
  viewNames.map fun view => ⟨"View " ++ view, g.config.viewPath naming view, .overwritten⟩

/-- What a run reports and asks that finds all its files and may overwrite them. -/
structure Overwrites (g : Generator) (naming : Naming) (before after : Standing) : Prop where
  artifacts : after.artifacts = overwrittenArtifacts g naming
  /-- There is one question for the controller, the model and each view, in order. -/
  asked : ∃ given events,
    before.consent.answers true ((guardedPaths g naming).map question) =
      (given, after.consent, events) ∧ after.decisions = before.decisions ++ events

private theorem Course.overwrites (tree : before.workspace.WellFormed)
    (separate : before.workspace.Separate (targets g job.naming ++ [g.config.routesPath]))
    (agrees : before.consent.Agrees)
    (there : ∀ path ∈ targets g job.naming ++ [g.config.routesPath],
      before.workspace.isThere path = true)
    (fresh : before.artifacts = []) (course : Course g job (works g job filling) before (.ok ()) after) :
    Overwrites g job.naming before after := by
  have proper := @pathsOf_proper g job filling
  rw [← pathsOf_works filling] at separate
  have thereAll := there
  rw [← pathsOf_works filling] at thereAll
  obtain ⟨added, given, events, tally⟩ := course.tally tree proper separate
  have all : after.artifacts = added := by rw [tally.artifacts, fresh, List.nil_append]
  have asked : askedIn before.workspace (works g job filling) = guardedPaths g job.naming := by
    have guarded : (works g job filling).filterMap Work.guarded? = guardedPaths g job.naming := rfl
    rw [askedIn, guarded, List.filter_eq_self]
    intro path member
    refine there path (List.mem_append_left _ ?_)
    simp only [guardedPaths, targets, List.mem_append, List.mem_cons] at member ⊢
    tauto
  have listed : added.map (fun artifact => (artifact.label, artifact.path)) =
      (overwrittenArtifacts g job.naming).map fun artifact => (artifact.label, artifact.path) := by
    have layout : before.workspace.isThere g.config.layoutPath = true :=
      there _ (List.mem_append_left _ (by simp [targets]))
    rw [tally.listed]
    simp [works, writings, controllerWork, modelWork, viewWork, Work.listed, layout,
      overwrittenArtifacts, viewNames]
  refine ⟨?_, given, events, ?_, tally.decisions⟩
  · have overwritten : ∀ artifact ∈ added,
        (⟨artifact.label, artifact.path, .overwritten⟩ : Artifact) = artifact := by
      intro artifact member
      rw [← course.overwritten tree proper separate agrees thereAll fresh (all ▸ member)]
    have rebuilt := congrArg (List.map fun named : String × Path =>
      (⟨named.1, named.2, .overwritten⟩ : Artifact)) listed
    rw [List.map_map, List.map_map] at rebuilt
    rw [all, ← List.map_id added]
    exact (List.map_congr_left overwritten).symm.trans rebuilt
  · rw [← asked]
    exact tally.asked

/-- What a run does that is made again after a completed one with some line. -/
structure Repeats (g : Generator) (naming : Naming) (line : String) (before after : Standing) :
    Prop where
  done : after.stage = .done
  routeLine : after.routeLine = some line
  /-- Nothing has changed but the routes file, which has the line once more at its end. -/
  workspace : ∃ place mode old, before.workspace.LeadsTo false g.config.routesPath place ∧
    before.workspace.entryAt place = some (.file mode old) ∧
    after.workspace = before.workspace.set place (.file mode (old ++ encode (line ++ "\n")))
  /-- Unless one of its targets is a link that looking does not get through, the run finds all its
  files. -/
  report : (∀ path ∈ targets g naming, before.workspace.isLink path = true →
    before.workspace.isThere path = true) → Overwrites g naming before after

/-- A second course through the same work repeats the first one, when it has left no other change than
its line. -/
theorem Course.repeats {filling' : Filling} {place : Location} {mode : Nat} {old : Bytes}
    (tree : before.workspace.WellFormed)
    (separate : before.workspace.Separate (targets g job.naming ++ [g.config.routesPath]))
    (agrees : before.consent.Agrees)
    (again : ∀ work ∈ works g job filling, Repeatable g job before.workspace work)
    (located : before.workspace.locate .make g.config.routesPath = .ok place)
    (held : before.workspace.entryAt place = some (.file mode old))
    (course : Course g job (works g job filling') before.fresh (.ok ()) after)
    (left : after.workspace =
      before.workspace.set place (.file mode (old ++ encode (job.line g ++ "\n")))) :
    Repeats g job.naming (job.line g) before after := by
  obtain ⟨_, _, _, _, _, _, _, _, last⟩ := course.completes
  obtain ⟨goal, leads⟩ := separate.straight g.config.routesPath (by simp)
  obtain rfl : place = goal := Leads.unique (leadsTo_of_locate located (by simp)) leads
  refine ⟨by rw [last]; rfl, by rw [last]; rfl, ⟨place, mode, old, leads, held, left⟩, ?_⟩
  intro sees
  have there : ∀ path ∈ targets g job.naming ++ [g.config.routesPath],
      before.workspace.isThere path = true := by
    intro path member
    rw [← pathsOf_works filling] at member
    obtain ⟨work, among, writes⟩ := List.mem_filterMap.mp member
    exact (again work among).isThere writes fun unrouted =>
      sees path (mem_targets among unrouted writes)
  obtain ⟨artifacts, asked⟩ :=
    @Course.overwrites g job filling' before.fresh after tree separate agrees there rfl course
  exact ⟨artifacts, asked⟩

/-- A run that is made again after a completed one, in which nothing was declined, is completed too
and changes nothing but the routes file, when the paths that it writes to lie apart and none of them
has to do with a template. -/
theorem rerun_repeats {request : Request} {rules : RuleSet} {session final again : Session}
    {report : Report} (tree : session.workspace.WellFormed)
    (home : session.workspace.CleanHome)
    (selected : rulesIn request.language = .ok rules)
    (separate : session.workspace.Separate
      (targets g (Naming.resolve rules request) ++ [g.config.routesPath]))
    (steady : g.library.Steady session.workspace
      (targets g (Naming.resolve rules request) ++ [g.config.routesPath]))
    (agrees : session.consent.Agrees)
    (ran : (generate g request).run session = (.ok report, final)) (done : report.stage = .done)
    (same : again.workspace = final.workspace) (agrees' : again.consent.Agrees) :
    ∃ line second last, report.routeLine = some line ∧
      (generate g request).run again = (.ok second, last) ∧ second = last.report ∧
      Repeats g (Naming.resolve rules request) line again.standing last.standing := by
  obtain rfl := report_of_run ran
  obtain ⟨columns, filling, known, course⟩ := completed_course selected ran done
  generalize named : Job.of g rules request columns = job at course
  have naming : Naming.resolve rules request = job.naming := named ▸ rfl
  rw [naming] at separate steady ⊢
  have proper := @pathsOf_proper g job filling
  have confined : session.workspace.Confined (pathsOf g (works g job filling)) final.workspace :=
    course.confined tree proper separate
  have repeatable : ∀ work ∈ works g job filling, Repeatable g job final.workspace work :=
    course.repeatable tree proper separate agrees (fun _ member _ => works_standard member)
      fun now confined => steady.readsAlike tree confined
  have homeThen : final.workspace.CleanHome := by
    rw [CleanHome, confined.extends_.home]
    exact home
  obtain ⟨_, _, _, _, _, _, _, _, last⟩ := course.completes
  have routed : final.report.routeLine = some (job.line g) := congrArg Standing.routeLine last
  cases repeatable .route (by simp [works]) with
  | @route place mode old located held nonempty =>
    obtain ⟨second, after, ranAgain, left, stage⟩ := succeeds_generate confined.tree homeThen selected
      known named.symm (fun work member => repeatable work (List.mem_append_left _ member)) located
      held nonempty again same
    obtain ⟨columns', filling', known', course'⟩ := completed_course selected ranAgain stage
    -- The database is the same, so the second run has the same job.
    rw [known] at known'
    cases known'
    rw [named] at course'
    refine ⟨job.line g, second, after, routed, ranAgain, report_of_run ranAgain, ?_⟩
    obtain ⟨w, consent, trace, report⟩ := again
    cases same
    exact course'.repeats confined.tree (separate.forth confined.extends_) agrees' repeatable located
      held left

/-- A run in an empty workspace can be made again, and finds all its files then. -/
theorem rerun_repeats_empty : ∃ rules report final line second last,
    (generate (smallGenerator smallTemplates) smallRequest).run emptySession.agreeing =
      (.ok report, final) ∧ report.stage = .done ∧ report.routeLine = some line ∧
    (generate (smallGenerator smallTemplates) smallRequest).run final.agreeing = (.ok second, last) ∧
    Repeats (smallGenerator smallTemplates) (Naming.resolve rules smallRequest) line
      final.agreeing.standing last.standing ∧
    Overwrites (smallGenerator smallTemplates) (Naming.resolve rules smallRequest)
      final.agreeing.standing last.standing := by
  have completes : ((generate (smallGenerator smallTemplates) smallRequest).run
      emptySession.agreeing).1.toOption.map (·.stage) = some .done := by decide +kernel
  rcases ran : (generate (smallGenerator smallTemplates) smallRequest).run emptySession.agreeing
    with ⟨result, final⟩
  rw [ran] at completes
  cases result with
  | error failure => cases completes
  | ok report =>
    rcases selected : rulesIn smallRequest.language with failure | rules
    · cases selected
    obtain ⟨real, apart⟩ := small_paths selected
    have separate := linkless_separate rfl empty_linkless real apart
    have done : report.stage = .done := by simpa [Except.toOption] using completes
    have steady : (smallGenerator smallTemplates).library.Steady emptySession.workspace
        (targets (smallGenerator smallTemplates) (Naming.resolve rules smallRequest) ++
          [smallConfig.routesPath]) := by
      constructor <;> exact fun _ _ _ named => by cases named
    obtain ⟨line, second, last, routed, ranAgain, -, repeats⟩ :=
      @rerun_repeats (smallGenerator smallTemplates) smallRequest rules emptySession.agreeing final
        final.agreeing report empty_wellFormed rfl selected separate steady rfl ran done rfl rfl
    have unlinked : ∀ path, final.workspace.isLink path = false := by
      obtain rfl := report_of_run ran
      obtain ⟨columns, filling, -, course⟩ := completed_course selected ran done
      have confined := course.confined empty_wellFormed (pathsOf_proper filling) separate
      intro path
      by_contra linked
      obtain ⟨place, target, -, found⟩ := isLink_iff.mp (by simpa using linked)
      have formerly := confined.extends_.noNewLink found
      cases place <;> cases formerly
    have overwrites := repeats.report fun path _ linked => by
      rw [show final.agreeing.standing.workspace.isLink path = false from unlinked path] at linked
      cases linked
    exact ⟨rules, report, final, line, second, last, rfl, done, routed, ranAgain, repeats, overwrites⟩

/-- The small generator with a directory for templates of its own. -/
def ownGenerator : Generator :=
  { smallGenerator smallTemplates with library := ⟨some (.ofString "t"), smallTemplates⟩ }

/-- A session in a workspace with one template, a link to the model that is not written yet. -/
def linkedSession : Session where
  workspace := ⟨[], [(["t"], .directory), (["t", "controller.stub"], .link "/m/a.py")]⟩
  consent := .always true

private theorem linked_leads {path : Path} (real : ∀ name ∈ path.names, isRealName name)
    (outside : ¬ ["t"] <+: path.names) : linkedSession.workspace.LeadsTo false path path.names := by
  have settled : linkedSession.workspace.Settled path.names := by
    refine ⟨real, fun {front target} before found => ?_⟩
    have entry := mem_of_entryAt found (by rintro rfl; simp at found)
    have within : ["t"] <+: front := by
      simp only [linkedSession, List.mem_cons, Prod.mk.injEq, reduceCtorEq, and_false,
        List.not_mem_nil, or_false, false_or] at entry
      rw [entry.1]
      exact ⟨_, rfl⟩
    exact outside (within.trans before)
  have bare : linkedSession.workspace.base path = [] := by
    unfold base
    split <;> rfl
  rw [LeadsTo, bare]
  exact settled.leads_root

/-- The paths of a run of this generator are spelled outside of the directory of the templates. -/
theorem linked_outside {rules : RuleSet} (selected : rulesIn none = .ok rules) :
    ∀ path ∈ targets ownGenerator (Naming.resolve rules smallRequest) ++
      [ownGenerator.config.routesPath], ¬ ["t"] <+: path.names := by
  have checked : (rulesIn none).toOption.all (fun rules =>
      decide (∀ path ∈ targets ownGenerator (Naming.resolve rules smallRequest) ++
        [ownGenerator.config.routesPath], ¬ ["t"] <+: path.names)) = true := by
    decide
  rw [selected] at checked
  simpa only [Except.toOption, Option.all_some, decide_eq_true_eq] using checked

/-- The paths of a run lie apart and outside of the directory of the templates, and all the same a
second run does not write the controller that the first one wrote, because by then its template leads
to the model. -/
theorem rerun_rereads_linked_template : ∃ rules report final second last,
    rulesIn smallRequest.language = .ok rules ∧
    linkedSession.workspace.Separate (targets ownGenerator (Naming.resolve rules smallRequest) ++
      [ownGenerator.config.routesPath]) ∧
    (∀ path ∈ targets ownGenerator (Naming.resolve rules smallRequest) ++
      [ownGenerator.config.routesPath], ∀ place,
        linkedSession.workspace.LeadsTo false path place → ¬ ["t"] <+: place) ∧
    (generate ownGenerator smallRequest).run linkedSession = (.ok report, final) ∧
    report.stage = .done ∧
    (generate ownGenerator smallRequest).run final = (.ok second, last) ∧
    ¬ linkedSession.workspace.LeadsTo false ownGenerator.config.routesPath
      ["c", "a_controller.py"] ∧
    final.workspace.entryAt ["c", "a_controller.py"] = some (.file 0o644 (encode "c")) ∧
    last.workspace.entryAt ["c", "a_controller.py"] = some (.file 0o644 (encode "m")) := by
  rcases selected : rulesIn smallRequest.language with failure | rules
  · cases selected
  obtain ⟨real, apart⟩ := small_paths selected
  have outside := linked_outside selected
  have leads : ∀ path ∈ targets ownGenerator (Naming.resolve rules smallRequest) ++
      [ownGenerator.config.routesPath], linkedSession.workspace.LeadsTo false path path.names :=
    fun path member => linked_leads (real path member) (outside path member)
  have routes := leads ownGenerator.config.routesPath (by simp)
  have runs :
      let look := fun run : Except Failure Report × Session =>
        (run.1.toOption.map (·.stage), run.2.workspace.entryAt ["c", "a_controller.py"])
      let first := (generate ownGenerator smallRequest).run linkedSession
      (look first, look ((generate ownGenerator smallRequest).run first.2)) =
        ((some .done, some (.file 0o644 (encode "c"))),
          (some .done, some (.file 0o644 (encode "m")))) := by
    decide +kernel
  rcases ran : (generate ownGenerator smallRequest).run linkedSession with ⟨result, final⟩
  rcases ranAgain : (generate ownGenerator smallRequest).run final with ⟨result', last⟩
  simp only [ran, ranAgain, Prod.mk.injEq] at runs
  obtain ⟨⟨completes, first⟩, again, then_⟩ := runs
  cases result with
  | error failure => cases completes
  | ok report =>
    cases result' with
    | error failure => cases again
    | ok second =>
      refine ⟨rules, report, final, second, last, rfl, separate_of_names leads apart, ?_, rfl, ?_,
        ranAgain, ?_, first, then_⟩
      · intro path member place toPlace
        rw [toPlace.unique (leads path member)]
        exact outside path member
      · simpa [Except.toOption] using completes
      · intro toController
        have names := toController.unique routes
        exact absurd names (by decide +kernel)

end Generation

end Scaffold
