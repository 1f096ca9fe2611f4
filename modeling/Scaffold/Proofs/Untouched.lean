import Scaffold.Proofs.Keeping
import Scaffold.Proofs.Names

/-! Runs in which nothing may be overwritten. What was there before such a run is there after it, and
only the routes file has grown. One kind of file is not safe: one that a target means although
looking at the target finds nothing, as with a link to a file that is spelled like a directory. -/
namespace Scaffold

open Files Files.Workspace Text

namespace Files.Workspace

variable {w w' mid now : Workspace} {path way left : Path} {place there goal routes : Location}
  {loose : Location → Prop} {bytes : Bytes} {mode : Nat}

/-! ## Links without a cycle -/

/-- Every link leads somewhere. -/
def Acyclic (w : Workspace) : Prop :=
  ∀ place target, w.entryAt place = some (.link target) →
    ∃ there, w.Leads true (linkStart place.dropLast target) (linkSteps target) there

/-- No link goes up with two dots. -/
def LevelLinks (w : Workspace) : Prop :=
  ∀ place target, w.entryAt place = some (.link target) → (Path.ofString target).Level

theorem LevelLinks.steps (level : w.LevelLinks) {target : String}
    (found : w.entryAt place = some (.link target)) : ".." ∉ linkSteps target := by
  obtain ⟨pauses, still, same⟩ := linkSteps_eq target
  rw [same]
  intro member
  rcases List.mem_append.mp member with named | pause
  · exact level _ _ found named
  · exact not_dots_of_pause (still _ pause) rfl

/-- Without cycles and two dots, all steps lead somewhere. -/
theorem leads_somewhere (acyclic : w.Acyclic) (level : w.LevelLinks) {steps : List String}
    (straight : ".." ∉ steps) (here : Location) : ∃ there, w.Leads false here steps there := by
  induction steps generalizing here with
  | nil => exact ⟨here, .stop here⟩
  | cons step rest ih =>
    have onward := ih fun member => straight (List.mem_cons_of_mem _ member)
    cases still : isPause step with
    | true =>
      obtain ⟨there, leads⟩ := onward here
      exact ⟨there, .pause still leads⟩
    | false =>
      have real : isRealName step := ⟨still, by rintro rfl; exact straight List.mem_cons_self⟩
      by_cases plain : ∀ target, w.entryAt (here ++ [step]) ≠ some (.link target)
      · obtain ⟨there, leads⟩ := onward (here ++ [step])
        exact ⟨there, .name real plain leads⟩
      · push Not at plain
        obtain ⟨target, found⟩ := plain
        obtain ⟨mid, toMid⟩ := acyclic _ _ found
        rw [List.dropLast_concat] at toMid
        obtain ⟨there, leads⟩ := onward mid
        have first := toMid.straight (fun _ _ found => level.steps found) (level.steps found)
        exact ⟨there, .link real found (first.append leads)⟩

/-! ## Keeping what was there -/

/-- What writing has left of a workspace: everything is there as it was, but the routes file may have
more bytes at its end, and a loose file other bytes. -/
structure Untouched (w : Workspace) (routes : Location) (loose : Location → Prop)
    (now : Workspace) : Prop where
  tree : now.WellFormed
  extends_ : w.Extends now
  kept : ∀ place entry, w.entryAt place = some entry → now.entryAt place = some entry ∨
    ∃ mode old new, entry = .file mode old ∧ now.entryAt place = some (.file mode new) ∧
      (place = routes ∧ old <+: new ∨ loose place)

theorem Untouched.start (tree : w.WellFormed) (routes : Location) (loose : Location → Prop) :
    w.Untouched routes loose w where
  tree := tree
  extends_ := .refl w
  kept _ _ found := .inl found

theorem Untouched.paves (untouched : w.Untouched routes loose now) (paves : now.Paves w' way) :
    w.Untouched routes loose w' where
  tree := paves.tree untouched.tree
  extends_ := untouched.extends_.trans paves.extends
  kept place entry found := by
    rcases untouched.kept place entry found with same | ⟨mode, old, new, rfl, changed, reason⟩
    · exact .inl (paves.toWidens.keeps same)
    · exact .inr ⟨mode, old, new, rfl, paves.toWidens.keeps changed, reason⟩

/-- Delivering a file keeps what was there, when it goes on from what the routes file has, or when
what it replaces is loose. -/
theorem Untouched.delivers (tree : w.WellFormed) (untouched : w.Untouched routes loose now)
    (leads : w.LeadsTo false path goal) (delivers : now.Delivers w' goal bytes)
    (reason : loose goal ∨ goal = routes ∧ (now.bytesAt goal).getD [] <+: bytes) :
    w.Untouched routes loose w' := by
  have settled := (leads.forth untouched.extends_).settled untouched.tree
  have extends_ := delivers.extends fun target => settled.clear List.prefix_rfl
  refine ⟨delivers.tree, untouched.extends_.trans extends_, ?_⟩
  intro place entry found
  by_cases same : place = goal
  · subst same
    cases entry with
    | directory => exact absurd (untouched.extends_.directory found) delivers.solid
    | link target => exact absurd found ((leads.settled tree).clear List.prefix_rfl)
    | file mode old =>
      have held : ∃ before, now.entryAt place = some (.file mode before) ∧
          (old <+: before ∨ loose place) := by
        rcases untouched.kept place _ found with held | ⟨_, _, before, known, held, changed⟩
        · exact ⟨old, held, .inl List.prefix_rfl⟩
        · cases known
          exact ⟨before, held, changed.imp And.right id⟩
      obtain ⟨before, held, begins⟩ := held
      have written := delivers.written
      rw [modeAt, held] at written
      refine .inr ⟨mode, old, bytes, rfl, written, ?_⟩
      rw [bytesAt, held] at reason
      rcases reason with loose | ⟨routed, more⟩
      · exact .inr loose
      · exact begins.imp (fun begins => ⟨routed, begins.trans more⟩) id
  · have kept : ∀ {entry}, now.entryAt place = some entry → w'.entryAt place = some entry := by
      intro entry held
      rcases delivers.others same with unchanged | ⟨missing, -⟩
      · exact unchanged.trans held
      · rw [missing] at held
        cases held
    rcases untouched.kept place entry found with held | ⟨mode, old, new, rfl, changed, reason⟩
    · exact .inl (kept held)
    · exact .inr ⟨mode, old, new, rfl, kept changed, reason⟩

/-- A target that finds nothing goes on to find nothing of a file that it means. -/
theorem Untouched.unseen (tree : w.WellFormed)
    (untouched : w.Untouched routes loose now) (leads : w.LeadsTo false path goal)
    (old : w.entryAt goal ≠ none) (absent : w.isThere path = false) :
    now.isThere path = false := by
  by_contra seen
  rcases isThere_back tree untouched.extends_ leads (by simpa using seen) with there | ⟨missing, -⟩
  · rw [absent] at there
    cases there
  · exact old missing

end Files.Workspace

namespace Generation

open Emission Template

variable {g : Generator} {job : Job} {work : Work} {request : Request} {filling : Filling}
  {before after : Standing} {w : Workspace} {routes : Location} {loose : Location → Prop}

/-- Without consent, writing a file makes a new one or leaves everything as it is. -/
theorem Writes.untouched {target : Path} {goal : Location} {text : String} {outcome : Outcome}
    (tree : w.WellFormed) (untouched : w.Untouched routes loose before.workspace)
    (refuses : before.consent = .always false) (proper : target.Proper)
    (leads : w.LeadsTo false target goal) (blind : w.isThere target = false → loose goal)
    (writes : Writes target text outcome before after) :
    w.Untouched routes loose after.workspace ∧ after.consent = .always false := by
  cases writes with
  | skipped _ answered =>
    rw [refuses] at answered
    cases answered
    exact ⟨untouched, rfl⟩
  | overwritten _ answered =>
    rw [refuses] at answered
    cases answered
  | created absent puts =>
    obtain ⟨left, mid, there, mode, puts⟩ := puts
    have unseen : w.isThere target = false := by
      cases seen : w.isThere target with
      | false => rfl
      | true =>
        rw [isThere_forth untouched.extends_ seen] at absent
        cases absent
    have delivers := puts.delivers untouched.tree proper (leads.forth untouched.extends_)
    exact ⟨untouched.delivers tree leads delivers (.inl (blind unseen)), refuses⟩

/-- Where the targets of a job lead, and which of its files are not safe. -/
def Covered (g : Generator) (job : Job) (w : Workspace) (loose : Location → Prop) : Prop :=
  ∀ target ∈ targets g job.naming, target.Proper ∧ ∃ goal, w.LeadsTo false target goal ∧
    (w.isThere target = false → loose goal)

theorem Finishes.untouched (tree : w.WellFormed) (covered : Covered g job w loose)
    (leads : w.LeadsTo false g.config.routesPath routes)
    (untouched : w.Untouched routes loose before.workspace) (refuses : before.consent = .always false)
    (member : work ∈ works g job filling) (finishes : Finishes g job work before after) :
    w.Untouched routes loose after.workspace ∧ after.consent = .always false := by
  cases finishes with
  | reach | fragments | layoutThere => exact ⟨untouched, refuses⟩
  | artifact _ writes =>
    obtain ⟨proper, goal, toGoal, blind⟩ := covered _ (mem_targets member (by simp) rfl)
    obtain ⟨still, refuses⟩ := Writes.untouched tree untouched refuses proper toGoal blind writes
    exact ⟨still, refuses⟩
  | layout _ _ writes =>
    obtain ⟨proper, goal, toGoal, blind⟩ := covered _ (mem_targets member (by simp) rfl)
    obtain ⟨still, refuses⟩ := Writes.untouched tree untouched refuses proper toGoal blind writes
    exact ⟨still, refuses⟩
  | route adds =>
    have proper : g.config.routesPath.Proper := Config.proper_resolved _
    obtain ⟨rfl, delivers⟩ := adds.delivers untouched.tree proper (leads.forth untouched.extends_)
    exact ⟨untouched.delivers tree leads delivers (.inr ⟨rfl, List.prefix_append _ _⟩), refuses⟩

theorem Course.untouched {pieces : List Work} {result : Except Failure Unit} (tree : w.WellFormed)
    (covered : Covered g job w loose) (leads : w.LeadsTo false g.config.routesPath routes)
    (within : ∀ work ∈ pieces, work ∈ works g job filling)
    (course : Course g job pieces before result after)
    (untouched : w.Untouched routes loose before.workspace)
    (refuses : before.consent = .always false) : w.Untouched routes loose after.workspace := by
  induction course with
  | done => exact untouched
  | step finishes _ ih =>
    obtain ⟨still, refuses⟩ :=
      finishes.untouched tree covered leads untouched refuses (within _ List.mem_cons_self)
    exact ih (fun work later => within work (List.mem_cons_of_mem _ later)) still refuses
  | broken breaks =>
    obtain ⟨way, paves⟩ := breaks.paves
    exact untouched.paves paves

/-- A completed course writes to every target, or finds the layout. -/
theorem Course.writes_target {target : Path}
    (course : Course g job (works g job filling) before (.ok ()) after)
    (member : target ∈ targets g job.naming) :
    ∃ first here next, Course g job first before (.ok ()) here ∧
      (∀ earlier ∈ first, earlier ∈ works g job filling) ∧
      (here.workspace.isThere target = true ∨
        ∃ text label outcome, Writes target text outcome here next ∧
          ⟨label, target, outcome⟩ ∈ after.artifacts) := by
  obtain ⟨work, among, unrouted, target⟩ := exists_work_of_mem_targets filling member
  obtain ⟨first, rest, here, next, split, start, finishes, later⟩ := course.visits among
  have earlier : ∀ work ∈ first, work ∈ works g job filling :=
    fun work among => split ▸ List.mem_append_left _ among
  cases finishes with
  | reach | fragments => cases target
  | route => exact absurd rfl unrouted
  | layoutThere there =>
    cases target
    exact ⟨first, here, here, start, earlier, .inl there⟩
  | artifact _ writes | layout _ _ writes =>
    cases target
    have reported := later.artifacts_prefix.subset (List.mem_append_right _ List.mem_cons_self)
    exact ⟨first, here, _, start, earlier, .inr ⟨_, _, _, writes, reported⟩⟩

/-- A completed course reports a file that a target finds nothing of as created. -/
theorem Course.reports_unseen {target : Path} {goal : Location} (tree : w.WellFormed)
    (covered : Covered g job w loose) (routed : w.LeadsTo false g.config.routesPath routes)
    (course : Course g job (works g job filling) before (.ok ()) after)
    (untouched : w.Untouched routes loose before.workspace)
    (refuses : before.consent = .always false) (member : target ∈ targets g job.naming)
    (leads : w.LeadsTo false target goal) (old : w.entryAt goal ≠ none)
    (absent : w.isThere target = false) :
    ∃ artifact ∈ after.artifacts, artifact.path = target ∧ artifact.outcome = .created := by
  obtain ⟨first, here, next, start, earlier, writes⟩ := course.writes_target member
  have still := start.untouched tree covered routed earlier untouched refuses
  have unseen := still.unseen tree leads old absent
  rcases writes with there | ⟨text, label, outcome, writes, among⟩
  · rw [unseen] at there
    cases there
  · refine ⟨_, among, rfl, ?_⟩
    cases writes with
    | skipped there | overwritten there =>
      rw [unseen] at there
      cases there
    | created => rfl

/-- A file that a target of a run means although looking at the target finds nothing. -/
def Overlooked (g : Generator) (request : Request) (w : Workspace) (place : Location) : Prop :=
  ∃ rules target, rulesIn request.language = .ok rules ∧
    target ∈ targets g (Naming.resolve rules request) ∧ w.isThere target = false ∧
    w.LeadsTo true target place

/-- However a run ends in which nothing may be overwritten, all that was there is still there with
the same kind, mode and link target, and every file has the bytes it had, but that the routes file
may have more at its end, and that a file which a target overlooks may have others. A completed run
reports such a file as created. -/
theorem refusal_keeps_files {session final : Session} {result : Except Failure Report}
    (tree : session.workspace.WellFormed) (acyclic : session.workspace.Acyclic)
    (levelLinks : session.workspace.LevelLinks) (level : g.config.Level)
    (refuses : session.consent = .always false)
    (ran : (generate g request).run session = (result, final)) :
    (∃ routes, session.workspace.LeadsTo false g.config.routesPath routes ∧
      ∀ place entry, session.workspace.entryAt place = some entry →
        final.workspace.entryAt place = some entry ∨
        ∃ mode old new, entry = .file mode old ∧
          final.workspace.entryAt place = some (.file mode new) ∧
          (place = routes ∧ old <+: new ∨ Overlooked g request session.workspace place)) ∧
    ∀ report place, result = .ok report → report.stage = .done →
      Overlooked g request session.workspace place → session.workspace.entryAt place ≠ none →
        ∃ artifact ∈ report.artifacts, session.workspace.LeadsTo true artifact.path place ∧
          artifact.outcome = .created := by
  obtain ⟨routes, leads⟩ := leads_somewhere acyclic levelLinks
    (level.resolved level.routesFile) (session.workspace.base g.config.routesPath)
  cases generate_ends ran with
  | refused early stands =>
    have same : final.workspace = session.workspace := congrArg Standing.workspace stands
    exact ⟨⟨routes, leads, fun place entry found => .inl (same ▸ found)⟩,
      fun report place given => by cases given⟩
  | aborted missing stands =>
    have same : final.workspace = session.workspace := congrArg Standing.workspace stands
    have stage : final.report.stage = .aborted := congrArg Standing.stage stands
    refine ⟨⟨routes, leads, fun place entry found => .inl (same ▸ found)⟩,
      fun report place given done => ?_⟩
    cases given
    rw [stage] at done
    cases done
  | @built rules columns filling outcome _ selected known course finished =>
    have straight : ∀ target ∈ targets g (Naming.resolve rules request), target.Proper ∧
        ∃ goal, session.workspace.LeadsTo false target goal := by
      intro target member
      have straight := targets_level level (Naming.resolve_level rules request) target member
      exact ⟨targets_proper g _ target member,
        leads_somewhere acyclic levelLinks straight (session.workspace.base target)⟩
    have covered : Covered g (.of g rules request columns) session.workspace
        (Overlooked g request session.workspace) := by
      intro target member
      obtain ⟨proper, goal, toGoal⟩ := straight target member
      exact ⟨proper, goal, toGoal, fun unseen =>
        ⟨rules, target, selected, member, unseen, toGoal.weaken⟩⟩
    have started : session.workspace.Untouched routes (Overlooked g request session.workspace)
        session.standing.fresh.workspace := .start tree _ _
    refine ⟨⟨routes, leads,
      (course.untouched tree covered leads (fun _ => id) started refuses).kept⟩, ?_⟩
    rintro report place given done ⟨rules', target, selected', member, unseen, means⟩ old
    rw [selected] at selected'
    cases selected'
    obtain ⟨-, goal, toGoal⟩ := straight target member
    obtain rfl : goal = place := Leads.unique toGoal means
    cases outcome with
    | error failure => cases given
    | ok _ =>
      cases given
      obtain ⟨artifact, among, rfl, created⟩ :=
        course.reports_unseen tree covered leads started refuses member toGoal old unseen
      exact ⟨artifact, among, means, created⟩

/-- A session in which nothing may be overwritten, where the controller is a link to a file that is
spelled like a directory. -/
def slashedSession : Session where
  workspace :=
    { home := []
      entries := [(["c"], .directory), (["c", "old.py"], .file 0o644 [33]),
        (["c", "a_controller.py"], .link "old.py/")] }
  consent := .always false

private theorem slashed_wellFormed : slashedSession.workspace.WellFormed :=
  .of_entries rfl (by decide)

private theorem slashed_link {place : Location} {target : String}
    (found : slashedSession.workspace.entryAt place = some (.link target)) :
    place = ["c", "a_controller.py"] ∧ target = "old.py/" := by
  have member := mem_of_entryAt found (by rintro rfl; simp at found)
  simpa [slashedSession] using member

private theorem slashed_acyclic : slashedSession.workspace.Acyclic := by
  intro place target found
  obtain ⟨rfl, rfl⟩ := slashed_link found
  have steps : linkSteps "old.py/" = ["old.py", slashStep] := by decide
  have start : linkStart ["c"] "old.py/" = ["c"] := by decide
  refine ⟨["c", "old.py"], ?_⟩
  change Leads _ true (linkStart ["c"] "old.py/") (linkSteps "old.py/") ["c", "old.py"]
  rw [steps, start]
  refine .name (by decide) ?_ (.pause (by decide) (.stop _))
  intro target found
  exact absurd (slashed_link found).1 (by decide)

private theorem slashed_level : slashedSession.workspace.LevelLinks := by
  intro place target found
  obtain ⟨rfl, rfl⟩ := slashed_link found
  unfold Path.Level
  decide

private theorem small_level : smallConfig.Level where
  root := by unfold Path.Level; decide
  controllerDir := by unfold Path.Level; decide
  modelDir := by unfold Path.Level; decide
  viewsDir := by unfold Path.Level; decide
  layout := by unfold Path.Level; decide
  routesFile := by unfold Path.Level; decide
  views := by unfold Path.Level; decide

private theorem slashed_routes :
    slashedSession.workspace.LeadsTo false smallConfig.routesPath ["r"] := by
  have path : smallConfig.routesPath = ⟨.here, ["r"]⟩ := by decide
  rw [path]
  refine .name (by decide) ?_ (.stop _)
  intro target found
  exact absurd (slashed_link found).1 (by decide)

/-- A file behind a link that is spelled like a directory is replaced without consent. -/
theorem refusal_replaces_overlooked :
    slashedSession.workspace.WellFormed ∧ slashedSession.workspace.Acyclic ∧
      slashedSession.workspace.LevelLinks ∧ smallConfig.Level ∧
      slashedSession.workspace.LeadsTo false smallConfig.routesPath ["r"] ∧
      slashedSession.workspace.entryAt ["c", "old.py"] = some (.file 0o644 [33]) ∧
      ((generate (smallGenerator [("controller", "c")]) smallRequest).run
        slashedSession).2.workspace.entryAt ["c", "old.py"] = some (.file 0o644 [99]) := by
  exact ⟨slashed_wellFormed, slashed_acyclic, slashed_level, small_level, slashed_routes, by decide,
    by decide +kernel⟩

/-- In the same session the link is kept. -/
theorem refusal_keeps_files_slashed :
    ((generate (smallGenerator [("controller", "c")]) smallRequest).run
      slashedSession).2.workspace.entryAt ["c", "a_controller.py"] = some (.link "old.py/") := by
  rcases ran : (generate (smallGenerator [("controller", "c")]) smallRequest).run slashedSession
    with ⟨result, final⟩
  obtain ⟨⟨_, _, kept⟩, -⟩ :=
    refusal_keeps_files slashed_wellFormed slashed_acyclic slashed_level small_level rfl ran
  have linked : slashedSession.workspace.entryAt ["c", "a_controller.py"] =
      some (.link "old.py/") := by decide
  rcases kept _ _ linked with same | ⟨_, _, _, file, -⟩
  · exact same
  · cases file

end Generation

end Scaffold
