import Scaffold.Proofs.Cuts
import Scaffold.Proofs.Moving

/-! Calls of one generator, one after another. A generator keeps the report of its last run, however
far that came; the next run starts afresh. Whatever was called before, the stages of a run follow one
another as they should, and tell which artifacts are done. -/
namespace Scaffold.Generation

open Scaffold.Action Emission Files Inflection Schema Template

variable {g : Generator} {job : Job} {work : Work} {works done rest : List Work}
  {before after middle : Standing} {filling : Filling}

/-! ## What is finished at a stage -/

/-- Whether a piece of work that writes an artifact is in the report. -/
def Work.Accounted (standing : Standing) : Work → Prop
  | .artifact label path _ _ => ∃ outcome, ⟨label, path, outcome⟩ ∈ standing.artifacts
  | _ => True

/-- The work that is finished when a run comes to a stage. -/
def due (g : Generator) (job : Job) (filling : Filling) : Stage → List Work
  | .controllerBuilt => [controllerWork g job]
  | .modelBuilt => [controllerWork g job, modelWork g job]
  | .viewsBuilt => [controllerWork g job, modelWork g job] ++ viewNames.map (viewWork g job filling)
  | .routeAppended | .done =>
    [controllerWork g job, modelWork g job] ++ viewNames.map (viewWork g job filling) ++ [.route]
  | _ => []

/-- Work in which everything that is due at a stage comes before it. -/
def InOrder (due : Stage → List Work) (done : List Work) : List Work → Prop
  | [] => True
  | work :: rest =>
    (∀ stage, work = .reach stage → due stage ⊆ done) ∧ InOrder due (done ++ [work]) rest

private theorem works_inOrder (g : Generator) (job : Job) (filling : Filling) :
    InOrder (due g job filling) [] (Generation.works g job filling) := by
  simp [Generation.works, writings, viewNames, InOrder, due, viewWork, controllerWork, modelWork]

/-- Finished work leaves the stage alone or comes to its own. -/
theorem Finishes.stage (finishes : Finishes g job work before after) :
    after.stage = before.stage ∨ work = .reach after.stage := by
  cases finishes with
  | reach => exact .inr rfl
  | fragments | layoutThere | route => exact .inl rfl
  | artifact _ writes | layout _ _ writes => exact .inl writes.report.1

theorem Finishes.accounted (finishes : Finishes g job work before after) : work.Accounted after := by
  cases finishes with
  | @artifact _ middle label _ _ path _ outcome _ writes =>
    exact ⟨outcome, List.mem_append_right _ (List.mem_singleton.mpr rfl)⟩
  | _ => trivial

theorem Work.Accounted.mono (accounted : work.Accounted before)
    (more : before.artifacts <+: after.artifacts) : work.Accounted after := by
  cases work with
  | artifact label path template filling =>
    obtain ⟨outcome, member⟩ := accounted
    exact ⟨outcome, more.subset member⟩
  | _ => trivial

/-- When a run has come to a stage, all that is due there is done. -/
theorem Course.due_subset {due : Stage → List Work}
    (course : Course g job works before (.ok ()) after) (ordered : InOrder due done (works ++ rest))
    (met : due before.stage ⊆ done) : due after.stage ⊆ done ++ works := by
  generalize ended : Except.ok () = outcome at course
  induction course generalizing done with
  | done =>
    rw [List.append_nil]
    exact met
  | @step work more before next after result finishes course ih =>
    obtain ⟨reached, later⟩ := ordered
    have onward : due next.stage ⊆ done ++ [work] := by
      rcases finishes.stage with same | comes
      · rw [same]
        exact List.subset_append_of_subset_left _ met
      · exact List.subset_append_of_subset_left _ (reached _ comes)
    have whole := ih later onward ended
    rwa [List.append_assoc] at whole
  | broken => cases ended

/-- All that a run has finished is in its report. -/
theorem Course.accounted (course : Course g job works before (.ok ()) after) (member : work ∈ works) :
    work.Accounted after := by
  obtain ⟨_, _, _, _, -, -, finishes, onward⟩ := course.visits member
  exact finishes.accounted.mono onward.artifacts_prefix

/-- The stage of a run is the one that it began with or one that it came to. -/
theorem Course.stage_mem (course : Course g job works before (.ok ()) after) :
    after.stage = before.stage ∨ .reach after.stage ∈ works := by
  generalize ended : Except.ok () = outcome at course
  induction course with
  | done => exact .inl rfl
  | step finishes _ ih =>
    rcases ih ended with same | later
    · rcases finishes.stage with still | comes
      · exact .inl (same.trans still)
      · rw [same, comes]
        exact .inr List.mem_cons_self
    · exact .inr (List.mem_cons_of_mem _ later)
  | broken => cases ended

/-- Work that breaks leaves the stage and the artifacts of the report alone. -/
theorem Breaks.report {failure : Failure} (breaks : Breaks g job work failure before after) :
    after.stage = before.stage ∧ after.artifacts = before.artifacts := by
  cases breaks with
  | template | fragments | ownLayout | layoutTemplate | route => exact ⟨rfl, rfl⟩
  | artifact _ fails | layout _ fails => exact ⟨fails.stage, fails.artifacts⟩

/-- The stages from one on, as a run that is completed comes to them. -/
def Stage.onward (stage : Stage) : List Stage :=
  Stage.course.dropWhile (· != stage)

private theorem due_later {first stage : Stage} (later : stage ∈ first.onward) :
    due g job filling first ⊆ due g job filling stage := by
  cases first <;> cases stage <;>
    first
      | exact absurd later (by decide)
      | exact List.nil_subset _
      | exact List.subset_append_left _ _

/-- The artifacts that the stage of a run speaks of are written or skipped, and in its report. -/
structure Emitted (g : Generator) (naming : Naming) (standing : Standing) : Prop where
  controller : standing.stage ∈ Stage.onward .controllerBuilt →
    ∃ outcome, ⟨"Controller", g.config.controllerPath naming, outcome⟩ ∈ standing.artifacts
  model : standing.stage ∈ Stage.onward .modelBuilt →
    ∃ outcome, ⟨"Model", g.config.modelPath naming, outcome⟩ ∈ standing.artifacts
  views : standing.stage ∈ Stage.onward .viewsBuilt → ∀ view ∈ viewNames,
    ∃ outcome, ⟨"View " ++ view, g.config.viewPath naming view, outcome⟩ ∈ standing.artifacts

/-- At every point of a run the artifacts that its stage speaks of are done. -/
theorem Course.emitted (split : Generation.works g job filling = works ++ rest)
    (start : before.stage = .start) (course : Course g job works before (.ok ()) after) :
    Emitted g job.naming after := by
  have met : due g job filling after.stage ⊆ works := by
    refine course.due_subset (split ▸ works_inOrder g job filling) ?_
    rw [start]
    exact List.nil_subset _
  have accounted : ∀ {first work}, after.stage ∈ Stage.onward first →
      work ∈ due g job filling first → work.Accounted after :=
    fun later member => course.accounted (met (due_later later member))
  refine ⟨fun later => ?_, fun later => ?_, fun later view member => ?_⟩
  · have controller : controllerWork g job ∈ due g job filling .controllerBuilt := by simp [due]
    exact accounted later controller
  · have model : modelWork g job ∈ due g job filling .modelBuilt := by simp [due]
    exact accounted later model
  · have shown : viewWork g job filling view ∈ due g job filling .viewsBuilt :=
      List.mem_append_right _ (List.mem_map.mpr ⟨view, member, rfl⟩)
    exact accounted later shown

/-- A run that breaks has not come to its last stage, nor to that of a missing table. -/
theorem Course.broken_stage {failure : Failure} (start : before.stage = .start)
    (course : Course g job (Generation.works g job filling) before (.error failure) after) :
    after.stage ≠ .done ∧ after.stage ≠ .aborted := by
  obtain ⟨finished, work, rest, middle, split, first, breaks, unrouted⟩ := course.cut_works
  rw [breaks.report.1]
  constructor
  · intro last
    have met : due g job filling middle.stage ⊆ finished := by
      refine first.due_subset (split ▸ works_inOrder g job filling) ?_
      rw [start]
      exact List.nil_subset _
    rw [last] at met
    exact unrouted (met (by simp [due]))
  · intro aborted
    rcases first.stage_mem with same | reached
    · rw [aborted, start] at same
      cases same
    · rw [aborted] at reached
      have member : Work.reach .aborted ∈ Generation.works g job filling :=
        split ▸ List.mem_append_left _ reached
      simp [Generation.works, writings, viewNames, viewWork, controllerWork, modelWork] at member

/-! ## One call -/

/-- A point of a run: how the session stands when some of its work is finished, with the rest of it
still to come. -/
def Crosses (g : Generator) (request : Request) (rules : RuleSet) (session after : Session)
    (middle : Standing) : Prop :=
  ∃ columns filling finished rest outcome, rulesIn request.language = .ok rules ∧
    inspected g request.tableName = .ok (some columns) ∧
    Generation.works g (.of g rules request columns) filling = finished ++ rest ∧
    Course g (.of g rules request columns) finished session.standing.fresh (.ok ()) middle ∧
    Course g (.of g rules request columns) rest middle outcome after.standing

/-- A call that respects the stages of a run. -/
structure Orderly (g : Generator) (request : Request) (session : Session)
    (result : Except Failure Report) (after : Session) : Prop where
  /-- No step is refused. -/
  legal : ∀ source target, result ≠ .error (.illegalStep source target)
  /-- From the first stage on, the call goes along the course of a completed run, or to the stage of a
  run whose table is missing. -/
  stages : ∃ taken, after.visited = session.visited ++ taken ∧
    after.report.stage = taken.getLastD .start ∧ (taken <+: Stage.course ∨ taken = [.aborted])
  /-- There is a report exactly at the two last stages. -/
  returns : (∃ report, result = .ok report) ↔
    after.report.stage = .done ∨ after.report.stage = .aborted
  /-- A report says how the run ended. -/
  reports : ∀ report, result = .ok report → report = after.report ∧
    (report.success = true ↔ report.stage = .done) ∧
    (report.routeLine.isSome = true ↔ report.stage = .done) ∧
    (report.stage = .aborted ↔ g.source.hasTable request.tableName = .ok false)
  /-- A run is aborted when there are rules for its language and its table is missing. -/
  aborts : after.report.stage = .aborted ↔
    (∃ rules, rulesIn request.language = .ok rules) ∧
      g.source.hasTable request.tableName = .ok false
  /-- A run whose table can be read comes by its first point, and so by all that follow. -/
  begins : ∀ rules columns, rulesIn request.language = .ok rules →
    inspected g request.tableName = .ok (some columns) →
    Crosses g request rules session after session.standing.fresh
  /-- At every point, and at the end, the artifacts that the stage speaks of are done. -/
  emitted : ∀ rules, rulesIn request.language = .ok rules →
    Emitted g (.resolve rules request) after.standing ∧
      ∀ middle, Crosses g request rules session after middle →
        Emitted g (.resolve rules request) middle
  /-- The call is that of a generator that was not used before. -/
  afresh : let fresh := (generate g request).run ⟨session.workspace, session.consent, [], {}⟩
    result = fresh.1 ∧ after = fresh.2.above session.trace

theorem hasTable_of_inspected {table : String} {found : Option (List Column)}
    (known : inspected g table = .ok found) : g.source.hasTable table = .ok found.isSome := by
  unfold inspected at known
  cases there : g.source.hasTable table with
  | error failure =>
    rw [there] at known
    cases known
  | ok exists_ =>
    rw [there] at known
    cases exists_ with
    | false =>
      cases known
      rfl
    | true =>
      change (do return some (← g.source.columnsOf table)) = _ at known
      cases columns : g.source.columnsOf table with
      | error failure =>
        rw [columns] at known
        cases known
      | ok columns' =>
        rw [columns] at known
        cases known
        rfl

private theorem inspected_of_missing {table : String}
    (missing : g.source.hasTable table = .ok false) :
    inspected g table = .ok none := by
  unfold inspected
  rw [missing]
  rfl

/-- Before the first artifact nothing is spoken of. -/
theorem emitted_early {naming : Naming} {standing : Standing}
    (early : standing.stage = .start ∨ standing.stage = .aborted) : Emitted g naming standing := by
  have apart : ∀ {first}, first ∈ [Stage.controllerBuilt, .modelBuilt, .viewsBuilt] →
      standing.stage ∉ Stage.onward first := by
    intro first member
    simp only [List.mem_cons, List.not_mem_nil, or_false] at member
    rcases early with same | same <;> rw [same] <;> rcases member with rfl | rfl | rfl <;> decide
  exact ⟨fun later => absurd later (apart (by simp)), fun later => absurd later (apart (by simp)),
    fun later => absurd later (apart (by simp))⟩

variable {request : Request} {session final : Session} {result : Except Failure Report}

/-- A run without rules for its language fails before it looks at the table. -/
theorem generate_unsupported {failure : Failure}
    (unsupported : rulesIn request.language = .error failure)
    (ran : (generate g request).run session = (result, final)) : result = .error failure := by
  rw [generate_run, begun, Running.run_bind] at ran
  rcases said : (say .info .generator ("Running CRUD generator for table '" ++
    request.tableName ++ "' ...")).run { session with report := { tableName := request.tableName } }
    with ⟨outcome, first⟩
  obtain ⟨rfl, -⟩ := (answers_say rfl).gives said
  simp only [said, Running.run_bind] at ran
  rcases selected : (rulesOf request.language).run first with ⟨rules, second⟩
  obtain ⟨given, -⟩ := (answers_rulesOf request.language).gives selected
  rw [unsupported] at given
  subst given
  rw [selected] at ran
  cases ran
  rfl

/-- A run with a report has rules for its language. -/
theorem selected_of_report {report : Report}
    (ran : (generate g request).run session = (.ok report, final)) :
    ∃ rules, rulesIn request.language = .ok rules := by
  cases selected : rulesIn request.language with
  | error failure => cases generate_unsupported selected ran
  | ok rules => exact ⟨rules, rfl⟩

/-- A run without a report is neither at the end of its course nor at that of a missing table. -/
theorem returns_iff (ran : (generate g request).run session = (result, final)) :
    (∃ report, result = .ok report) ↔ final.report.stage = .done ∨ final.report.stage = .aborted := by
  cases generate_ends ran with
  | refused early stands =>
    have start : final.report.stage = .start := congrArg Standing.stage stands
    rw [start]
    refine ⟨fun ⟨_, given⟩ => (by cases given), fun ended => ?_⟩
    rcases ended with ended | ended <;> cases ended
  | aborted missing stands =>
    have aborted : final.report.stage = .aborted := congrArg Standing.stage stands
    exact ⟨fun _ => .inr aborted, fun _ => ⟨_, rfl⟩⟩
  | @built rules columns filling outcome _ selected known course finished =>
    cases outcome with
    | ok _ => exact ⟨fun _ => .inl (finished rfl), fun _ => ⟨_, rfl⟩⟩
    | error failure =>
      obtain ⟨undone, unaborted⟩ := course.broken_stage rfl
      exact ⟨fun ⟨_, given⟩ => (by cases given), fun ended => (ended.elim undone unaborted).elim⟩

theorem aborts_iff (ran : (generate g request).run session = (result, final)) :
    final.report.stage = .aborted ↔ (∃ rules, rulesIn request.language = .ok rules) ∧
      g.source.hasTable request.tableName = .ok false := by
  cases generate_ends ran with
  | refused early stands =>
    have start : final.report.stage = .start := congrArg Standing.stage stands
    rw [start]
    refine ⟨fun aborted => (by cases aborted), fun ⟨⟨rules, selected⟩, missing⟩ => ?_⟩
    rcases early with refused | refused
    · rw [selected] at refused
      cases refused
    · rw [inspected_of_missing missing] at refused
      cases refused
  | aborted missing stands =>
    have aborted : final.report.stage = .aborted := congrArg Standing.stage stands
    exact ⟨fun _ => ⟨selected_of_report ran, hasTable_of_inspected missing⟩, fun _ => aborted⟩
  | @built rules columns filling outcome _ selected known course finished =>
    have unaborted : final.report.stage ≠ .aborted := by
      cases outcome with
      | ok _ =>
        rw [finished rfl]
        decide
      | error failure => exact (course.broken_stage rfl).2
    have there := hasTable_of_inspected known
    refine ⟨fun aborted => absurd aborted unaborted, fun ⟨_, missing⟩ => ?_⟩
    rw [missing] at there
    cases there

/-- The report of a run says how the run ended. -/
theorem reports_ending (ran : (generate g request).run session = (result, final)) :
    ∀ report, result = .ok report → report = final.report ∧
      (report.success = true ↔ report.stage = .done) ∧
      (report.routeLine.isSome = true ↔ report.stage = .done) ∧
      (report.stage = .aborted ↔ g.source.hasTable request.tableName = .ok false) := by
  intro report given
  obtain ⟨taken, -, reached, -, ends⟩ := (generate_proceeds ran).goes
  obtain ⟨rfl, way⟩ := ends report given
  have success : final.report.success = true ↔ final.report.stage = .done := by
    rw [reached]
    rcases way with ⟨rfl, marked⟩ | ⟨rfl, marked⟩ <;> simp [marked, Stage.course]
  refine ⟨rfl, success, ?_⟩
  cases generate_ends ran with
  | refused => cases given
  | aborted missing stands =>
    have aborted : final.report.stage = .aborted := congrArg Standing.stage stands
    have unrouted : final.report.routeLine = none := congrArg Standing.routeLine stands
    rw [aborted, unrouted]
    exact ⟨by simp, by simp [hasTable_of_inspected missing]⟩
  | @built rules columns filling outcome _ selected known course finished =>
    cases outcome with
    | error failure => cases given
    | ok _ =>
      obtain ⟨middle, _, _, _, _, _, -, -, stands⟩ := course.completes
      have routed : final.report.routeLine = some _ := congrArg Standing.routeLine stands
      rw [finished rfl, routed]
      exact ⟨by simp, by simp [hasTable_of_inspected known]⟩

private theorem emitted_final (ran : (generate g request).run session = (result, final))
    {rules : RuleSet}
    (selected : rulesIn request.language = .ok rules) :
    Emitted g (.resolve rules request) final.standing := by
  cases generate_ends ran with
  | refused early stands => exact emitted_early (.inl (congrArg Standing.stage stands))
  | aborted missing stands => exact emitted_early (.inr (congrArg Standing.stage stands))
  | @built known columns filling outcome _ selected' inspected course finished =>
    cases selected.symm.trans selected'
    cases outcome with
    | ok _ => exact Course.emitted (List.append_nil _).symm rfl course
    | error failure =>
      obtain ⟨finished, work, rest, middle, split, first, breaks, -⟩ := course.cut_works
      obtain ⟨controller, model, views⟩ := Course.emitted split rfl first
      obtain ⟨stage, artifacts⟩ := breaks.report
      rw [← stage, ← artifacts] at controller model views
      exact ⟨controller, model, views⟩

private theorem generate_orderly (ran : (generate g request).run session = (result, final)) :
    Orderly g request session result final where
  legal := by
    intro source target given
    have legal := (generate_proceeds ran).legal _ given
    cases legal
  stages := by
    obtain ⟨taken, visited, reached, along, -⟩ := (generate_proceeds ran).goes
    exact ⟨taken, visited, reached, along⟩
  returns := returns_iff ran
  reports := reports_ending ran
  aborts := aborts_iff ran
  begins := by
    intro rules columns selected known
    cases generate_ends ran with
    | refused early =>
      rcases early with refused | refused
      · rw [selected] at refused
        cases refused
      · rw [known] at refused
        cases refused
    | aborted missing =>
      rw [known] at missing
      cases missing
    | @built rules' columns' filling outcome _ selected' known' course =>
      cases selected.symm.trans selected'
      cases known.symm.trans known'
      exact ⟨columns, filling, [], _, outcome, selected, known, rfl, .done, course⟩
  emitted := by
    intro rules selected
    refine ⟨emitted_final ran selected, fun middle crosses => ?_⟩
    obtain ⟨columns, filling, finished, rest, outcome, -, -, split, first, -⟩ := crosses
    exact Course.emitted split rfl first
  afresh := by
    have fresh := generate_fresh g request session
    rw [ran] at fresh
    exact ⟨congrArg Prod.fst fresh, congrArg Prod.snd fresh⟩

/-! ## Calls one after another -/

/-- The generator over another database. -/
def Generator.over (g : Generator) (database : Database) : Generator :=
  { g with source := { g.source with database := database } }

/-- A call, with the database and the workspace as they are then and whoever gives consent. -/
structure Call where
  request : Request
  database : Database
  workspace : Workspace
  consent : Consent

/-- What became of a call. -/
structure Made where
  call : Call
  before : Session
  result : Except Failure Report
  after : Session

/-- A call in a session, of which the trace and the report of the last run are left. -/
def Call.make (g : Generator) (call : Call) (session : Session) : Made :=
  let before := { session with workspace := call.workspace, consent := call.consent }
  let (result, after) := (generate (g.over call.database) call.request).run before
  ⟨call, before, result, after⟩

/-- Calls of one generator, one after another. -/
def history (g : Generator) : Session → List Call → List Made
  | _, [] => []
  | session, call :: rest =>
    let made := call.make g session
    made :: history g made.after rest

/-- Every call of a history respects the stages of a run, whatever the calls before it were and
however they ended. -/
theorem history_orderly (g : Generator) (session : Session) (calls : List Call) :
    ∀ made ∈ history g session calls,
      Orderly (g.over made.call.database) made.call.request made.before made.result made.after := by
  induction calls generalizing session with
  | nil => exact fun _ member => by cases member
  | cons call rest ih =>
    intro made member
    rcases List.mem_cons.mp member with rfl | later
    · exact generate_orderly rfl
    · exact ih _ made later

/-- The report a call is made with is that of the session. -/
@[simp] theorem Call.make_before_report (call : Call) (session : Session) :
    (call.make g session).before.report = session.report := rfl

/-- A call that breaks behind the controller leaves the generator there; the next call finds no table
and is aborted all the same. -/
theorem history_orderly_after_failure :
    let g := smallGenerator [("controller", "c")]
    let broken : Call := ⟨smallRequest, g.source.database, .empty [], .always false⟩
    let missing : Call := ⟨smallRequest, {}, .empty [], .always false⟩
    ∃ first second, history g emptySession [broken, missing] = [first, second] ∧
      second.before.report.stage = .controllerBuilt ∧ second.after.report.stage = .aborted ∧
      ∃ report, second.result = .ok report := by
  intro g broken missing
  have stopped : (broken.make g emptySession).after.report.stage = .controllerBuilt := by
    decide +kernel
  have made : missing.make g (broken.make g emptySession).after ∈
      history g emptySession [broken, missing] := by
    simp only [history, List.mem_cons, true_or, or_true]
  have orderly := history_orderly g emptySession [broken, missing] _ made
  have aborted := orderly.aborts.mpr ⟨⟨Inflection.english, rfl⟩, by decide +kernel⟩
  exact ⟨broken.make g emptySession, missing.make g (broken.make g emptySession).after,
    by simp only [history], by rw [Call.make_before_report, stopped], aborted,
    orderly.returns.mpr (.inr aborted)⟩

end Scaffold.Generation
