import Scaffold.Proofs.Courses

/-! What a whole run of the generator is. It is refused before anything is written, ends with a
report when there is no such table, or takes a course through the controller, the model, the views
and the route in this order. -/
namespace Scaffold.Generation

open Scaffold.Action Emission Files Files.Workspace Inflection Running Schema Template

variable {α : Type} {g : Generator} {job : Job} {session after : Session} {s m t : Stage}

/-! ## What runs perform -/

/-- An action does some work, which may depend on what the fields filled in, and takes the run from
one stage to another. -/
structure Performs (g : Generator) (job : Job) (action : Action Unit)
    (works : Filling → List Work) (s t : Stage) : Prop where
  takes : ∀ {session after : Session} {result : Except Failure Unit},
    action.run session = (result, after) → session.standing.stage = s →
    ∃ filling, Course g job (works filling) session.standing result after.standing ∧
      (result = .ok () → after.standing.stage = t)

theorem Performs.bind {action : Action Unit} {next : Unit → Action Unit} {works : List Work}
    {rest : Filling → List Work} (first : Performs g job action (fun _ => works) s m)
    (second : Performs g job (next ()) rest m t) :
    Performs g job (action >>= next) (fun filling => works ++ rest filling) s t := by
  constructor
  intro session after result ran stage
  rw [run_bind] at ran
  split at ran
  · rename_i middle done
    obtain ⟨_, course, reached⟩ := first.takes done stage
    obtain ⟨filling, onward, ends⟩ := second.takes ran (reached rfl)
    exact ⟨filling, course.append onward, ends⟩
  · rename_i failure middle failed
    obtain ⟨filling, course, -⟩ := first.takes failed stage
    cases ran
    exact ⟨filling, course.extend _, fun ended => by cases ended⟩

/-- The same when it is the first part that depends on the fields. -/
theorem Performs.before {action : Action Unit} {next : Unit → Action Unit}
    {works : Filling → List Work} {rest : List Work} (first : Performs g job action works s m)
    (second : Performs g job (next ()) (fun _ => rest) m t) :
    Performs g job (action >>= next) (fun filling => works filling ++ rest) s t := by
  constructor
  intro session after result ran stage
  rw [run_bind] at ran
  split at ran
  · rename_i middle done
    obtain ⟨filling, course, reached⟩ := first.takes done stage
    obtain ⟨_, onward, ends⟩ := second.takes ran (reached rfl)
    exact ⟨filling, course.append onward, ends⟩
  · rename_i failure middle failed
    obtain ⟨filling, course, -⟩ := first.takes failed stage
    cases ran
    exact ⟨filling, course.extend _, fun ended => by cases ended⟩

/-- Finding something out first. -/
theorem Performs.afterAnswer {action : Action α} {next : α → Action Unit} {a : α}
    {works : Filling → List Work} (answers : Answers action fun _ => .ok a)
    (performs : Performs g job (next a) works s t) :
    Performs g job (action >>= next) works s t := by
  constructor
  intro session after result ran stage
  rw [run_bind] at ran
  obtain ⟨given, stands⟩ := answers session
  rcases looked : action.run session with ⟨outcome, middle⟩
  rw [looked] at ran given stands
  cases given
  obtain ⟨filling, course, ends⟩ := performs.takes ran (stands ▸ stage)
  exact ⟨filling, stands ▸ course, ends⟩

theorem Performs.congr {action : Action Unit} {works works' : Filling → List Work}
    (performs : Performs g job action works s t) (same : ∀ filling, works filling = works' filling) :
    Performs g job action works' s t := by
  constructor
  intro session after result ran stage
  obtain ⟨filling, course, ends⟩ := performs.takes ran stage
  exact ⟨filling, same filling ▸ course, ends⟩

private theorem performs_nothing {action : Action Unit} (answers : Answers action fun _ => .ok ()) :
    Performs g job action (fun _ => []) s s := by
  constructor
  intro session after result ran stage
  obtain ⟨rfl, stands⟩ := answers.gives ran
  exact ⟨[], stands ▸ .done, fun _ => stands ▸ stage⟩

theorem Performs.timed {action : Action Unit} {works : Filling → List Work} (label : String)
    (performs : Performs g job action works s t) :
    Performs g job (Action.timed label action) works s t := by
  constructor
  intro session after result ran stage
  obtain ⟨middle, done, stands⟩ := timed_result ran
  obtain ⟨filling, course, ends⟩ := performs.takes done stage
  exact ⟨filling, stands ▸ course, fun ended => stands ▸ ends ended⟩

/-! ## The steps of a run -/

theorem answers_record {change : Report → Report}
    (stage : ∀ report, (change report).stage = report.stage)
    (artifacts : ∀ report, (change report).artifacts = report.artifacts)
    (routeLine : ∀ report, (change report).routeLine = report.routeLine) :
    Answers (record change) fun _ => .ok () := by
  intro session
  refine ⟨rfl, ?_⟩
  change Session.standing { session with report := change session.report } = _
  simp only [Session.standing, Session.events, stage, artifacts, routeLine]

theorem answers_recordStep (name : String) (success : Bool) (detail : String) :
    Answers (recordStep name success detail) fun _ => .ok () :=
  answers_record (fun _ => rfl) (fun _ => rfl) fun _ => rfl

/-- Going on to a stage that may follow that of the run. -/
theorem advance_run (allowed : s.next.contains t = true) (stage : session.report.stage = s) :
    ∃ after, (advance t).run session = (.ok (), after) ∧
      after.standing = session.standing.reached t := by
  have said : Answers (do
      say .debug .generator ("State " ++ s.name ++ " → " ++ t.name)
      note [.entered t] : Action Unit) fun _ => .ok () := by
    refine Answers.afterSaying rfl fun middle => ⟨rfl, ?_⟩
    rw [note_run, standing_note]
    simp [Event.isDecision]
  have moved : (advance t).run session = (do
      say .debug .generator ("State " ++ s.name ++ " → " ++ t.name)
      note [.entered t] : Action Unit).run
        { session with report := { session.report with stage := t } } := by
    simp only [advance, run_bind, run_get, stage, allowed, if_true, run_set]
  rw [moved]
  obtain ⟨given, stands⟩ := said { session with report := { session.report with stage := t } }
  exact ⟨_, Prod.ext given rfl, stands⟩

/-- A run goes on to a stage that may follow its own. -/
theorem performs_advance (allowed : s.next.contains t = true) :
    Performs g job (advance t) (fun _ => [.reach t]) s t := by
  constructor
  intro session after result ran stage
  obtain ⟨_, went, stands⟩ := advance_run allowed stage
  rw [ran] at went
  cases went
  rw [stands]
  exact ⟨[], .step .reach .done, fun _ => rfl⟩

/-- A file that is written is recorded. -/
theorem recordArtifact_run {label : String} {path : Path} {outcome : Outcome}
    {result : Except Failure Unit}
    (ran : (recordArtifact label path outcome).run session = (result, after)) :
    result = .ok () ∧ after.standing = session.standing.recorded ⟨label, path, outcome⟩ := by
  cases ran
  exact ⟨rfl, rfl⟩

private theorem performs_emit (label : String) (path : Path) (template : String)
    (filling : Filling) :
    Performs g job (emit g label path template filling)
      (fun _ => [.artifact label path template filling]) s s := by
  constructor
  intro session after result ran stage
  refine ⟨[], ?_⟩
  rw [emit, run_bind] at ran
  rcases rendered : (renderTemplate g template filling).run session with ⟨content, first⟩
  obtain ⟨given, stands⟩ := (answers_renderTemplate g template filling).gives rendered
  rw [rendered] at ran
  cases content with
  | error failure =>
    cases ran
    rw [stands]
    exact ⟨.broken (.template given.symm), fun ended => by cases ended⟩
  | ok content =>
    simp only [run_bind] at ran
    rcases wrote : (write path content).run first with ⟨outcome, second⟩
    rw [wrote] at ran
    rcases write_run wrote with ⟨outcome, rfl, writes⟩ | ⟨failure, rfl, fails⟩
    · obtain ⟨rfl, stands'⟩ := recordArtifact_run ran
      rw [stands] at writes
      rw [stands']
      refine ⟨.step (.artifact given.symm writes) .done, fun _ => ?_⟩
      exact writes.report.1.trans stage
    · cases ran
      rw [stands] at fails
      exact ⟨.broken (.artifact given.symm fails), fun ended => by cases ended⟩

private theorem performs_controller : Performs g job (buildController g job.naming job.columns)
    (fun _ => [.artifact "Controller" (g.config.controllerPath job.naming) "controller"
      (baseFilling job.naming g.config job.columns)]) s s :=
  Performs.afterAnswer (answers_say rfl) (performs_emit _ _ _ _)

private theorem performs_model : Performs g job (buildModel g job.naming job.columns job.fields)
    (fun _ => [.artifact "Model" (g.config.modelPath job.naming) "model"
      (modelFilling job.naming g.config job.columns job.fields (kindsOf g.policy job.columns))])
    s s :=
  Performs.afterAnswer (answers_say rfl)
    (Performs.afterAnswer (answers_say rfl) (performs_emit _ _ _ _))

private theorem performs_layout : Performs g job (buildLayout g) (fun _ => [.layout]) s s := by
  constructor
  intro session after result ran stage
  refine ⟨[], ?_⟩
  simp only [buildLayout, workspace, run_bind, run_get, run_pure] at ran
  cases there : session.workspace.isThere g.config.layoutPath with
  | true =>
    simp only [there, Bool.not_true, Bool.false_eq_true, if_false, run_pure] at ran
    cases ran
    exact ⟨.step (.layoutThere there) .done, fun _ => stage⟩
  | false =>
    simp only [there, Bool.not_false, if_true] at ran
    cases default : g.config.usesDefaultLayout with
    | false =>
      simp only [default, Bool.false_eq_true, if_false, run_throw] at ran
      cases ran
      exact ⟨.broken (.ownLayout default there), fun ended => by cases ended⟩
    | true =>
      simp only [default, if_true, run_bind] at ran
      rcases found : (g.library.get "layouts/app").run session with ⟨body, first⟩
      obtain ⟨given, stands⟩ := (answers_get g.library "layouts/app").gives found
      rw [found] at ran
      cases body with
      | error failure =>
        cases ran
        rw [stands]
        exact ⟨.broken (.layoutTemplate given.symm), fun ended => by cases ended⟩
      | ok body =>
        simp only at ran
        rcases wrote : (writeIfMissing g.config.layoutPath body).run first with ⟨outcome, second⟩
        rw [wrote] at ran
        rw [← workspace_of_standing stands] at there
        rcases writeIfMissing_run there wrote with ⟨rfl, writes⟩ | ⟨failure, rfl, fails⟩
        · obtain ⟨rfl, stands'⟩ := recordArtifact_run ran
          rw [stands] at writes
          rw [stands']
          refine ⟨.step (.layout default given.symm writes) .done, fun _ => ?_⟩
          exact writes.report.1.trans stage
        · cases ran
          rw [stands] at fails
          exact ⟨.broken (.layout given.symm fails), fun ended => by cases ended⟩

/-- The work of writing one view. -/
def viewWork (g : Generator) (job : Job) (filling : Filling) (view : String) : Work :=
  .artifact ("View " ++ view) (g.config.viewPath job.naming view) ("views/" ++ view) filling

private theorem performs_viewList (filling : Filling) (views : List String) :
    Performs g job (views.forM (buildView g job.naming filling))
      (fun _ => views.map (viewWork g job filling)) s s := by
  induction views with
  | nil => exact performs_nothing (answers_pure ())
  | cons view views ih => exact Performs.bind (performs_emit _ _ _ _) ih

private theorem performs_views : Performs g job (buildViews g job.naming job.columns job.fields)
    (fun filling => .fragments filling :: .layout :: viewNames.map (viewWork g job filling))
    s s := by
  refine Performs.afterAnswer (answers_say rfl) ?_
  constructor
  intro session after result ran stage
  rw [run_bind] at ran
  rcases looked : (viewFilling job.naming g.config job.columns job.fields g.library).run session
    with ⟨filling, first⟩
  obtain ⟨given, stands⟩ := (answers_viewFilling _ _ _ _ _).gives looked
  rw [looked] at ran
  cases filling with
  | error failure =>
    cases ran
    rw [stands]
    exact ⟨[], .broken (.fragments given.symm), fun ended => by cases ended⟩
  | ok filling =>
    obtain ⟨_, course, ends⟩ := (Performs.bind (g := g) performs_layout
      (performs_viewList filling viewNames)).takes ran (stands ▸ stage)
    rw [stands] at course
    exact ⟨filling, .step (.fragments given.symm) course, ends⟩

private theorem performs_route :
    Performs g job (buildRoute g job.naming) (fun _ => [.route]) s s := by
  refine Performs.afterAnswer (answers_say rfl) ?_
  constructor
  intro session after result ran stage
  refine ⟨[], ?_⟩
  rw [run_bind] at ran
  rcases appended : (appendRoute g.routes g.config.routesPath job.naming.routeName
    (g.config.qualifiedName job.naming)).run session with ⟨outcome, first⟩
  rw [appended] at ran
  rcases appendRoute_run appended with ⟨w', mid, place, mode, old, rfl, adds, stands⟩ |
    ⟨fault, w', rfl, paves, stands⟩
  · cases ran
    change Course g job [.route] session.standing (.ok ()) (first.standing.registered (job.line g)) ∧
      (_ → first.standing.stage = s)
    rw [stands]
    exact ⟨.step (.route adds) .done, fun _ => stage⟩
  · cases ran
    rw [stands]
    exact ⟨.broken (.route paves), fun ended => by cases ended⟩

/-! ## Whole runs -/

/-- What a run finds out about a table. -/
def Job.of (g : Generator) (rules : RuleSet) (request : Request) (columns : List Column) : Job where
  naming := Naming.resolve rules request
  columns := columns
  fields := g.policy.fields columns

/-- The work of writing the controller. -/
def controllerWork (g : Generator) (job : Job) : Work :=
  .artifact "Controller" (g.config.controllerPath job.naming) "controller"
    (baseFilling job.naming g.config job.columns)

/-- The work of writing the model. -/
def modelWork (g : Generator) (job : Job) : Work :=
  .artifact "Model" (g.config.modelPath job.naming) "model"
    (modelFilling job.naming g.config job.columns job.fields (kindsOf g.policy job.columns))

/-- The work of a run that comes before the route, in order. -/
def writings (g : Generator) (job : Job) (filling : Filling) : List Work :=
  [.reach .validated, .reach .namingResolved, controllerWork g job, .reach .controllerBuilt,
   modelWork g job, .reach .modelBuilt, .fragments filling, .layout] ++
  viewNames.map (viewWork g job filling) ++ [.reach .viewsBuilt]

/-- All the work of a run, in order. -/
def works (g : Generator) (job : Job) (filling : Filling) : List Work :=
  writings g job filling ++ [.route, .reach .routeAppended, .reach .done]

theorem route_not_mem_writings (filling : Filling) : Work.route ∉ writings g job filling := by
  simp [writings, viewNames, viewWork, controllerWork, modelWork]

/-- The only work after the route is to go on to the last stages. -/
theorem route_last {filling : Filling} {work : Work} {finished rest : List Work}
    (split : works g job filling = finished ++ work :: rest) (routed : .route ∈ finished) :
    ∃ stage, work = .reach stage := by
  rw [works] at split
  rcases List.append_eq_append_iff.mp split with ⟨late, rfl, last⟩ | ⟨early, before, -⟩
  · cases late with
    | nil =>
      rw [List.append_nil] at routed
      exact absurd routed (route_not_mem_writings filling)
    | cons first late =>
      have behind : work ∈ [Work.reach .routeAppended, .reach .done] := by
        rw [(List.cons.inj last).2]
        simp
      rcases List.mem_pair.mp behind with rfl | rfl <;> exact ⟨_, rfl⟩
  · have mem : Work.route ∈ writings g job filling := by
      rw [before]
      exact List.mem_append_left _ routed
    exact absurd mem (route_not_mem_writings filling)

/-- A run that breaks is cut at one piece of work, before its route is registered. -/
theorem Course.cut_works {filling : Filling} {before stood : Standing} {failure : Failure}
    (course : Course g job (works g job filling) before (.error failure) stood) :
    ∃ finished work rest middle, works g job filling = finished ++ work :: rest ∧
      Course g job finished before (.ok ()) middle ∧ Breaks g job work failure middle stood ∧
      .route ∉ finished := by
  obtain ⟨finished, work, rest, middle, split, first, breaks⟩ := course.cut
  refine ⟨finished, work, rest, middle, split, first, breaks, ?_⟩
  intro routed
  obtain ⟨stage, rfl⟩ := route_last split routed
  cases breaks

/-- A run that is completed writes all artifacts and then registers its route. -/
theorem Course.completes {filling : Filling} {before stood : Standing}
    (course : Course g job (works g job filling) before (.ok ()) stood) :
    ∃ middle w' mid place mode old,
      Course g job (writings g job filling) before (.ok ()) middle ∧
      Adds g.routes g.config.routesPath (job.line g) middle.workspace w' mid place mode old ∧
      stood = (((middle.within w').registered (job.line g)).reached .routeAppended).reached .done := by
  obtain ⟨middle, written, last⟩ := course.split
  cases last with
  | step finishes last =>
    cases finishes with
    | route adds =>
      obtain ⟨_, first, final⟩ := @Course.split _ _ _ _ [.reach .routeAppended] _ last
      obtain ⟨-, rfl⟩ := first.reached
      obtain ⟨-, rfl⟩ := final.reached
      exact ⟨middle, _, _, _, _, _, written, adds, rfl⟩

private theorem performs_build (rules : RuleSet) (request : Request) (columns : List Column)
    (job : Job) (known : job = .of g rules request columns) :
    Performs g job (build g rules request columns (g.policy.fields columns)) (works g job)
      .start .done := by
  subst known
  refine Performs.congr (.bind (performs_advance rfl) <|
    .afterAnswer (answers_recordStep _ _ _) <|
    .afterAnswer ((answers_resolveNames rules request).timed "naming") <|
    .afterAnswer (answers_record (fun _ => rfl) (fun _ => rfl) fun _ => rfl) <|
    .bind (performs_advance rfl) <| .afterAnswer (answers_recordStep _ _ _) <|
    .bind (performs_controller.timed "controller") <| .bind (performs_advance rfl) <|
    .afterAnswer (answers_recordStep _ _ _) <|
    .bind (performs_model.timed "model") <| .bind (performs_advance rfl) <|
    .afterAnswer (answers_recordStep _ _ _) <|
    .before (performs_views.timed "views") <| .bind (performs_advance rfl) <|
    .afterAnswer (answers_recordStep _ _ _) <|
    .bind (performs_route.timed "route") <| .bind (performs_advance rfl) <|
    .afterAnswer (answers_recordStep _ _ _) <| .bind (performs_advance rfl) <|
    .afterAnswer (answers_record (fun _ => rfl) (fun _ => rfl) fun _ => rfl) <|
    performs_nothing (answers_say rfl)) fun _ => rfl

private theorem performs_abort (table : String) :
    Performs g job (abort table) (fun _ => [.reach .aborted]) .start .aborted := by
  refine Performs.congr (.afterAnswer (answers_say rfl) <| .bind (performs_advance rfl) <|
    .afterAnswer (answers_recordStep _ _ _) <| performs_nothing <|
    answers_record (fun _ => rfl) (fun _ => rfl) fun _ => rfl) fun _ => rfl

/-- How a run ends: refused before anything is written, with a report that there is no such table,
or at the end of a course through its work. -/
inductive Ends (g : Generator) (request : Request) (before : Standing) :
    Except Failure Report → Session → Prop where
  | refused {failure : Failure} {after : Session}
      (early : rulesIn request.language = .error failure ∨
        inspected g request.tableName = .error failure)
      (stands : after.standing = before.fresh) : Ends g request before (.error failure) after
  | aborted {after : Session} (missing : inspected g request.tableName = .ok none)
      (stands : after.standing = before.fresh.reached .aborted) :
      Ends g request before (.ok after.report) after
  | built {rules : RuleSet} {columns : List Column} {filling : Filling}
      {outcome : Except Failure Unit} {after : Session}
      (selected : rulesIn request.language = .ok rules)
      (known : inspected g request.tableName = .ok (some columns))
      (course : Course g (.of g rules request columns)
        (works g (.of g rules request columns) filling) before.fresh outcome after.standing)
      (finished : outcome = .ok () → after.report.stage = .done) :
      Ends g request before (outcome.map fun _ => after.report) after

/-- What follows once it is known what there is to say of the table. -/
theorem conclude {action : Action Unit} {next : Unit → Action Report} {works : Filling → List Work}
    {result : Except Failure Report} (performs : Performs g job action works s t)
    (reports : next () = do return (← get).report)
    (ran : (action >>= next).run session = (result, after)) (stage : session.standing.stage = s) :
    ∃ filling outcome, result = outcome.map (fun _ => after.report) ∧
      Course g job (works filling) session.standing outcome after.standing ∧
      (outcome = .ok () → after.report.stage = t) := by
  rw [run_bind] at ran
  rcases done : action.run session with ⟨outcome, middle⟩
  obtain ⟨filling, course, ends⟩ := performs.takes done stage
  rw [done] at ran
  cases outcome with
  | error failure =>
    cases ran
    exact ⟨filling, _, rfl, course, ends⟩
  | ok _ =>
    simp only [reports, run_bind, run_get, run_pure] at ran
    cases ran
    exact ⟨filling, _, rfl, course, ends⟩

/-- Every run ends in one of these ways. -/
theorem generate_ends {request : Request} {result : Except Failure Report}
    (ran : (generate g request).run session = (result, after)) :
    Ends g request session.standing result after := by
  let started : Session := { session with report := { tableName := request.tableName } }
  have fresh : started.standing = session.standing.fresh := rfl
  have begun : (record fun _ => { tableName := request.tableName }).run session =
      (.ok (), started) := rfl
  rw [generate, run_bind] at ran
  simp only [begun] at ran
  rw [run_bind] at ran
  rcases said : (say .info .generator
    ("Running CRUD generator for table '" ++ request.tableName ++ "' ...")).run started
    with ⟨outcome, first⟩
  obtain ⟨rfl, stands⟩ := (answers_say rfl).gives said
  simp only [said] at ran
  rw [run_bind] at ran
  rcases selected : (rulesOf request.language).run first with ⟨rules, second⟩
  obtain ⟨given, stands'⟩ := (answers_rulesOf request.language).gives selected
  rw [selected] at ran
  cases rules with
  | error failure =>
    cases ran
    exact .refused (.inl given.symm) (stands'.trans stands)
  | ok rules =>
    simp only at ran
    rw [run_bind] at ran
    rcases looked : (timed "validate" (inspect g request.tableName)).run second with ⟨found, third⟩
    obtain ⟨given', stands''⟩ := ((answers_inspect g request.tableName).timed "validate").gives looked
    have stood : third.standing = session.standing.fresh := stands''.trans (stands'.trans stands)
    rw [looked] at ran
    rcases known : inspected g request.tableName with failure | columns
    · rw [known] at given'
      cases given'
      cases ran
      exact .refused (.inr known) stood
    · rw [known] at given'
      cases given'
      cases columns with
      | none =>
        obtain ⟨_, outcome, rfl, course, ends⟩ :=
          conclude (@performs_abort g (.of g rules request []) request.tableName) rfl ran
            (congrArg Standing.stage stood)
        obtain ⟨rfl, ended⟩ := course.reached
        exact .aborted known (ended ▸ stood ▸ rfl)
      | some columns =>
        obtain ⟨filling, outcome, rfl, course, ends⟩ :=
          conclude (performs_build rules request columns _ rfl) rfl ran
            (congrArg Standing.stage stood)
        rw [stood] at course
        exact .built given.symm known course ends

/-- The report that a run gives is the one it has written. -/
theorem report_of_run {request : Request} {session final : Session} {report : Report}
    (ran : (generate g request).run session = (.ok report, final)) : report = final.report := by
  generalize ended : Except.ok report = result at ran
  cases generate_ends ran with
  | refused => cases ended
  | aborted =>
    cases ended
    rfl
  | @built _ _ _ outcome =>
    cases outcome with
    | error failure => cases ended
    | ok _ =>
      cases ended
      rfl

/-- A run that is completed has taken a course through all its work. -/
theorem completed_course {request : Request} {rules : RuleSet} {session final : Session}
    {report : Report} (selected : rulesIn request.language = .ok rules)
    (ran : (generate g request).run session = (.ok report, final))
    (done : final.report.stage = .done) :
    ∃ columns filling, inspected g request.tableName = .ok (some columns) ∧
      Course g (.of g rules request columns) (works g (.of g rules request columns) filling)
        session.standing.fresh (.ok ()) final.standing := by
  generalize ended : Except.ok report = result at ran
  cases generate_ends ran with
  | refused => cases ended
  | aborted missing stands =>
    have stage : final.report.stage = .aborted := congrArg Standing.stage stands
    rw [stage] at done
    cases done
  | @built rules' columns filling outcome _ selected' known course =>
    rw [selected] at selected'
    cases selected'
    cases outcome with
    | error failure => cases ended
    | ok _ => exact ⟨columns, filling, known, course⟩

/-- The paths that a run with some names writes artifacts to, and that of the layout. -/
def targets (g : Generator) (naming : Naming) : List Path :=
  [g.config.controllerPath naming, g.config.modelPath naming, g.config.layoutPath] ++
    viewNames.map (g.config.viewPath naming)

/-- The path that a piece of work writes to, if it writes at all. -/
def Work.path? (g : Generator) : Work → Option Path
  | .artifact _ path _ _ => some path
  | .layout => some g.config.layoutPath
  | .route => some g.config.routesPath
  | .reach _ | .fragments _ => none

/-- The paths that some work writes to, in order. -/
def pathsOf (g : Generator) (works : List Work) : List Path :=
  works.filterMap (·.path? g)

theorem pathsOf_append (first rest : List Work) :
    pathsOf g (first ++ rest) = pathsOf g first ++ pathsOf g rest :=
  List.filterMap_append

theorem pathsOf_cons (work : Work) (rest : List Work) :
    pathsOf g (work :: rest) = pathsOf g [work] ++ pathsOf g rest :=
  pathsOf_append [work] rest

/-- A run writes to its targets and to the routes file. -/
theorem pathsOf_works (filling : Filling) :
    pathsOf g (works g job filling) = targets g job.naming ++ [g.config.routesPath] :=
  rfl

private theorem pathsOf_writings (filling : Filling) :
    pathsOf g (writings g job filling) = targets g job.naming :=
  rfl

/-- All work but that of the route writes to a target. -/
theorem mem_targets {filling : Filling} {work : Work} {target : Path}
    (member : work ∈ works g job filling) (unrouted : work ≠ .route)
    (writes : work.path? g = some target) : target ∈ targets g job.naming := by
  rcases List.mem_append.mp member with early | late
  · rw [← pathsOf_writings filling]
    exact List.mem_filterMap.mpr ⟨work, early, writes⟩
  · simp only [List.mem_cons, List.not_mem_nil, or_false] at late
    rcases late with rfl | rfl | rfl
    · exact absurd rfl unrouted
    · cases writes
    · cases writes

/-- Every target has some work that writes to it. -/
theorem exists_work_of_mem_targets {target : Path} (filling : Filling)
    (member : target ∈ targets g job.naming) :
    ∃ work ∈ works g job filling, work ≠ .route ∧ work.path? g = some target := by
  rw [← pathsOf_writings filling] at member
  obtain ⟨work, among, writes⟩ := List.mem_filterMap.mp member
  refine ⟨work, List.mem_append_left _ among, ?_, writes⟩
  rintro rfl
  exact route_not_mem_writings filling among

/-! ## A small project -/

/-- A configuration with one letter for each part of the project. -/
def smallConfig : Config :=
  { Config.standard with controllerDir := "c", modelDir := "m", viewsDir := "v", routesFile := "r" }

/-- Templates of one letter each, for a run over a table with one column of text. -/
def smallTemplates : List (String × String) :=
  [("controller", "c"), ("model", "m"), ("views/index", "i"), ("views/create", "n"),
   ("views/edit", "e"), ("views/form", "f"), ("views/show", "s"), ("layouts/app", "l"),
   ("fields/head", "h"), ("fields/cell", "d"), ("fields/view", "v"), ("fields/form-text", "t")]

/-- A generator over one table with one column of text. -/
def smallGenerator (templates : List (String × String)) : Generator where
  config := smallConfig
  source := ⟨{ tables := [("a", ⟨[⟨"n", .spelled "TEXT", true, false⟩], []⟩)] }, none, "sqlite"⟩
  library := ⟨none, templates⟩
  policy := ⟨[], []⟩
  routes := .make smallConfig.routeTemplate none

/-- A request to scaffold its table. -/
def smallRequest : Request :=
  ⟨"a", none, none, none⟩

/-- A session in an empty workspace in which nothing may be overwritten. -/
def emptySession : Session where
  workspace := .empty []
  consent := .always false

/-- The paths of a small run are spelled with real names, and lie apart by them. -/
theorem small_paths {rules : RuleSet} (selected : rulesIn none = .ok rules) :
    (∀ path ∈ targets (smallGenerator smallTemplates) (Naming.resolve rules smallRequest) ++
        [smallConfig.routesPath], ∀ name ∈ path.names, isRealName name) ∧
      (targets (smallGenerator smallTemplates) (Naming.resolve rules smallRequest) ++
        [smallConfig.routesPath]).Pairwise fun path other =>
          ¬ path.names <+: other.names ∧ ¬ other.names <+: path.names := by
  have checked : (rulesIn none).toOption.all (fun rules =>
      let paths := targets (smallGenerator smallTemplates)
        (Naming.resolve rules smallRequest) ++ [smallConfig.routesPath]
      decide ((∀ path ∈ paths, ∀ name ∈ path.names, isRealName name) ∧
        paths.Pairwise fun path other =>
          ¬ path.names <+: other.names ∧ ¬ other.names <+: path.names)) = true := by
    decide +kernel
  rw [selected] at checked
  simp only [Except.toOption, Option.all_some, decide_eq_true_eq] at checked
  exact checked

/-- Without links, and at home at the top, every path leads to its own names. -/
theorem linkless_leads {w : Workspace} {path : Path} (home : w.home = [])
    (linkless : ∀ place target, w.entryAt place ≠ some (.link target))
    (real : ∀ name ∈ path.names, isRealName name) : w.LeadsTo false path path.names := by
  have bare : w.base path = [] := by
    unfold base
    rw [home, ite_self]
  have settled : w.Settled path.names := ⟨real, fun _ found => linkless _ _ found⟩
  rw [LeadsTo, bare]
  exact settled.leads_root

theorem empty_linkless (place : Location) (target : String) :
    (Workspace.empty []).entryAt place ≠ some (.link target) := by
  intro found
  cases place with
  | nil => simp at found
  | cons => cases found

/-- In an empty workspace every path leads to its own names. -/
theorem empty_leads {path : Path} (real : ∀ name ∈ path.names, isRealName name) :
    (Workspace.empty []).LeadsTo false path path.names :=
  linkless_leads rfl empty_linkless real

theorem empty_wellFormed : (Workspace.empty []).WellFormed := by
  refine ⟨fun {place name} there => ?_, fun {place name} there => ?_, rfl⟩
  · exact absurd (by cases place <;> rfl) there
  · exact absurd (by cases place <;> rfl) there

end Scaffold.Generation
