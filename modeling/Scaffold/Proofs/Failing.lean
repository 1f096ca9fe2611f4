import Scaffold.Proofs.Calls
import Scaffold.Proofs.Faults

/-! How a run fails. Whatever it meets in the files of a project is told as trouble with a template, an
artifact or the routes file, and whatever it finds wrong with a request or a schema as a rejection. All
that is left are a null character in one of the paths it writes to, and a link that came to lead back to
itself because the run itself wrote a file in the place of another link. -/
namespace Scaffold

open Files Files.Workspace Scaffold.Action Generation Emission Schema Template

/-- Failures that a run is known to have. -/
def Failure.IsKnown (failure : Failure) : Prop :=
  failure.isFileTrouble = true ∨ failure.isRejection = true ∨ failure.isIllegalStep = true

namespace Generation

variable {first : Workspace} {paths : List Path} {g : Generator} {naming : Naming}
  {rules : Inflection.RuleSet} {request : Request}

/-- Whatever is recorded in the report, the workspace is the same. -/
theorem safe_record (change : Report → Report) : Safe first paths Failure.IsKnown (record change) :=
  fun _ grown => ⟨grown, fun _ given => by cases given⟩

private theorem safe_advance (target : Stage) :
    Safe first paths Failure.IsKnown (advance target) := by
  intro session grown
  simp only [advance, Running.run_bind, Running.run_get]
  split
  · exact ⟨grown, fun _ given => by cases given⟩
  · refine ⟨grown, fun failure given => ?_⟩
    cases given
    exact .inl (.inr (.inr rfl))

private theorem safe_emit (acyclic : first.Acyclic) {path : Path} (proper : path.Proper)
    (among : path ∈ paths)
    (label template : String) (filling : Filling) :
    Safe first paths Failure.IsKnown (emit g label path template filling) := by
  have rendered : Safe first paths Failure.IsKnown (renderTemplate g template filling) :=
    (answers_renderTemplate g template filling).safe fun _ missing =>
      .inl (.inl (bodyIn_trouble (contentIn_missing missing)))
  exact rendered.bind fun content =>
    (safe_write acyclic proper among (fun _ _ => .inl rfl) content).bind fun _ => safe_record _

private theorem safe_buildLayout (acyclic : first.Acyclic) (proper : g.config.layoutPath.Proper)
    (among : g.config.layoutPath ∈ paths) : Safe first paths Failure.IsKnown (buildLayout g) := by
  refine safe_workspace.bind fun w => .ite _ (.ite _ ?_ (safe_throw (.inl rfl))) (safe_pure _)
  have found : Safe first paths Failure.IsKnown (g.library.get "layouts/app") :=
    (answers_get g.library "layouts/app").safe fun _ missing => .inl (.inl (bodyIn_trouble missing))
  exact found.bind fun body =>
    (safe_writeIfMissing acyclic proper among (fun _ _ => .inl rfl) body).bind fun _ => safe_record _

private theorem safe_viewList (acyclic : first.Acyclic) (filling : Filling) {views : List String}
    (proper : ∀ view ∈ views, (g.config.viewPath naming view).Proper)
    (among : ∀ view ∈ views, g.config.viewPath naming view ∈ paths) :
    Safe first paths Failure.IsKnown (views.forM (buildView g naming filling)) := by
  induction views with
  | nil => exact safe_pure _
  | cons view rest ih =>
    obtain ⟨proper, properRest⟩ := List.forall_mem_cons.mp proper
    obtain ⟨among, amongRest⟩ := List.forall_mem_cons.mp among
    exact (safe_emit acyclic proper among _ _ _).bind fun _ => ih properRest amongRest

private theorem safe_buildViews (acyclic : first.Acyclic)
    (proper : ∀ target ∈ targets g naming, target.Proper)
    (among : ∀ target ∈ targets g naming, target ∈ paths) (columns : List Column)
    (fields : List Field) :
    Safe first paths Failure.IsKnown (buildViews g naming columns fields) := by
  have filled : Safe first paths Failure.IsKnown
      (viewFilling naming g.config columns fields g.library) :=
    (answers_viewFilling naming g.config columns fields g.library).safe fun _ missing => by
      obtain ⟨_, missing⟩ := viewFillingIn_missing missing
      exact .inl (.inl (bodyIn_trouble missing))
  have layout : g.config.layoutPath ∈ targets g naming := by simp [targets]
  have view : ∀ view ∈ viewNames, g.config.viewPath naming view ∈ targets g naming :=
    fun view member => List.mem_append_right _ (List.mem_map_of_mem member)
  exact (safe_say _ _ _).bind fun _ => filled.bind fun filling =>
    (safe_buildLayout acyclic (proper _ layout) (among _ layout)).bind fun _ =>
      safe_viewList acyclic filling (fun _ member => proper _ (view _ member))
        fun _ member => among _ (view _ member)

private theorem safe_build (acyclic : first.Acyclic)
    (among : ∀ target ∈ targets g (Naming.resolve rules request) ++ [g.config.routesPath],
      target ∈ paths) (columns : List Column) (fields : List Field) :
    Safe first paths Failure.IsKnown (build g rules request columns fields) := by
  obtain ⟨among, route⟩ := List.forall_mem_append.mp among
  have proper := targets_proper g (Naming.resolve rules request)
  have controller : g.config.controllerPath (Naming.resolve rules request) ∈
      targets g (Naming.resolve rules request) := by simp [targets]
  have model : g.config.modelPath (Naming.resolve rules request) ∈
      targets g (Naming.resolve rules request) := by simp [targets]
  have made : Safe first paths Failure.IsKnown
      (buildController g (Naming.resolve rules request) columns) :=
    (safe_say _ _ _).bind fun _ =>
      safe_emit acyclic (proper _ controller) (among _ controller) _ _ _
  have modelled : Safe first paths Failure.IsKnown
      (buildModel g (Naming.resolve rules request) columns fields) :=
    (safe_say _ _ _).bind fun _ => (safe_say _ _ _).bind fun _ =>
      safe_emit acyclic (proper _ model) (among _ model) _ _ _
  have registered : Safe first paths Failure.IsKnown
      (buildRoute g (Naming.resolve rules request)) :=
    (safe_say _ _ _).bind fun _ =>
      (safe_appendRoute (route _ List.mem_cons_self) (fun _ _ => .inl rfl) _ _ _).bind fun _ =>
        safe_record _
  have resolves := (answers_resolveNames rules request).timed "naming"
  refine (safe_advance _).bind fun _ => (safe_record _).bind fun _ =>
    Safe.afterAnswer resolves (resolves.safe fun _ given => by cases given) fun {_ naming} _ given => ?_
  obtain rfl : Naming.resolve rules request = naming := Except.ok.inj given
  exact (safe_record _).bind fun _ => (safe_advance _).bind fun _ => (safe_record _).bind fun _ =>
    (made.timed _).bind fun _ => (safe_advance _).bind fun _ => (safe_record _).bind fun _ =>
    (modelled.timed _).bind fun _ => (safe_advance _).bind fun _ => (safe_record _).bind fun _ =>
    ((safe_buildViews acyclic proper among columns fields).timed _).bind fun _ =>
    (safe_advance _).bind fun _ => (safe_record _).bind fun _ =>
    (registered.timed _).bind fun _ => (safe_advance _).bind fun _ => (safe_record _).bind fun _ =>
    (safe_advance _).bind fun _ => (safe_record _).bind fun _ => safe_say _ _ _

private theorem safe_abort (table : String) : Safe first paths Failure.IsKnown (abort table) :=
  (safe_say _ _ _).bind fun _ => (safe_advance _).bind fun _ => (safe_record _).bind fun _ =>
    safe_record _

/-- A run with rules for its language fails in a known way, or escapes by one of the paths that it
writes to. -/
theorem safe_generate (acyclic : first.Acyclic) (selected : rulesIn request.language = .ok rules) :
    Safe first (targets g (Naming.resolve rules request) ++ [g.config.routesPath]) Failure.IsKnown
      (generate g request) := by
  refine (safe_record _).bind fun _ => (safe_say _ _ _).bind fun _ =>
    Safe.afterAnswer (answers_rulesOf request.language) ?_ fun {_ rules'} _ given => ?_
  · exact (answers_rulesOf request.language).safe fun _ given => by
      rw [selected] at given
      cases given
  obtain rfl : rules = rules' := Except.ok.inj (selected.symm.trans given)
  refine Safe.bind ?_ fun found => ?_
  · refine ((answers_inspect g request.tableName).timed "validate").safe fun _ given => ?_
    cases known : inspected g request.tableName with
    | ok found =>
      rw [known] at given
      cases given
    | error reason =>
      rw [known] at given
      cases given
      exact .inl (.inr (.inl (early_rejection (.inr known))))
  · have report : Safe first (targets g (Naming.resolve rules request) ++ [g.config.routesPath])
        Failure.IsKnown (do return (← get).report : Action Report) :=
      fun _ grown => ⟨grown, fun _ given => by cases given⟩
    cases found with
    | none => exact (safe_abort _).bind fun _ => report
    | some known => exact (safe_build acyclic (fun _ among => among) _ _).bind fun _ => report

/-- A run that knows its rules and its columns comes to the end of its course, has trouble with files,
or escapes by one of the paths that it writes to. -/
theorem generate_settles {columns : List Column} {session after : Session}
    {result : Except Failure Report} (tree : session.workspace.WellFormed)
    (clean : session.workspace.Clean) (acyclic : session.workspace.Acyclic)
    (selected : rulesIn request.language = .ok rules)
    (known : inspected g request.tableName = .ok (some columns))
    (ran : (generate g request).run session = (result, after)) :
    (∃ report, result = .ok report ∧ report.success = true ∧ report.stage = .done) ∨
    ∃ failure, result = .error failure ∧ (failure.isFileTrouble = true ∨
      Escapes session.workspace (targets g (Naming.resolve rules request) ++ [g.config.routesPath])
        after.workspace failure) := by
  cases generate_ends ran with
  | refused early =>
    rcases early with unsupported | unread
    · cases selected.symm.trans unsupported
    · cases known.symm.trans unread
  | aborted missing => cases known.symm.trans missing
  | @built _ _ _ outcome _ _ _ course finished =>
    cases outcome with
    | ok _ =>
      obtain ⟨-, success, -⟩ := reports_ending ran after.report rfl
      exact .inl ⟨_, rfl, success.mpr (finished rfl), finished rfl⟩
    | error failure =>
      refine .inr ⟨failure, rfl, ?_⟩
      have fails := (safe_generate (g := g) acyclic selected session ⟨tree, clean, .refl _⟩).2 failure
      rw [ran] at fails
      rcases fails rfl with (trouble | rejected | illegal) | escapes
      · exact .inl trouble
      · obtain ⟨_, _, _, _, -, -, breaks⟩ := course.cut
        rw [breaks.trouble] at rejected
        cases rejected
      · rw [(generate_proceeds ran).legal failure rfl] at illegal
        cases illegal
      · exact .inr escapes

end Generation

end Scaffold
