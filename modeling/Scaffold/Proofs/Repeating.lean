import Scaffold.Proofs.Runs
import Scaffold.Proofs.Seating

/-! Work that is done again where it was done before. Everything it needs is still there: each file has
its seat, each template fills it with what it holds, and the route only has to be put at the end of its
file. So the work succeeds, whoever gives consent, and leaves all other files as they are. -/
namespace Scaffold

open Files Files.Workspace Generation Emission Running

/-! ## Actions that succeed -/

namespace Action

variable {α β : Type} {action : Action α} {next : α → Action β} {a : α} {w m w' : Workspace}
  {s u t : Stage}

/-- An action succeeds in a workspace at a stage of the run, whoever gives consent, and leaves another
workspace and another stage. -/
def Succeeds (action : Action α) (w w' : Workspace) (s t : Stage) : Prop :=
  ∀ session, session.workspace = w → session.report.stage = s →
    ∃ a after, action.run session = (.ok a, after) ∧ after.workspace = w' ∧ after.report.stage = t

theorem Succeeds.bind (first : Succeeds action w m s u) (second : ∀ a, Succeeds (next a) m w' u t) :
    Succeeds (action >>= next) w w' s t := by
  intro session inside stage
  obtain ⟨a, middle, ran, inside', stage'⟩ := first session inside stage
  rw [run_bind, ran]
  exact second a middle inside' stage'

/-- Finding something out first. -/
theorem Succeeds.afterAnswer {answer : Workspace → Except Failure α} (answers : Answers action answer)
    (given : answer w = .ok a) (onward : Succeeds (next a) w w' s t) :
    Succeeds (action >>= next) w w' s t := by
  intro session inside stage
  obtain ⟨result, stands⟩ := answers session
  rw [inside, given] at result
  rw [run_bind, show action.run session = (.ok a, (action.run session).2) from Prod.ext result rfl]
  exact onward _ ((workspace_of_standing stands).trans inside)
    ((congrArg Standing.stage stands).trans stage)

theorem Answers.succeeds {answer : Workspace → Except Failure α} (answers : Answers action answer)
    (given : answer w = .ok a) : Succeeds action w w s s := by
  intro session inside stage
  obtain ⟨result, stands⟩ := answers session
  rw [inside, given] at result
  exact ⟨a, _, Prod.ext result rfl, (workspace_of_standing stands).trans inside,
    (congrArg Standing.stage stands).trans stage⟩

private theorem succeeds_pure (a : α) : Succeeds (pure a : Action α) w w s s :=
  (answers_pure a).succeeds rfl

private theorem succeeds_say (level : Level) (channel : Channel) (text : String) :
    Succeeds (say level channel text) w w s s :=
  fun _ inside stage => ⟨(), _, rfl, inside, stage⟩

/-- Saying something last. -/
theorem Succeeds.thenSaying {level : Level} {channel : Channel} {text : String} (b : β)
    (succeeds : Succeeds action w w' s t) :
    Succeeds (do let _ ← action; say level channel text; return b : Action β) w w' s t :=
  succeeds.bind fun _ => (succeeds_say level channel text).bind fun _ => succeeds_pure b

theorem Succeeds.catch {handle : Failure → Action α} (succeeds : Succeeds action w w' s t) :
    Succeeds (tryCatch action handle) w w' s t := by
  intro session inside stage
  obtain ⟨a, after, ran, left⟩ := succeeds session inside stage
  exact ⟨a, after, by rw [run_tryCatch, ran], left⟩

theorem Succeeds.timed (label : String) (succeeds : Succeeds action w w' s t) :
    Succeeds (Action.timed label action) w w' s t :=
  succeeds.catch.bind fun a => (succeeds_say _ _ _).bind fun _ => succeeds_pure a

private theorem succeeds_change {c : Change α} (ran : c.run w = (.ok a, w')) :
    Succeeds (change c) w w' s s := by
  rintro session rfl stage
  exact ⟨a, { session with workspace := w' }, by rw [change_run, ran], rfl, stage⟩

private theorem succeeds_confirm (question : String) (default : Bool) :
    Succeeds (confirm question default) w w s s :=
  fun session inside stage => ⟨_, _, confirm_run question default session, inside, stage⟩

private theorem succeeds_record {change : Report → Report}
    (kept : ∀ report, (change report).stage = report.stage) : Succeeds (record change) w w s s :=
  fun session inside stage =>
    ⟨(), { session with report := change session.report }, rfl, inside, (kept _).trans stage⟩

private theorem succeeds_advance (allowed : s.next.contains t = true) :
    Succeeds (advance t) w w s t := by
  intro session inside stage
  obtain ⟨after, ran, stands⟩ := advance_run allowed stage
  exact ⟨(), after, ran, (congrArg Standing.workspace stands).trans inside,
    congrArg Standing.stage stands⟩

end Action

/-! ## Writing again -/

namespace Emission

open Scaffold.Action Change Text

variable {w : Workspace} {s : Stage} {path : Path} {content : String}

private theorem succeeds_ensureDirectory (there : w.isDirectory path = true) :
    Succeeds (ensureDirectory path) w w s s :=
  (succeeds_change (makeDirectories_there there)).bind fun _ => succeeds_say _ _ _

/-- A text that is in its seat is written again without changing anything. -/
theorem succeeds_writeText (tree : w.WellFormed) (home : w.CleanHome)
    (seated : w.Seated path (encode content)) : Succeeds (writeText path content true) w w s s := by
  obtain ⟨left, place, mode, target, level, located, held⟩ := seated
  refine Succeeds.afterAnswer (a := left) (answers_ask (·.target path)) (by simp only [target]) ?_
  refine (succeeds_ensureDirectory (isDirectory_parent tree located)).bind fun _ => ?_
  exact (succeeds_change (replace_same tree home level located held)).thenSaying _

private theorem succeeds_place (tree : w.WellFormed) (home : w.CleanHome)
    (seated : w.Seated path (encode content)) : Succeeds (place path content) w w s s :=
  (succeeds_writeText tree home seated).catch.bind fun _ => succeeds_pure _

/-- Whether it is asked for or not, and whatever is answered, nothing changes. -/
theorem succeeds_write (tree : w.WellFormed) (home : w.CleanHome)
    (seated : w.Seated path (encode content)) : Succeeds (write path content) w w s s := by
  refine .afterAnswer answers_workspace rfl ?_
  have placed : ∀ {text : String} {outcome : Outcome}, Succeeds (do
      place path content
      say .info .emitter text
      return outcome : Action Outcome) w w s s :=
    (succeeds_place tree home seated).thenSaying _
  cases w.isThere path with
  | false => exact placed
  | true =>
    -- Even an answer that declines leaves what would have been written.
    refine (succeeds_confirm _ _).bind fun answer => ?_
    cases answer with
    | true => exact placed
    | false => exact (succeeds_say _ _ _).bind fun _ => succeeds_pure _

private theorem succeeds_writeIfMissing (tree : w.WellFormed)
    (home : w.CleanHome) (seated : w.Seated path (encode content)) :
    Succeeds (writeIfMissing path content) w w s s := by
  refine .afterAnswer answers_workspace rfl ?_
  cases w.isThere path with
  | false => exact (succeeds_place tree home seated).thenSaying _
  | true => exact (succeeds_say _ _ _).bind fun _ => succeeds_pure _

/-- A route is registered behind what a routes file has. -/
theorem succeeds_appendRoute {style : RouteStyle} {routeName controller : String} {place : Location}
    {mode : Nat} {old : Bytes} (tree : w.WellFormed) (located : w.locate .make path = .ok place)
    (held : w.entryAt place = some (.file mode old)) :
    Succeeds (appendRoute style path routeName controller) w
      (w.set place (.file mode
        (old ++ encode (style.addition old (style.line routeName controller))))) s s := by
  have added : Succeeds (addLine style path (style.line routeName controller)) w
      (w.set place (.file mode
        (old ++ encode (style.addition old (style.line routeName controller))))) s s := by
    refine (succeeds_ensureDirectory (isDirectory_parent tree located)).bind fun _ => ?_
    refine .afterAnswer answers_workspace rfl ?_
    simp only [addition_eq located (.inl held)]
    exact (succeeds_change (append_there located held)).bind fun _ => answers_note.succeeds rfl
  exact added.catch.thenSaying _

end Emission

/-! ## Work that can be done again -/

namespace Generation

open Scaffold.Action Inflection Schema Template Text

variable {g : Generator} {job : Job} {work : Work} {filling : Filling} {w : Workspace} {s : Stage}

/-- A piece of work that has nothing left to do in a workspace, or for a route nothing but to put its
line behind others. -/
inductive Repeatable (g : Generator) (job : Job) (w : Workspace) : Work → Prop where
  | reach {stage : Stage} : Repeatable g job w (.reach stage)
  | artifact {label template content : String} {path : Path} {filling : Filling}
      (rendered : contentIn g template filling w = .ok content)
      (seated : w.Seated path (encode content)) :
      Repeatable g job w (.artifact label path template filling)
  | fragments {filling : Filling}
      (filled : viewFillingIn job.naming g.config job.columns job.fields g.library w = .ok filling) :
      Repeatable g job w (.fragments filling)
  | layoutThere (there : w.isThere g.config.layoutPath = true) : Repeatable g job w .layout
  | layout {body : String} (default : g.config.usesDefaultLayout = true)
      (found : g.library.bodyIn "layouts/app" w = .ok body)
      (seated : w.Seated g.config.layoutPath (encode body)) : Repeatable g job w .layout
  | route {place : Location} {mode : Nat} {old : Bytes}
      (located : w.locate .make g.config.routesPath = .ok place)
      (held : w.entryAt place = some (.file mode old)) (nonempty : old ≠ []) :
      Repeatable g job w .route

section

variable (tree : w.WellFormed) (home : w.CleanHome)

include tree home

theorem Repeatable.emit {label template : String} {path : Path}
    (again : Repeatable g job w (.artifact label path template filling)) :
    Succeeds (Generation.emit g label path template filling) w w s s := by
  cases again with
  | artifact rendered seated =>
    exact .afterAnswer (answers_renderTemplate g template filling) rendered
      ((succeeds_write tree home seated).bind fun _ => succeeds_record fun _ => rfl)

theorem Repeatable.buildLayout (again : Repeatable g job w .layout) :
    Succeeds (Generation.buildLayout g) w w s s := by
  refine .afterAnswer answers_workspace rfl ?_
  cases there : w.isThere g.config.layoutPath with
  | true =>
    simp only [Bool.not_true, Bool.false_eq_true, if_false]
    exact succeeds_pure ()
  | false =>
    cases again with
    | layoutThere there' =>
      rw [there] at there'
      cases there'
    | layout default found seated =>
      simp only [Bool.not_false, default, if_true]
      exact .afterAnswer (answers_get g.library "layouts/app") found
        ((succeeds_writeIfMissing tree home seated).bind fun _ => succeeds_record fun _ => rfl)

private theorem succeeds_viewList {views : List String}
    (again : ∀ view ∈ views, Repeatable g job w (viewWork g job filling view)) :
    Succeeds (views.forM (buildView g job.naming filling)) w w s s := by
  induction views with
  | nil => exact succeeds_pure ()
  | cons view views ih =>
    exact ((again view List.mem_cons_self).emit tree home).bind fun _ =>
      ih fun other member => again other (List.mem_cons_of_mem _ member)

theorem Repeatable.buildController
    (again : Repeatable g job w (controllerWork g job)) :
    Succeeds (Generation.buildController g job.naming job.columns) w w s s :=
  (succeeds_say _ _ _).bind fun _ => again.emit tree home

theorem Repeatable.buildModel (again : Repeatable g job w (modelWork g job)) :
    Succeeds (Generation.buildModel g job.naming job.columns job.fields) w w s s :=
  (succeeds_say _ _ _).bind fun _ => (succeeds_say _ _ _).bind fun _ => again.emit tree home

private theorem succeeds_buildViews (fragments : Repeatable g job w (.fragments filling))
    (layout : Repeatable g job w .layout)
    (views : ∀ view ∈ viewNames, Repeatable g job w (viewWork g job filling view)) :
    Succeeds (buildViews g job.naming job.columns job.fields) w w s s := by
  cases fragments with
  | fragments filled =>
    refine (succeeds_say _ _ _).bind fun _ => ?_
    refine .afterAnswer (answers_viewFilling _ _ _ _ _) filled ?_
    exact (layout.buildLayout tree home).bind fun _ => succeeds_viewList tree home views

omit home in
private theorem succeeds_buildRoute {place : Location} {mode : Nat} {old : Bytes}
    (located : w.locate .make g.config.routesPath = .ok place)
    (held : w.entryAt place = some (.file mode old)) (nonempty : old ≠ []) :
    Succeeds (buildRoute g job.naming) w
      (w.set place (.file mode (old ++ encode (job.line g ++ "\n")))) s s := by
  have headless : g.routes.addition old (job.line g) = job.line g ++ "\n" := by
    simp [RouteStyle.addition, nonempty]
  rw [← headless]
  exact (succeeds_say _ _ _).bind fun _ =>
    (succeeds_appendRoute tree located held).bind fun _ => succeeds_record fun _ => rfl

/-- When all its work can be done again, a whole run succeeds and only adds its line. -/
theorem succeeds_build {rules : RuleSet} {request : Request} {columns : List Column} {place : Location}
    {mode : Nat} {old : Bytes} (known : job = .of g rules request columns)
    (again : ∀ work ∈ writings g job filling, Repeatable g job w work)
    (located : w.locate .make g.config.routesPath = .ok place)
    (held : w.entryAt place = some (.file mode old)) (nonempty : old ≠ []) :
    Succeeds (build g rules request columns (g.policy.fields columns)) w
      (w.set place (.file mode (old ++ encode (job.line g ++ "\n")))) .start .done := by
  have controller : Repeatable g job w (controllerWork g job) := again _ (by simp [writings])
  have model : Repeatable g job w (modelWork g job) := again _ (by simp [writings])
  have fragments : Repeatable g job w (.fragments filling) := again _ (by simp [writings])
  have layout : Repeatable g job w .layout := again _ (by simp [writings])
  have views : ∀ view ∈ viewNames, Repeatable g job w (viewWork g job filling view) := by
    intro view member
    refine again _ (List.mem_append_left _ (List.mem_append_right _ ?_))
    exact List.mem_map_of_mem member
  have route : Succeeds (buildRoute g job.naming) w
      (w.set place (.file mode (old ++ encode (job.line g ++ "\n")))) .viewsBuilt .viewsBuilt :=
    succeeds_buildRoute tree located held nonempty
  subst known
  refine (succeeds_advance rfl).bind fun _ => .afterAnswer (answers_recordStep _ _ _) rfl ?_
  refine .afterAnswer ((answers_resolveNames rules request).timed "naming") rfl ?_
  refine .afterAnswer (answers_record (fun _ => rfl) (fun _ => rfl) fun _ => rfl) rfl ?_
  refine (succeeds_advance rfl).bind fun _ => .afterAnswer (answers_recordStep _ _ _) rfl ?_
  refine ((controller.buildController tree home).timed "controller").bind fun _ => ?_
  refine (succeeds_advance rfl).bind fun _ => .afterAnswer (answers_recordStep _ _ _) rfl ?_
  refine ((model.buildModel tree home).timed "model").bind fun _ => ?_
  refine (succeeds_advance rfl).bind fun _ => .afterAnswer (answers_recordStep _ _ _) rfl ?_
  refine ((succeeds_buildViews tree home fragments layout views).timed "views").bind fun _ => ?_
  refine (succeeds_advance rfl).bind fun _ => .afterAnswer (answers_recordStep _ _ _) rfl ?_
  refine (route.timed "route").bind fun _ => ?_
  refine (succeeds_advance rfl).bind fun _ => .afterAnswer (answers_recordStep _ _ _) rfl ?_
  refine (succeeds_advance rfl).bind fun _ => ?_
  refine .afterAnswer (answers_record (fun _ => rfl) (fun _ => rfl) fun _ => rfl) rfl ?_
  exact succeeds_say _ _ _

/-- The same from the beginning, for a request that was answered before. -/
theorem succeeds_generate {rules : RuleSet} {request : Request} {columns : List Column}
    {place : Location} {mode : Nat} {old : Bytes} (selected : rulesIn request.language = .ok rules)
    (found : inspected g request.tableName = .ok (some columns))
    (known : job = .of g rules request columns)
    (again : ∀ work ∈ writings g job filling, Repeatable g job w work)
    (located : w.locate .make g.config.routesPath = .ok place)
    (held : w.entryAt place = some (.file mode old)) (nonempty : old ≠ []) (session : Session)
    (inside : session.workspace = w) :
    ∃ report after, (generate g request).run session = (.ok report, after) ∧
      after.workspace = w.set place (.file mode (old ++ encode (job.line g ++ "\n"))) ∧
      after.report.stage = .done := by
  have looked : (inspected g request.tableName).map
      (·.map fun columns => (columns, g.policy.fields columns)) =
        .ok (some (columns, g.policy.fields columns)) := by
    rw [found]
    rfl
  have goes : Succeeds (generate g request) w
      (w.set place (.file mode (old ++ encode (job.line g ++ "\n")))) session.report.stage .done := by
    refine Succeeds.bind (m := w) (u := .start) (fun _ inside _ => ⟨(), _, rfl, inside, rfl⟩) fun _ => ?_
    refine (succeeds_say _ _ _).bind fun _ => ?_
    refine .afterAnswer (answers_rulesOf request.language) selected ?_
    refine .afterAnswer ((answers_inspect g request.tableName).timed "validate") looked ?_
    refine (succeeds_build tree home known again located held nonempty).bind fun _ => ?_
    exact fun session inside stage => ⟨session.report, session, rfl, inside, stage⟩
  exact goes session inside rfl

end

end Generation

end Scaffold
