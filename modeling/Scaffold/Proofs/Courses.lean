import Scaffold.Proofs.Inputs
import Scaffold.Proofs.Registering

/-! The course of a run once its table is known: one piece of work after another, and an end at the
first one that breaks. Nothing that comes later is begun then. -/
namespace Scaffold

open Files Generation

namespace Standing

/-- The same at another stage. -/
def reached (standing : Standing) (stage : Stage) : Standing :=
  { standing with stage := stage }

/-- The same with one more artifact in the report. -/
def recorded (standing : Standing) (artifact : Artifact) : Standing :=
  { standing with artifacts := standing.artifacts ++ [artifact] }

/-- The same with the line of a route in the report. -/
def registered (standing : Standing) (line : String) : Standing :=
  { standing with routeLine := some line }

/-- The same at the start of a run, with nothing in the report. -/
def fresh (standing : Standing) : Standing :=
  { standing with stage := .start, artifacts := [], routeLine := none }

@[simp] theorem recorded_artifacts (standing : Standing) (artifact : Artifact) :
    (standing.recorded artifact).artifacts = standing.artifacts ++ [artifact] := rfl

end Standing

namespace Generation

open Scaffold.Action Emission Running Schema Template

/-- What a run has found out before it writes anything. -/
structure Job where
  naming : Naming
  columns : List Column
  fields : List Field

/-- One piece of the work of a run. -/
inductive Work where
  | reach (stage : Stage)
  | artifact (label : String) (path : Path) (template : String) (filling : Filling)
  /-- Looking up the templates of the fields, which fill the views. -/
  | fragments (filling : Filling)
  | layout
  | route

variable {g : Generator} {job : Job} {work : Work} {before after middle : Standing}

/-- The line that registers the route of a job. -/
def Job.line (g : Generator) (job : Job) : String :=
  g.routes.line job.naming.routeName (g.config.qualifiedName job.naming)

/-- What a piece of work that is finished means for a session. -/
inductive Finishes (g : Generator) (job : Job) : Work → Standing → Standing → Prop where
  | reach {before : Standing} {stage : Stage} :
      Finishes g job (.reach stage) before (before.reached stage)
  | artifact {before middle : Standing} {label template content : String} {path : Path}
      {filling : Filling} {outcome : Outcome}
      (rendered : contentIn g template filling before.workspace = .ok content)
      (writes : Writes path content outcome before middle) :
      Finishes g job (.artifact label path template filling) before
        (middle.recorded ⟨label, path, outcome⟩)
  | fragments {before : Standing} {filling : Filling}
      (filled : viewFillingIn job.naming g.config job.columns job.fields g.library before.workspace =
        .ok filling) :
      Finishes g job (.fragments filling) before before
  | layoutThere {before : Standing} (there : before.workspace.isThere g.config.layoutPath = true) :
      Finishes g job .layout before before
  | layout {before middle : Standing} {body : String}
      (default : g.config.usesDefaultLayout = true)
      (found : g.library.bodyIn "layouts/app" before.workspace = .ok body)
      (writes : Writes g.config.layoutPath body .created before middle) :
      Finishes g job .layout before (middle.recorded ⟨"Layout", g.config.layoutPath, .created⟩)
  | route {before : Standing} {w' mid : Workspace} {place : Location} {mode : Nat}
      {old : Text.Bytes}
      (adds : Adds g.routes g.config.routesPath (job.line g) before.workspace w' mid place mode old) :
      Finishes g job .route before ((before.within w').registered (job.line g))

/-- Work that is finished adds to the artifacts of the report at most. -/
theorem Finishes.artifacts_prefix (finishes : Finishes g job work before after) :
    before.artifacts <+: after.artifacts := by
  cases finishes with
  | reach | fragments | layoutThere | route => exact List.prefix_rfl
  | artifact _ writes | layout _ _ writes =>
    change before.artifacts <+: _ ++ _
    rw [writes.report.2.1]
    exact List.prefix_append _ _

/-- Work that is finished has made directories and written files, and leaves a tree. -/
theorem Finishes.grows (tree : before.workspace.WellFormed)
    (finishes : Finishes g job work before after) :
    before.workspace.Grows after.workspace ∧ after.workspace.WellFormed := by
  cases finishes with
  | reach | fragments | layoutThere => exact ⟨.refl _, tree⟩
  | artifact _ writes | layout _ _ writes =>
    obtain ⟨grows, midTree⟩ := writes.grows tree
    exact ⟨grows, midTree⟩
  | route adds => exact ⟨adds.grows, adds.tree tree⟩

/-- What a piece of work that breaks leaves, and the failure it breaks with. -/
inductive Breaks (g : Generator) (job : Job) : Work → Failure → Standing → Standing → Prop where
  | template {before : Standing} {label template : String} {path : Path} {filling : Filling}
      {failure : Failure}
      (missing : contentIn g template filling before.workspace = .error failure) :
      Breaks g job (.artifact label path template filling) failure before before
  | artifact {before after : Standing} {label template content : String} {path : Path}
      {filling : Filling} {failure : Failure}
      (rendered : contentIn g template filling before.workspace = .ok content)
      (fails : WriteFails path failure before after) :
      Breaks g job (.artifact label path template filling) failure before after
  | fragments {before : Standing} {filling : Filling} {failure : Failure}
      (missing : viewFillingIn job.naming g.config job.columns job.fields g.library
        before.workspace = .error failure) :
      Breaks g job (.fragments filling) failure before before
  | ownLayout {before : Standing} (own : g.config.usesDefaultLayout = false)
      (absent : before.workspace.isThere g.config.layoutPath = false) :
      Breaks g job .layout (.layoutMissing g.config.layout g.config.layoutPath) before before
  | layoutTemplate {before : Standing} {failure : Failure}
      (missing : g.library.bodyIn "layouts/app" before.workspace = .error failure) :
      Breaks g job .layout failure before before
  | layout {before after : Standing} {body : String} {failure : Failure}
      (found : g.library.bodyIn "layouts/app" before.workspace = .ok body)
      (fails : WriteFails g.config.layoutPath failure before after) :
      Breaks g job .layout failure before after
  | route {before : Standing} {w' : Workspace} {way : Path} {fault : Fault}
      (paves : before.workspace.Paves w' way) :
      Breaks g job .route (refusal (.route g.config.routesPath) fault) before (before.within w')

/-- Work that breaks has made directories at most. -/
theorem Breaks.paves {failure : Failure} (breaks : Breaks g job work failure before after) :
    ∃ way, before.workspace.Paves after.workspace way := by
  cases breaks with
  | template | fragments | ownLayout | layoutTemplate => exact ⟨.current, .refl _ _⟩
  | artifact _ fails | layout _ fails => exact fails.paves
  | route paves => exact ⟨_, paves⟩

/-- A course through some work: all of it is finished in turn, or one piece breaks. -/
inductive Course (g : Generator) (job : Job) :
    List Work → Standing → Except Failure Unit → Standing → Prop where
  | done {standing : Standing} : Course g job [] standing (.ok ()) standing
  | step {work : Work} {rest : List Work} {before middle after : Standing}
      {result : Except Failure Unit} (finishes : Finishes g job work before middle)
      (course : Course g job rest middle result after) :
      Course g job (work :: rest) before result after
  | broken {work : Work} {rest : List Work} {before after : Standing} {failure : Failure}
      (breaks : Breaks g job work failure before after) :
      Course g job (work :: rest) before (.error failure) after

namespace Course

theorem append {works rest : List Work} {result : Except Failure Unit}
    (first : Course g job works before (.ok ()) middle)
    (second : Course g job rest middle result after) :
    Course g job (works ++ rest) before result after := by
  generalize ended : Except.ok () = outcome at first
  induction first with
  | done => exact second
  | step finishes _ ih => exact .step finishes (ih second ended)
  | broken => cases ended

theorem extend {works : List Work} {failure : Failure}
    (course : Course g job works before (.error failure) after) (rest : List Work) :
    Course g job (works ++ rest) before (.error failure) after := by
  generalize ended : Except.error failure = outcome at course
  induction course with
  | done => cases ended
  | step finishes _ ih => exact .step finishes (ih ended)
  | broken breaks => exact .broken breaks

/-- A course that ends with a failure is cut at one piece of work. -/
theorem cut {works : List Work} {failure : Failure}
    (course : Course g job works before (.error failure) after) :
    ∃ finished work rest middle, works = finished ++ work :: rest ∧
      Course g job finished before (.ok ()) middle ∧ Breaks g job work failure middle after := by
  generalize ended : Except.error failure = outcome at course
  induction course with
  | done => cases ended
  | step finishes _ ih =>
    obtain ⟨finished, work, rest, middle, rfl, course, breaks⟩ := ih ended
    exact ⟨_ :: finished, work, rest, middle, rfl, .step finishes course, breaks⟩
  | broken breaks =>
    cases ended
    exact ⟨[], _, _, _, rfl, .done, breaks⟩

/-- A completed course through two parts goes through each of them. -/
theorem split {works rest : List Work}
    (course : Course g job (works ++ rest) before (.ok ()) after) :
    ∃ middle, Course g job works before (.ok ()) middle ∧
      Course g job rest middle (.ok ()) after := by
  induction works generalizing before with
  | nil => exact ⟨before, .done, course⟩
  | cons work works ih =>
    cases course with
    | step finishes course =>
      obtain ⟨middle, first, second⟩ := ih course
      exact ⟨middle, .step finishes first, second⟩

/-- A course only adds to the artifacts of the report. -/
theorem artifacts_prefix {works : List Work}
    (course : Course g job works before (.ok ()) after) : before.artifacts <+: after.artifacts := by
  generalize ended : Except.ok () = outcome at course
  induction course with
  | done => exact List.prefix_rfl
  | step finishes _ ih => exact finishes.artifacts_prefix.trans (ih ended)
  | broken => cases ended

/-- A course is growth. -/
theorem grows {works : List Work} (tree : before.workspace.WellFormed)
    (course : Course g job works before (.ok ()) after) :
    before.workspace.Grows after.workspace ∧ after.workspace.WellFormed := by
  generalize ended : Except.ok () = outcome at course
  induction course with
  | done => exact ⟨.refl _, tree⟩
  | step finishes _ ih =>
    obtain ⟨first, midTree⟩ := finishes.grows tree
    obtain ⟨second, last⟩ := ih midTree ended
    exact ⟨first.trans second, last⟩
  | broken => cases ended

/-- A completed course comes by every piece of its work. -/
theorem visits {works : List Work} (course : Course g job works before (.ok ()) after)
    (member : work ∈ works) :
    ∃ first rest here next, works = first ++ work :: rest ∧ Course g job first before (.ok ()) here ∧
      Finishes g job work here next ∧ Course g job rest next (.ok ()) after := by
  obtain ⟨first, rest, rfl⟩ := List.append_of_mem member
  obtain ⟨here, start, onward⟩ := course.split
  cases onward with
  | step finishes onward => exact ⟨first, rest, here, _, rfl, start, finishes, onward⟩

/-- Going on to a stage never breaks. -/
theorem reached {stage : Stage} {result : Except Failure Unit}
    (course : Course g job [.reach stage] before result after) :
    result = .ok () ∧ after = before.reached stage := by
  generalize same : [Work.reach stage] = works at course
  cases course with
  | done => cases same
  | step finishes course =>
    cases same
    cases finishes
    cases course
    exact ⟨rfl, rfl⟩
  | broken breaks =>
    cases same
    cases breaks

end Course

end Generation

end Scaffold
