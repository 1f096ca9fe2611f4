import Scaffold.Proofs.Names

/-! Growth that is confined to some paths: every file is written where one of them leads, and every
new directory lies on the way there. The work of a run is confined to its own paths, so that work on
paths that lie apart does not disturb other work. -/
namespace Scaffold

open Files Files.Workspace

namespace Files.Workspace

variable {w mid now : Workspace} {paths rest : List Path} {path other : Path} {place goal : Location}

/-- Growth whose files and directories all belong to some paths. -/
structure Confined (w : Workspace) (paths : List Path) (now : Workspace) : Prop where
  tree : now.WellFormed
  extends_ : w.Extends now
  others : ∀ {place}, (∀ path ∈ paths, ¬ w.LeadsTo false path place) →
    now.entryAt place = w.entryAt place ∨
      w.entryAt place = none ∧ now.entryAt place = some .directory ∧
        ∃ path ∈ paths, ∃ goal, w.LeadsTo false path goal ∧ place <+: goal

theorem Confined.refl (tree : w.WellFormed) (paths : List Path) : w.Confined paths w :=
  ⟨tree, .refl w, fun _ => .inl rfl⟩

theorem Confined.mono (confined : w.Confined paths now) (among : ∀ path ∈ paths, path ∈ rest) :
    w.Confined rest now := by
  refine ⟨confined.tree, confined.extends_, fun {place} off => ?_⟩
  rcases confined.others fun path member => off path (among path member) with
    same | ⟨missing, made, path, member, onWay⟩
  · exact .inl same
  · exact .inr ⟨missing, made, path, among path member, onWay⟩

theorem Confined.trans (first : w.Confined paths mid) (second : mid.Confined rest now) :
    w.Confined (paths ++ rest) now := by
  refine ⟨second.tree, first.extends_.trans second.extends_, fun {place} off => ?_⟩
  have offFirst : ∀ path ∈ paths, ¬ w.LeadsTo false path place :=
    fun path member => off path (List.mem_append_left _ member)
  have offSecond : ∀ path ∈ rest, ¬ mid.LeadsTo false path place := fun path member leads =>
    off path (List.mem_append_right _ member) (leads.back first.extends_)
  rcases second.others offSecond with same | ⟨missing, made, path, member, goal, leads, onWay⟩
  · rw [same]
    rcases first.others offFirst with same | ⟨missing, made, path, member, onWay⟩
    · exact .inl same
    · exact .inr ⟨missing, made, path, List.mem_append_left _ member, onWay⟩
  · rcases first.others offFirst with same | ⟨_, made', _⟩
    · exact .inr ⟨same ▸ missing, made, path, List.mem_append_right _ member, goal,
        leads.back first.extends_, onWay⟩
    · rw [missing] at made'
      cases made'

/-- What is delivered to a path is confined to it. -/
theorem Delivers.confined {bytes : Text.Bytes} (tree : w.WellFormed)
    (leads : w.LeadsTo false path goal) (delivers : w.Delivers now goal bytes) :
    w.Confined [path] now := by
  have plain : ∀ target, w.entryAt goal ≠ some (.link target) :=
    fun target => (leads.settled tree).clear List.prefix_rfl
  refine ⟨delivers.tree, delivers.extends plain, fun {place} off => ?_⟩
  have different : place ≠ goal := by
    rintro rfl
    exact off path List.mem_cons_self leads
  rcases delivers.others different with same | ⟨missing, made, rest, split⟩
  · exact .inl same
  · exact .inr ⟨missing, made, path, List.mem_cons_self, goal, leads, rest, split.symm⟩

/-- Two paths that lead to different places, neither of which lies on the way to the other. -/
def Apart (w : Workspace) (path other : Path) : Prop :=
  ∀ place goal, w.LeadsTo false path place → w.LeadsTo false other goal →
    ¬ place <+: goal ∧ ¬ goal <+: place

theorem Apart.symm (apart : w.Apart path other) : w.Apart other path :=
  fun place goal leads leads' => (apart goal place leads' leads).symm

theorem Apart.forth (extends_ : w.Extends now) (apart : w.Apart path other) :
    now.Apart path other :=
  fun place goal leads leads' => apart place goal (leads.back extends_) (leads'.back extends_)

/-- What is at the end of a path stays as it is under growth at paths that lie apart. -/
theorem Confined.entryAt_eq (confined : w.Confined paths now) (leads : w.LeadsTo false path place)
    (apart : ∀ other ∈ paths, w.Apart path other) : now.entryAt place = w.entryAt place := by
  have off : ∀ other ∈ paths, ¬ w.LeadsTo false other place := fun other member leads' =>
    (apart other member place place leads leads').1 List.prefix_rfl
  rcases confined.others off with same | ⟨_, _, other, member, goal, leads', onWay⟩
  · exact same
  · exact absurd onWay (apart other member place goal leads leads').1

/-- Such growth does not change whether a path leads to anything. -/
theorem Confined.isThere_eq (tree : w.WellFormed) (confined : w.Confined paths now)
    (leads : w.LeadsTo false path place) (apart : ∀ other ∈ paths, w.Apart path other) :
    now.isThere path = w.isThere path := by
  cases there : w.isThere path with
  | true => exact isThere_forth confined.extends_ there
  | false =>
    by_contra seen
    have seen : now.isThere path = true := by simpa using seen
    rcases isThere_back tree confined.extends_ leads seen with formerly | ⟨missing, found⟩
    · rw [there] at formerly
      cases formerly
    · rw [confined.entryAt_eq leads apart] at found
      exact found missing

/-- Paths that lead somewhere, each apart from all others. -/
structure Separate (w : Workspace) (paths : List Path) : Prop where
  straight : ∀ path ∈ paths, ∃ place, w.LeadsTo false path place
  apart : paths.Pairwise w.Apart

theorem Separate.forth (extends_ : w.Extends now) (separate : w.Separate paths) :
    now.Separate paths where
  straight path member := by
    obtain ⟨place, leads⟩ := separate.straight path member
    exact ⟨place, leads.forth extends_⟩
  apart := separate.apart.imp (Apart.forth extends_)

theorem Separate.of_sublist (separate : w.Separate paths) (within : rest.Sublist paths) :
    w.Separate rest where
  straight path member := separate.straight path (within.subset member)
  apart := separate.apart.sublist within

/-- Paths that lead to their own names lie apart as their names do. -/
theorem separate_of_names (leads : ∀ path ∈ paths, w.LeadsTo false path path.names)
    (apart : paths.Pairwise fun path other =>
      ¬ path.names <+: other.names ∧ ¬ other.names <+: path.names) : w.Separate paths where
  straight path member := ⟨path.names, leads path member⟩
  apart := by
    apply apart.imp_of_mem
    intro path other member among different place goal toPlace toGoal
    rw [Leads.unique toPlace (leads path member), Leads.unique toGoal (leads other among)]
    exact different

end Files.Workspace

namespace Generation

open Emission Template

variable {g : Generator} {job : Job} {work : Work} {pieces : List Work} {filling : Filling}
  {before after : Standing} {path : Path} {place : Location}

theorem pathsOf_proper (filling : Filling) :
    ∀ path ∈ pathsOf g (works g job filling), path.Proper := by
  intro path member
  rw [pathsOf_works] at member
  rcases List.mem_append.mp member with target | routes
  · exact targets_proper g job.naming path target
  · rw [List.mem_singleton.mp routes]
    exact Config.proper_resolved _

/-- Writing a file is confined to its path. -/
theorem Writes.confined {text : String} {outcome : Outcome} (tree : before.workspace.WellFormed)
    (proper : path.Proper) (leads : before.workspace.LeadsTo false path place)
    (writes : Writes path text outcome before after) :
    before.workspace.Confined [path] after.workspace := by
  cases writes with
  | skipped => exact .refl tree _
  | overwritten _ _ puts | created _ puts =>
    obtain ⟨left, mid, there, mode, puts⟩ := puts
    exact (puts.delivers tree proper leads).confined tree leads

/-- Work that is finished is confined to its path. -/
theorem Finishes.confined (tree : before.workspace.WellFormed)
    (proper : ∀ path ∈ pathsOf g [work], path.Proper)
    (separate : before.workspace.Separate (pathsOf g [work]))
    (finishes : Finishes g job work before after) :
    before.workspace.Confined (pathsOf g [work]) after.workspace := by
  cases finishes with
  | reach | fragments | layoutThere => exact .refl tree _
  | artifact _ writes | layout _ _ writes =>
    obtain ⟨place, leads⟩ := separate.straight _ List.mem_cons_self
    have confined := Writes.confined tree (proper _ List.mem_cons_self) leads writes
    exact confined
  | route adds =>
    obtain ⟨place, leads⟩ := separate.straight _ List.mem_cons_self
    exact (adds.delivers tree (proper _ List.mem_cons_self) leads).2.confined tree leads

/-- A course is confined to the paths of its work. -/
theorem Course.confined (tree : before.workspace.WellFormed)
    (proper : ∀ path ∈ pathsOf g pieces, path.Proper)
    (separate : before.workspace.Separate (pathsOf g pieces))
    (course : Course g job pieces before (.ok ()) after) :
    before.workspace.Confined (pathsOf g pieces) after.workspace := by
  generalize ended : Except.ok () = outcome at course
  induction course with
  | done => exact .refl tree _
  | @step work rest before middle _ _ finishes _ ih =>
    rw [pathsOf_cons] at proper separate ⊢
    have here := separate.of_sublist (List.sublist_append_left _ _)
    have onward := separate.of_sublist (List.sublist_append_right _ _)
    have first : before.workspace.Confined (pathsOf g [work]) middle.workspace :=
      finishes.confined tree (fun path member => proper path (List.mem_append_left _ member)) here
    have second := ih first.tree (fun path member => proper path (List.mem_append_right _ member))
      (onward.forth first.extends_) ended
    exact first.trans second
  | broken => cases ended

/-- One piece of work in the middle of a completed course: it is finished between two standings, and
what is at the end of its path changes there alone. -/
structure Visit (g : Generator) (job : Job) (pieces : List Work) (work : Work)
    (before here next after : Standing) : Prop where
  member : work ∈ pieces
  tree : here.workspace.WellFormed
  confined : before.workspace.Confined (pathsOf g pieces) here.workspace
  finishes : Finishes g job work here next
  undisturbed : ∀ path ∈ pathsOf g [work], ∀ place, before.workspace.LeadsTo false path place →
    here.workspace.entryAt place = before.workspace.entryAt place ∧
      here.workspace.isThere path = before.workspace.isThere path ∧
      after.workspace.entryAt place = next.workspace.entryAt place

/-- No other work of a course disturbs a piece of it. -/
theorem Course.visit {first rest : List Work} {here next : Standing}
    (tree : before.workspace.WellFormed)
    (proper : ∀ path ∈ pathsOf g (first ++ work :: rest), path.Proper)
    (separate : before.workspace.Separate (pathsOf g (first ++ work :: rest)))
    (start : Course g job first before (.ok ()) here) (finishes : Finishes g job work here next)
    (onward : Course g job rest next (.ok ()) after) :
    Visit g job (first ++ work :: rest) work before here next after := by
  have split : pathsOf g (first ++ work :: rest) =
      pathsOf g first ++ (pathsOf g [work] ++ pathsOf g rest) := by
    rw [pathsOf_append, pathsOf_cons]
  rw [split] at proper separate
  obtain ⟨-, apartLater, apartFirst⟩ := List.pairwise_append.mp separate.apart
  obtain ⟨-, -, apartRest⟩ := List.pairwise_append.mp apartLater
  have early := start.confined tree (fun path among => proper path (List.mem_append_left _ among))
    (separate.of_sublist (List.sublist_append_left _ _))
  have later := (separate.of_sublist (List.sublist_append_right _ _)).forth early.extends_
  have now := finishes.confined early.tree
    (fun path among => proper path (List.mem_append_right _ (List.mem_append_left _ among)))
    (later.of_sublist (List.sublist_append_left _ _))
  have last := onward.confined now.tree
    (fun path among => proper path (List.mem_append_right _ (List.mem_append_right _ among)))
    ((later.of_sublist (List.sublist_append_right _ _)).forth now.extends_)
  refine ⟨List.mem_append_right _ List.mem_cons_self, early.tree, ?_, finishes, ?_⟩
  · apply early.mono
    intro path among
    rw [split]
    exact List.mem_append_left _ among
  · intro path among place leads
    have apart : ∀ other ∈ pathsOf g first, before.workspace.Apart path other :=
      fun other among' => (apartFirst other among' path (List.mem_append_left _ among)).symm
    have apartLast : ∀ other ∈ pathsOf g rest, next.workspace.Apart path other :=
      fun other among' => (apartRest path among other among').forth
        (early.extends_.trans now.extends_)
    exact ⟨early.entryAt_eq leads apart, early.isThere_eq tree leads apart,
      last.entryAt_eq ((leads.forth early.extends_).forth now.extends_) apartLast⟩

/-- A completed course comes by every piece of its work. -/
theorem Course.comes_by (tree : before.workspace.WellFormed)
    (proper : ∀ path ∈ pathsOf g pieces, path.Proper)
    (separate : before.workspace.Separate (pathsOf g pieces))
    (course : Course g job pieces before (.ok ()) after) (member : work ∈ pieces) :
    ∃ here next, Visit g job pieces work before here next after := by
  obtain ⟨first, rest, here, next, rfl, start, finishes, onward⟩ := course.visits member
  exact ⟨here, next, start.visit tree proper separate finishes onward⟩

/-- Every artifact of the report was recorded by a piece of the work. -/
theorem Course.records {artifact : Artifact} (course : Course g job pieces before (.ok ()) after)
    (member : artifact ∈ after.artifacts) : artifact ∈ before.artifacts ∨
      ∃ first work rest here next, pieces = first ++ work :: rest ∧
        Course g job first before (.ok ()) here ∧ Finishes g job work here next ∧
        Course g job rest next (.ok ()) after ∧ next.artifacts = here.artifacts ++ [artifact] := by
  generalize ended : Except.ok () = outcome at course
  induction course with
  | done => exact .inl member
  | @step work rest before middle after _ finishes onward ih =>
    subst ended
    rcases ih member rfl with among | ⟨first, work', rest', here, next, rfl, start, later⟩
    · have added : middle.artifacts = before.artifacts ∨
          ∃ made, middle.artifacts = before.artifacts ++ [made] := by
        cases finishes with
        | reach | fragments | layoutThere | route => exact .inl rfl
        | artifact _ writes | layout _ _ writes =>
          exact .inr ⟨_, congrArg (· ++ [_]) writes.report.2.1⟩
      rcases added with same | ⟨made, added⟩
      · exact .inl (same ▸ among)
      · rw [added] at among
        rcases List.mem_append.mp among with old | new
        · exact .inl old
        · obtain rfl := List.mem_singleton.mp new
          exact .inr ⟨[], work, rest, before, middle, rfl, .done, finishes, onward, added⟩
    · exact .inr ⟨work :: first, work', rest', here, next, rfl, .step finishes start, later⟩
  | broken => cases ended

end Generation

end Scaffold
