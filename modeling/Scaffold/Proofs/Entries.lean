import Mathlib.Data.List.Basic
import Mathlib.Data.List.Infix
import Scaffold.Files.Change
import Scaffold.Proofs.Ordered

/-! What is where in a workspace, and what a change leaves alone. A workspace only ever grows:
directories stay directories, files stay files, and no link comes into being. Whatever is said later
about a run is said in terms of these relations between the workspace before and after. -/
namespace Scaffold.Files.Workspace

variable {w w' w'' : Workspace} {place other : Location} {entry : Entry}

@[simp] theorem entryAt_root (w : Workspace) : w.entryAt [] = some .directory := rfl

theorem entryAt_set (w : Workspace) (place other : Location) (entry : Entry) :
    (w.set place entry).entryAt other =
      if other ≠ [] ∧ other = place then some entry else w.entryAt other := by
  cases other with
  | nil => simp
  | cons name rest =>
    simp only [entryAt, set, List.isEmpty_cons, Bool.false_eq_true, ↓reduceIte, Data.lookup_put,
      ne_eq, reduceCtorEq, not_false_eq_true, true_and]

theorem entryAt_set_self (real : place ≠ []) : (w.set place entry).entryAt place = some entry := by
  simp [entryAt_set, real]

theorem entryAt_set_ne (different : other ≠ place) :
    (w.set place entry).entryAt other = w.entryAt other := by
  simp [entryAt_set, different]

@[simp] theorem home_set (w : Workspace) (place : Location) (entry : Entry) :
    (w.set place entry).home = w.home := rfl

theorem mem_of_entryAt (found : w.entryAt place = some entry) (real : place ≠ []) :
    (place, entry) ∈ w.entries := by
  have looked : w.entries.lookup place = some entry := by
    simpa [entryAt, real] using found
  exact Data.mem_of_lookup looked

/-- Putting something at a place that nothing has, and taking it away again, changes nothing. -/
theorem erase_set_of_new (new : ∀ known ∈ w.entries, known.1 ≠ place) :
    (w.set place entry).erase place = w := by
  have kept : w.entries.filter (fun known => known.1 != place) = w.entries :=
    List.filter_eq_self.mpr fun known member => by simpa using new known member
  cases w
  simp only [set, erase, Data.put_of_new new, List.filter_append, kept]
  simp

/-! ## Growth -/

/-- One workspace comes from another by making directories. -/
structure Widens (w w' : Workspace) : Prop where
  home : w'.home = w.home
  entries : ∀ place, w'.entryAt place = w.entryAt place ∨
    (w.entryAt place = none ∧ w'.entryAt place = some .directory)

/-- One workspace comes from another by making directories, and by writing files over files, in new
places, and over links. -/
structure Grows (w w' : Workspace) : Prop where
  home : w'.home = w.home
  directory : ∀ {place}, w.entryAt place = some .directory → w'.entryAt place = some .directory
  file : ∀ {place mode bytes}, w.entryAt place = some (.file mode bytes) →
    ∃ mode bytes, w'.entryAt place = some (.file mode bytes)
  link : ∀ {place target}, w.entryAt place = some (.link target) →
    w'.entryAt place = some (.link target) ∨ ∃ mode bytes, w'.entryAt place = some (.file mode bytes)
  noNewLink : ∀ {place target}, w'.entryAt place = some (.link target) →
    w.entryAt place = some (.link target)

/-- Growth that leaves every link as it is. -/
structure Extends (w w' : Workspace) : Prop extends Grows w w' where
  links : ∀ {place target}, w.entryAt place = some (.link target) →
    w'.entryAt place = some (.link target)

theorem Widens.refl (w : Workspace) : w.Widens w := ⟨rfl, fun _ => .inl rfl⟩

theorem Widens.trans (first : w.Widens w') (second : w'.Widens w'') : w.Widens w'' := by
  refine ⟨second.home.trans first.home, ?_⟩
  intro place
  rcases second.entries place with same | ⟨missing, made⟩
  · rw [same]
    exact first.entries place
  · rcases first.entries place with same | ⟨_, made'⟩
    · exact .inr ⟨same ▸ missing, made⟩
    · rw [missing] at made'
      cases made'

/-- What is there stays as it is when directories are made. -/
theorem Widens.keeps (widens : w.Widens w') (found : w.entryAt place = some entry) :
    w'.entryAt place = some entry := by
  rcases widens.entries place with same | ⟨missing, _⟩
  · exact same.trans found
  · rw [missing] at found
    cases found

/-- What is there afterwards and is no directory was there before. -/
theorem Widens.only (widens : w.Widens w') (found : w'.entryAt place = some entry)
    (solid : entry ≠ .directory) : w.entryAt place = some entry := by
  rcases widens.entries place with same | ⟨_, made⟩
  · exact same.symm.trans found
  · rw [made] at found
    cases found
    exact absurd rfl solid

/-- Where there is no directory afterwards, all is as it was. -/
theorem Widens.entryAt_eq (widens : w.Widens w') (solid : w'.entryAt place ≠ some .directory) :
    w'.entryAt place = w.entryAt place := by
  rcases widens.entries place with same | ⟨_, made⟩
  · exact same
  · exact absurd made solid

theorem Widens.extends (widens : w.Widens w') : w.Extends w' where
  home := widens.home
  directory := widens.keeps
  file found := ⟨_, _, widens.keeps found⟩
  link found := .inl (widens.keeps found)
  noNewLink found := widens.only found (by simp)
  links := widens.keeps

theorem widens_set_directory (missing : w.entryAt place = none) :
    w.Widens (w.set place .directory) := by
  refine ⟨rfl, ?_⟩
  intro other
  by_cases same : other = place
  · subst same
    exact .inr ⟨missing, entryAt_set_self (by rintro rfl; simp at missing)⟩
  · exact .inl (entryAt_set_ne same)

theorem Grows.refl (w : Workspace) : w.Grows w :=
  ⟨rfl, id, fun found => ⟨_, _, found⟩, .inl, id⟩

theorem Grows.trans (first : w.Grows w') (second : w'.Grows w'') : w.Grows w'' where
  home := second.home.trans first.home
  directory found := second.directory (first.directory found)
  file found := by
    obtain ⟨mode, bytes, found⟩ := first.file found
    exact second.file found
  link found := by
    rcases first.link found with found | ⟨mode, bytes, found⟩
    · exact second.link found
    · exact .inr (second.file found)
  noNewLink found := first.noNewLink (second.noNewLink found)

theorem Extends.refl (w : Workspace) : w.Extends w := ⟨.refl w, id⟩

theorem Extends.trans (first : w.Extends w') (second : w'.Extends w'') : w.Extends w'' :=
  ⟨first.toGrows.trans second.toGrows, fun found => second.links (first.links found)⟩

/-- Extending changes which places hold a link not at all. -/
theorem Extends.link_iff (extends_ : w.Extends w') {target : String} :
    w'.entryAt place = some (.link target) ↔ w.entryAt place = some (.link target) :=
  ⟨extends_.noNewLink, extends_.links⟩

/-- Writing a file anywhere but over a directory is growth. -/
theorem grows_set_file (solid : w.entryAt place ≠ some .directory) {mode : Nat}
    {bytes : Text.Bytes} : w.Grows (w.set place (.file mode bytes)) where
  home := rfl
  directory found := by
    rw [entryAt_set_ne]
    · exact found
    · rintro rfl
      exact solid found
  file {other} _ _ found := by
    by_cases same : other = place
    · subst same
      exact ⟨_, _, entryAt_set_self (by rintro rfl; simp at found)⟩
    · exact ⟨_, _, (entryAt_set_ne same).trans found⟩
  link {other} _ found := by
    by_cases same : other = place
    · subst same
      exact .inr ⟨_, _, entryAt_set_self (by rintro rfl; simp at found)⟩
    · exact .inl ((entryAt_set_ne same).trans found)
  noNewLink {other} _ found := by
    rw [entryAt_set] at found
    split at found
    · cases found
    · exact found

/-- Writing a file where nothing is, or over a file, leaves all links alone. -/
theorem extends_set_file (solid : w.entryAt place ≠ some .directory)
    (noLink : ∀ target, w.entryAt place ≠ some (.link target)) {mode : Nat} {bytes : Text.Bytes} :
    w.Extends (w.set place (.file mode bytes)) :=
  ⟨grows_set_file solid, fun {other target} found => by
    rw [entryAt_set_ne]
    · exact found
    · rintro rfl
      exact noLink target found⟩

/-! ## Trees -/

/-- Names that lead nowhere of their own. -/
def isRealName (name : String) : Prop :=
  isPause name = false ∧ name ≠ ".."

instance : DecidablePred isRealName := fun _ => inferInstanceAs (Decidable (_ ∧ _))

/-- Every entry has a real name in a directory, and so has the current directory. -/
structure WellFormed (w : Workspace) : Prop where
  parent : ∀ {place name}, w.entryAt (place ++ [name]) ≠ none → w.entryAt place = some .directory
  name : ∀ {place name}, w.entryAt (place ++ [name]) ≠ none → isRealName name
  home : w.entryAt w.home = some .directory

/-- Nothing is below what is not a directory. -/
theorem WellFormed.below (tree : w.WellFormed) (bare : w.entryAt place ≠ some .directory)
    (name : String) : w.entryAt (place ++ [name]) = none := by
  by_contra there
  exact bare (tree.parent there)

/-- The places on the way to an entry are directories. -/
theorem WellFormed.above (tree : w.WellFormed) {front rest : Location}
    (found : w.entryAt (front ++ rest) ≠ none) (proper : rest ≠ []) :
    w.entryAt front = some .directory := by
  induction rest using List.reverseRecOn with
  | nil => exact absurd rfl proper
  | append_singleton init name ih =>
    rw [← List.append_assoc] at found
    have parent := tree.parent found
    rcases List.eq_nil_or_concat' init with rfl | ⟨_, _, rfl⟩
    · simpa using parent
    · exact ih (by rw [parent]; simp) (by simp)

/-- A new entry with a real name in a directory, or one in the place of what is no directory, leaves
a tree. -/
theorem WellFormed.set (tree : w.WellFormed) (solid : w.entryAt place ≠ some .directory)
    (spot : w.entryAt place = none → ∃ parent name, place = parent ++ [name] ∧ isRealName name ∧
      w.entryAt parent = some .directory) (entry : Entry) : (w.set place entry).WellFormed := by
  have there : ∃ parent name, place = parent ++ [name] ∧ isRealName name ∧
      w.entryAt parent = some .directory := by
    by_cases free : w.entryAt place = none
    · exact spot free
    · rcases List.eq_nil_or_concat' place with rfl | ⟨parent, name, rfl⟩
      · exact absurd (entryAt_root w) solid
      · exact ⟨parent, name, rfl, tree.name free, tree.parent free⟩
  obtain ⟨parent, name, rfl, real, inside⟩ := there
  have kept : ∀ {other}, w.entryAt other = some .directory →
      (w.set (parent ++ [name]) entry).entryAt other = some .directory := by
    intro other found
    rw [entryAt_set_ne]
    · exact found
    · rintro rfl
      exact solid found
  refine ⟨fun {front last} found => ?_, fun {front last} found => ?_, kept tree.home⟩
  · by_cases same : front ++ [last] = parent ++ [name]
    · obtain ⟨rfl, -⟩ := List.append_inj' same rfl
      exact kept inside
    · rw [entryAt_set_ne same] at found
      exact kept (tree.parent found)
  · by_cases same : front ++ [last] = parent ++ [name]
    · obtain ⟨-, last⟩ := List.append_inj' same rfl
      cases last
      exact real
    · rw [entryAt_set_ne same] at found
      exact tree.name found

/-- A workspace is a tree when every entry that is listed is in place. -/
theorem WellFormed.of_entries (home : w.entryAt w.home = some .directory)
    (each : ∀ known ∈ w.entries, w.entryAt known.1.dropLast = some .directory ∧
      isRealName (known.1.getLast?.getD "")) : w.WellFormed := by
  have listed : ∀ {place name}, w.entryAt (place ++ [name]) ≠ none →
      w.entryAt place = some .directory ∧ isRealName name := by
    intro place name there
    obtain ⟨entry, found⟩ := Option.ne_none_iff_exists'.mp there
    simpa using each _ (mem_of_entryAt found (by simp))
  exact ⟨fun there => (listed there).1, fun there => (listed there).2, home⟩

end Scaffold.Files.Workspace
