import Scaffold.Proofs.Running
import Scaffold.Proofs.Settling

/-! What each change of a workspace can do. A change that is refused has made directories at most;
a replacement that succeeds has put one file at one place, and its staged file is gone. -/
namespace Scaffold.Files

open Text Running

namespace Workspace

variable {w w' w'' : Workspace} {path : Path} {place : Location}

/-- Making directories on the way of a path: each of them is where the first names of it lead. -/
structure Paves (w w' : Workspace) (path : Path) : Prop extends Widens w w' where
  tree : w.WellFormed → w'.WellFormed
  onWay : ∀ {place}, w.entryAt place = none → w'.entryAt place = some .directory →
    ∃ front, front <+: path.names ∧ w.LeadsTo true ⟨path.start, front⟩ place

theorem Paves.refl (w : Workspace) (path : Path) : w.Paves w path :=
  ⟨.refl w, id, fun missing made => by rw [missing] at made; cases made⟩

theorem base_congr (home : w'.home = w.home) (path : Path) : w'.base path = w.base path := by
  simp only [base, home]

theorem LeadsTo.forth {ups : Bool} (extends_ : w.Extends w') (leads : w.LeadsTo ups path place) :
    w'.LeadsTo ups path place := by
  unfold LeadsTo
  rw [base_congr extends_.home]
  exact Leads.forth extends_ leads

theorem LeadsTo.back {ups : Bool} (extends_ : w.Extends w') (leads : w'.LeadsTo ups path place) :
    w.LeadsTo ups path place := by
  unfold LeadsTo at leads
  rw [base_congr extends_.home] at leads
  exact Leads.back extends_ leads

theorem Paves.trans (first : w.Paves w' path) (second : w'.Paves w'' path) : w.Paves w'' path where
  toWidens := first.toWidens.trans second.toWidens
  tree := second.tree ∘ first.tree
  onWay := by
    intro place missing made
    rcases first.entries place with same | ⟨_, made'⟩
    · obtain ⟨front, before, leads⟩ := second.onWay (same.trans missing) made
      exact ⟨front, before, leads.back first.extends⟩
    · exact first.onWay missing made'

/-- Paving the way of the first names of a path is paving its own. -/
theorem Paves.longer {start : Start} {front names : List String} (before : front <+: names)
    (paves : w.Paves w' ⟨start, front⟩) : w.Paves w' ⟨start, names⟩ where
  toWidens := paves.toWidens
  tree := paves.tree
  onWay missing made := by
    obtain ⟨first, within, leads⟩ := paves.onWay missing made
    exact ⟨first, within.trans before, leads⟩

theorem WellFormed.directory_base (tree : w.WellFormed) (path : Path) :
    w.entryAt (w.base path) = some .directory := by
  unfold base
  split
  · exact entryAt_root w
  · exact tree.home

theorem locate_walks {atEnd : AtEnd} (located : w.locate atEnd path = .ok place) :
    w.Walks atEnd linkLimit (w.base path) path.names place := by
  unfold locate at located
  split at located
  · cases located
  · exact walks_of_walk located

theorem locate_of_walks {atEnd : AtEnd} (clean : path.hasNull = false)
    (walks : w.Walks atEnd linkLimit (w.base path) path.names place) :
    w.locate atEnd path = .ok place := by
  unfold locate
  rw [clean]
  exact walk_of_walks walks

theorem hasNull_of_locate {atEnd : AtEnd} (located : w.locate atEnd path = .ok place) :
    path.hasNull = false := by
  unfold locate at located
  split at located
  · cases located
  · simpa using ‹¬path.hasNull = true›

/-- Where a path is found, there it leads, unless a link is found. -/
theorem leadsTo_of_locate {atEnd : AtEnd} (located : w.locate atEnd path = .ok place)
    (plain : atEnd = .stay → ∀ target, w.entryAt place ≠ some (.link target)) :
    w.LeadsTo true path place :=
  (locate_walks located).leads plain

theorem locate_forth {atEnd : AtEnd} (extends_ : w.Extends w')
    (located : w.locate atEnd path = .ok place) : w'.locate atEnd path = .ok place := by
  refine locate_of_walks (hasNull_of_locate located) ?_
  rw [base_congr extends_.home]
  exact (locate_walks located).forth extends_

theorem locate_back {atEnd : AtEnd} {other : Location} (tree : w.WellFormed)
    (extends_ : w.Extends w') (leads : w.LeadsTo false path other)
    (located : w'.locate atEnd path = .ok place) (old : w.entryAt place ≠ none) :
    w.locate atEnd path = .ok place := by
  refine locate_of_walks (hasNull_of_locate located) ?_
  have walks := locate_walks located
  rw [base_congr extends_.home] at walks
  exact walks.back tree extends_ leads old

end Workspace

namespace Change

open Workspace

variable {w w' : Workspace} {path : Path} {place : Location}

theorem ask_run (question : Workspace → Except Fault α) (w : Workspace) :
    (ask question).run w = (question w, w) := by
  simp only [ask, run_bind, run_get]
  cases question w <;> rfl

/-! ## Directories -/

theorem makeDirectory_run (path : Path) (w : Workspace) :
    (makeDirectory path).run w =
      match w.locate .stay path with
      | .error fault => (.error fault, w)
      | .ok place =>
        if path.names.getLast?.getD ".." == ".." || (w.entryAt place).isSome then (.error .exists, w)
        else (.ok (), w.set place .directory) := by
  simp only [makeDirectory, run_bind, ask_run]
  cases w.locate .stay path with
  | error fault => rfl
  | ok place =>
    simp only [run_get]
    split <;> rfl

private theorem makeDirectory_paves {result : Except Fault Unit}
    (ran : (makeDirectory path).run w = (result, w')) : w.Paves w' path := by
  rw [makeDirectory_run] at ran
  split at ran
  · cases ran
    exact .refl _ _
  · rename_i place located
    split at ran
    · cases ran
      exact .refl _ _
    · rename_i free
      cases ran
      simp only [Bool.or_eq_true, not_or, Bool.not_eq_true, Option.isSome_eq_false_iff,
        Option.isNone_iff_eq_none] at free
      refine ⟨widens_set_directory free.2, fun tree => ?_, fun {other} missing made => ?_⟩
      · exact tree.set (by simp [free.2])
          ((locate_walks located).spot tree (tree.directory_base path)) _
      have same : other = place := by
        by_contra different
        rw [entryAt_set_ne different, missing] at made
        cases made
      subst same
      exact ⟨path.names, List.prefix_rfl, leadsTo_of_locate located (by simp [missing])⟩

private theorem unlessDirectory_run (path : Path) (fault : Fault) (w : Workspace) :
    ∃ result, (unlessDirectory path fault).run w = (result, w) := by
  simp only [unlessDirectory, run_bind, run_get]
  split <;> exact ⟨_, rfl⟩

private theorem makeAll_paves (start : Start) {names : List String} {result : Except Fault Unit}
    (ran : (makeAll start names).run w = (result, w')) : w.Paves w' ⟨start, names.reverse⟩ := by
  induction names generalizing w w' result with
  | nil =>
    obtain ⟨_, same⟩ := unlessDirectory_run ⟨start, []⟩ .exists w
    rw [makeAll, same] at ran
    cases ran
    exact .refl _ _
  | cons name rest ih =>
    rw [makeAll, run_tryCatch] at ran
    cases first : (makeDirectory ⟨start, (name :: rest).reverse⟩).run w with
    | mk outcome middle =>
    have paved := makeDirectory_paves first
    rw [first] at ran
    cases outcome with
    | ok _ =>
      cases ran
      exact paved
    | error fault =>
      dsimp only at ran
      split at ran
      · rw [run_bind] at ran
        cases parents : (makeAll start rest).run middle with
        | mk outcome above =>
        have shorter : rest.reverse <+: (name :: rest).reverse := by simp
        have pavedAbove := paved.trans ((ih parents).longer shorter)
        rw [parents] at ran
        cases outcome with
        | error _ =>
          cases ran
          exact pavedAbove
        | ok _ =>
          dsimp only at ran
          rw [run_tryCatch] at ran
          cases last : (makeDirectory ⟨start, (name :: rest).reverse⟩).run above with
          | mk outcome final =>
          have pavedAll := pavedAbove.trans (makeDirectory_paves last)
          rw [last] at ran
          cases outcome with
          | ok _ =>
            cases ran
            exact pavedAll
          | error fault =>
            obtain ⟨_, same⟩ := unlessDirectory_run ⟨start, (name :: rest).reverse⟩ fault final
            dsimp only at ran
            rw [same] at ran
            cases ran
            exact pavedAll
      · obtain ⟨_, same⟩ := unlessDirectory_run ⟨start, (name :: rest).reverse⟩ fault middle
        rw [same] at ran
        cases ran
        exact paved

/-- Making a directory with its parents makes directories on the way there, and does nothing else,
also when it is refused half-way. -/
theorem makeDirectories_paves {result : Except Fault Unit}
    (ran : (makeDirectories path).run w = (result, w')) : w.Paves w' path := by
  unfold makeDirectories at ran
  split at ran
  · cases ran
    exact .refl _ _
  · simpa using makeAll_paves path.start ran

/-! ## Staging -/

private theorem length_le_foldl (names : Location) (least : Nat) :
    least ≤ names.foldl (fun n name => max n name.length) least ∧
      ∀ name ∈ names, name.length ≤ names.foldl (fun n name => max n name.length) least := by
  induction names generalizing least with
  | nil => simp
  | cons name rest ih =>
    obtain ⟨start, each⟩ := ih (max least name.length)
    refine ⟨by simp only [List.foldl_cons]; omega, ?_⟩
    intro known member
    rcases List.mem_cons.mp member with rfl | member
    · simp only [List.foldl_cons]
      omega
    · exact each known member

/-- The length of the longest name in use. -/
def longest (w : Workspace) : Nat :=
  w.entries.foldl (fun most entry => entry.1.foldl (fun n name => max n name.length) most) 0

private theorem length_le_longest {known : Location × Entry} (member : known ∈ w.entries)
    {name : String}
    (within : name ∈ known.1) : name.length ≤ longest w := by
  have all : ∀ (entries : List (Location × Entry)) (least : Nat),
      least ≤ entries.foldl (fun most entry => entry.1.foldl (fun n name => max n name.length) most)
          least ∧
        (known ∈ entries → name.length ≤ entries.foldl
          (fun most entry => entry.1.foldl (fun n name => max n name.length) most) least) := by
    intro entries
    induction entries with
    | nil => simp
    | cons entry rest ih =>
      intro least
      obtain ⟨start, each⟩ := length_le_foldl entry.1 least
      obtain ⟨above, found⟩ := ih (entry.1.foldl (fun n name => max n name.length) least)
      refine ⟨start.trans above, ?_⟩
      intro among
      rcases List.mem_cons.mp among with rfl | among
      · exact (each name within).trans above
      · exact found among
  exact (all w.entries 0).2 member

private theorem length_freshName (w : Workspace) (stem : String) :
    (freshName w stem).length = stem.length + longest w + 7 := by
  simp only [freshName, longest, String.length_append, String.length_ofList, List.length_replicate,
    show ".".length = 1 from rfl, show ".tmp".length = 4 from rfl]
  omega

theorem freshName_real (w : Workspace) (stem : String) : isRealName (freshName w stem) := by
  have long := length_freshName w stem
  have unlike : ∀ short : String, short.length < 7 → freshName w stem ≠ short := by
    rintro short few rfl
    omega
  refine ⟨?_, unlike ".." (by decide)⟩
  simp only [isPause, Bool.or_eq_false_iff, beq_eq_false_iff_ne]
  exact ⟨unlike slashStep (by decide), unlike dotStep (by decide)⟩

/-- No entry has a fresh name on its way. -/
theorem freshName_new {known : Location × Entry} (member : known ∈ w.entries) (stem : String) :
    freshName w stem ∉ known.1 := by
  intro within
  have bound := length_le_longest member within
  rw [length_freshName] at bound
  omega

theorem freshName_free (w : Workspace) (place : Location) (stem : String) :
    w.entryAt (place ++ [freshName w stem]) = none := by
  by_contra there
  obtain ⟨entry, found⟩ := Option.ne_none_iff_exists'.mp there
  exact freshName_new (mem_of_entryAt found (by simp)) stem (by simp)

/-- Staging puts a file at a place that no entry has. -/
theorem stage_run {result : Except Fault Location} {bytes : Bytes}
    (ran : (stage path bytes).run w = (result, w')) :
    (∃ fault, result = .error fault ∧ w' = w) ∨
      ∃ parent, result = .ok (parent ++ [freshName w path.name]) ∧
        w' = w.set (parent ++ [freshName w path.name]) (.file 0o600 bytes) := by
  simp only [stage, run_bind, run_get, ask_run] at ran
  cases located : w.locate .make
      ⟨.root, w.plainPlace path.parent ++ [freshName w path.name]⟩ with
  | error fault =>
    rw [located] at ran
    cases ran
    exact .inl ⟨_, rfl, rfl⟩
  | ok staged =>
    rw [located] at ran
    cases ran
    obtain ⟨parent, rfl, -⟩ := (locate_walks located).last (freshName_real w path.name)
      (.inr fun place target => by rw [freshName_free]; simp)
    exact .inr ⟨_, rfl, rfl⟩

/-! ## Files -/

/-- The mode that a file written to a path gets. -/
def modeIn (w : Workspace) (path : Path) : Except Fault Nat :=
  match w.find? .follow path with
  | .ok (_, .file mode _) => .ok mode
  | .ok _ => .ok directoryMode
  | .error fault => if fault = .missing then .ok newMode else .error fault

theorem modeFor_run (path : Path) (w : Workspace) : (modeFor path).run w = (modeIn w path, w) := by
  simp only [modeFor, modeIn, run_bind, run_get]
  rcases w.find? .follow path with fault | ⟨place, entry⟩
  · by_cases missing : fault = .missing <;> simp [missing, run_pure, run_throw]
  · cases entry <;> rfl

theorem moveTo_run (staged : Location) (entry : Entry) (path : Path) (w : Workspace) :
    (moveTo staged entry path).run w =
      match w.locate .stay path with
      | .error fault => (.error fault, w)
      | .ok place =>
        if path.names.getLast?.getD ".." == ".." then (.error .busy, w)
        else if w.entryAt place = some .directory then
          (.error (if place.isPrefixOf staged then .notEmpty else .isDirectory), w)
        else (.ok (), (w.erase staged).set place entry) := by
  simp only [moveTo, run_bind, ask_run]
  cases w.locate .stay path with
  | error fault => rfl
  | ok place =>
    by_cases bare : (path.names.getLast?.getD ".." == "..") = true
    · simp only [bare, if_true, run_bind, run_throw]
    · by_cases solid : w.entryAt place = some .directory <;>
        simp [bare, solid, run_bind, run_get, run_throw, run_modify]

/-- A file that replaces what a path names, or is new there. Its mode is looked up while a staged
file is there, at another place that was free. -/
structure Lands (w : Workspace) (path : Path) (bytes : Bytes) (place : Location) (mode : Nat) :
    Prop where
  located : w.locate .stay path = .ok place
  solid : w.entryAt place ≠ some .directory
  mode : ∃ staged, w.entryAt staged = none ∧ staged ≠ place ∧
    modeIn (w.set staged (.file 0o600 bytes)) path = .ok mode

/-- Where a name comes last in a path, it is last in the place, unless a directory is there. -/
theorem locate_last {last : String} (named : path.names.getLast? = some last)
    (dots : last ≠ "..") (located : w.locate .stay path = .ok place)
    (solid : w.entryAt place ≠ some .directory) : ∃ parent, place = parent ++ [last] := by
  obtain ⟨init, split⟩ := List.getLast?_eq_some_iff.mp named
  have walks := locate_walks located
  rw [split] at walks
  cases still : isPause last with
  | true => exact absurd (walks.last_pause still) solid
  | false =>
    obtain ⟨parent, same, -⟩ := walks.last ⟨still, dots⟩ (.inl rfl)
    exact ⟨parent, same⟩

theorem locate_set_iff {staged : Location} (free : w.entryAt staged = none) {mode : Nat}
    {bytes : Bytes} {atEnd : AtEnd} :
    (w.set staged (.file mode bytes)).locate atEnd path = .ok place ↔
      w.locate atEnd path = .ok place := by
  have extends_ : w.Extends (w.set staged (.file mode bytes)) :=
    extends_set_file (by simp [free]) (by simp [free])
  refine ⟨?_, locate_forth extends_⟩
  intro located
  refine locate_of_walks (hasNull_of_locate located) ((locate_walks located).congr ?_ ?_)
  · intro other found
    rw [entryAt_set] at found
    split at found
    · cases found
    · exact found
  · exact extends_.link_iff

/-- Replacing puts a file at the place of a path, or changes nothing at all. -/
theorem replace_run {result : Except Fault Unit} {bytes : Bytes}
    (ran : (replace path bytes).run w = (result, w')) :
    (∃ fault, result = .error fault ∧ w' = w) ∨
      ∃ place mode, result = .ok () ∧ w' = w.set place (.file mode bytes) ∧
        Lands w path bytes place mode := by
  rw [replace, run_bind] at ran
  cases first : (stage path bytes).run w with
  | mk outcome middle =>
  rw [first] at ran
  rcases stage_run first with ⟨fault, rfl, rfl⟩ | ⟨parent, rfl, rfl⟩
  · cases ran
    exact .inl ⟨_, rfl, rfl⟩
  · have free := freshName_free w parent path.name
    have cleared : (w.set (parent ++ [freshName w path.name]) (.file 0o600 bytes)).erase
        (parent ++ [freshName w path.name]) = w :=
      erase_set_of_new fun known member same =>
        freshName_new member path.name (by rw [same]; simp)
    have fresh : ∀ front, parent ++ [freshName w path.name] ≠ front ++ [path.name] := by
      intro front same
      have names := (List.append_inj' same rfl).2
      have long := length_freshName w path.name
      rw [List.singleton_inj.mp names] at long
      omega
    generalize parent ++ [freshName w path.name] = staged at free cleared fresh ran
    simp only [run_tryCatch, run_bind, modeFor_run] at ran
    cases looked : modeIn (w.set staged (.file 0o600 bytes)) path with
    | error fault =>
      simp only [looked, run_modify, run_throw, cleared] at ran
      cases ran
      exact .inl ⟨_, rfl, rfl⟩
    | ok mode =>
      simp only [looked, moveTo_run] at ran
      cases located : (w.set staged (.file 0o600 bytes)).locate .stay path with
      | error fault =>
        simp only [located, run_modify, run_throw, cleared] at ran
        cases ran
        exact .inl ⟨_, rfl, rfl⟩
      | ok place =>
        simp only [located] at ran
        by_cases bare : (path.names.getLast?.getD ".." == "..") = true
        · simp only [bare, if_true, run_modify, run_throw, cleared] at ran
          cases ran
          exact .inl ⟨_, rfl, rfl⟩
        · by_cases solid : (w.set staged (.file 0o600 bytes)).entryAt place = some .directory
          · simp only [bare, solid, if_true, run_modify, run_throw] at ran
            cases ran
            exact .inl ⟨_, rfl, cleared⟩
          · simp only [bare, solid, if_false, cleared] at ran
            cases ran
            have located' := (locate_set_iff free).mp located
            have solid' : w.entryAt place ≠ some .directory := by
              intro found
              refine solid ((entryAt_set_ne ?_).trans found)
              rintro rfl
              simp [free] at found
            refine .inr ⟨place, mode, rfl, rfl, located', solid', staged, free, ?_, looked⟩
            rintro rfl
            cases named : path.names.getLast? with
            | none => simp [named] at bare
            | some last =>
              obtain ⟨front, same⟩ :=
                locate_last named (by simpa [named] using bare) located' solid'
              exact fresh front (by simpa [Path.name, named] using same)

/-- Adding to a file changes that file alone, or makes it. -/
theorem append_run {result : Except Fault Unit} {bytes : Bytes}
    (ran : (append path bytes).run w = (result, w')) :
    (∃ fault, result = .error fault ∧ w' = w) ∨
      ∃ place mode old, result = .ok () ∧ w' = w.set place (.file mode (old ++ bytes)) ∧
        w.locate .make path = .ok place ∧
        (w.entryAt place = some (.file mode old) ∨
          w.entryAt place = none ∧ mode = newMode ∧ old = []) := by
  simp only [append, run_bind, ask_run] at ran
  cases located : w.locate .make path with
  | error fault =>
    rw [located] at ran
    cases ran
    exact .inl ⟨_, rfl, rfl⟩
  | ok place =>
    simp only [located, run_get] at ran
    split at ran
    · rename_i mode old found
      cases ran
      exact .inr ⟨_, _, _, rfl, rfl, rfl, .inl found⟩
    · rename_i found
      cases ran
      exact .inr ⟨place, newMode, [], rfl, rfl, rfl, .inr ⟨found, rfl, rfl⟩⟩
    · cases ran
      exact .inl ⟨_, rfl, rfl⟩

end Change

end Scaffold.Files
