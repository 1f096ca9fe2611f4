import Scaffold.Proofs.Keeping
import Scaffold.Proofs.Registering

/-! Writing once more what a file holds already. Unlike the lemmas on what a change can do, those here
say when it succeeds: the way to a file that was written is still there, a staged file finds its place
beside it, and the workspace is the same afterwards. -/
namespace Scaffold

namespace Files

open Text Running

/-! ## Names without null characters -/

namespace Path

variable {start : Start} {names more : List String}

theorem hasNull_append : (⟨start, names ++ more⟩ : Path).hasNull =
    ((⟨start, names⟩ : Path).hasNull || (⟨start, more⟩ : Path).hasNull) :=
  List.any_append

theorem hasNull_parent {path : Path} (clean : path.hasNull = false) :
    path.parent.hasNull = false := by
  refine List.any_eq_false.mpr fun name member => ?_
  exact List.any_eq_false.mp clean name (List.mem_of_mem_dropLast member)

theorem hasNull_name (start : Start) {path : Path} (clean : path.hasNull = false) :
    (⟨start, [path.name]⟩ : Path).hasNull = false := by
  refine List.any_eq_false.mpr fun name member => ?_
  obtain rfl := List.mem_singleton.mp member
  cases last : path.names.getLast? with
  | none => simp [Path.name, last]
  | some name =>
    simpa [Path.name, last] using
      List.any_eq_false.mp clean name (List.mem_of_getLast? last)

end Path

namespace Workspace

variable {w w' mid : Workspace} {atEnd : AtEnd} {links : Nat} {here there goal place : Location}
  {step name : String} {steps rest : List String} {path left : Path} {bytes : Bytes} {mode : Nat}

private theorem set_of_entryAt {entry : Entry} (found : w.entryAt place = some entry)
    (real : place ≠ []) :
    w.set place entry = w := by
  have looked : w.entries.lookup place = some entry := by
    simpa [entryAt, real] using found
  rw [set, Data.put_of_lookup looked]

/-! ## Walks to a directory and on from there -/

/-- A walk comes to the same place when it would stay at a link at its end, unless there is one. -/
theorem Walks.stays (walks : w.Walks .follow links here steps there) :
    ∃ stop, w.Walks .stay links here steps stop ∧
      (stop = there ∨ ∃ target, w.entryAt stop = some (.link target)) := by
  induction walks with
  | stop links here => exact ⟨here, .stop _ _, .inl rfl⟩
  | pause inside still _ ih =>
    obtain ⟨stop, walks, ends⟩ := ih
    exact ⟨stop, .pause inside still walks, ends⟩
  | up inside _ ih =>
    obtain ⟨stop, walks, ends⟩ := ih
    exact ⟨stop, .up inside walks, ends⟩
  | name inside real _ plain _ ih =>
    obtain ⟨stop, walks, ends⟩ := ih
    exact ⟨stop, .name inside real (by simp) plain walks, ends⟩
  | stay _ _ staying => cases staying
  | @link _ _ _ _ target rest inside real _ _ linked _ ih =>
    by_cases last : rest = []
    · subst last
      exact ⟨_, .stay inside real rfl linked, .inr ⟨target, linked⟩⟩
    · obtain ⟨stop, walks, ends⟩ := ih
      exact ⟨stop, .link inside real (by simp) (fun bare => last bare.2) linked walks, ends⟩

/-- A walk to what is no directory is one to where a file can be made. -/
theorem Walks.makes (walks : w.Walks .follow links here steps there)
    (solid : w.entryAt there ≠ some .directory) : w.Walks .make links here steps there := by
  induction walks with
  | stop links here => exact .stop links here
  | pause inside still _ ih => exact .pause inside still (ih solid)
  | up inside _ ih => exact .up inside (ih solid)
  | @name links here there step rest inside real _ plain onward ih =>
    refine .name inside real ?_ plain (ih solid)
    rintro ⟨-, rfl⟩
    have last : w.Walks .follow links (here ++ [step]) ([] ++ [slashStep]) there := onward
    exact solid (last.last_pause (by decide))
  | stay _ _ staying => cases staying
  | link inside real _ _ found onward ih =>
    refine .link inside real ?_ (by simp) found (ih solid)
    rintro ⟨-, rfl⟩
    exact solid (onward.last_pause (by decide))

/-- A walk to a directory goes on to where a file of some name can be made in it. -/
theorem Walks.concat (real : isRealName name)
    (plain : ∀ target, w.entryAt (there ++ [name]) ≠ some (.link target))
    (directory : w.entryAt there = some .directory) (walks : w.Walks .follow links here steps there) :
    w.Walks .make links here (steps ++ [name]) (there ++ [name]) := by
  -- Only a step that stays forbids a file at the end, and a real name is none.
  have allowed : ∀ rest, ¬(AtEnd.make = .make ∧ rest ++ [name] = [slashStep]) := by
    rintro rest ⟨-, same⟩
    obtain ⟨-, same⟩ := List.append_inj' (same.trans (List.nil_append _).symm) rfl
    rw [(List.cons.inj same).1] at real
    exact absurd real.1 (by decide)
  induction walks with
  | stop links here => exact .name directory real (by simp) plain (.stop _ _)
  | pause inside still _ ih => exact .pause inside still (ih plain directory)
  | up inside _ ih => exact .up inside (ih plain directory)
  | name inside real' _ unlinked _ ih =>
    exact .name inside real' (allowed _) unlinked (ih plain directory)
  | stay _ _ staying => cases staying
  | link inside real' _ _ found _ ih =>
    have onward := ih plain directory
    rw [List.append_assoc] at onward
    exact .link inside real' (allowed _) (by simp) found onward

/-- A walk from a directory can be taken up at the root, by way of the names of the directory. -/
theorem Walks.from_root {front : Location} (tree : w.WellFormed)
    (directory : w.entryAt (front ++ here) = some .directory)
    (walks : w.Walks .follow links (front ++ here) steps there) :
    w.Walks .follow links front (here ++ steps) there := by
  induction here generalizing front with
  | nil => simpa using walks
  | cons name rest ih =>
    have split : front ++ name :: rest = (front ++ [name]) ++ rest := by simp
    rw [split] at directory walks
    have next : w.entryAt (front ++ [name]) = some .directory := by
      cases rest with
      | nil => simpa using directory
      | cons => exact tree.above (by rw [directory]; simp) (by simp)
    have there_ : w.entryAt (front ++ [name]) ≠ none := by simp [next]
    exact .name (tree.parent there_) (tree.name there_) (by simp) (by simp [next])
      (ih directory walks)

/-- The directory of what a path leads to. -/
theorem directory_of_locate (tree : w.WellFormed) (located : w.locate atEnd path = .ok place) :
    ∃ parent, w.Walks .follow linkLimit (w.base path) path.parent.names parent ∧
      w.entryAt parent = some .directory := by
  have walks := locate_walks located
  rcases List.eq_nil_or_concat' path.names with bare | ⟨init, last, split⟩
  · exact ⟨_, by rw [Path.parent, bare]; exact .stop _ _, tree.directory_base path⟩
  · rw [split] at walks
    obtain ⟨_, parent, before, directory, -⟩ := walks.last_step
    exact ⟨parent, by rw [Path.parent, split, List.dropLast_concat]; exact before, directory⟩

theorem isDirectory_parent (tree : w.WellFormed) (located : w.locate atEnd path = .ok place) :
    w.isDirectory path.parent = true := by
  obtain ⟨parent, walks, directory⟩ := directory_of_locate tree located
  exact isDirectory_iff.mpr
    ⟨parent, locate_of_walks (Path.hasNull_parent (hasNull_of_locate located)) walks, directory⟩

/-- No name of the current directory has a null character, as is so for every directory that is there. -/
def CleanHome (w : Workspace) : Prop :=
  (⟨.root, w.home⟩ : Path).hasNull = false

/-- Names without two dots are followed one below the other. -/
theorem plainFrom_eq (level : ".." ∉ steps) : plainFrom here steps = here ++ steps := by
  induction steps generalizing here with
  | nil => simp [plainFrom]
  | cons step rest ih =>
    have named : step ≠ ".." := fun same => level (same ▸ List.mem_cons_self)
    have onward := @ih (here ++ [step]) fun member => level (List.mem_cons_of_mem _ member)
    rw [List.append_assoc] at onward
    simpa [plainFrom, named] using onward

/-- The path that the names of a path spell from the root, with every two dots worked out by the names
alone. -/
def spelled (w : Workspace) (path : Path) : Path :=
  ⟨.root, w.plainPlace path⟩

/-- A directory that is reached without two dots is reached by what its path spells. -/
theorem isDirectory_spelled (tree : w.WellFormed) (home : w.CleanHome) (level : ".." ∉ path.names)
    (there : w.isDirectory path = true) : w.isDirectory (w.spelled path) = true := by
  obtain ⟨place, located, directory⟩ := isDirectory_iff.mp there
  have cleanBase : (⟨.root, w.base path⟩ : Path).hasNull = false := by
    unfold base
    split
    · rfl
    · exact home
  refine isDirectory_iff.mpr ⟨place, ?_, directory⟩
  rw [spelled, plainPlace, plainFrom_eq level]
  refine locate_of_walks ?_ (Walks.from_root tree (tree.directory_base path) (locate_walks located))
  rw [Path.hasNull_append, cleanBase, Bool.false_or]
  exact (hasNull_of_locate located : path.hasNull = false)

/-- A file can be opened for writing by way of a path, at this place. -/
structure Opens (w : Workspace) (path : Path) (place : Location) : Prop where
  located : w.locate .make path = .ok place
  solid : w.entryAt place ≠ some .directory

theorem opens_of_stay (located : w.locate .stay path = .ok place)
    (solid : w.entryAt place ≠ some .directory)
    (plain : ∀ target, w.entryAt place ≠ some (.link target)) : w.Opens path place :=
  ⟨locate_of_walks (hasNull_of_locate located) (((locate_walks located).follow plain).makes solid),
    solid⟩

/-- Without two dots in a path, the names of its parent spell the directory where a file is opened. -/
theorem Opens.spelled (tree : w.WellFormed) (home : w.CleanHome) (level : ".." ∉ path.names)
    (opens : w.Opens path place) : w.isDirectory (w.spelled path.parent) = true :=
  isDirectory_spelled tree home (fun member => level (List.mem_of_mem_dropLast member))
    (isDirectory_parent tree opens.located)

/-- When what a path leads to was there, no directory was missing on the way. -/
theorem Paves.entryAt_eq_of_there (tree : w.WellFormed) (level : ".." ∉ path.names)
    (paves : w.Paves mid path) (leads : w.LeadsTo true path place)
    (there : w.entryAt place ≠ none) (other : Location) : mid.entryAt other = w.entryAt other := by
  rcases paves.entries other with same | ⟨missing, made⟩
  · exact same
  · -- The path leads on from a directory that is new, so that it leads to nothing that is old.
    exfalso
    obtain ⟨front, ⟨rest, split⟩, toOther⟩ := paves.onWay missing made
    have whole : w.Leads true (w.base path) (front ++ rest) place := by
      rw [split]
      exact leads
    obtain ⟨stop, toStop, onward⟩ := whole.split
    obtain rfl : stop = other := toStop.unique toOther
    have level' : ".." ∉ rest := fun member => level (split ▸ List.mem_append_right front member)
    have bare : w.entryAt stop ≠ some .directory := by simp [missing]
    have straight := leads_bare tree bare level'
    obtain rfl := onward.unique straight
    exact there (straight.under tree missing).1

end Workspace

namespace Change

open Workspace

variable {w : Workspace} {path : Path} {place : Location} {bytes old : Bytes} {mode : Nat}

/-- A directory that is there is made with all its parents by doing nothing. -/
theorem makeDirectories_there (there : w.isDirectory path = true) :
    (makeDirectories path).run w = (.ok (), w) := by
  obtain ⟨place, located, found⟩ := isDirectory_iff.mp there
  have clean := hasNull_of_locate located
  have passes : (unlessDirectory path .exists).run w = (.ok (), w) := by
    simp [unlessDirectory, run_bind, run_get, there, Fault.isSystem, Fault.number?, run_pure]
  obtain ⟨stop, walks, ends⟩ := (locate_walks located).stays
  have held : w.entryAt stop ≠ none := by
    rcases ends with rfl | ⟨target, linked⟩
    · simp [found]
    · simp [linked]
  have stays : w.locate .stay path = .ok stop := locate_of_walks clean walks
  have inTheWay : (makeDirectory path).run w = (.error .exists, w) := by
    have isSome := Option.isSome_iff_ne_none.mpr held
    simp only [makeDirectory_run, stays, isSome, Bool.or_true, if_true]
  rw [makeDirectories, if_neg (by simp [clean])]
  rcases reversed : path.names.reverse with _ | ⟨last, init⟩
  · have bare : path.names = [] := List.reverse_eq_nil_iff.mp reversed
    have same : (⟨path.start, []⟩ : Path) = path := by rw [← bare]
    rw [makeAll, same]
    exact passes
  · have same : (⟨path.start, (last :: init).reverse⟩ : Path) = path := by
      rw [← reversed, List.reverse_reverse]
    rw [makeAll, same, run_tryCatch, inTheWay]
    exact passes

/-- A fresh name has a null character exactly when the name has one that it is made of. -/
theorem hasNull_freshName (w : Workspace) (start : Start) (stem : String) :
    (⟨start, [freshName w stem]⟩ : Path).hasNull = (⟨start, [stem]⟩ : Path).hasNull := by
  simp [Path.hasNull, freshName]

/-- A file can be staged beside a path when the names of its parent spell a directory. -/
theorem stage_spelled (clean : path.hasNull = false)
    (there : w.isDirectory (w.spelled path.parent) = true) (bytes : Bytes) :
    ∃ staged, w.entryAt staged = none ∧
      (stage path bytes).run w = (.ok staged, w.set staged (.file 0o600 bytes)) := by
  obtain ⟨parent, located, directory⟩ := isDirectory_iff.mp there
  have free := freshName_free w parent path.name
  have onto := (locate_walks located).concat (freshName_real w path.name) (by simp [free]) directory
  have found : w.locate .make ⟨.root, w.plainPlace path.parent ++ [freshName w path.name]⟩ =
      .ok (parent ++ [freshName w path.name]) := by
    refine locate_of_walks ?_ onto
    rw [Path.hasNull_append, Bool.or_eq_false_iff]
    exact ⟨hasNull_of_locate located, (hasNull_freshName w _ _).trans (Path.hasNull_name .root clean)⟩
  refine ⟨parent ++ [freshName w path.name], free, ?_⟩
  simp only [stage, run_bind, run_get, ask_run, found, run_set, run_pure]

/-- Where a path leads somewhere, there is a mode for a file that is written to it. -/
theorem modeIn_of_locate (located : w.locate .follow path = .ok place) :
    ∃ mode, modeIn w path = .ok mode := by
  simp only [modeIn, find?, located]
  cases w.entryAt place with
  | none => exact ⟨newMode, rfl⟩
  | some entry => cases entry <;> exact ⟨_, rfl⟩

/-- Replacing succeeds where a file can be opened for writing, when one can be staged for it. -/
theorem replace_of_opens (tree : w.WellFormed) (opens : w.Opens path place)
    (there : w.isDirectory (w.spelled path.parent) = true) (bytes : Bytes) :
    ∃ goal mode, (replace path bytes).run w = (.ok (), w.set goal (.file mode bytes)) ∧
      Lands w path bytes goal mode := by
  have clean := hasNull_of_locate opens.located
  obtain ⟨stop, walks, ends⟩ := (locate_walks opens.located).followed.stays
  have solid : w.entryAt stop ≠ some .directory := by
    rcases ends with rfl | ⟨target, linked⟩
    · exact opens.solid
    · simp [linked]
  have named : (path.names.getLast?.getD ".." == "..") = false := by
    -- With no name or with two dots at its end the path would lead to a directory.
    rcases List.eq_nil_or_concat' path.names with bare | ⟨init, last, split⟩
    · rw [bare] at walks
      cases walks
      exact absurd (tree.directory_base path) solid
    · rw [split] at walks ⊢
      rw [List.getLast?_concat, Option.getD_some, beq_eq_false_iff_ne]
      rintro rfl
      exact solid (walks.last_up tree)
  obtain ⟨staged, free, first⟩ := stage_spelled clean there bytes
  have stays : (w.set staged (.file 0o600 bytes)).locate .stay path = .ok stop :=
    (locate_set_iff free).mpr (locate_of_walks clean walks)
  have solid' : (w.set staged (.file 0o600 bytes)).entryAt stop ≠ some .directory := by
    rw [entryAt_set]
    split
    · simp
    · exact solid
  have follows : (w.set staged (.file 0o600 bytes)).locate .follow path = .ok place :=
    (locate_set_iff free).mpr (locate_follow opens.located)
  obtain ⟨mode, moded⟩ := modeIn_of_locate follows
  have done : ((replace path bytes).run w).1 = .ok () := by
    rw [replace, run_bind, first]
    simp only [run_tryCatch, run_bind, modeFor_run, moded, moveTo_run, stays, named, solid']
    rfl
  rcases ran : (replace path bytes).run w with ⟨result, w'⟩
  rw [ran] at done
  rcases replace_run ran with ⟨_, rfl, -⟩ | ⟨goal, mode, rfl, rfl, lands⟩
  · cases done
  · exact ⟨goal, mode, rfl, lands⟩

/-- Replacing a file by what it holds is done by changing nothing. -/
theorem replace_same (tree : w.WellFormed) (home : w.CleanHome)
    (level : ".." ∉ path.names) (located : w.locate .stay path = .ok place)
    (held : w.entryAt place = some (.file mode bytes)) : (replace path bytes).run w = (.ok (), w) := by
  have real : place ≠ [] := by
    rintro rfl
    simp at held
  have opens := opens_of_stay located (by simp [held]) (by simp [held])
  obtain ⟨goal, mode', ran, lands⟩ :=
    replace_of_opens tree opens (opens.spelled tree home level) bytes
  obtain rfl : place = goal := Except.ok.inj (located.symm.trans lands.located)
  obtain rfl : mode' = mode := by
    rw [mode_of_lands lands (by simp [held]), modeAt, held]
  rw [ran, set_of_entryAt held real]

/-- Adding to a file that is there puts the bytes behind those it has. -/
theorem append_there (located : w.locate .make path = .ok place)
    (held : w.entryAt place = some (.file mode old)) :
    (append path bytes).run w = (.ok (), w.set place (.file mode (old ++ bytes))) := by
  simp only [append, run_bind, ask_run, located, run_get, held, run_modify]

end Change

/-! ## Files in their seats -/

namespace Workspace

variable {w w' mid : Workspace} {goal place : Location} {path left : Path} {bytes : Bytes} {mode : Nat}

/-- Writing to a path means a file that is there and holds these bytes. -/
def Seated (w : Workspace) (path : Path) (bytes : Bytes) : Prop :=
  ∃ left place mode, w.target path = .ok left ∧ ".." ∉ left.names ∧
    w.locate .stay left = .ok place ∧ w.entryAt place = some (.file mode bytes)

/-- Growth does not change which path a straight one means. -/
theorem target_forth (tree : w.WellFormed) (proper : path.Proper) (leads : w.LeadsTo false path goal)
    (extends_ : w.Extends w') : w'.target path = w.target path := by
  have links : w'.isLink path = w.isLink path := by
    rw [Bool.eq_iff_iff, isLink_iff, isLink_iff]
    constructor
    · rintro ⟨place, target, located, found⟩
      have old := extends_.noNewLink found
      exact ⟨place, target, locate_back tree extends_ leads located (by simp [old]), old⟩
    · rintro ⟨place, target, located, found⟩
      exact ⟨place, target, locate_forth extends_ located, extends_.links found⟩
  cases link : w.isLink path with
  | true =>
    rw [target_of_link link proper leads.weaken,
      target_of_link (links.trans link) proper (leads.forth extends_).weaken]
  | false => rw [target_of_not_link link, target_of_not_link (links.trans link)]

/-- A file that was put where a straight path leads has its seat there. -/
theorem Puts.seated (tree : w.WellFormed) (proper : path.Proper) (leads : w.LeadsTo false path goal)
    (puts : w.Puts w' path bytes left mid place mode) : w'.Seated path bytes := by
  have extends_ := (puts.delivers tree proper leads).extends
    fun target => (leads.settled tree).clear List.prefix_rfl
  obtain ⟨-, leadsLeft⟩ := target_leads tree proper leads puts.target
  obtain rfl := puts.place_eq tree proper leads
  have widens := puts.paves.extends
  have plain : ∀ target, mid.entryAt place ≠ some (.link target) := fun target found =>
    (leads.settled tree).clear List.prefix_rfl (widens.noNewLink found)
  have last : mid.Extends w' := by
    rw [puts.result]
    exact extends_set_file puts.lands.solid plain
  have real : place ≠ [] := by
    rintro rfl
    exact puts.lands.solid (entryAt_root mid)
  refine ⟨left, place, mode, ?_, leadsLeft.no_dots, locate_forth last puts.lands.located, ?_⟩
  · rw [target_forth tree proper leads extends_, puts.target]
  · rw [puts.result]
    exact entryAt_set_self real

/-- A file keeps its seat under growth that leaves it as it is. -/
theorem Seated.forth (tree : w.WellFormed) (proper : path.Proper) (leads : w.LeadsTo false path goal)
    (extends_ : w.Extends w') (kept : w'.entryAt goal = w.entryAt goal) (seated : w.Seated path bytes) :
    w'.Seated path bytes := by
  obtain ⟨left, place, mode, target, level, located, held⟩ := seated
  obtain ⟨-, leadsLeft⟩ := target_leads tree proper leads target
  obtain rfl : place = goal :=
    Leads.unique (leadsTo_of_locate located fun _ => by simp [held]) leadsLeft
  exact ⟨left, place, mode, (target_forth tree proper leads extends_).trans target, level,
    locate_forth extends_ located, kept.trans held⟩

/-- A file in its seat is seen, unless it is behind a link that looking does not get through. -/
theorem Seated.isThere (seated : w.Seated path bytes)
    (sees : w.isLink path = true → w.isThere path = true) : w.isThere path = true := by
  cases link : w.isLink path with
  | true => exact sees link
  | false =>
    obtain ⟨left, place, mode, target, -, located, held⟩ := seated
    rw [target_of_not_link link] at target
    cases target
    refine isThere_iff.mpr ⟨place, ?_, by simp [held]⟩
    exact locate_of_walks (hasNull_of_locate located)
      ((locate_walks located).follow (by simp [held]))

end Workspace

end Files

end Scaffold
