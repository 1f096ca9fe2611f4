import Scaffold.Proofs.Changes

/-! Where a written file lands. Writing follows a link to its end, makes the directories on the way
and replaces what is there. On a path without two dots the file lands exactly where the path leads,
every directory that is made lies on the way to it, and all else stays as it is. -/
namespace Scaffold.Files.Workspace

open Text Change

variable {w w' mid : Workspace} {path left : Path} {place goal : Location} {bytes : Bytes}

/-! ## Looking at a path -/

theorem find?_eq_ok_iff {atEnd : AtEnd} {entry : Entry} :
    w.find? atEnd path = .ok (place, entry) ↔
      w.locate atEnd path = .ok place ∧ w.entryAt place = some entry := by
  unfold find?
  cases w.locate atEnd path with
  | error fault => simp
  | ok reached =>
    simp only [Except.ok.injEq]
    constructor
    · intro given
      split at given
      · rename_i found
        cases given
        exact ⟨rfl, found⟩
      · cases given
    · rintro ⟨rfl, found⟩
      simp only [found]

theorem isThere_iff : w.isThere path = true ↔
    ∃ place, w.locate .follow path = .ok place ∧ w.entryAt place ≠ none := by
  simp only [Option.ne_none_iff_exists', ← exists_and_left, ← find?_eq_ok_iff, isThere]
  rcases w.find? .follow path with _ | ⟨_, _⟩ <;> simp

theorem isFile_iff : w.isFile path = true ↔ ∃ place mode bytes,
    w.locate .follow path = .ok place ∧ w.entryAt place = some (.file mode bytes) := by
  simp only [← find?_eq_ok_iff, isFile]
  rcases w.find? .follow path with _ | ⟨_, _ | _ | _⟩ <;> simp

theorem isDirectory_iff : w.isDirectory path = true ↔
    ∃ place, w.locate .follow path = .ok place ∧ w.entryAt place = some .directory := by
  simp only [← find?_eq_ok_iff, isDirectory]
  rcases w.find? .follow path with _ | ⟨_, _ | _ | _⟩ <;> simp

theorem isLink_iff : w.isLink path = true ↔
    ∃ place target, w.locate .stay path = .ok place ∧ w.entryAt place = some (.link target) := by
  simp only [← find?_eq_ok_iff, isLink]
  rcases w.find? .stay path with _ | ⟨_, _ | _ | _⟩ <;> simp

theorem Extends.there (extends_ : w.Extends w') (there : w.entryAt place ≠ none) :
    w'.entryAt place ≠ none := by
  obtain ⟨entry, found⟩ := Option.ne_none_iff_exists'.mp there
  cases entry with
  | directory => simp [extends_.directory found]
  | file mode bytes =>
    obtain ⟨mode, bytes, found⟩ := extends_.file found
    simp [found]
  | link target => simp [extends_.links found]

/-- What a path leads to is still there after growth. -/
theorem isThere_forth (extends_ : w.Extends w') (there : w.isThere path = true) :
    w'.isThere path = true := by
  obtain ⟨place, located, found⟩ := isThere_iff.mp there
  exact isThere_iff.mpr ⟨place, locate_forth extends_ located, extends_.there found⟩

/-- What a straight path leads to after growth was there before, or is new at the place it leads
to. -/
theorem isThere_back (tree : w.WellFormed) (extends_ : w.Extends w')
    (leads : w.LeadsTo false path goal) (there : w'.isThere path = true) :
    w.isThere path = true ∨ w.entryAt goal = none ∧ w'.entryAt goal ≠ none := by
  obtain ⟨place, located, found⟩ := isThere_iff.mp there
  have same : place = goal :=
    Leads.unique (leadsTo_of_locate located (by simp)) (leads.forth extends_)
  subst same
  by_cases free : w.entryAt place = none
  · exact .inr ⟨free, found⟩
  · exact .inl (isThere_iff.mpr ⟨place, locate_back tree extends_ leads located free, free⟩)

/-! ## Writing to a path -/

/-- Writing a file to a path: directories are made on the way to what it means, and there the file
lands. -/
structure Puts (w w' : Workspace) (path : Path) (bytes : Bytes) (left : Path) (mid : Workspace)
    (place : Location) (mode : Nat) : Prop where
  target : w.target path = .ok left
  paves : w.Paves mid left.parent
  lands : Lands mid left bytes place mode
  result : w' = mid.set place (.file mode bytes)

theorem target_of_link (link : w.isLink path = true) (proper : path.Proper)
    (leads : w.LeadsTo true path goal) : w.target path = .ok ⟨.root, goal⟩ := by
  rw [Workspace.target, if_pos link, (resolve_eq_ok_iff proper).mpr leads]

theorem target_of_not_link (plain : w.isLink path = false) : w.target path = .ok path := by
  rw [Workspace.target, if_neg (by simp [plain])]

/-- What is written to on a straight path leads to where the path leads. -/
theorem target_leads (tree : w.WellFormed) (proper : path.Proper)
    (leads : w.LeadsTo false path goal) (target : w.target path = .ok left) :
    left.Proper ∧ w.LeadsTo false left goal := by
  cases link : w.isLink path with
  | true =>
    rw [target_of_link link proper leads.weaken] at target
    cases target
    have settled := leads.settled tree
    exact ⟨fun name member => (settled.real name member).1, settled.leads_root⟩
  | false =>
    rw [target_of_not_link link] at target
    cases target
    exact ⟨proper, leads⟩

/-- Writing a file is growth. -/
theorem Puts.grows {mode : Nat} (puts : w.Puts w' path bytes left mid place mode) : w.Grows w' := by
  rw [puts.result]
  exact puts.paves.extends.toGrows.trans (grows_set_file puts.lands.solid)

/-- Writing a file leaves a tree. -/
theorem Puts.tree {mode : Nat} (tree : w.WellFormed)
    (puts : w.Puts w' path bytes left mid place mode) : w'.WellFormed := by
  have midTree := puts.paves.tree tree
  have walks := locate_walks puts.lands.located
  rw [puts.result]
  exact midTree.set puts.lands.solid (walks.spot midTree (midTree.directory_base left)) _

/-- The place where a file lands on a straight path. -/
theorem Puts.place_eq {mode : Nat} (tree : w.WellFormed) (proper : path.Proper)
    (leads : w.LeadsTo false path goal) (puts : w.Puts w' path bytes left mid place mode) :
    place = goal := by
  have widens := puts.paves.extends
  cases link : w.isLink path with
  | true =>
    have target := puts.target
    rw [target_of_link link proper leads.weaken] at target
    cases target
    have settled : mid.Settled goal := by
      have settled := leads.settled tree
      exact ⟨settled.real, fun before found => settled.clear before (widens.noNewLink found)⟩
    exact @Settled.walks_eq mid _ _ [] place goal settled (locate_walks puts.lands.located)
  | false =>
    have target := puts.target
    rw [target_of_not_link link] at target
    cases target
    have plain : ∀ target, mid.entryAt place ≠ some (.link target) := by
      intro target found
      have old := widens.noNewLink found
      have located := locate_back tree widens leads puts.lands.located (by simp [old])
      simp [isLink_iff.mpr ⟨place, target, located, old⟩] at link
    exact Leads.unique (leadsTo_of_locate puts.lands.located fun _ => plain)
      (leads.forth widens)

/-- Every directory that is paved for a straight path lies on the way to where it leads. -/
theorem Paves.above (tree : w.WellFormed) (proper : path.Proper)
    (leads : w.LeadsTo false path goal) (paves : w.Paves mid path.parent)
    (missing : w.entryAt place = none) (made : mid.entryAt place = some .directory) :
    ∃ rest, rest ≠ [] ∧ goal = place ++ rest := by
  obtain ⟨front, before, toPlace⟩ := paves.onWay missing made
  change w.Leads true (w.base path) front place at toPlace
  change front <+: path.names.dropLast at before
  obtain ⟨rest, split⟩ := before.trans (List.dropLast_prefix _)
  have whole : w.Leads false (w.base path) (front ++ rest) goal := by
    rw [split]
    exact leads
  obtain ⟨stop, toStop, onward⟩ := whole.split
  obtain rfl : stop = place := toStop.unique toPlace
  obtain ⟨-, same⟩ := onward.under tree missing
  have properRest : rest.filter (fun step => !isPause step) = rest := by
    apply List.filter_eq_self.mpr
    intro name member
    simp [proper name (split ▸ List.mem_append_right _ member)]
  rw [properRest] at same
  refine ⟨rest, ?_, same⟩
  rintro rfl
  rw [List.append_nil] at split
  subst split
  have bare : path.names = [] := by
    by_contra some
    have shorter := before.length_le
    have positive := List.length_pos_iff.mpr some
    simp only [List.length_dropLast] at shorter
    omega
  rw [bare] at toPlace
  cases toPlace
  rw [tree.directory_base] at missing
  cases missing

/-- The mode of the file at a place, or of a new one. -/
def modeAt (w : Workspace) (place : Location) : Nat :=
  match w.entryAt place with
  | some (.file mode _) => mode
  | _ => newMode

/-- The bytes of the file at a place, if there is one. -/
def bytesAt (w : Workspace) (place : Location) : Option Bytes :=
  match w.entryAt place with
  | some (.file _ bytes) => some bytes
  | _ => none

/-- A walk that ends at no link ends there also when it would follow one. -/
theorem Walks.follow {links : Nat} {here there : Location} {steps : List String}
    (walks : w.Walks .stay links here steps there)
    (plain : ∀ target, w.entryAt there ≠ some (.link target)) :
    w.Walks .follow links here steps there := by
  induction walks with
  | stop links here => exact .stop links here
  | pause inside still _ ih => exact .pause inside still (ih plain)
  | up inside _ ih => exact .up inside (ih plain)
  | name inside real _ unlinked _ ih => exact .name inside real (by simp) unlinked (ih plain)
  | stay _ _ _ found => exact absurd found (plain _)
  | link inside real _ _ found _ ih => exact .link inside real (by simp) (by simp) found (ih plain)

theorem mode_of_lands {mode : Nat} (lands : Lands w path bytes place mode)
    (plain : ∀ target, w.entryAt place ≠ some (.link target)) : mode = w.modeAt place := by
  obtain ⟨staged, free, apart, looked⟩ := lands.mode
  have located : (w.set staged (.file 0o600 bytes)).locate .stay path = .ok place :=
    (locate_set_iff free).mpr lands.located
  have held : (w.set staged (.file 0o600 bytes)).entryAt place = w.entryAt place :=
    entryAt_set_ne (Ne.symm apart)
  have followed : (w.set staged (.file 0o600 bytes)).locate .follow path = .ok place :=
    locate_of_walks (hasNull_of_locate located)
      ((locate_walks located).follow (by rw [held]; exact plain))
  rw [modeIn, find?, followed] at looked
  dsimp only at looked
  rw [held] at looked
  unfold modeAt
  cases found : w.entryAt place with
  | none =>
    rw [found] at looked
    cases looked
    rfl
  | some entry =>
    rw [found] at looked
    cases entry with
    | directory => exact absurd found lands.solid
    | file mode bytes =>
      cases looked
      rfl
    | link target => exact absurd found (plain target)

/-- What writing to a straight path does: one file at the place it leads to, with the mode it had,
and new directories on the way there. -/
structure Delivers (w w' : Workspace) (goal : Location) (bytes : Bytes) : Prop where
  home : w'.home = w.home
  written : w'.entryAt goal = some (.file (w.modeAt goal) bytes)
  solid : w.entryAt goal ≠ some .directory
  others : ∀ {place}, place ≠ goal → w'.entryAt place = w.entryAt place ∨
    w.entryAt place = none ∧ w'.entryAt place = some .directory ∧ ∃ rest, goal = place ++ rest
  tree : w'.WellFormed

/-- A file that is put where a straight path leads, after its way is paved, is delivered. -/
theorem Paves.delivers (tree : w.WellFormed) (proper : path.Proper)
    (leads : w.LeadsTo false path goal) (paves : w.Paves mid path.parent)
    (solid : mid.entryAt goal ≠ some .directory)
    (written : (mid.set goal (.file (w.modeAt goal) bytes)).WellFormed) :
    w.Delivers (mid.set goal (.file (w.modeAt goal) bytes)) goal bytes := by
  have real : goal ≠ [] := by
    rintro rfl
    exact solid (entryAt_root mid)
  refine ⟨?_, entryAt_set_self real, ?_, fun {other} different => ?_, written⟩
  · rw [home_set, paves.home]
  · rw [← paves.entryAt_eq solid]
    exact solid
  · rw [entryAt_set_ne different]
    rcases paves.entries other with kept | ⟨missing, made⟩
    · exact .inl kept
    · obtain ⟨rest, -, split⟩ := paves.above tree proper leads missing made
      exact .inr ⟨missing, made, rest, split⟩

theorem Puts.delivers {mode : Nat} (tree : w.WellFormed) (proper : path.Proper)
    (leads : w.LeadsTo false path goal) (puts : w.Puts w' path bytes left mid place mode) :
    w.Delivers w' goal bytes := by
  obtain rfl := puts.place_eq tree proper leads
  obtain ⟨properLeft, leadsLeft⟩ := target_leads tree proper leads puts.target
  have solid := puts.lands.solid
  have same : mid.entryAt place = w.entryAt place := puts.paves.entryAt_eq solid
  have plain : ∀ target, mid.entryAt place ≠ some (.link target) := by
    rw [same]
    exact fun target => (leads.settled tree).clear List.prefix_rfl
  have moded : mode = w.modeAt place := by
    rw [mode_of_lands puts.lands plain, modeAt, modeAt, same]
  have result := puts.result
  rw [moded] at result
  have written := puts.tree tree
  rw [result] at written ⊢
  exact puts.paves.delivers tree properLeft leadsLeft solid written

/-- Delivering leaves directories, links and files what they are. -/
theorem Delivers.extends (delivers : w.Delivers w' goal bytes)
    (plain : ∀ target, w.entryAt goal ≠ some (.link target)) : w.Extends w' where
  home := delivers.home
  directory {place} found := by
    have different : place ≠ goal := by
      rintro rfl
      exact delivers.solid found
    rcases delivers.others different with same | ⟨_, made, _⟩
    · exact same.trans found
    · exact made
  file {place _ _} found := by
    by_cases same : place = goal
    · subst same
      exact ⟨_, _, delivers.written⟩
    · rcases delivers.others same with kept | ⟨missing, _⟩
      · exact ⟨_, _, kept.trans found⟩
      · rw [missing] at found
        cases found
  link {place _} found := by
    have different : place ≠ goal := by
      rintro rfl
      exact plain _ found
    rcases delivers.others different with same | ⟨missing, _⟩
    · exact .inl (same.trans found)
    · rw [missing] at found
      cases found
  noNewLink {place _} found := by
    by_cases same : place = goal
    · subst same
      rw [delivers.written] at found
      cases found
    · rcases delivers.others same with kept | ⟨_, made, _⟩
      · exact kept.symm.trans found
      · rw [made] at found
        cases found
  links {place _} found := by
    have different : place ≠ goal := by
      rintro rfl
      exact plain _ found
    rcases delivers.others different with same | ⟨missing, _⟩
    · exact same.trans found
    · rw [missing] at found
      cases found

end Scaffold.Files.Workspace
