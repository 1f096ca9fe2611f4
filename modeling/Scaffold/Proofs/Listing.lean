import Scaffold.Proofs.Accounts
import Scaffold.Proofs.Joining
import Scaffold.Proofs.References
import Scaffold.Proofs.Remaining
import Scaffold.Proofs.Seating

/-! That the listing of templates and the lookups of single ones agree. The listing goes by the
entries below the directory of templates and cuts endings off; a lookup puts the ending on and
follows the path. Where that directory is a tree of directories and regular files, both come to the
same files. -/
namespace Scaffold

open Text Files Files.Workspace Scaffold.Action

/-! ## Names as texts -/

namespace Text

variable {parts init : List String} {last ending s : String}

private theorem toList_join (parts : List String) :
    (join "/" parts).toList = ['/'].intercalate (parts.map String.toList) := by
  simp [join]

private theorem intercalate_append {α : Type} (between more : List α) (init : List (List α))
    (last : List α) :
    between.intercalate (init ++ [last]) ++ more = between.intercalate (init ++ [last ++ more]) := by
  induction init with
  | nil => simp
  | cons first rest ih =>
    cases rest with
    | nil => simp [List.intercalate_cons_cons]
    | cons next rest =>
      simp only [List.cons_append, List.intercalate_cons_cons, List.append_assoc] at ih ⊢
      rw [ih]

/-- What is put behind joined texts is put behind the last one. -/
theorem join_append (init : List String) (last ending : String) :
    join "/" (init ++ [last]) ++ ending = join "/" (init ++ [last ++ ending]) := by
  apply String.toList_injective
  rw [String.toList_append, toList_join, toList_join, List.map_append, List.map_append,
    List.map_singleton, List.map_singleton, intercalate_append, String.toList_append]

private theorem endsWith_iff : s.endsWith ending = true ↔ ∃ stem, s = stem ++ ending := by
  rw [← String.endsWith_toSlice, String.Slice.endsWith_string_iff, String.copy_toSlice]
  constructor
  · rintro ⟨stem, spelled⟩
    exact ⟨String.ofList stem, String.toList_injective (by simp [String.toList_append, spelled])⟩
  · rintro ⟨stem, rfl⟩
    exact ⟨stem.toList, by rw [String.toList_append]⟩

/-- Bytes are no text exactly when they are the encoding of none. -/
theorem decode?_eq_none_iff {bytes : Bytes} : decode? bytes = none ↔ ∀ s, encode s ≠ bytes := by
  constructor
  · rintro none s rfl
    rw [decode?_encode] at none
    cases none
  · intro other
    unfold decode? String.fromUTF8?
    split
    · rename_i valid
      exact absurd (by simp [encode, String.fromUTF8]) (other (String.fromUTF8 _ valid))
    · rfl

end Text

namespace Files.Path

variable {parts : List String} {name : String}

/-- A name that can stand between the slashes of a path and be followed. -/
def IsPart (name : String) : Prop :=
  isRealName name ∧ '/' ∉ name.toList

/-- The names that are joined are the names of the path. -/
theorem ofString_join (filled : parts ≠ []) (ordinary : ∀ part ∈ parts, IsPart part) :
    ofString (join "/" parts) = ⟨.here, parts⟩ := by
  have steps : parts.filter isStep = parts := by
    refine List.filter_eq_self.mpr fun part member => ?_
    simpa [isPause, slashStep, dotStep, isStep] using (ordinary part member).1.1
  have cut : split (· == '/') (['/'].intercalate (parts.map String.toList)) =
      parts.map String.toList := by
    rw [split_eq_splitOnP]
    exact List.splitOn_intercalate '/' (List.forall_mem_map.mpr fun part member =>
      (ordinary part member).2) (by simpa using filled)
  have plain : (['/'].intercalate (parts.map String.toList)).head? ≠ some '/' := by
    have spaced : Spaced '/' (['/'].intercalate (parts.map String.toList)) := by
      refine spaced_intercalate (List.forall_mem_map.mpr fun part member => ⟨fun empty => ?_,
        (ordinary part member).2⟩)
      have real := (ordinary part member).1
      rw [String.toList_eq_nil_iff.mp empty] at real
      exact absurd real (by decide)
    exact spaced.first
  rw [ofString, toList_join, ofChars, startOf_of_plain plain, cut]
  simp [steps]

private theorem child_join (base : Path) (filled : parts ≠ [])
    (ordinary : ∀ part ∈ parts, IsPart part) :
    base.child (join "/" parts) = ⟨base.start, base.names ++ parts⟩ := by
  rw [child, ofString_join filled ordinary]
  rfl

end Files.Path

/-! ## Walks through a tree without links -/

namespace Files.Workspace

variable {w : Workspace} {atEnd : AtEnd} {links left : Nat} {here there mid place : Location}
  {steps more rest : List String}

/-- A walk to a place goes on from there, when nothing behind needs a link. -/
theorem Walks.onward (walks : w.Walks .follow links here steps mid)
    (behind : ∀ left, w.Walks .follow left mid more there) :
    w.Walks .follow links here (steps ++ more) there := by
  induction walks with
  | stop links here => exact behind links
  | pause inside still _ ih => exact .pause inside still (ih behind)
  | up inside _ ih => exact .up inside (ih behind)
  | name inside real _ plain _ ih => exact .name inside real (by simp) plain (ih behind)
  | stay _ _ staying => cases staying
  | link inside real _ _ found _ ih =>
    have onward := ih behind
    rw [List.append_assoc] at onward
    exact .link inside real (by simp) (by simp) found onward

/-- A walk along two rows of steps comes to a directory between them. -/
theorem Walks.midway (walks : w.Walks atEnd links here (steps ++ more) there) (further : more ≠ []) :
    ∃ left mid, w.Walks .follow links here steps mid ∧ w.entryAt mid = some .directory ∧
      w.Walks atEnd left mid more there := by
  -- Without steps it is at one from the beginning.
  have bare : ∀ {links here}, w.Walks atEnd links here more there →
      ∃ left mid, w.Walks .follow links here [] mid ∧ w.entryAt mid = some .directory ∧
        w.Walks atEnd left mid more there := by
    obtain ⟨step, rest, rfl⟩ := List.exists_cons_of_ne_nil further
    exact fun walks => ⟨_, _, .stop _ _, walks.inside, walks⟩
  generalize joined : steps ++ more = all at walks
  induction walks generalizing steps with
  | stop => exact absurd (List.append_eq_nil_iff.mp joined).2 further
  | pause inside still onward ih =>
    rcases steps with _ | ⟨_, steps⟩
    · obtain rfl : more = _ := joined
      exact bare (.pause inside still onward)
    · cases joined
      obtain ⟨left, mid, before, directory, after⟩ := ih bare rfl
      exact ⟨left, mid, .pause inside still before, directory, after⟩
  | up inside onward ih =>
    rcases steps with _ | ⟨_, steps⟩
    · obtain rfl : more = _ := joined
      exact bare (.up inside onward)
    · cases joined
      obtain ⟨left, mid, before, directory, after⟩ := ih bare rfl
      exact ⟨left, mid, .up inside before, directory, after⟩
  | name inside real allowed plain onward ih =>
    rcases steps with _ | ⟨_, steps⟩
    · obtain rfl : more = _ := joined
      exact bare (.name inside real allowed plain onward)
    · cases joined
      obtain ⟨left, mid, before, directory, after⟩ := ih bare rfl
      exact ⟨left, mid, .name inside real (by simp) plain before, directory, after⟩
  | stay inside real staying found =>
    rcases steps with _ | ⟨_, steps⟩
    · obtain rfl : more = _ := joined
      exact bare (.stay inside real staying found)
    · exact absurd (List.append_eq_nil_iff.mp (List.cons.inj joined).2).2 further
  | link inside real allowed leaving found onward ih =>
    rcases steps with _ | ⟨_, steps⟩
    · obtain rfl : more = _ := joined
      exact bare (.link inside real allowed leaving found onward)
    · cases joined
      obtain ⟨left, mid, before, directory, after⟩ := ih bare (List.append_assoc ..)
      exact ⟨left, mid, .link inside real (by simp) (by simp) found before, directory, after⟩

/-- A tree below a place in which there are no links. -/
def Unlinked (w : Workspace) (place : Location) : Prop :=
  ∀ rest target, rest ≠ [] → w.entryAt (place ++ rest) ≠ some (.link target)

theorem Unlinked.below {name : String} (unlinked : w.Unlinked place) :
    w.Unlinked (place ++ [name]) := by
  intro rest target _
  rw [List.append_assoc]
  exact unlinked _ target (by simp)

/-- What is there in a tree without links is walked to by its names. -/
theorem Unlinked.walks (unlinked : w.Unlinked place) (tree : w.WellFormed)
    (found : w.entryAt (place ++ rest) ≠ none) (links : Nat) :
    w.Walks .follow links place rest (place ++ rest) := by
  induction rest generalizing place with
  | nil => simpa using Walks.stop links place
  | cons name rest ih =>
    have split : place ++ name :: rest = place ++ [name] ++ rest := by simp
    rw [split] at found ⊢
    have here : w.entryAt (place ++ [name]) ≠ none := by
      by_cases last : rest = []
      · simpa [last] using found
      · simp [tree.above found last]
    exact .name (tree.parent here) (tree.name here) (by simp)
      (fun target => unlinked [name] target (by simp)) (ih unlinked.below found)

/-- A walk by names in a tree without links comes to the place of these names. -/
theorem Unlinked.walks_to (unlinked : w.Unlinked place) (real : ∀ name ∈ rest, isRealName name)
    (walks : w.Walks .follow links place rest there) : there = place ++ rest := by
  induction rest generalizing place with
  | nil =>
    cases walks
    simp
  | cons name rest ih =>
    obtain ⟨first, later⟩ := List.forall_mem_cons.mp real
    have split : place ++ name :: rest = place ++ [name] ++ rest := by simp
    rw [split]
    cases walks with
    | pause _ still => exact absurd still (by simp [first.1])
    | up => exact absurd rfl first.2
    | name _ _ _ _ onward => exact ih unlinked.below later onward
    | stay _ _ staying => cases staying
    | link _ _ _ _ found => exact absurd found (unlinked [name] _ (by simp))

end Files.Workspace

/-! ## The files of a library -/

namespace Template

open Files.Path

variable {library : Library} {w : Workspace} {place : Location} {directory : Path}
  {init rest parts : List String} {stem name : String} {mode : Nat} {bytes : Bytes}

/-- A tree of directories and regular files, with names that they can have, in which no directory is
called like a template file and nothing has the ending of one for its whole name. -/
structure StubTree (w : Workspace) (place : Location) : Prop where
  unlinked : w.Unlinked place
  spelled : ∀ {front name}, w.entryAt (place ++ front ++ [name]) ≠ none →
    '/' ∉ name.toList ∧ '\x00' ∉ name.toList
  solid : ∀ front stem, w.entryAt (place ++ front ++ [stem ++ ".stub"]) ≠ some .directory
  named : ∀ front, w.entryAt (place ++ front ++ [".stub"]) = none

/-- The directory of a library, if there is one and it is there, is such a tree. -/
def Library.IsPlain (library : Library) (w : Workspace) : Prop :=
  ∀ directory place, library.directory = some directory → w.locate .follow directory = .ok place →
    StubTree w place

private theorem StubTree.isPart (stubs : StubTree w place) (tree : w.WellFormed)
    (found : w.entryAt (place ++ rest) ≠ none) :
    ∀ name ∈ rest, IsPart name ∧ '\x00' ∉ name.toList := by
  intro name member
  obtain ⟨front, back, rfl⟩ := List.append_of_mem member
  have here : w.entryAt (place ++ front ++ [name]) ≠ none := by
    have split : place ++ (front ++ name :: back) = place ++ front ++ [name] ++ back := by simp
    rw [split] at found
    by_cases last : back = []
    · simpa [last] using found
    · rw [tree.above found last]
      simp
  exact ⟨⟨tree.name here, (stubs.spelled here).1⟩, (stubs.spelled here).2⟩

/-- A name with the ending of template files is a name for a file. -/
theorem isPart_stub (part : IsPart stem) : IsPart (stem ++ ".stub") := by
  have long : 5 ≤ (stem ++ ".stub").length := by
    rw [String.length_append]
    exact Nat.le_add_left 5 _
  have other : ∀ short : String, short.length < 5 → stem ++ ".stub" ≠ short := by
    rintro short less same
    rw [same] at long
    omega
  refine ⟨⟨?_, other ".." (by decide)⟩, ?_⟩
  · rw [isPause, Bool.or_eq_false_iff, beq_eq_false_iff_ne, beq_eq_false_iff_ne]
    exact ⟨other slashStep (by decide), other dotStep (by decide)⟩
  · simpa [String.toList_append] using part.2

/-- The name of a template file stands for the template without its ending. -/
theorem nameOf_stub (named : stem ≠ "") :
    Library.nameOf (init ++ [stem ++ ".stub"]) = join "/" (init ++ [stem]) := by
  have chars : (stem ++ ".stub").toList = stem.toList ++ '.' :: ['s', 't', 'u', 'b'] := by
    simp [String.toList_append]
  have cut := @splitEnding_append stem.toList ['s', 't', 'u', 'b']
    (fun none => named (String.toList_eq_nil_iff.mp none)) (by decide) (by decide)
  simp only [Library.nameOf, List.getLast?_concat, Option.getD_some, List.dropLast_concat, chars, cut,
    String.ofList_toList]

private theorem entryAt_ne_none {entry : Entry} (member : (place, entry) ∈ w.entries) :
    w.entryAt place ≠ none := by
  unfold entryAt
  split
  · simp
  · intro missing
    exact absurd (beq_self_eq_true place) (by simpa using List.lookup_eq_none_iff.mp missing _ member)

/-- What is listed below a tree for templates are its files with the ending. -/
theorem mem_namesBelow_iff (stubs : StubTree w place) : rest ∈ Library.namesBelow w place ↔
    ∃ init stem mode bytes, stem ≠ "" ∧ rest = init ++ [stem ++ ".stub"] ∧
      w.entryAt (place ++ rest) = some (.file mode bytes) := by
  unfold Library.namesBelow
  simp only [List.mem_filter, List.mem_filterMap, Prod.exists, endsWith_iff]
  constructor
  · rintro ⟨⟨known, entry, member, kept⟩, stem, ended⟩
    split at kept
    · rename_i below
      cases kept
      obtain ⟨within, longer⟩ := Bool.and_eq_true_iff.mp below
      obtain ⟨rest, rfl⟩ := List.isPrefixOf_iff_prefix.mp within
      rw [List.drop_left] at ended ⊢
      have found := entryAt_ne_none member
      rcases List.eq_nil_or_concat' rest with rfl | ⟨init, last, rfl⟩
      · simp at longer
      rw [List.getLast?_concat, Option.getD_some] at ended
      subst ended
      have named : stem ≠ "" := by
        rintro rfl
        exact found (by rw [← List.append_assoc]; exact stubs.named init)
      obtain ⟨entry, found⟩ := Option.ne_none_iff_exists'.mp found
      cases entry with
      | directory => exact absurd (by rw [List.append_assoc]; exact found) (stubs.solid init stem)
      | file mode bytes => exact ⟨init, stem, mode, bytes, named, rfl, found⟩
      | link target => exact absurd found (stubs.unlinked _ target (by simp))
    · cases kept
  · rintro ⟨init, stem, mode, bytes, -, rfl, found⟩
    refine ⟨⟨_, _, mem_of_entryAt found (by simp), ?_⟩, stem, by simp [fileEnding]⟩
    have within : place.isPrefixOf (place ++ (init ++ [stem ++ ".stub"])) = true :=
      List.isPrefixOf_iff_prefix.mpr (List.prefix_append ..)
    simp [within]

/-- The directory of a library has a template file, by the names on the way to it. -/
def Library.HasStub (library : Library) (w : Workspace) (init : List String) (stem : String) : Prop :=
  ∃ directory place mode bytes, library.directory = some directory ∧
    w.locate .follow directory = .ok place ∧
    w.entryAt (place ++ (init ++ [stem ++ ".stub"])) = some (.file mode bytes)

/-- The library's own names are those of its template files. -/
theorem Library.mem_ownNames_iff (tree : w.WellFormed) (plain : library.IsPlain w) :
    name ∈ library.ownNames w ↔
      ∃ init stem, stem ≠ "" ∧ name = join "/" (init ++ [stem]) ∧ library.HasStub w init stem := by
  unfold Library.ownNames
  constructor
  · intro member
    split at member
    · cases member
    · rename_i directory own
      split at member
      · rename_i place found
        obtain ⟨located, -⟩ := find?_eq_ok_iff.mp found
        obtain ⟨rest, listed, rfl⟩ := List.mem_map.mp member
        obtain ⟨init, stem, mode, bytes, named, rfl, file⟩ :=
          (mem_namesBelow_iff (plain directory place own located)).mp (List.mem_mergeSort.mp listed)
        exact ⟨init, stem, named, nameOf_stub named, directory, place, mode, bytes, own, located, file⟩
      · cases member
  · rintro ⟨init, stem, named, rfl, directory, place, mode, bytes, own, located, file⟩
    have there : w.entryAt (place ++ (init ++ [stem ++ ".stub"])) ≠ none := by simp [file]
    have inside : w.entryAt place = some .directory := tree.above there (by simp)
    rw [own]
    simp only [find?_eq_ok_iff.mpr ⟨located, inside⟩, List.mem_map, List.mem_mergeSort]
    exact ⟨init ++ [stem ++ ".stub"], (mem_namesBelow_iff (plain directory place own located)).mpr
      ⟨init, stem, mode, bytes, named, rfl, file⟩, nameOf_stub named⟩

private theorem Library.path?_join (own : library.directory = some directory)
    (ordinary : ∀ part ∈ init ++ [stem ++ ".stub"], IsPart part) :
    library.path? (join "/" (init ++ [stem])) =
      some ⟨directory.start, directory.names ++ (init ++ [stem ++ ".stub"])⟩ := by
  rw [path?, own, Option.map_some, show fileEnding = ".stub" from rfl, join_append,
    child_join _ (by simp) ordinary]

/-- A template file is found under its name. -/
theorem Library.HasStub.isFile (tree : w.WellFormed) (plain : library.IsPlain w)
    (has : library.HasStub w init stem) :
    ∃ path, library.path? (join "/" (init ++ [stem])) = some path ∧ w.isFile path = true := by
  obtain ⟨directory, place, mode, bytes, own, located, file⟩ := has
  have stubs := plain directory place own located
  have there : w.entryAt (place ++ (init ++ [stem ++ ".stub"])) ≠ none := by simp [file]
  have parts := stubs.isPart tree there
  refine ⟨_, path?_join own fun part member => (parts part member).1, isFile_iff.mpr
    ⟨_, mode, bytes, locate_of_walks ?_ ?_, file⟩⟩
  · have clean : (⟨directory.start, init ++ [stem ++ ".stub"]⟩ : Path).hasNull = false :=
      List.any_eq_false.mpr fun part member => by simpa using (parts part member).2
    rw [hasNull_append, clean, Bool.or_false]
    exact hasNull_of_locate located
  · exact (locate_walks located).onward fun left => stubs.unlinked.walks tree there left

/-- What is found under a name made of ordinary parts is a template file of that name. -/
theorem Library.hasStub_of_isFile (plain : library.IsPlain w) {path : Path}
    (ordinary : ∀ part ∈ init ++ [stem], IsPart part)
    (called : library.path? (join "/" (init ++ [stem])) = some path) (found : w.isFile path = true) :
    library.HasStub w init stem := by
  have parts : ∀ part ∈ init ++ [stem ++ ".stub"], IsPart part := by
    intro part member
    rcases List.mem_append.mp member with member | member
    · exact ordinary part (by simp [member])
    · rw [List.mem_singleton.mp member]
      exact isPart_stub (ordinary stem (by simp))
  obtain ⟨directory, own, -⟩ := Option.map_eq_some_iff.mp called
  rw [path?_join own parts] at called
  cases called
  obtain ⟨there, mode, bytes, located, file⟩ := isFile_iff.mp found
  obtain ⟨left, place, before, -, after⟩ := (locate_walks located).midway (by simp)
  have reached : w.locate .follow directory = .ok place := by
    refine locate_of_walks ?_ before
    have clean := hasNull_of_locate located
    rw [hasNull_append, Bool.or_eq_false_iff] at clean
    exact clean.1
  have unlinked := (plain directory place own reached).unlinked
  rw [unlinked.walks_to (fun part member => (parts part member).1) after] at file
  exact ⟨directory, place, mode, bytes, own, reached, file⟩

/-! ## Listing and looking up -/

/-- The file that would hold a template is there, with some bytes in it. -/
def Library.Stub (library : Library) (w : Workspace) (name : String) (path : Path) (bytes : Bytes) :
    Prop :=
  library.path? name = some path ∧ ∃ place mode, w.locate .follow path = .ok place ∧
    w.entryAt place = some (.file mode bytes)

private theorem Library.isFile_iff_stub {path : Path} :
    library.path? name = some path ∧ w.isFile path = true ↔ ∃ bytes, library.Stub w name path bytes := by
  rw [isFile_iff]
  constructor
  · rintro ⟨called, place, mode, bytes, located, file⟩
    exact ⟨bytes, called, place, mode, located, file⟩
  · rintro ⟨bytes, called, place, mode, located, file⟩
    exact ⟨called, place, mode, bytes, located, file⟩

private theorem Library.isSome_lookup_iff :
    (library.builtIn.lookup name).isSome = true ↔ name ∈ library.builtIn.map (·.1) := by
  rw [← not_iff_not, Bool.not_eq_true, Option.isSome_eq_false_iff, Option.isNone_iff_eq_none,
    List.lookup_eq_none_iff, List.mem_map]
  simp only [bne_iff_ne, not_exists, not_and]
  exact forall₂_congr fun entry _ => ne_comm

/-- There is a template of a name when there is a file for it, or it is built in. -/
theorem Library.has_iff : library.has w name = true ↔
    (∃ path, library.path? name = some path ∧ w.isFile path = true) ∨
      name ∈ library.builtIn.map (·.1) := by
  rw [has, Bool.or_eq_true, isSome_lookup_iff, file?, Option.isSome_iff_exists]
  simp only [Option.filter_eq_some_iff]

private theorem Library.mem_names_iff : name ∈ library.names w ↔
    name ∈ library.builtIn.map (·.1) ∨ name ∈ library.ownNames w := by
  simp only [names, List.mem_eraseDups, List.mem_append, List.mem_mergeSort]

private theorem Library.bodyIn_of_stub {path : Path} (stub : library.Stub w name path bytes) :
    library.bodyIn name w = match fileText? bytes with
      | some text => .ok text
      | none => .error (.templateUnreadable name path) := by
  obtain ⟨called, place, mode, located, file⟩ := stub
  exact bodyIn_of_file called located file

private theorem Library.bodyIn_of_no_stub
    (absent : ∀ path bytes, ¬ library.Stub w name path bytes) :
    library.bodyIn name w = match library.builtIn.lookup name with
      | some body => .ok body
      | none => .error (.templateMissing name (library.path? name)) := by
  refine bodyIn_of_not_file fun path called => ?_
  rw [← Bool.not_eq_true]
  intro file
  obtain ⟨bytes, stub⟩ := isFile_iff_stub.mp ⟨called, file⟩
  exact absent path bytes stub

private theorem Library.stub_or_not (library : Library) (w : Workspace) (name : String) :
    (∃ path bytes, library.Stub w name path bytes) ∨
      ∀ path bytes, ¬ library.Stub w name path bytes := by
  by_cases there : ∃ path bytes, library.Stub w name path bytes
  · exact .inl there
  · exact .inr fun path bytes stub => there ⟨path, bytes, stub⟩

private theorem fileText?_encode (s : String) :
    fileText? (encode s) = some (String.ofList (unifyLineEnds s.toList)) := by
  rw [fileText?, decode?_encode, Option.map_some]

/-- There is no template exactly when there is neither a file nor a built-in body. -/
theorem Library.bodyIn_eq_missing_iff :
    (∃ path, library.bodyIn name w = .error (.templateMissing name path)) ↔
      library.has w name = false := by
  rw [← Bool.not_eq_true, has_iff, ← isSome_lookup_iff, not_or]
  rcases library.stub_or_not w name with ⟨path, bytes, stub⟩ | absent
  · have there := isFile_iff_stub.mpr ⟨bytes, stub⟩
    rw [bodyIn_of_stub stub]
    constructor
    · rintro ⟨missing, failed⟩
      split at failed <;> cases failed
    · exact fun none => absurd ⟨path, there⟩ none.1
  · have noFile : ¬ ∃ path, library.path? name = some path ∧ w.isFile path = true := by
      rintro ⟨path, file⟩
      obtain ⟨bytes, stub⟩ := isFile_iff_stub.mp file
      exact absent path bytes stub
    rw [bodyIn_of_no_stub absent]
    cases library.builtIn.lookup name <;> simp [noFile]

/-- A template is unreadable exactly when its file is there and the encoding of no text. -/
theorem Library.bodyIn_eq_unreadable_iff {path : Path} :
    library.bodyIn name w = .error (.templateUnreadable name path) ↔
      ∃ bytes, library.Stub w name path bytes ∧ ∀ s, encode s ≠ bytes := by
  have noText : ∀ bytes, fileText? bytes = none ↔ ∀ s, encode s ≠ bytes := by
    intro bytes
    rw [fileText?, Option.map_eq_none_iff, decode?_eq_none_iff]
  constructor
  · intro failed
    rcases library.stub_or_not w name with ⟨known, bytes, stub⟩ | absent
    · rw [bodyIn_of_stub stub] at failed
      split at failed
      · cases failed
      · rename_i unread
        cases failed
        exact ⟨bytes, stub, (noText bytes).mp unread⟩
    · rw [bodyIn_of_no_stub absent] at failed
      split at failed <;> cases failed
  · rintro ⟨bytes, stub, other⟩
    rw [bodyIn_of_stub stub, (noText bytes).mpr other]

/-- The listing of templates and the lookups agree. No name is listed twice; what is listed is
there; and what is there under a name made of ordinary parts is listed. Getting a template fails for
want of one exactly when there is none, and because its file is no text exactly when that is there
and encodes none. The text of the file is given whenever it has one, and what is built in when there
is no file. -/
theorem Library.listing_agrees (library : Library) (session : Session)
    (tree : session.workspace.WellFormed) (plain : library.IsPlain session.workspace) :
    let w := session.workspace
    (library.names w).Nodup ∧ (∀ name ∈ library.names w, library.has w name = true) ∧
    (∀ parts, parts ≠ [] → (∀ part ∈ parts, IsPart part) →
      library.has w (join "/" parts) = true → join "/" parts ∈ library.names w) ∧
    ∀ name, let result := ((library.get name).run session).1
      ((∃ path, result = .error (.templateMissing name path)) ↔ library.has w name = false) ∧
      (∀ path, result = .error (.templateUnreadable name path) ↔
        ∃ bytes, library.Stub w name path bytes ∧ ∀ s, encode s ≠ bytes) ∧
      (∀ path s, library.Stub w name path (encode s) →
        result = .ok (String.ofList (unifyLineEnds s.toList))) ∧
      ((∀ path bytes, ¬ library.Stub w name path bytes) →
        ∀ body, library.builtIn.lookup name = some body → result = .ok body) := by
  intro w
  refine ⟨nodup_eraseDups _, fun name listed => ?_, fun parts several ordinary there => ?_,
    fun name => ?_⟩
  · rcases mem_names_iff.mp listed with builtIn | own
    · exact has_iff.mpr (.inr builtIn)
    · obtain ⟨init, stem, -, rfl, stub⟩ := (mem_ownNames_iff tree plain).mp own
      exact has_iff.mpr (.inl (stub.isFile tree plain))
  · rw [mem_names_iff]
    rcases has_iff.mp there with ⟨path, called, file⟩ | builtIn
    · obtain ⟨init, stem, rfl⟩ := (List.eq_nil_or_concat' parts).resolve_left several
      have named : stem ≠ "" := by
        rintro rfl
        exact absurd (ordinary "" (by simp)).1 (by decide)
      exact .inr ((mem_ownNames_iff tree plain).mpr
        ⟨init, stem, named, rfl, hasStub_of_isFile plain ordinary called file⟩)
    · exact .inl builtIn
  · intro result
    have read : result = library.bodyIn name w := (answers_get library name session).1
    rw [read]
    refine ⟨bodyIn_eq_missing_iff, fun path => bodyIn_eq_unreadable_iff, fun path s stub => ?_,
      fun absent body builtIn => ?_⟩
    · rw [bodyIn_of_stub stub, fileText?_encode]
    · rw [bodyIn_of_no_stub absent, builtIn]

/-- Entries of which each may stand in a tree of templates make such trees only. -/
theorem StubTree.of_entries (each : ∀ known ∈ w.entries, (known.2 matches .link _) = false ∧
    ∀ name ∈ known.1.getLast?, '/' ∉ name.toList ∧ '\x00' ∉ name.toList ∧ name ≠ ".stub" ∧
      (".stub".toList <:+ name.toList → known.2 ≠ .directory)) : StubTree w place := by
  have listed : ∀ {front name entry}, w.entryAt (place ++ front ++ [name]) = some entry →
      '/' ∉ name.toList ∧ '\x00' ∉ name.toList ∧ name ≠ ".stub" ∧
        (".stub".toList <:+ name.toList → entry ≠ .directory) := by
    intro front name entry found
    exact (each _ (mem_of_entryAt found (by simp))).2 name (by simp)
  refine ⟨fun rest target proper found => ?_, fun there => ?_, fun front stem found => ?_,
    fun front => ?_⟩
  · exact absurd (each _ (mem_of_entryAt found (by simp [proper]))).1 (by simp)
  · obtain ⟨entry, found⟩ := Option.ne_none_iff_exists'.mp there
    exact ⟨(listed found).1, (listed found).2.1⟩
  · exact (listed found).2.2.2 ⟨stem.toList, (String.toList_append ..).symm⟩ rfl
  · by_contra there
    obtain ⟨entry, found⟩ := Option.ne_none_iff_exists'.mp there
    exact (listed found).2.2.1 rfl

/-- A session with two templates of its own, one further down and with dots in its name, the other
one hidden and no text. -/
def stubSession : Session where
  workspace :=
    { home := []
      entries := [(["t"], .directory), (["t", "a"], .directory),
        (["t", "a", "b.c.stub"], .file 0o644 (encode "x\r\n")),
        (["t", ".h.stub"], .file 0o644 [0xff])] }
  consent := .always true

/-- The templates of that session, with one that is built in. -/
def stubLibrary : Library where
  directory := some ⟨.here, ["t"]⟩
  builtIn := [("m", "body")]

/-- Both are listed under their names, and each is found there for what it is. -/
theorem Library.listing_agrees_stubs :
    stubSession.workspace.WellFormed ∧ stubLibrary.IsPlain stubSession.workspace ∧
    "a/b.c" ∈ stubLibrary.names stubSession.workspace ∧
    ((stubLibrary.get "a/b.c").run stubSession).1 = .ok "x\n" ∧
    ((stubLibrary.get ".h").run stubSession).1 =
      .error (.templateUnreadable ".h" ⟨.here, ["t", ".h.stub"]⟩) ∧
    ((stubLibrary.get "m").run stubSession).1 = .ok "body" := by
  have tree : stubSession.workspace.WellFormed := .of_entries rfl (by decide)
  have plain : stubLibrary.IsPlain stubSession.workspace :=
    fun _ _ _ _ => .of_entries (by decide)
  obtain ⟨-, -, listed, gives⟩ := Library.listing_agrees stubLibrary stubSession tree plain
  obtain ⟨-, -, text, -⟩ := gives "a/b.c"
  obtain ⟨-, unread, -⟩ := gives ".h"
  obtain ⟨-, -, -, builtIn⟩ := gives "m"
  have stub : stubLibrary.Stub stubSession.workspace "a/b.c" ⟨.here, ["t", "a", "b.c.stub"]⟩
      (encode "x\r\n") :=
    ⟨by decide, ["t", "a", "b.c.stub"], 0o644, by decide, by decide⟩
  have hidden : stubLibrary.Stub stubSession.workspace ".h" ⟨.here, ["t", ".h.stub"]⟩ [0xff] :=
    ⟨by decide, ["t", ".h.stub"], 0o644, by decide, by decide⟩
  have noFile : ∀ path bytes, ¬ stubLibrary.Stub stubSession.workspace "m" path bytes := by
    intro path bytes stub
    obtain ⟨called, file⟩ := Library.isFile_iff_stub.mpr ⟨bytes, stub⟩
    have spelled : stubLibrary.path? "m" = some ⟨.here, ["t", "m.stub"]⟩ := by decide
    rw [spelled] at called
    cases called
    exact absurd file (by decide)
  have ordinary : ∀ part ∈ ["a", "b.c"], IsPart part := by
    unfold IsPart
    decide
  refine ⟨tree, plain, listed ["a", "b.c"] (by decide) ordinary (by decide), ?_, ?_,
    builtIn noFile _ (by decide)⟩
  · rw [text _ _ stub]
    decide
  · exact (unread _).mpr ⟨_, hidden, decode?_eq_none_iff.mp (by decide)⟩

end Template

end Scaffold
