import Scaffold.Proofs.Runs

/-! What the names of a run do to paths. A name is spelled in word characters, so it is one step of a
path, and never one up. A project whose settings have no two dots writes to no path that has them. -/
namespace Scaffold

open Files Text

namespace Text

variable {c : Char} {cs : List Char}

/-- Neither a slash nor a dot, so that it neither ends a name nor makes one of those that mean
something else. -/
def isPlain (c : Char) : Prop :=
  c ≠ '/' ∧ c ≠ '.'

/-- At least as far up as the digits, and so above the slash, the dot and the null character. -/
def isRaised (c : Char) : Prop :=
  48 ≤ c.toNat

theorem isPlain_of_isRaised (raised : isRaised c) : isPlain c := by
  unfold isRaised at raised
  constructor
  · rintro rfl
    exact absurd raised (by decide)
  · rintro rfl
    exact absurd raised (by decide)

/-- The runs of word characters lie as far up as the digits. -/
theorem wordSpans_raised : ∀ span ∈ wordSpans, 48 ≤ span.first := by
  decide +kernel

private theorem isRaised_of_isWord (word : isWord c = true) : isRaised c := by
  have above : ∀ first : Char, 48 ≤ first.toNat → first ≤ c → isRaised c :=
    fun first raised below => le_trans raised (UInt32.le_iff_toNat_le.mp below)
  simp only [isWord, isCapital, isSmall, isDigit, Bool.or_eq_true, Bool.and_eq_true,
    decide_eq_true_eq, beq_iff_eq, inSpans, List.any_eq_true] at word
  rcases word with (((capital | small) | digit) | rfl) | ⟨span, member, inside⟩
  · exact above 'A' (by decide) capital.1
  · exact above 'a' (by decide) small.1
  · exact above '0' (by decide) digit.1
  · exact above '_' (by decide) (Char.le_refl _)
  · simp only [Span.contains, Bool.and_eq_true, decide_eq_true_eq] at inside
    exact le_trans (wordSpans_raised span member) inside.1.1

/-- A run whose letters all become characters as far up as the digits. -/
def CaseSpan.Raised (run : CaseSpan) : Prop :=
  48 ≤ (run.first : Int) + run.shift ∧
    ((run.last : Int) + run.shift < 0xD800 ∨
      0xDFFF < (run.first : Int) + run.shift ∧ (run.last : Int) + run.shift < 0x110000)

instance (run : CaseSpan) : Decidable run.Raised :=
  inferInstanceAs (Decidable (_ ∧ _))

theorem lowerShifts_raised : ∀ run ∈ lowerShifts, run.Raised := by
  decide +kernel

theorem Span.contains_iff {span : Span} {code : Nat} : span.contains code = true ↔
    span.first ≤ code ∧ code ≤ span.last ∧ (code - span.first) % span.stride = 0 := by
  simp [Span.contains, and_assoc]

/-- A letter of a run becomes the character that the shift of the run leads to. -/
theorem toNat_of_raised {run : CaseSpan} (raised : run.Raised)
    (inside : run.span.contains c.toNat = true) :
    ((Char.ofNat (c.toNat + run.shift).toNat).toNat : Int) = c.toNat + run.shift := by
  obtain ⟨above, real⟩ := raised
  obtain ⟨first, last, -⟩ := Span.contains_iff.mp inside
  change run.first ≤ c.toNat at first
  change c.toNat ≤ run.last at last
  have valid : Nat.isValidChar (c.toNat + run.shift).toNat := by
    unfold Nat.isValidChar
    omega
  have same : (Char.ofNat (c.toNat + run.shift).toNat).toNat = (c.toNat + run.shift).toNat := by
    rw [Char.ofNat, dif_pos valid]
    rfl
  omega

/-- A letter is in one of the runs and is shifted, or stays. -/
theorem shifted_cases (runs : List CaseSpan) (c : Char) : shifted runs c = c ∨
    ∃ run ∈ runs, run.span.contains c.toNat = true ∧
      shifted runs c = Char.ofNat (c.toNat + run.shift).toNat := by
  unfold shifted
  split
  · rename_i run found
    exact .inr ⟨run, List.mem_of_find?_eq_some found,
      @List.find?_some _ (fun run : CaseSpan => run.span.contains c.toNat) _ _ found, rfl⟩
  · exact .inl rfl

private theorem isRaised_lowerLetter (raised : isRaised c) : isRaised (lowerLetter c) := by
  rcases shifted_cases lowerShifts c with same | ⟨run, member, inside, same⟩
  · rw [lowerLetter, same]
    exact raised
  · have onto := toNat_of_raised (lowerShifts_raised run member) inside
    have above := (lowerShifts_raised run member).1
    have first : run.first ≤ c.toNat := (Span.contains_iff.mp inside).1
    rw [lowerLetter, same, isRaised]
    omega

theorem isRaised_lowerForm {before after : List Char} (raised : isRaised c) :
    ∀ d ∈ lowerForm before c after, isRaised d := by
  intro d member
  unfold lowerForm at member
  repeat' split at member
  · rw [List.mem_singleton.mp member]
    exact Nat.le_of_ble_eq_true rfl
  · rw [List.mem_singleton.mp member]
    exact Nat.le_of_ble_eq_true rfl
  · rcases List.mem_pair.mp member with rfl | rfl
    · exact Nat.le_of_ble_eq_true rfl
    · exact Nat.le_of_ble_eq_true rfl
  · rw [List.mem_singleton.mp member]
    exact isRaised_lowerLetter raised

private theorem isRaised_lowerAfter {before : List Char} (raised : ∀ c ∈ cs, isRaised c) :
    ∀ d ∈ lowerAfter before cs, isRaised d := by
  induction cs generalizing before with
  | nil => simp [lowerAfter]
  | cons c rest ih =>
    intro d member
    rcases List.mem_append.mp member with first | later
    · exact isRaised_lowerForm (raised c List.mem_cons_self) d first
    · exact ih (fun c among => raised c (List.mem_cons_of_mem _ among)) d later

theorem mem_collapse {inRun : Char → Bool} {mark d : Char} (member : d ∈ collapse inRun mark cs) :
    d = mark ∨ d ∈ cs ∧ inRun d = false := by
  induction cs with
  | nil => cases member
  | cons c rest ih =>
    have later : d ∈ collapse inRun mark rest → d = mark ∨ d ∈ c :: rest ∧ inRun d = false := by
      intro member
      rcases ih member with mark | ⟨among, outside⟩
      · exact .inl mark
      · exact .inr ⟨List.mem_cons_of_mem _ among, outside⟩
    unfold collapse at member
    repeat' split at member
    · exact later member
    · rcases List.mem_cons.mp member with marked | member
      · exact .inl marked
      · exact later member
    · rename_i outside
      rcases List.mem_cons.mp member with rfl | member
      · exact .inr ⟨List.mem_cons_self, by simpa using outside⟩
      · exact later member

theorem mem_stripBy {drop : Char → Bool} {d : Char} (member : d ∈ stripBy drop cs) : d ∈ cs := by
  unfold stripBy at member
  have inner := (List.dropWhile_sublist _).subset (List.mem_reverse.mp member)
  exact (List.dropWhile_sublist _).subset (List.mem_reverse.mp inner)

/-- Splitting at a character that is not there leaves one piece. -/
theorem split_of_not_mem {isSeparator : Char → Bool} (none : ∀ c ∈ cs, isSeparator c = false) :
    split isSeparator cs = [cs] := by
  induction cs with
  | nil => rfl
  | cons c rest ih =>
    rw [split, none c List.mem_cons_self, ih fun c among => none c (List.mem_cons_of_mem _ among)]
    rfl

end Text

namespace Identifier

theorem isRaised_snakeChars (cs : List Char) : ∀ c ∈ snakeChars cs, isRaised c := by
  apply isRaised_lowerAfter
  intro c member
  have mark : isRaised '_' := Nat.le_of_ble_eq_true rfl
  rcases mem_collapse (mem_stripBy member) with rfl | ⟨among, -⟩
  · exact mark
  · rcases mem_collapse among with rfl | ⟨-, word⟩
    · exact mark
    · exact isRaised_of_isWord (by simpa using word)

/-- The words of a name have no slashes and no dots. -/
theorem isPlain_snakeChars (cs : List Char) : ∀ c ∈ snakeChars cs, isPlain c :=
  fun c member => isPlain_of_isRaised (isRaised_snakeChars cs c member)

end Identifier

namespace Files.Path

variable {base path : Path} {text : String}

/-- A path without two dots. -/
def Level (path : Path) : Prop :=
  ".." ∉ path.names

theorem Level.append (first : base.Level) (second : path.Level) : (base ++ path).Level := by
  change (Path.append base path).Level
  unfold Path.append
  split
  · intro member
    rcases List.mem_append.mp member with member | member
    · exact first member
    · exact second member
  · exact second

/-- A text without slashes spells one name at most. -/
theorem mem_names_of_flat {name : String} (flat : '/' ∉ text.toList)
    (member : name ∈ (ofString text).names) : name = text := by
  have whole : split (· == '/') text.toList = [text.toList] := by
    apply split_of_not_mem
    intro c among
    simp only [beq_eq_false_iff_ne]
    rintro rfl
    exact flat among
  have piece := List.mem_of_mem_filter member
  rw [whole] at piece
  simpa using piece

private theorem level_of_flat (flat : '/' ∉ text.toList) (other : text ≠ "..") :
    (ofString text).Level :=
  fun member => other (mem_names_of_flat flat member).symm

end Files.Path

/-! ## Targets -/

/-- A project none of whose settings goes up with two dots. -/
structure Config.Level (config : Config) : Prop where
  root : (Path.ofString config.projectRoot).Level
  controllerDir : (Path.ofString config.controllerDir).Level
  modelDir : (Path.ofString config.modelDir).Level
  viewsDir : (Path.ofString config.viewsDir).Level
  layout : (Path.ofString config.layout).Level
  routesFile : (Path.ofString config.routesFile).Level
  views : ∀ view ∈ Generation.viewNames, (Path.ofString (view ++ config.viewExtension)).Level

theorem Config.Level.resolved {config : Config} (level : config.Level) {text : String}
    (spelled : (Path.ofString text).Level) : (config.resolved text).Level :=
  level.root.append spelled

theorem Config.proper_resolved {config : Config} (text : String) : (config.resolved text).Proper :=
  (Path.proper_ofString _).append (Path.proper_ofString _)

namespace Naming

open Inflection

/-- Names that are one step of a path each, whatever comes behind them. -/
structure Level (naming : Naming) : Prop where
  snake : ∀ ending : String, '/' ∉ ending.toList → 2 < ending.length →
    (Path.ofString (naming.snakeName ++ ending)).Level
  folder : (Path.ofString naming.viewFolder).Level

theorem resolve_level (rules : RuleSet) (request : Request) :
    (Naming.resolve rules request).Level := by
  constructor
  · intro ending flat long
    apply Path.level_of_flat
    · intro member
      rw [String.toList_append] at member
      rcases List.mem_append.mp member with named | after
      · rw [Naming.resolve, Identifier.snake, String.toList_ofList] at named
        exact (Identifier.isPlain_snakeChars _ _ named).1 rfl
      · exact flat after
    · intro same
      have length := congrArg String.length same
      rw [String.length_append] at length
      have short : "..".length = 2 := rfl
      omega
  · have plain : ∀ c ∈ (Naming.resolve rules request).viewFolder.toList, isPlain c := by
      intro c member
      rw [Naming.resolve, Identifier.kebab, String.toList_ofList] at member
      obtain ⟨d, among, rfl⟩ := List.mem_map.mp member
      split
      · exact ⟨by decide, by decide⟩
      · exact Identifier.isPlain_snakeChars _ _ among
    apply Path.level_of_flat (fun member => (plain _ member).1 rfl)
    intro same
    have dot : '.' ∈ (Naming.resolve rules request).viewFolder.toList := by
      rw [same]
      decide
    exact (plain _ dot).2 rfl

end Naming

namespace Generation

open Config

theorem targets_proper (g : Generator) (naming : Naming) :
    ∀ target ∈ targets g naming, target.Proper := by
  intro target member
  simp only [targets, List.cons_append, List.nil_append, List.mem_cons] at member
  rcases member with rfl | rfl | rfl | member
  · exact (proper_resolved _).child _
  · exact (proper_resolved _).child _
  · exact (proper_resolved _).child _
  · obtain ⟨view, -, rfl⟩ := List.mem_map.mp member
    exact ((proper_resolved _).child _).child _

/-- A project without two dots in its settings writes to no path that has them. -/
theorem targets_level {g : Generator} {naming : Naming} (level : g.config.Level)
    (named : naming.Level) : ∀ target ∈ targets g naming, target.Level := by
  intro target member
  simp only [targets, List.cons_append, List.nil_append, List.mem_cons] at member
  rcases member with rfl | rfl | rfl | member
  · exact (level.resolved level.controllerDir).append (named.snake _ (by decide) (by decide))
  · exact (level.resolved level.modelDir).append (named.snake _ (by decide) (by decide))
  · exact (level.resolved level.viewsDir).append level.layout
  · obtain ⟨view, among, rfl⟩ := List.mem_map.mp member
    exact ((level.resolved level.viewsDir).append named.folder).append (level.views view among)

end Generation

end Scaffold
