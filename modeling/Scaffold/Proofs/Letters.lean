import Mathlib.Data.List.TakeWhile
import Scaffold.Proofs.Names

/-! What is left of a name in its spellings. A letter here is any character of a word but the
underscore, in any script. Upper-casing the first letter of a part keeps a letter, cutting a name at its
separators loses none, and the lower-cased words of a name are empty exactly when it has none. The
tables of letter case and of word characters are compared run by run. -/
namespace Scaffold

namespace Text

variable {c d : Char} {cs : List Char} {code : Nat} {run : CaseSpan}

/-- A letter, a digit or a numeral of any script. -/
def isLetter (c : Char) : Bool :=
  isWord c && c != '_'

/-- A text with a letter. -/
def Lettered (cs : List Char) : Prop :=
  ∃ c ∈ cs, isLetter c = true

theorem Lettered.mono {more : List Char} (lettered : Lettered cs) (within : cs ⊆ more) :
    Lettered more := by
  obtain ⟨c, member, letter⟩ := lettered
  exact ⟨c, within member, letter⟩

@[simp] theorem lettered_append {more : List Char} :
    Lettered (cs ++ more) ↔ Lettered cs ∨ Lettered more := by
  simp only [Lettered, List.mem_append, or_and_right, exists_or]

theorem isLetter_iff : isLetter c = true ↔ isWord c = true ∧ c ≠ '_' := by
  rw [isLetter, Bool.and_eq_true, bne_iff_ne]

/-! ## Runs of code points -/

/-- The runs of all letters. -/
def letterSpans : List Span :=
  ⟨65, 90, 1⟩ :: ⟨97, 122, 1⟩ :: ⟨48, 57, 1⟩ :: wordSpans

/-- Whether a run is seen to hold all of another one: it has no gaps, or the other one starts in step
with it and goes on in step, or ends there. -/
def Span.covers (outer inner : Span) : Bool :=
  Nat.ble outer.first inner.first && Nat.ble inner.last outer.last &&
    (Nat.beq outer.stride 1 || Nat.beq ((inner.first - outer.first) % outer.stride) 0 &&
      (Nat.beq outer.stride inner.stride || Nat.beq inner.first inner.last))

/-- Whether two runs lie apart. -/
def Span.misses (outer inner : Span) : Bool :=
  Nat.blt outer.last inner.first || Nat.blt inner.last outer.first

private theorem Span.contains_of_covers {outer inner : Span} (covers : outer.covers inner = true)
    (inside : inner.contains code = true) : outer.contains code = true := by
  obtain ⟨first, last, reached⟩ := contains_iff.mp inside
  unfold Span.covers at covers
  simp only [Bool.and_eq_true, Bool.or_eq_true, Nat.ble_eq, Nat.beq_eq] at covers
  obtain ⟨⟨below, above⟩, gapless | ⟨start, same | alone⟩⟩ := covers
  · refine contains_iff.mpr ⟨by omega, by omega, ?_⟩
    rw [gapless, Nat.mod_one]
  · refine contains_iff.mpr ⟨by omega, by omega, ?_⟩
    rw [← same] at reached
    have parted : code - outer.first = (inner.first - outer.first) + (code - inner.first) := by omega
    rw [parted, Nat.add_mod, start, reached, Nat.zero_add, Nat.zero_mod]
  · obtain rfl : code = inner.first := by omega
    exact contains_iff.mpr ⟨below, by omega, start⟩

theorem Span.not_contains_of_misses {outer inner : Span} (misses : outer.misses inner = true)
    (inside : inner.contains code = true) : outer.contains code = false := by
  obtain ⟨first, last, -⟩ := contains_iff.mp inside
  unfold Span.misses at misses
  simp only [Bool.or_eq_true, Nat.blt_eq] at misses
  rw [← Bool.not_eq_true, contains_iff]
  omega

theorem contains_gapless {first last : Char} :
    (⟨first.toNat, last.toNat, 1⟩ : Span).contains c.toNat = true ↔ (first ≤ c && c ≤ last) = true := by
  rw [Span.contains_iff, Bool.and_eq_true, decide_eq_true_iff, decide_eq_true_iff]
  exact ⟨fun ⟨below, above, _⟩ => ⟨below, above⟩, fun ⟨below, above⟩ => ⟨below, above, Nat.mod_one _⟩⟩

/-- Letters are what the runs of letters hold. -/
theorem isLetter_iff_spans :
    isLetter c = true ↔ ∃ span ∈ letterSpans, span.contains c.toNat = true := by
  have capital := @contains_gapless c 'A' 'Z'
  have small := @contains_gapless c 'a' 'z'
  have digit := @contains_gapless c '0' '9'
  have spans : (∃ span ∈ letterSpans, span.contains c.toNat = true) ↔
      isCapital c = true ∨ isSmall c = true ∨ isDigit c = true ∨ inSpans wordSpans c = true := by
    simp only [letterSpans, List.mem_cons, exists_eq_or_imp, inSpans, List.any_eq_true]
    exact or_congr capital (or_congr small (or_congr digit Iff.rfl))
  rw [spans, isLetter_iff]
  simp only [isWord, Bool.or_eq_true, beq_iff_eq]
  constructor
  · rintro ⟨(((capital | small) | digit) | mark) | span, other⟩
    · exact .inl capital
    · exact .inr (.inl small)
    · exact .inr (.inr (.inl digit))
    · exact absurd mark other
    · exact .inr (.inr (.inr span))
  · intro letter
    refine ⟨?_, ?_⟩
    · rcases letter with capital | small | digit | span
      · exact .inl (.inl (.inl (.inl capital)))
      · exact .inl (.inl (.inl (.inr small)))
      · exact .inl (.inl (.inr digit))
      · exact .inr span
    · rintro rfl
      revert letter
      decide +kernel

/-! ## Letter case -/

/-- What a run of letters becomes. -/
def CaseSpan.image (run : CaseSpan) : Span :=
  ⟨(run.first + run.shift).toNat, (run.last + run.shift).toNat, run.stride⟩

theorem contains_image (raised : run.Raised) (inside : run.span.contains c.toNat = true) :
    run.image.contains (Char.ofNat (c.toNat + run.shift).toNat).toNat = true := by
  have onto := toNat_of_raised raised inside
  have above := raised.1
  obtain ⟨first, last, reached⟩ := Span.contains_iff.mp inside
  change run.first ≤ c.toNat at first
  change c.toNat ≤ run.last at last
  change (c.toNat - run.first) % run.stride = 0 at reached
  have way : (Char.ofNat (c.toNat + run.shift).toNat).toNat - run.image.first =
      c.toNat - run.first := by
    change _ - (run.first + run.shift).toNat = _
    omega
  refine Span.contains_iff.mpr ⟨?_, ?_, way ▸ reached⟩
  · change (run.first + run.shift).toNat ≤ _
    omega
  · change _ ≤ (run.last + run.shift).toNat
    omega

/-- Whether a run is seen to hold letters only. -/
def isAmongLetters (span : Span) : Bool :=
  letterSpans.any (·.covers span)

/-- Whether a run is seen to hold no letters. -/
def isBesideLetters (span : Span) : Bool :=
  letterSpans.all (·.misses span)

theorem isLetter_of_among {span : Span} (among : isAmongLetters span = true)
    (inside : span.contains c.toNat = true) : isLetter c = true := by
  obtain ⟨outer, member, covers⟩ := List.any_eq_true.mp among
  exact isLetter_iff_spans.mpr ⟨outer, member, Span.contains_of_covers covers inside⟩

theorem not_isLetter_of_beside {span : Span} (beside : isBesideLetters span = true)
    (inside : span.contains c.toNat = true) : isLetter c ≠ true := by
  rw [Ne, isLetter_iff_spans]
  rintro ⟨outer, member, holds⟩
  rw [Span.not_contains_of_misses (List.all_eq_true.mp beside outer member) inside] at holds
  cases holds

/-- A character as a run of its own. -/
def alone (c : Char) : Span :=
  ⟨c.toNat, c.toNat, 1⟩

private theorem contains_alone (c : Char) : (alone c).contains c.toNat = true :=
  Span.contains_iff.mpr ⟨le_rfl, le_rfl, Nat.mod_one _⟩

/-- The tables of letter case lead from letters to letters, only circled signs are no letters in either
case, and neither white space nor the hyphen is one. -/
theorem tables_letters :
    (∀ run ∈ upperShifts,
      run.Raised ∧ (isAmongLetters run.image || isBesideLetters run.span) = true) ∧
    (∀ run ∈ lowerShifts, (isAmongLetters run.span || isBesideLetters run.image) = true) ∧
    (∀ form ∈ upperExpansions,
      ((form.2.map Char.ofNat).any fun c => isAmongLetters (alone c)) = true) ∧
    ∀ span ∈ alone '-' :: blankSpans, isBesideLetters span = true := by
  decide +kernel

/-- A letter is upper-cased to a text with a letter. -/
theorem lettered_upperForm (letter : isLetter c = true) : Lettered (upperForm c) := by
  unfold upperForm
  split
  · rename_i codes found
    have member : (c.toNat, codes) ∈ upperExpansions := Data.mem_of_lookup found
    obtain ⟨d, written, among⟩ := List.any_eq_true.mp (tables_letters.2.2.1 _ member)
    exact ⟨d, written, isLetter_of_among among (contains_alone d)⟩
  · rcases shifted_cases upperShifts c with same | ⟨run, member, inside, same⟩
    · exact ⟨c, by simp [same], letter⟩
    · refine ⟨_, List.mem_singleton.mpr same.symm, ?_⟩
      obtain ⟨raised, letters⟩ := tables_letters.1 run member
      rcases Bool.or_eq_true_iff.mp letters with among | beside
      · exact isLetter_of_among among (contains_image raised inside)
      · exact absurd letter (not_isLetter_of_beside beside inside)

/-- What is lower-cased to a letter is a letter. -/
theorem isLetter_of_lowerLetter (letter : isLetter (lowerLetter c) = true) : isLetter c = true := by
  rcases shifted_cases lowerShifts c with same | ⟨run, member, inside, same⟩
  · rwa [lowerLetter, same] at letter
  · rw [lowerLetter, same] at letter
    rcases Bool.or_eq_true_iff.mp (tables_letters.2.1 run member) with among | beside
    · exact isLetter_of_among among inside
    · exact absurd letter (not_isLetter_of_beside beside
        (contains_image (lowerShifts_raised run member) inside))

theorem lettered_upperFirstChars (lettered : Lettered cs) : Lettered (upperFirstChars cs) := by
  obtain ⟨c, member, letter⟩ := lettered
  cases cs with
  | nil => cases member
  | cons first rest =>
    rw [upperFirstChars, lettered_append]
    rcases List.mem_cons.mp member with rfl | later
    · exact .inl (lettered_upperForm letter)
    · exact .inr ⟨c, later, letter⟩

private theorem lowerForm_ne_nil (before : List Char) (c : Char) (after : List Char) :
    lowerForm before c after ≠ [] := by
  unfold lowerForm
  repeat' split
  all_goals simp

theorem lowerChars_eq_nil_iff : lowerChars cs = [] ↔ cs = [] := by
  cases cs with
  | nil => simp [lowerChars, lowerAfter]
  | cons c rest => simp [lowerChars, lowerAfter, lowerForm_ne_nil]

/-! ## Cutting and joining -/

private theorem exists_mem_split {isSeparator : Char → Bool} (member : c ∈ cs)
    (other : isSeparator c = false) : ∃ piece ∈ split isSeparator cs, c ∈ piece := by
  induction cs with
  | nil => cases member
  | cons first rest ih =>
    rw [split]
    rcases List.mem_cons.mp member with rfl | later
    · rw [other, if_neg Bool.false_ne_true]
      split
      · exact ⟨_, List.mem_cons_self, List.mem_cons_self⟩
      · exact ⟨_, List.mem_cons_self, List.mem_cons_self⟩
    · obtain ⟨piece, among, inside⟩ := ih later
      split
      · exact ⟨piece, List.mem_cons_of_mem _ among, inside⟩
      · cases pieces : split isSeparator rest with
        | nil =>
          rw [pieces] at among
          cases among
        | cons next more =>
          rw [pieces] at among
          rcases List.mem_cons.mp among with rfl | among
          · exact ⟨_, List.mem_cons_self, List.mem_cons_of_mem _ inside⟩
          · exact ⟨piece, List.mem_cons_of_mem _ among, inside⟩

private theorem mem_dropWhile_of_mem {drop : Char → Bool} (member : c ∈ cs)
    (kept : drop c = false) :
    c ∈ cs.dropWhile drop := by
  rw [← List.takeWhile_append_dropWhile (p := drop) (l := cs)] at member
  rcases List.mem_append.mp member with dropped | left
  · rw [List.mem_takeWhile_imp dropped] at kept
    cases kept
  · exact left

private theorem mem_stripBy_of_mem {drop : Char → Bool} (member : c ∈ cs) (kept : drop c = false) :
    c ∈ stripBy drop cs := by
  unfold stripBy
  rw [List.mem_reverse]
  refine mem_dropWhile_of_mem ?_ kept
  rw [List.mem_reverse]
  exact mem_dropWhile_of_mem member kept

private theorem stripBy_eq_nil {drop : Char → Bool} (all : ∀ c ∈ cs, drop c = true) :
    stripBy drop cs = [] := by
  have none : cs.dropWhile drop = [] := by
    rw [List.dropWhile_eq_nil_iff]
    exact all
  rw [stripBy, none]
  rfl

private theorem mem_collapse_of_mem {inRun : Char → Bool} {mark : Char} (member : c ∈ cs)
    (outside : inRun c = false) : c ∈ collapse inRun mark cs := by
  induction cs with
  | nil => cases member
  | cons first rest ih =>
    rw [collapse]
    rcases List.mem_cons.mp member with rfl | later
    · rw [outside, if_neg Bool.false_ne_true]
      exact List.mem_cons_self
    · repeat' split
      · exact ih later
      · exact List.mem_cons_of_mem _ (ih later)
      · exact List.mem_cons_of_mem _ (ih later)

/-- No letter is white space. -/
theorem not_isLetter_of_isBlank (blank : isBlank c = true) : isLetter c ≠ true := by
  obtain ⟨span, member, inside⟩ := List.any_eq_true.mp blank
  exact not_isLetter_of_beside (tables_letters.2.2.2 span (List.mem_cons_of_mem _ member)) inside

end Text

namespace Identifier

open Text

variable {c : Char} {cs : List Char}

theorem not_isSeparator_of_isLetter (letter : isLetter c = true) : isSeparator c = false := by
  rw [isSeparator, Bool.or_eq_false_iff, Bool.or_eq_false_iff]
  refine ⟨⟨?_, ?_⟩, ?_⟩
  · rw [← Bool.not_eq_true]
    exact fun blank => not_isLetter_of_isBlank blank letter
  · rw [beq_eq_false_iff_ne]
    exact (isLetter_iff.mp letter).2
  · rw [beq_eq_false_iff_ne]
    rintro rfl
    exact not_isLetter_of_beside (tables_letters.2.2.2 _ List.mem_cons_self) (contains_alone _) letter

/-- A name with a letter has one in its studly spelling. -/
theorem lettered_studly {name : String} (lettered : Lettered name.toList) :
    Lettered (studly name).toList := by
  obtain ⟨c, member, letter⟩ := lettered
  obtain ⟨piece, among, inside⟩ := exists_mem_split member (not_isSeparator_of_isLetter letter)
  have word : piece ∈ words isSeparator name.toList := by
    refine List.mem_filter.mpr ⟨among, ?_⟩
    rw [Bool.not_eq_true', List.isEmpty_eq_false_iff]
    exact List.ne_nil_of_mem inside
  have spelled : Lettered (upperFirstChars piece) := lettered_upperFirstChars ⟨c, inside, letter⟩
  rw [studly, String.toList_ofList]
  exact spelled.mono fun d member => List.mem_flatMap.mpr ⟨piece, word, member⟩

theorem splitAcronyms_short (short : ∀ x y z rest, cs ≠ x :: y :: z :: rest) :
    splitAcronyms cs = cs := by
  rw [splitAcronyms.eq_def]
  split
  · exact absurd rfl (short _ _ _ _)
  · rfl

theorem splitHumps_short (short : ∀ x y rest, cs ≠ x :: y :: rest) : splitHumps cs = cs := by
  rw [splitHumps.eq_def]
  split
  · exact absurd rfl (short _ _ _)
  · rfl

/-- Parting the words of a name puts in underscores and nothing else. -/
theorem mem_splitAcronyms (other : c ≠ '_') : c ∈ splitAcronyms cs ↔ c ∈ cs := by
  induction cs using splitAcronyms.induct with
  | case1 x y z rest found ih =>
    rw [splitAcronyms, if_pos found]
    simp only [List.mem_cons, ih, other, false_or]
  | case2 x y z rest missing ih =>
    rw [splitAcronyms, if_neg missing]
    simp only [List.mem_cons, ih]
  | case3 cs short => rw [splitAcronyms_short short]

theorem mem_splitHumps (other : c ≠ '_') : c ∈ splitHumps cs ↔ c ∈ cs := by
  induction cs using splitHumps.induct with
  | case1 x y rest found ih =>
    rw [splitHumps, if_pos found]
    simp only [List.mem_cons, ih, other, false_or]
  | case2 x y rest missing ih =>
    rw [splitHumps, if_neg missing]
    simp only [List.mem_cons, ih]
  | case3 cs short => rw [splitHumps_short short]

/-- A name has words exactly when it has a letter. -/
theorem underscored_eq_nil_iff : underscored cs = [] ↔ ¬Lettered cs := by
  constructor
  · rintro bare ⟨c, member, letter⟩
    obtain ⟨word, other⟩ := isLetter_iff.mp letter
    have parted : c ∈ splitHumps (splitAcronyms cs) :=
      (mem_splitHumps other).mpr ((mem_splitAcronyms other).mpr member)
    have marked : (c == '_') = false := by simpa using other
    have inside : c ∈ underscored cs :=
      mem_stripBy_of_mem (mem_collapse_of_mem (mem_collapse_of_mem parted (by simp [word])) marked)
        marked
    rw [bare] at inside
    cases inside
  · intro bare
    refine stripBy_eq_nil fun c member => ?_
    rw [beq_iff_eq]
    by_contra other
    rcases mem_collapse member with mark | ⟨member, -⟩
    · exact other mark
    · rcases mem_collapse member with mark | ⟨member, word⟩
      · exact other mark
      · have inside := (mem_splitAcronyms other).mp ((mem_splitHumps other).mp member)
        exact bare ⟨c, inside, isLetter_iff.mpr ⟨by simpa using word, other⟩⟩

private theorem snakeChars_eq_nil_iff : snakeChars cs = [] ↔ ¬Lettered cs :=
  lowerChars_eq_nil_iff.trans underscored_eq_nil_iff

theorem snake_eq_empty_iff {name : String} : snake name = "" ↔ ¬Lettered name.toList := by
  rw [← snakeChars_eq_nil_iff, snake, String.ofList_eq_empty_iff]

theorem kebab_eq_empty_iff {name : String} : kebab name = "" ↔ ¬Lettered name.toList := by
  rw [← snakeChars_eq_nil_iff, kebab, String.ofList_eq_empty_iff, List.map_eq_nil_iff]

end Identifier

end Scaffold
