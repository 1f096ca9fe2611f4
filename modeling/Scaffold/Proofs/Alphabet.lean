import Mathlib.Data.Bool.AllAny
import Scaffold.Proofs.Letters

/-! Lower-casing letter by letter, and the letters of the languages. Two letters alone are lower-cased to
something else than one letter, and each leaves a trace of its own. The letters that words are written
with come in pairs, small and capital, and stand in the first runs of the tables of letter case. -/
namespace Scaffold.Text

variable {c : Char} {cs before more : List Char}

/-- A letter that is lower-cased to one letter, whatever stands around it. -/
def IsSimple (c : Char) : Prop :=
  c ≠ 'Σ' ∧ c ≠ 'İ'

theorem lowerForm_simple {after : List Char} (simple : IsSimple c) :
    lowerForm before c after = [lowerLetter c] := by
  rw [lowerForm, if_neg simple.1, if_neg simple.2]

theorem lowerAfter_simple (simple : ∀ c ∈ cs, IsSimple c) :
    lowerAfter before cs = cs.map lowerLetter := by
  induction cs generalizing before with
  | nil => rfl
  | cons c rest ih =>
    rw [lowerAfter, lowerForm_simple (simple c List.mem_cons_self),
      ih fun d member => simple d (List.mem_cons_of_mem _ member), List.singleton_append,
      List.map_cons]

/-- A text of letters that are their own lower-case forms is its own, too. -/
theorem lowerChars_own (own : ∀ c ∈ cs, IsSimple c ∧ lowerLetter c = c) : lowerChars cs = cs := by
  rw [lowerChars, lowerAfter_simple fun c member => (own c member).1]
  exact (List.map_congr_left fun c member => (own c member).2).trans (List.map_id' _)

/-- Letters that come from none but the two that are not simple. -/
def traces : List Char :=
  ['σ', 'ς', Char.ofNat 0x307]

/-- A letter that is not simple leaves its trace in the lower-case form. -/
theorem exists_trace (member : c ∈ cs) (other : ¬IsSimple c) :
    ∃ mark ∈ traces, mark ∈ lowerAfter before cs := by
  induction cs generalizing before with
  | nil => cases member
  | cons first rest ih =>
    rw [lowerAfter]
    rcases List.mem_cons.mp member with rfl | later
    · have here : ∃ mark ∈ traces, mark ∈ lowerForm before c rest := by
        by_cases sigma : c = 'Σ'
        · rw [lowerForm, if_pos sigma]
          split
          · exact ⟨'ς', by decide, List.mem_cons_self⟩
          · exact ⟨'σ', by decide, List.mem_cons_self⟩
        · have dotted : c = 'İ' := by
            by_contra other'
            exact other ⟨sigma, other'⟩
          rw [lowerForm, if_neg sigma, if_pos dotted]
          exact ⟨Char.ofNat 0x307, by decide, List.mem_cons_of_mem _ List.mem_cons_self⟩
      obtain ⟨mark, among, inside⟩ := here
      exact ⟨mark, among, List.mem_append_left _ inside⟩
    · obtain ⟨mark, among, inside⟩ := ih later
      exact ⟨mark, among, List.mem_append_right _ inside⟩

/-- A lower-case form without traces is that of simple letters. -/
theorem simple_of_lowerChars (plain : ∀ mark ∈ traces, mark ∉ lowerChars cs) :
    (∀ c ∈ cs, IsSimple c) ∧ lowerChars cs = cs.map lowerLetter := by
  have simple : ∀ c ∈ cs, IsSimple c := by
    intro c member
    by_contra other
    obtain ⟨mark, among, inside⟩ := @exists_trace c cs [] member other
    exact plain mark among inside
  exact ⟨simple, lowerAfter_simple simple⟩

/-! ## The first runs of a table -/

variable {bound count : Nat}

/-- A character before the later runs of a table is looked up among the first ones. -/
theorem shifted_take {runs : List CaseSpan} (below : c.toNat < bound)
    (later : ((runs.drop count).all fun run => Nat.ble bound run.first) = true) :
    shifted (runs.take count) c = shifted runs c := by
  have missed : (runs.drop count).find? (·.span.contains c.toNat) = none := by
    rw [List.find?_eq_none]
    intro run member inside
    have above := Nat.le_of_ble_eq_true (List.all_eq_true.mp later run member)
    exact absurd (Span.contains_iff.mp inside).1 (Nat.not_le.mpr (Nat.lt_of_lt_of_le below above))
  unfold shifted
  conv_rhs => rw [← List.take_append_drop count runs, List.find?_append, missed, Option.or_none]

private theorem inSpans_take {spans : List Span} (below : c.toNat < bound)
    (later : ((spans.drop count).all fun span => Nat.ble bound span.first) = true) :
    inSpans (spans.take count) c = inSpans spans c := by
  have missed : (spans.drop count).any (·.contains c.toNat) = false := by
    rw [List.any_eq_false]
    intro span member inside
    have above := Nat.le_of_ble_eq_true (List.all_eq_true.mp later span member)
    exact absurd (Span.contains_iff.mp inside).1 (Nat.not_le.mpr (Nat.lt_of_lt_of_le below above))
  unfold inSpans
  conv_rhs => rw [← List.take_append_drop count spans, List.any_append, missed, Bool.or_false]

/-- The first code point that is none of a letter of the languages. -/
def alphabetBound : Nat :=
  352

/-! ## Letters in both cases -/

/-- A small letter and the capital that it has. -/
structure InBothCases (small capital : Char) : Prop where
  simple : IsSimple small ∧ IsSimple capital
  lowered : lowerLetter small = small ∧ lowerLetter capital = small
  raised : upperForm small = [capital]
  upper : isUpper small = false ∧ isUpper capital = true
  letters : isLetter small = true ∧ isLetter capital = true

/-- The letters of the languages, each with its capital. -/
def letterPairs : List (Char × Char) :=
  [('a', 'A'), ('b', 'B'), ('c', 'C'), ('d', 'D'), ('e', 'E'), ('f', 'F'), ('g', 'G'), ('h', 'H'),
   ('i', 'I'), ('j', 'J'), ('k', 'K'), ('l', 'L'), ('m', 'M'), ('n', 'N'), ('o', 'O'), ('p', 'P'),
   ('q', 'Q'), ('r', 'R'), ('s', 'S'), ('t', 'T'), ('u', 'U'), ('v', 'V'), ('w', 'W'), ('x', 'X'),
   ('y', 'Y'), ('z', 'Z'), ('á', 'Á'), ('ã', 'Ã'), ('ç', 'Ç'), ('é', 'É'), ('ê', 'Ê'), ('ğ', 'Ğ'),
   ('í', 'Í'), ('ñ', 'Ñ'), ('ó', 'Ó'), ('ô', 'Ô'), ('õ', 'Õ'), ('ö', 'Ö'), ('ú', 'Ú'), ('ü', 'Ü'),
   ('ş', 'Ş'), ('œ', 'Œ')]

theorem inBothCases_of_mem : ∀ pair ∈ letterPairs, InBothCases pair.1 pair.2 := by
  have seen : ∀ pair ∈ letterPairs, (pair.1.toNat < alphabetBound ∧ pair.2.toNat < alphabetBound) ∧
      (IsSimple pair.1 ∧ IsSimple pair.2) ∧
      (shifted (lowerShifts.take 8) pair.1 = pair.1 ∧ shifted (lowerShifts.take 8) pair.2 = pair.1) ∧
      upperForm pair.1 = [pair.2] ∧
      (inSpans (upperSpans.take 6) pair.1 = false ∧ inSpans (upperSpans.take 6) pair.2 = true) ∧
      isLetter pair.1 = true ∧ isLetter pair.2 = true := by
    unfold IsSimple
    decide
  have later : ((lowerShifts.drop 8).all fun run => Nat.ble alphabetBound run.first) = true ∧
      ((upperSpans.drop 6).all fun span => Nat.ble alphabetBound span.first) = true := by
    decide
  intro pair member
  obtain ⟨⟨below, below'⟩, simple, lowered, raised, upper, letters⟩ := seen pair member
  rw [shifted_take below later.1, shifted_take below' later.1] at lowered
  rw [inSpans_take below later.2, inSpans_take below' later.2] at upper
  exact ⟨simple, lowered, raised, upper, letters⟩

def smallLetters : List Char :=
  letterPairs.map Prod.fst

theorem exists_capital (small : c ∈ smallLetters) : ∃ capital, InBothCases c capital := by
  obtain ⟨pair, member, rfl⟩ := List.mem_map.mp small
  exact ⟨pair.2, inBothCases_of_mem pair member⟩

/-- What holds of all letters of a row holds of every letter between its ends. -/
theorem forall_between {first last : Char} {holds : Char → Prop}
    (all : ∀ n < last.toNat + 1 - first.toNat, holds (Char.ofNat (first.toNat + n)))
    (between : (first ≤ c && c ≤ last) = true) : holds c := by
  obtain ⟨below, above, -⟩ := Span.contains_iff.mp (contains_gapless.mpr between)
  dsimp only at below above
  have inside := all (c.toNat - first.toNat) (by omega)
  rwa [Nat.add_sub_cancel' below, Char.ofNat_toNat] at inside

theorem mem_smallLetters (small : isSmall c = true) : c ∈ smallLetters :=
  @forall_between c 'a' 'z' (· ∈ smallLetters) (by decide) small

/-- Whether a text is seen to be made of small letters. -/
def isSmallText (cs : List Char) : Bool :=
  cs.all fun c => smallLetters.any fun small => Nat.beq small.toNat c.toNat

theorem mem_of_isSmallText (small : isSmallText cs = true) : ∀ c ∈ cs, c ∈ smallLetters := by
  intro c member
  obtain ⟨letter, among, same⟩ := List.any_eq_true.mp (List.all_eq_true.mp small c member)
  rwa [← Char.toNat_inj.mp (Nat.eq_of_beq_eq_true same)]

theorem own_of_small (small : c ∈ smallLetters) : IsSimple c ∧ lowerLetter c = c := by
  obtain ⟨capital, cases⟩ := exists_capital small
  exact ⟨cases.simple.1, cases.lowered.1⟩

theorem map_lowerLetter_small (small : ∀ c ∈ cs, c ∈ smallLetters) : cs.map lowerLetter = cs :=
  (List.map_congr_left fun c member => (own_of_small (small c member)).2).trans (List.map_id' _)

theorem lowerChars_small (small : ∀ c ∈ cs, c ∈ smallLetters) : lowerChars cs = cs :=
  lowerChars_own fun c member => own_of_small (small c member)

theorem lowerChars_capital {first capital : Char} (cases : InBothCases first capital)
    (small : ∀ c ∈ cs, c ∈ smallLetters) : lowerChars (capital :: cs) = first :: cs := by
  have simple : ∀ c ∈ capital :: cs, IsSimple c := by
    intro c member
    rcases List.mem_cons.mp member with rfl | later
    · exact cases.simple.2
    · exact (own_of_small (small c later)).1
  rw [lowerChars, lowerAfter_simple simple, List.map_cons, cases.lowered.2, map_lowerLetter_small small]

theorem solid_of_small (small : ∀ c ∈ cs, c ∈ smallLetters) :
    ∀ c ∈ cs, Identifier.isSeparator c = false := by
  intro c member
  obtain ⟨capital, cases⟩ := exists_capital (small c member)
  exact Identifier.not_isSeparator_of_isLetter cases.letters.1

/-- A text is lower-cased letter by letter when its lower-case form has small letters only. -/
theorem simple_of_small (small : ∀ c ∈ lowerChars cs, c ∈ smallLetters) :
    (∀ c ∈ cs, IsSimple c) ∧ lowerChars cs = cs.map lowerLetter := by
  have outside : ∀ mark ∈ traces, mark ∉ smallLetters := by simp [traces, smallLetters, letterPairs]
  exact simple_of_lowerChars fun mark trace inside => outside mark trace (small mark inside)

end Scaffold.Text
