import Scaffold.Proofs.Alphabet
import Scaffold.Proofs.Joining

/-! Lower-casing of whole texts, in every script. What it gives is left alone by a second turn, letters stay
letters but for the capital that leaves its dot behind, and a character that has no case and is not looked
through keeps the texts on its two sides apart. The tables of letter case are compared run by run. -/
namespace Scaffold.Text

variable {c d wall : Char} {cs before after more : List Char} {pieces : List (List Char)}

/-! ## Texts in lower case -/

/-- Whether two runs are seen to share no character: they lie apart, or one has the even ones between its ends
and the other the odd ones. -/
def Span.skips (outer inner : Span) : Bool :=
  outer.misses inner ||
    Nat.beq outer.stride 2 && (Nat.beq inner.stride 2 || Nat.beq inner.first inner.last) &&
      Nat.beq ((outer.first + inner.first) % 2) 1

private theorem Span.not_contains_of_skips {outer inner : Span} {code : Nat}
    (skips : outer.skips inner = true)
    (inside : inner.contains code = true) : outer.contains code = false := by
  obtain ⟨first, last, reached⟩ := contains_iff.mp inside
  unfold Span.skips at skips
  simp only [Bool.or_eq_true, Bool.and_eq_true, Nat.beq_eq] at skips
  rcases skips with misses | ⟨⟨two, pairs | alone⟩, other⟩
  · exact not_contains_of_misses misses inside
  · rw [← Bool.not_eq_true, contains_iff, two]
    rw [pairs] at reached
    omega
  · rw [← Bool.not_eq_true, contains_iff, two]
    omega

/-- A character that lower-casing leaves as it is, whatever stands around it. -/
def Lowered (c : Char) : Prop :=
  ∀ run ∈ lowerShifts, run.span.contains c.toNat = false

instance (c : Char) : Decidable (Lowered c) :=
  inferInstanceAs (Decidable (∀ _ ∈ _, _))

/-- No letter is moved twice. -/
theorem shifts_settle :
    (lowerShifts.all fun run => lowerShifts.all fun other => other.span.skips run.image) = true := by
  decide +kernel

private theorem lowered_lowerLetter (c : Char) : Lowered (lowerLetter c) := by
  intro other among
  cases found : lowerShifts.find? (·.span.contains c.toNat) with
  | none =>
    rw [lowerLetter, shifted, found, ← Bool.not_eq_true]
    exact List.find?_eq_none.mp found other among
  | some run =>
    have member := List.mem_of_find?_eq_some found
    have inside := @List.find?_some _ (fun run : CaseSpan => run.span.contains c.toNat) _ _ found
    rw [lowerLetter, shifted, found]
    have skips := List.all_eq_true.mp (List.all_eq_true.mp shifts_settle run member) other among
    exact Span.not_contains_of_skips skips (contains_image (lowerShifts_raised run member) inside)

theorem Lowered.own (lowered : Lowered c) : IsSimple c ∧ lowerLetter c = c := by
  have sigma : ¬Lowered 'Σ' := by decide
  have dotted : ¬Lowered 'İ' := by decide
  refine ⟨⟨?_, ?_⟩, ?_⟩
  · rintro rfl
    exact sigma lowered
  · rintro rfl
    exact dotted lowered
  · have none : lowerShifts.find? (·.span.contains c.toNat) = none :=
      List.find?_eq_none.mpr fun run member => by simp [lowered run member]
    rw [lowerLetter, shifted, none]

theorem Lowered.not_isCapital (lowered : Lowered c) : isCapital c = false := by
  rw [← Bool.not_eq_true]
  intro capital
  have moved := lowered ⟨65, 90, 1, 32⟩ (.head _)
  rw [← Bool.not_eq_true] at moved
  exact moved ((@contains_gapless c 'A' 'Z').mpr capital)

private theorem lowered_of_mem_lowerForm (member : d ∈ lowerForm before c after) : Lowered d := by
  unfold lowerForm at member
  repeat' split at member
  · rw [List.mem_singleton.mp member]
    decide +kernel
  · rw [List.mem_singleton.mp member]
    decide +kernel
  · rcases List.mem_pair.mp member with rfl | rfl
    · decide +kernel
    · decide +kernel
  · rw [List.mem_singleton.mp member]
    exact lowered_lowerLetter c

/-- What holds of the forms of all its characters holds of a lower-cased text. -/
theorem forall_mem_lowerAfter {holds : Char → Prop}
    (forms : ∀ c ∈ cs, ∀ before after, ∀ d ∈ lowerForm before c after, holds d) :
    ∀ d ∈ lowerAfter before cs, holds d := by
  induction cs generalizing before with
  | nil => simp [lowerAfter]
  | cons c rest ih =>
    intro d member
    rcases List.mem_append.mp member with first | later
    · exact forms c List.mem_cons_self before rest d first
    · exact ih (fun c among => forms c (List.mem_cons_of_mem _ among)) d later

theorem lowered_of_mem_lowerChars (member : d ∈ lowerChars cs) : Lowered d :=
  forall_mem_lowerAfter (fun _ _ _ _ _ => lowered_of_mem_lowerForm) d member

theorem lowerAfter_lowered (lowered : ∀ c ∈ cs, Lowered c) : lowerAfter before cs = cs := by
  rw [lowerAfter_simple fun c member => (lowered c member).own.1]
  exact (List.map_congr_left fun c member => (lowered c member).own.2).trans (List.map_id' _)

theorem lowerChars_lowered (lowered : ∀ c ∈ cs, Lowered c) : lowerChars cs = cs :=
  lowerAfter_lowered lowered

private theorem lowered_of_low (low : ¬isRaised c) : Lowered c := by
  have above : ∀ run ∈ lowerShifts, 48 ≤ run.first := by decide +kernel
  intro run member
  rw [← Bool.not_eq_true]
  intro inside
  exact low (Nat.le_trans (above run member) (Span.contains_iff.mp inside).1)

/-- Lower-casing brings nothing in that lies below the digits. -/
theorem mem_of_mem_lowerChars (member : d ∈ lowerChars cs) (low : ¬isRaised d) : d ∈ cs := by
  have kept : ∀ d ∈ lowerChars cs, ¬isRaised d → d ∈ cs := by
    refine forall_mem_lowerAfter fun c among before after d member low => ?_
    have below : ¬isRaised c := fun raised => low (isRaised_lowerForm raised d member)
    obtain ⟨simple, own⟩ := (lowered_of_low below).own
    rw [lowerForm_simple simple, own] at member
    rwa [List.mem_singleton.mp member]
  exact kept d member low

/-! ## Letters -/

/-- Letters that are moved keep being letters. -/
theorem shifts_letters :
    (lowerShifts.all fun run => isAmongLetters run.image || isBesideLetters run.span) = true := by
  decide +kernel

private theorem isLetter_lowerLetter (letter : isLetter c = true) :
    isLetter (lowerLetter c) = true := by
  rcases shifted_cases lowerShifts c with same | ⟨run, member, inside, same⟩
  · rwa [lowerLetter, same]
  · rw [lowerLetter, same]
    rcases Bool.or_eq_true_iff.mp (List.all_eq_true.mp shifts_letters run member) with among | beside
    · exact isLetter_of_among among (contains_image (lowerShifts_raised run member) inside)
    · exact absurd letter (not_isLetter_of_beside beside inside)

/-- Letters are lower-cased to letters, but for the capital that leaves its dot behind. -/
theorem isLetter_of_mem_lowerChars (dotless : 'İ' ∉ cs) (letters : ∀ c ∈ cs, isLetter c = true) :
    ∀ d ∈ lowerChars cs, isLetter d = true := by
  refine forall_mem_lowerAfter fun c among before after d member => ?_
  unfold lowerForm at member
  repeat' split at member
  · rw [List.mem_singleton.mp member]
    decide
  · rw [List.mem_singleton.mp member]
    decide
  · rename_i dotted
    exact absurd (dotted ▸ among) dotless
  · rw [List.mem_singleton.mp member]
    exact isLetter_lowerLetter (letters c among)

/-! ## Walls -/

/-- A character without case that is not looked through when the form of a final sigma is chosen. -/
structure IsWall (c : Char) : Prop where
  seen : inSpans caseIgnorableSpans c = false
  caseless : inSpans casedSpans c = false
  lowered : Lowered c

instance (c : Char) : Decidable (IsWall c) :=
  decidable_of_iff (_ ∧ _ ∧ _)
    ⟨fun ⟨seen, caseless, lowered⟩ => ⟨seen, caseless, lowered⟩,
      fun ⟨seen, caseless, lowered⟩ => ⟨seen, caseless, lowered⟩⟩

private theorem nextIsCased_wall (isWall : IsWall wall) :
    nextIsCased (cs ++ wall :: more) = nextIsCased cs := by
  unfold nextIsCased
  rw [List.dropWhile_append]
  cases left : cs.dropWhile (inSpans caseIgnorableSpans) with
  | nil => simp [isWall.seen, isWall.caseless]
  | cons c rest => rfl

/-- What stands before a wall is not seen behind it. -/
theorem lowerAfter_wall (isWall : IsWall wall) :
    lowerAfter (before ++ wall :: more) cs = lowerAfter before cs := by
  induction cs generalizing before with
  | nil => rfl
  | cons c rest ih =>
    have later := @ih (c :: before)
    rw [List.cons_append] at later
    rw [lowerAfter, lowerAfter, later, lowerForm, nextIsCased_wall isWall, ← lowerForm]

private theorem lowerAfter_append_wall (isWall : IsWall wall) :
    lowerAfter before (cs ++ wall :: more) = lowerAfter before cs ++ wall :: lowerChars more := by
  induction cs generalizing before with
  | nil =>
    obtain ⟨simple, own⟩ := isWall.lowered.own
    have step : lowerAfter before (wall :: more) =
        lowerForm before wall more ++ lowerAfter ([] ++ wall :: before) more := rfl
    rw [List.nil_append, step, lowerForm_simple simple, own, lowerAfter_wall isWall]
    rfl
  | cons c rest ih =>
    rw [List.cons_append, lowerAfter, lowerAfter, ih, List.append_assoc, lowerForm,
      nextIsCased_wall isWall, ← lowerForm]

/-- A wall parts a text into two that are lower-cased each on its own. -/
theorem lowerChars_wall (isWall : IsWall wall) :
    lowerChars (cs ++ wall :: more) = lowerChars cs ++ wall :: lowerChars more :=
  lowerAfter_append_wall isWall

theorem lowerChars_intercalate (isWall : IsWall wall) :
    lowerChars ([wall].intercalate pieces) = [wall].intercalate (pieces.map lowerChars) := by
  induction pieces with
  | nil => rfl
  | cons piece rest ih =>
    cases rest with
    | nil => simp only [List.map_cons, List.map_nil, List.intercalate_singleton]
    | cons next rest =>
      rw [List.map_cons, List.map_cons, List.intercalate_cons_cons, List.intercalate_cons_cons,
        List.append_assoc, List.append_assoc, List.singleton_append, List.singleton_append,
        lowerChars_wall isWall, ih, List.map_cons]

end Scaffold.Text
