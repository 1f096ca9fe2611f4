import Scaffold.Proofs.Endings

/-! How a rule changes a word. Most rules take a fixed number of letters away from the end of a word and
put a text in their place, whatever stands before; the first rule of a list that applies is found from the
last letters alone, and so is the change that it makes. In a name only the last segment changes, and what
the tables of a rule set know of it they know by its lower-case form. -/
namespace Scaffold

namespace Inflection

open Text

variable {pattern item rest : Pattern} {place last : Place} {rule : Rule} {rules : List Rule}
  {read word form new : List Char} {ending : Ending} {count : Nat}

/-! ## Taking letters away -/

/-- The pattern whose text a pattern keeps, when it reads nothing before it, and what it reads behind. -/
def Pattern.parts? : Pattern → Option (Pattern × Pattern)
  | .both (.keep item) rest => some (item, rest)
  | .both .start rest | .both (.notAfter _) rest => rest.parts?
  | _ => none

theorem Pattern.kept_of_parts (parts : pattern.parts? = some (item, rest))
    (none : rest.keepsNone = true) (member : last ∈ pattern.ends place)
    (reads : place.Reads read last) : ∃ middle back, read = last.kept ++ back ∧
      (∃ behind ∈ item.ends place, place.Reads last.kept behind) ∧
      last ∈ rest.ends middle ∧ middle.Reads back last := by
  fun_induction Pattern.parts? pattern generalizing place with
  | case1 item' rest' =>
    cases parts
    obtain ⟨middle, front, back, among, later, toMiddle, onward, rfl⟩ := reads_both member reads
    obtain ⟨behind, inside, rfl⟩ := List.mem_map.mp among
    have toBehind : place.Reads front behind := ⟨toMiddle.after, toMiddle.before⟩
    have kept : last.kept = front :=
      (kept_of_keepsNone none later).trans toBehind.textSince
    exact ⟨_, back, by rw [kept], ⟨behind, inside, kept ▸ toBehind⟩, later, onward⟩
  | case2 rest' ih | case3 c rest' ih =>
    obtain ⟨middle, among, later⟩ := List.mem_flatMap.mp member
    obtain ⟨-, rfl⟩ := mem_check among
    exact ih parts later reads
  | case4 => cases parts

/-- The number of letters that a pattern reads, when it is always the same. -/
def Pattern.width? (pattern : Pattern) : Option Nat :=
  match pattern.endings with
  | [] => none
  | ending :: others =>
    if others.all (·.length == ending.length) then some ending.length else none

theorem Pattern.length_of_width (width : pattern.width? = some count)
    (member : last ∈ pattern.ends place) (reads : place.Reads read last) : read.length = count := by
  obtain ⟨ending, inside, fits⟩ := Pattern.fits_of_ends member reads
  rw [← length_backKeys, ← fits.length_eq]
  unfold width? at width
  split at width
  · cases width
  · rename_i first others found
    split at width
    · rename_i same
      cases width
      rw [found] at inside
      rcases List.mem_cons.mp inside with rfl | other
      · rfl
      · exact beq_iff_eq.mp (List.all_eq_true.mp same ending other)
    · cases width

/-- What a pattern reads behind the text that it keeps, when it reads nothing before it. -/
def Pattern.behindKept? (pattern : Pattern) : Option Pattern :=
  match pattern.parts? with
  | some (_, rest) => if rest.keepsNone then some rest else none
  | none => none

/-- What a rule takes away from the end of a word and what it puts there, when it leaves all that stands
before as it is. -/
def Rule.exchange? (rule : Rule) : Option (Pattern × List Char) :=
  match rule.replacement with
  | [] => some (rule.pattern, [])
  | [.text new] => some (rule.pattern, new.toList)
  | [.kept] => rule.pattern.behindKept?.map (·, [])
  | [.kept, .text new] => rule.pattern.behindKept?.map (·, new.toList)
  | _ => none

/-- The number of letters that a rule takes away from the end of a word and the text that it puts
there. -/
def Rule.change? (rule : Rule) : Option (Nat × List Char) :=
  match rule.exchange? with
  | some (old, new) => old.width?.map (·, new)
  | none => none

private theorem Pattern.kept_of_behindKept (behind : pattern.behindKept? = some rest)
    (member : last ∈ pattern.ends place) (reads : place.Reads read last) :
    ∃ middle back, read = last.kept ++ back ∧ last ∈ rest.ends middle ∧ middle.Reads back last := by
  unfold behindKept? at behind
  split at behind
  · rename_i item rest' parts
    split at behind
    · rename_i none
      cases behind
      obtain ⟨middle, back, split, -, later, onward⟩ := Pattern.kept_of_parts parts none member reads
      exact ⟨middle, back, split, later, onward⟩
    · cases behind
  · cases behind

/-- A rule takes away what it reads with a pattern, and puts its text there. -/
theorem Rule.exchange_of_applies {before : List Char} {old : Pattern}
    (applies : rule.Applies word form before read last) (exchange : rule.exchange? = some (old, new)) :
    ∃ base back middle, before ++ read = base ++ back ∧ before ++ rule.fill last.kept = base ++ new ∧
      last ∈ old.ends middle ∧ middle.Reads back last := by
  unfold exchange? at exchange
  split at exchange
  · rename_i replacement
    cases exchange
    exact ⟨before, read, _, rfl, by rw [Rule.fill, replacement]; rfl, applies.ends, applies.reads⟩
  · rename_i text replacement
    cases exchange
    exact ⟨before, read, _, rfl, by rw [Rule.fill, replacement]; simp, applies.ends, applies.reads⟩
  · rename_i replacement
    obtain ⟨rest, behind, same⟩ := Option.map_eq_some_iff.mp exchange
    cases same
    obtain ⟨middle, back, split, later, onward⟩ :=
      Pattern.kept_of_behindKept behind applies.ends applies.reads
    exact ⟨before ++ last.kept, back, middle, by rw [split, List.append_assoc],
      by rw [Rule.fill, replacement]; simp, later, onward⟩
  · rename_i text replacement
    obtain ⟨rest, behind, same⟩ := Option.map_eq_some_iff.mp exchange
    cases same
    obtain ⟨middle, back, split, later, onward⟩ :=
      Pattern.kept_of_behindKept behind applies.ends applies.reads
    exact ⟨before ++ last.kept, back, middle, by rw [split, List.append_assoc],
      by rw [Rule.fill, replacement]; simp, later, onward⟩
  · cases exchange

/-- A rule changes a word at its end. -/
theorem Rule.change_of_inflect (closes : rule.pattern.closes = true)
    (trimmed : word.getLast? ≠ some '\n') (change : rule.change? = some (count, new))
    (inflected : rule.inflect? word = some form) :
    ∃ base back, word = base ++ back ∧ back.length = count ∧ form = base ++ new := by
  obtain ⟨before, read, last, applies⟩ := Rule.applies_of_inflect inflected
  have ended := applies.after_eq_nil closes trimmed
  unfold change? at change
  split at change
  · rename_i old text exchange
    obtain ⟨width, found, same⟩ := Option.map_eq_some_iff.mp change
    cases same
    obtain ⟨base, back, middle, split, filled, later, onward⟩ :=
      Rule.exchange_of_applies applies exchange
    refine ⟨base, back, ?_, Pattern.length_of_width found later onward, ?_⟩
    · rw [applies.word_eq, ended, List.append_nil, split]
    · rw [applies.form_eq, ended, List.append_nil, filled]
  · cases change

/-! ## The first change -/

private theorem Pattern.closes_of_loose (loose : pattern.loose = true) : pattern.closes = true := by
  fun_induction Pattern.loose pattern with
  | case1 => rfl
  | case2 first second _ ih =>
    exact Bool.or_eq_true_iff.mpr (.inl (ih (Bool.and_eq_true_iff.mp loose).2))
  | case3 => cases loose

/-- A rule that is seen to be the first is loose. -/
theorem Known.loose_of_first {known : Known} (first : known.first? rules = some rule) :
    rule.pattern.loose = true := by
  induction rules with
  | nil => cases first
  | cons candidate later ih =>
    rw [first?] at first
    split at first
    · exact ih first
    · split at first
      · rename_i included
        cases first
        exact (Bool.and_eq_true_iff.mp included).1
      · cases first

/-- The change that a list of rules makes to every word with an ending. -/
def Ending.change? (ending : Ending) (rules : List Rule) : Option (Nat × List Char) :=
  match (Known.mk ending false).first? rules with
  | some rule => rule.change?
  | none => none

theorem Ending.exists_change (change : ending.change? rules = some (count, new))
    (ends : ending.EndsWord (backKeys word)) (trimmed : word.getLast? ≠ some '\n') :
    ∃ base back, word = base ++ back ∧ back.length = count ∧
      rules.findSome? (·.inflect? word) = some (base ++ new) := by
  unfold Ending.change? at change
  split at change
  · rename_i rule first
    have of : (Known.mk ending false).Of word := ⟨ends, nofun, trimmed⟩
    obtain ⟨form, inflected, found⟩ := of.exists_inflect first
    have closes := Pattern.closes_of_loose (Known.loose_of_first first)
    obtain ⟨base, back, split, length, rfl⟩ :=
      Rule.change_of_inflect closes trimmed change inflected
    exact ⟨base, back, split, length, found⟩
  · cases change

/-- The ending of words whose last letters have these keys, from the last one back. -/
def Ending.ofKeys (keys : List Char) : Ending :=
  keys.map (.among [·])

theorem Ending.fits_ofKeys {keys others : List Char} : (ofKeys keys).Fits others ↔ others = keys := by
  unfold Ending.Fits ofKeys
  rw [List.forall₂_map_left_iff]
  have same : ∀ key other : Char, (LetterClass.among [key]).holds other = true ↔ key = other := by
    intro key other
    simp [LetterClass.holds, eq_comm]
  simp only [same, List.forall₂_eq_eq_eq]
  exact eq_comm

theorem Ending.endsWord_append {rest : Ending} {keys : List Char} :
    Ending.EndsWord (ending ++ rest) keys ↔
      ∃ front back, keys = front ++ back ∧ ending.Fits front ∧ rest.EndsWord back := by
  constructor
  · intro ends
    obtain ⟨all, behind, rfl, fits⟩ := Ending.endsWord_iff.mp ends
    obtain ⟨front, back, rfl, fitsFront, fitsBack⟩ := fits.of_append
    exact ⟨front, back ++ behind, List.append_assoc .., fitsFront,
      Ending.endsWord_iff.mpr ⟨back, behind, rfl, fitsBack⟩⟩
  · rintro ⟨front, back, rfl, fits, ends⟩
    obtain ⟨middle, behind, rfl, more⟩ := Ending.endsWord_iff.mp ends
    exact Ending.endsWord_iff.mpr ⟨front ++ middle, behind, (List.append_assoc ..).symm,
      List.rel_append fits more⟩

/-- What is known of a word when letters at its end have given way to a text. -/
def Ending.changed (ending : Ending) (count : Nat) (new : List Char) : Ending :=
  ofKeys (backKeys new) ++ ending.drop count

theorem Ending.EndsWord.drop {front back : List Char} (ends : ending.EndsWord (front ++ back)) :
    Ending.EndsWord (ending.drop front.length) back := by
  induction front generalizing ending with
  | nil => exact ends
  | cons key front ih =>
    cases ending with
    | nil => trivial
    | cons kind ending => exact ih ends.2

theorem Ending.endsWord_changed (new : List Char) {base back : List Char}
    (ends : ending.EndsWord (backKeys (base ++ back))) :
    (ending.changed back.length new).EndsWord (backKeys (base ++ new)) := by
  rw [backKeys_append] at ends ⊢
  refine endsWord_append.mpr ⟨_, _, rfl, fits_ofKeys.mpr rfl, ?_⟩
  rw [← @length_backKeys back]
  exact ends.drop

/-- When the last letters of an ending are known, so are those of the word. -/
theorem Ending.backKeys_eq {base back : List Char} {keys : List Char}
    (ends : ending.EndsWord (backKeys (base ++ back))) (length : back.length = keys.length)
    (known : ending.take keys.length = ofKeys keys) : backKeys back = keys := by
  rw [← List.take_append_drop keys.length ending, known, backKeys_append] at ends
  obtain ⟨front, behind, same, fits, -⟩ := endsWord_append.mp ends
  rw [fits_ofKeys.mp fits] at same
  exact (List.append_inj same (by simpa using length)).1

end Inflection

end Scaffold
