import Scaffold.Proofs.Matching

/-! How rules see the end of a word. A pattern looks at a letter through its key, the small letter that
stands for it and for all that count as the same, and what it reads is one of a few endings: rows of
letter classes, from the last letter back. What is known of the last letters of a word can then tell that
a rule does not apply, or that it does, and with it which rule of a list is the first. -/
namespace Scaffold.Inflection

open Text

variable {pattern first second item : Pattern} {place last : Place} {read cs more : List Char}
  {c x : Char}

/-! ## Keys -/

/-- The letter that stands for itself and for its twin. -/
def untwin (c : Char) : Char :=
  if c = 'ı' then 'i' else if c = 'ſ' then 's' else c

/-- What a pattern sees of a letter of a word. -/
def letterKey (x : Char) : Char :=
  untwin (lowerLetter x)

theorem sameLetter_iff : sameLetter c x = true ↔ untwin c = letterKey x := by
  unfold sameLetter letterKey
  generalize lowerLetter x = y
  simp only [Bool.or_eq_true, beq_iff_eq, List.contains_iff_mem, twins, List.mem_cons, Prod.mk.injEq,
    List.not_mem_nil, or_false]
  constructor
  · rintro (rfl | ⟨rfl, rfl⟩ | ⟨rfl, rfl⟩ | ⟨rfl, rfl⟩ | ⟨rfl, rfl⟩) <;> rfl
  · unfold untwin
    grind

/-- What patterns see of a text, from its last letter back. -/
def backKeys (cs : List Char) : List Char :=
  cs.reverse.map letterKey

@[simp] theorem backKeys_append : backKeys (cs ++ more) = backKeys more ++ backKeys cs := by
  rw [backKeys, List.reverse_append, List.map_append, backKeys, backKeys]

@[simp] theorem length_backKeys : (backKeys cs).length = cs.length := by
  rw [backKeys, List.length_map, List.length_reverse]

/-! ## Endings -/

/-- What the key of a letter can be. -/
inductive LetterClass where
  /-- One of some keys. -/
  | among (keys : List Char)
  /-- Any key but some. -/
  | beside (keys : List Char)
  deriving DecidableEq

def LetterClass.holds : LetterClass → Char → Bool
  | .among keys, key => keys.contains key
  | .beside keys, key => !keys.contains key

private theorem holds_among : (LetterClass.among (cs.map untwin)).holds (letterKey x) = true ↔
    cs.any (sameLetter · x) = true := by
  simp [LetterClass.holds, List.any_eq_true, sameLetter_iff]

private theorem holds_beside : (LetterClass.beside (cs.map untwin)).holds (letterKey x) = true ↔
    (!cs.any (sameLetter · x)) = true := by
  rw [Bool.not_eq_true', ← Bool.not_eq_true, ← holds_among]
  simp [LetterClass.holds]

/-- The last letters of a word, the last one first. -/
abbrev Ending := List LetterClass

/-- A text is made of the letters of an ending and no others. -/
def Ending.Fits (ending : Ending) (keys : List Char) : Prop :=
  List.Forall₂ (fun kind key => kind.holds key = true) ending keys

/-- A word has the letters of an ending at its end. -/
def Ending.EndsWord : Ending → List Char → Prop
  | [], _ => True
  | _ :: _, [] => False
  | kind :: ending, key :: keys => kind.holds key = true ∧ Ending.EndsWord ending keys

theorem Ending.endsWord_iff {ending : Ending} {keys : List Char} : ending.EndsWord keys ↔
    ∃ front rest, keys = front ++ rest ∧ ending.Fits front := by
  induction ending generalizing keys with
  | nil => exact ⟨fun _ => ⟨[], keys, rfl, .nil⟩, fun _ => trivial⟩
  | cons kind ending ih =>
    cases keys with
    | nil =>
      refine ⟨False.elim, ?_⟩
      rintro ⟨front, rest, same, fits⟩
      rw [(List.append_eq_nil_iff.mp same.symm).1] at fits
      cases fits
    | cons key keys =>
      constructor
      · rintro ⟨holds, ends⟩
        obtain ⟨front, rest, rfl, fits⟩ := ih.mp ends
        exact ⟨key :: front, rest, rfl, .cons holds fits⟩
      · rintro ⟨front, rest, same, fits⟩
        cases fits with
        | cons holds fits =>
          cases same
          exact ⟨holds, ih.mpr ⟨_, _, rfl, fits⟩⟩

/-- The endings that several items in a row can read, the ones with more items first. -/
def repeated (items : List Ending) : Nat → List Ending
  | 0 => [[]]
  | bound + 1 => items.flatMap (fun front => (repeated items bound).map (· ++ front)) ++ [[]]

/-- What a pattern can read. -/
def Pattern.endings : Pattern → List Ending
  | .empty | .start | .finish | .notAfter _ => [[]]
  | .letter c => [[.among [untwin c]]]
  | .oneOf cs => [[.among (cs.map untwin)]]
  | .noneOf cs => [[.beside (cs.map untwin)]]
  | .both first second => first.endings.flatMap fun front => second.endings.map (· ++ front)
  | .either first second => first.endings ++ second.endings
  | .upTo bound item => repeated item.endings bound
  | .keep item => item.endings

private theorem fits_both {fronts backs : List Ending} {front back : List Char}
    (before : ∃ ending ∈ fronts, ending.Fits (backKeys front))
    (behind : ∃ ending ∈ backs, ending.Fits (backKeys back)) :
    ∃ ending ∈ fronts.flatMap fun front => backs.map (· ++ front),
      ending.Fits (backKeys (front ++ back)) := by
  obtain ⟨ending, inFronts, fits⟩ := before
  obtain ⟨more, inBacks, fits'⟩ := behind
  refine ⟨more ++ ending, List.mem_flatMap.mpr ⟨ending, inFronts, List.mem_map_of_mem inBacks⟩, ?_⟩
  rw [backKeys_append]
  exact List.rel_append fits' fits

private theorem repeatUpTo_fits {items : List Ending} {step : Place → List Place} {bound : Nat}
    (reads : ∀ {place last}, last ∈ step place → ∃ read, place.Reads read last)
    (fits : ∀ {place last read}, last ∈ step place → place.Reads read last →
      ∃ ending ∈ items, ending.Fits (backKeys read))
    (member : last ∈ repeatUpTo step bound place) (whole : place.Reads read last) :
    ∃ ending ∈ repeated items bound, ending.Fits (backKeys read) := by
  induction bound generalizing place read with
  | zero =>
    obtain rfl := List.mem_singleton.mp member
    obtain rfl := whole.unique (.refl _)
    exact ⟨[], List.mem_cons_self, .nil⟩
  | succ bound ih =>
    rcases List.mem_append.mp member with more | done
    · obtain ⟨middle, among, later⟩ := List.mem_flatMap.mp more
      obtain ⟨front, toMiddle⟩ := reads among
      obtain ⟨back, onward⟩ := repeatUpTo_reads reads later
      obtain rfl := whole.unique (toMiddle.trans onward)
      obtain ⟨ending, inside, fit⟩ := fits_both (fits among toMiddle) ⟨_, (ih later onward).choose_spec⟩
      exact ⟨ending, List.mem_append_left _ inside, fit⟩
    · obtain rfl := List.mem_singleton.mp done
      obtain rfl := whole.unique (.refl _)
      exact ⟨[], List.mem_append_right _ List.mem_cons_self, .nil⟩

/-- What a pattern has read is one of its endings. -/
theorem Pattern.fits_of_ends (member : last ∈ pattern.ends place) (reads : place.Reads read last) :
    ∃ ending ∈ pattern.endings, ending.Fits (backKeys read) := by
  induction pattern generalizing place last read with
  | empty =>
    obtain rfl := List.mem_singleton.mp member
    obtain rfl := reads.unique (.refl _)
    exact ⟨[], List.mem_cons_self, .nil⟩
  | start | finish | notAfter =>
    obtain ⟨-, rfl⟩ := mem_check member
    obtain rfl := reads.unique (.refl _)
    exact ⟨[], List.mem_cons_self, .nil⟩
  | letter c =>
    obtain ⟨x, same, reads', -⟩ := mem_step member
    obtain rfl := reads.unique reads'
    exact ⟨_, List.mem_cons_self, .cons ((@holds_among [c] x).mpr (by simpa using same)) .nil⟩
  | oneOf cs =>
    obtain ⟨x, some, reads', -⟩ := mem_step member
    obtain rfl := reads.unique reads'
    exact ⟨_, List.mem_cons_self, .cons (holds_among.mpr some) .nil⟩
  | noneOf cs =>
    obtain ⟨x, none, reads', -⟩ := mem_step member
    obtain rfl := reads.unique reads'
    exact ⟨_, List.mem_cons_self, .cons (holds_beside.mpr none) .nil⟩
  | both first second ihFirst ihSecond =>
    obtain ⟨middle, front, back, among, later, toMiddle, onward, rfl⟩ := reads_both member reads
    exact fits_both (ihFirst among toMiddle) (ihSecond later onward)
  | either first second ihFirst ihSecond =>
    rcases List.mem_append.mp member with among | among
    · obtain ⟨ending, inside, fits⟩ := ihFirst among reads
      exact ⟨ending, List.mem_append_left _ inside, fits⟩
    · obtain ⟨ending, inside, fits⟩ := ihSecond among reads
      exact ⟨ending, List.mem_append_right _ inside, fits⟩
  | upTo bound item ih => exact repeatUpTo_fits Pattern.reads ih member reads
  | keep item ih =>
    obtain ⟨middle, among, rfl⟩ := List.mem_map.mp member
    exact ih among ⟨reads.after, reads.before⟩

/-! ## Reading an ending -/

/-- Whether a pattern looks at nothing but the letters that it reads. -/
def Pattern.blind : Pattern → Bool
  | .start | .finish | .notAfter _ => false
  | .both first second | .either first second => first.blind && second.blind
  | .upTo _ item | .keep item => item.blind
  | .empty | .letter _ | .oneOf _ | .noneOf _ => true

/-- Whether a pattern looks at nothing but the letters that it reads and the end of the word behind
them. -/
def Pattern.loose : Pattern → Bool
  | .both .finish .empty => true
  | .both first second => first.blind && second.loose
  | _ => false

private theorem Ending.Fits.eq_nil (fits : Ending.Fits [] (backKeys read)) : read = [] := by
  simpa using fits.length_eq.symm

theorem Ending.Fits.of_append {ending rest : Ending} {keys : List Char}
    (fits : Ending.Fits (ending ++ rest) keys) :
    ∃ front back, keys = front ++ back ∧ ending.Fits front ∧ rest.Fits back := by
  have front := List.forall₂_take ending.length fits
  have back := List.forall₂_drop ending.length fits
  rw [List.take_left] at front
  rw [List.drop_left] at back
  exact ⟨_, _, (List.take_append_drop _ keys).symm, front, back⟩

/-- A text that is read as a whole falls into the parts of its ending. -/
theorem exists_of_fits_both {fronts backs : List Ending} {ending : Ending}
    (member : ending ∈ fronts.flatMap fun front => backs.map (· ++ front))
    (fits : Ending.Fits ending (backKeys read)) : ∃ front back, read = front ++ back ∧
      (∃ ending ∈ fronts, ending.Fits (backKeys front)) ∧
      ∃ ending ∈ backs, ending.Fits (backKeys back) := by
  obtain ⟨ending, inFronts, member⟩ := List.mem_flatMap.mp member
  obtain ⟨more, inBacks, rfl⟩ := List.mem_map.mp member
  obtain ⟨back, front, same, fitsBack, fitsFront⟩ := fits.of_append
  obtain ⟨left, right, split, rfl, rfl⟩ := List.map_eq_append_iff.mp same
  refine ⟨right.reverse, left.reverse, ?_, ⟨ending, inFronts, ?_⟩, more, inBacks, ?_⟩
  · rw [← List.reverse_append, ← split, List.reverse_reverse]
  · rwa [backKeys, List.reverse_reverse]
  · rwa [backKeys, List.reverse_reverse]

private theorem exists_of_fits_singleton {kind : LetterClass}
    (fits : Ending.Fits [kind] (backKeys read)) :
    ∃ x, read = [x] ∧ kind.holds (letterKey x) = true := by
  have single : read.length = 1 := by simpa using fits.length_eq.symm
  obtain ⟨x, rfl⟩ := List.length_eq_one_iff.mp single
  cases fits with
  | cons holds _ => exact ⟨x, rfl, holds⟩

private theorem exists_step {accepts : Char → Bool} {rest : List Char} (accepted : accepts x = true)
    (after : place.after = x :: rest) : ∃ last ∈ place.step accepts, place.Reads [x] last :=
  ⟨{ place with before := x :: place.before, after := rest }, by
    rw [Place.step, after]
    simp [accepted], ⟨after, rfl⟩⟩

private theorem exists_repeatUpTo {items : List Ending} {step : Place → List Place} {bound : Nat}
    {ending : Ending} {rest : List Char}
    (steps : ∀ {ending place read rest}, ending ∈ items → Ending.Fits ending (backKeys read) →
      place.after = read ++ rest → ∃ last ∈ step place, place.Reads read last)
    (member : ending ∈ repeated items bound) (fits : ending.Fits (backKeys read))
    (after : place.after = read ++ rest) :
    ∃ last ∈ repeatUpTo step bound place, place.Reads read last := by
  induction bound generalizing place ending read with
  | zero =>
    obtain rfl := List.mem_singleton.mp member
    obtain rfl := fits.eq_nil
    exact ⟨place, List.mem_cons_self, .refl _⟩
  | succ bound ih =>
    rcases List.mem_append.mp member with some | none
    · obtain ⟨front, back, rfl, ⟨first, inItems, fitsFront⟩, later, inLater, fitsBack⟩ :=
        exists_of_fits_both some fits
      rw [List.append_assoc] at after
      obtain ⟨middle, among, toMiddle⟩ := steps inItems fitsFront after
      have onward : middle.after = back ++ rest :=
        List.append_cancel_left (toMiddle.after.symm.trans after)
      obtain ⟨last, inside, reads⟩ := ih inLater fitsBack onward
      exact ⟨last, List.mem_append_left _ (List.mem_flatMap.mpr ⟨middle, among, inside⟩),
        toMiddle.trans reads⟩
    · obtain rfl := List.mem_singleton.mp none
      obtain rfl := fits.eq_nil
      exact ⟨place, List.mem_append_right _ List.mem_cons_self, .refl _⟩

/-- A pattern that looks at nothing else reads each of its endings. -/
theorem Pattern.exists_ends_of_blind {ending : Ending} {rest : List Char}
    (blind : pattern.blind = true) (member : ending ∈ pattern.endings)
    (fits : ending.Fits (backKeys read)) (after : place.after = read ++ rest) :
    ∃ last ∈ pattern.ends place, place.Reads read last := by
  induction pattern generalizing place ending read rest with
  | empty =>
    obtain rfl := List.mem_singleton.mp member
    obtain rfl := fits.eq_nil
    exact ⟨place, List.mem_cons_self, .refl _⟩
  | letter c =>
    obtain rfl := List.mem_singleton.mp member
    obtain ⟨x, rfl, holds⟩ := exists_of_fits_singleton fits
    have same := (@holds_among [c] x).mp holds
    exact exists_step (by simpa using same) after
  | oneOf cs =>
    obtain rfl := List.mem_singleton.mp member
    obtain ⟨x, rfl, holds⟩ := exists_of_fits_singleton fits
    exact exists_step (holds_among.mp holds) after
  | noneOf cs =>
    obtain rfl := List.mem_singleton.mp member
    obtain ⟨x, rfl, holds⟩ := exists_of_fits_singleton fits
    exact @exists_step _ x (fun x => !cs.any (sameLetter · x)) rest (holds_beside.mp holds) after
  | both first second ihFirst ihSecond =>
    obtain ⟨here, there⟩ := Bool.and_eq_true_iff.mp blind
    obtain ⟨front, back, rfl, ⟨one, inFirst, fitsFront⟩, two, inSecond, fitsBack⟩ :=
      exists_of_fits_both member fits
    rw [List.append_assoc] at after
    obtain ⟨middle, among, toMiddle⟩ := ihFirst here inFirst fitsFront after
    have onward : middle.after = back ++ rest :=
      List.append_cancel_left (toMiddle.after.symm.trans after)
    obtain ⟨last, later, reads⟩ := ihSecond there inSecond fitsBack onward
    exact ⟨last, List.mem_flatMap.mpr ⟨middle, among, later⟩, toMiddle.trans reads⟩
  | either first second ihFirst ihSecond =>
    obtain ⟨here, there⟩ := Bool.and_eq_true_iff.mp blind
    rcases List.mem_append.mp member with among | among
    · obtain ⟨last, inside, reads⟩ := ihFirst here among fits after
      exact ⟨last, List.mem_append_left _ inside, reads⟩
    · obtain ⟨last, inside, reads⟩ := ihSecond there among fits after
      exact ⟨last, List.mem_append_right _ inside, reads⟩
  | upTo bound item ih => exact exists_repeatUpTo (ih blind) member fits after
  | keep item ih =>
    obtain ⟨last, inside, reads⟩ := ih blind member fits after
    exact ⟨_, List.mem_map_of_mem inside, reads.after, reads.before⟩
  | start | finish | notAfter => cases blind

/-- A loose pattern reads each of its endings up to the end of the word. -/
theorem Pattern.exists_ends_of_loose {ending : Ending} (loose : pattern.loose = true)
    (member : ending ∈ pattern.endings) (fits : ending.Fits (backKeys place.after)) :
    ∃ last, last ∈ pattern.ends place := by
  fun_induction Pattern.loose pattern generalizing place ending with
  | case1 =>
    obtain rfl := List.mem_singleton.mp member
    have done := fits.eq_nil
    refine ⟨place, ?_⟩
    simp [Pattern.ends, Place.check, done]
  | case2 first second _ ih =>
    obtain ⟨here, there⟩ := Bool.and_eq_true_iff.mp loose
    obtain ⟨front, back, after, ⟨one, inFirst, fitsFront⟩, two, inSecond, fitsBack⟩ :=
      exists_of_fits_both member fits
    obtain ⟨middle, among, toMiddle⟩ := exists_ends_of_blind here inFirst fitsFront after
    have onward : middle.after = back := List.append_cancel_left (toMiddle.after.symm.trans after)
    rw [← onward] at fitsBack
    obtain ⟨last, later⟩ := ih there inSecond fitsBack
    exact ⟨last, List.mem_flatMap.mpr ⟨middle, among, later⟩⟩
  | case3 => cases loose

/-! ## Rules -/

variable {rule : Rule} {word form : List Char}

/-- A search finds something when the pattern ends behind some front of the word. -/
theorem Pattern.exists_searchFrom {before skipped rest : List Char}
    (ends : last ∈ pattern.ends ⟨skipped.reverse ++ before, rest, []⟩) :
    ∃ found, pattern.searchFrom before (skipped ++ rest) = some found := by
  induction skipped generalizing before with
  | nil =>
    cases places : pattern.ends ⟨before, rest, []⟩ with
    | nil => simp [places] at ends
    | cons found others =>
      cases rest with
      | nil => exact ⟨(before, found), by simp [searchFrom, places]⟩
      | cons c rest => exact ⟨(before, found), by simp [searchFrom, places]⟩
  | cons c skipped ih =>
    rw [List.reverse_cons, List.append_assoc] at ends
    rw [List.cons_append, searchFrom]
    split
    · exact ⟨_, rfl⟩
    · exact ih ends

/-- A loose rule changes every word that has one of its endings. -/
theorem Rule.exists_inflect {ending : Ending} (loose : rule.pattern.loose = true)
    (member : ending ∈ rule.pattern.endings) (ends : ending.EndsWord (backKeys word)) :
    ∃ form, rule.inflect? word = some form := by
  obtain ⟨front, rest, same, fits⟩ := Ending.endsWord_iff.mp ends
  obtain ⟨left, right, split, rfl, rfl⟩ := List.map_eq_append_iff.mp same
  have parts : word = right.reverse ++ left.reverse := by
    rw [← List.reverse_append, ← split, List.reverse_reverse]
  have read : ending.Fits (backKeys left.reverse) := by
    rwa [backKeys, List.reverse_reverse]
  obtain ⟨last, found⟩ := @Pattern.exists_ends_of_loose _
    ⟨right.reverse.reverse ++ [], left.reverse, []⟩ _ loose member read
  obtain ⟨found, search⟩ := Pattern.exists_searchFrom found
  rw [Rule.inflect?, parts, search]
  exact ⟨_, rfl⟩

theorem Rule.Applies.after_eq_nil {before : List Char} (applies : rule.Applies word form before read last)
    (closes : rule.pattern.closes = true) (trimmed : word.getLast? ≠ some '\n') : last.after = [] := by
  rcases Pattern.after_of_closes closes applies.ends with none | broken
  · exact none
  · rw [applies.word_eq, broken] at trimmed
    simp at trimmed

/-- A closing rule changes no word but those that have one of its endings. -/
theorem Rule.endsWord_of_inflect (closes : rule.pattern.closes = true)
    (trimmed : word.getLast? ≠ some '\n') (inflected : rule.inflect? word = some form) :
    ∃ ending ∈ rule.pattern.endings, ending.EndsWord (backKeys word) := by
  obtain ⟨before, read, last, applies⟩ := Rule.applies_of_inflect inflected
  obtain ⟨ending, member, fits⟩ := Pattern.fits_of_ends applies.ends applies.reads
  refine ⟨ending, member, Ending.endsWord_iff.mpr ⟨backKeys read, backKeys before, ?_, fits⟩⟩
  rw [applies.word_eq, applies.after_eq_nil closes trimmed, List.append_nil, backKeys_append]

/-! ## Knowing the end of a word -/

/-- What two classes have in common. -/
def LetterClass.meet : LetterClass → LetterClass → LetterClass
  | .among keys, .among others => .among (keys.filter others.contains)
  | .among keys, .beside others => .among (keys.filter (!others.contains ·))
  | .beside others, .among keys => .among (keys.filter (!others.contains ·))
  | .beside keys, .beside others => .beside (keys ++ others)

/-- Whether a class is seen to have no member. -/
def LetterClass.isVoid : LetterClass → Bool
  | .among keys => keys.isEmpty
  | .beside _ => false

/-- Whether the first class is seen to hold all members of the second one. -/
def LetterClass.covers : LetterClass → LetterClass → Bool
  | .among keys, .among others => others.all keys.contains
  | .beside keys, .among others => others.all (!keys.contains ·)
  | .beside keys, .beside others => keys.all others.contains
  | .among _, .beside _ => false

variable {kind other : LetterClass} {key : Char}

private theorem LetterClass.holds_meet :
    (kind.meet other).holds key = true ↔ kind.holds key = true ∧ other.holds key = true := by
  cases kind <;> cases other <;> simp [meet, holds, and_comm]

private theorem LetterClass.not_holds_of_isVoid (void : kind.isVoid = true) :
    kind.holds key = false := by
  cases kind with
  | among keys =>
    rw [List.isEmpty_iff.mp void]
    rfl
  | beside keys => cases void

private theorem LetterClass.holds_of_covers (covers : kind.covers other = true)
    (holds : other.holds key = true) : kind.holds key = true := by
  cases kind <;> cases other <;> simp_all [LetterClass.covers, LetterClass.holds]
  exact fun member => holds (covers _ member)

/-- What is known of the letters that two endings both give. -/
def Ending.meet : Ending → Ending → Ending
  | [], known => known
  | ending, [] => ending
  | kind :: ending, other :: known => kind.meet other :: meet ending known

/-- Whether two endings are seen to have no word in common. -/
def Ending.apart (ending known : Ending) : Bool :=
  (ending.zip known).any fun (kind, other) => (kind.meet other).isVoid

/-- Whether every word with the second ending is seen to have the first one. -/
def Ending.covers : Ending → Ending → Bool
  | [], _ => true
  | _ :: _, [] => false
  | kind :: ending, other :: known => kind.covers other && covers ending known

theorem Ending.endsWord_meet {ending known : Ending} {keys : List Char} (ends : ending.EndsWord keys)
    (holds : known.EndsWord keys) : (ending.meet known).EndsWord keys := by
  induction ending, known using Ending.meet.induct generalizing keys with
  | case1 => exact holds
  | case2 ending other => rwa [Ending.meet.eq_2 _ other]
  | case3 kind ending other known ih =>
    cases keys with
    | nil => cases ends
    | cons key keys => exact ⟨LetterClass.holds_meet.mpr ⟨ends.1, holds.1⟩, ih ends.2 holds.2⟩

theorem Ending.not_endsWord_of_apart {ending known : Ending} {keys : List Char}
    (apart : ending.apart known = true) (holds : known.EndsWord keys) : ¬ending.EndsWord keys := by
  intro ends
  induction ending generalizing known keys with
  | nil => cases apart
  | cons kind ending ih =>
    cases known with
    | nil => cases apart
    | cons other known =>
      cases keys with
      | nil => cases ends
      | cons key keys =>
        rcases Bool.or_eq_true_iff.mp apart with void | later
        · have none := @LetterClass.not_holds_of_isVoid _ key void
          rw [LetterClass.holds_meet.mpr ⟨ends.1, holds.1⟩] at none
          cases none
        · exact ih later holds.2 ends.2

private theorem Ending.endsWord_of_covers {ending known : Ending} {keys : List Char}
    (covers : ending.covers known = true) (holds : known.EndsWord keys) : ending.EndsWord keys := by
  induction ending, known using Ending.covers.induct generalizing keys with
  | case1 => trivial
  | case2 => cases covers
  | case3 kind ending other known ih =>
    obtain ⟨here, later⟩ := Bool.and_eq_true_iff.mp covers
    cases keys with
    | nil => cases holds
    | cons key keys => exact ⟨LetterClass.holds_of_covers here holds.1, ih later holds.2⟩

/-- What is known of a word: how it ends, and whether it has no other letters. -/
structure Known where
  ending : Ending
  whole : Bool := false

structure Known.Of (known : Known) (word : List Char) : Prop where
  ends : known.ending.EndsWord (backKeys word)
  whole : known.whole = true → word.length = known.ending.length
  trimmed : word.getLast? ≠ some '\n'

/-- Whether a known word is seen not to have an ending. -/
def Known.excludes (known : Known) (ending : Ending) : Bool :=
  ending.apart known.ending || known.whole && Nat.blt known.ending.length ending.length

/-- The rule of a list that is seen to be the first that changes a known word. -/
def Known.first? (known : Known) : List Rule → Option Rule
  | [] => none
  | rule :: later =>
    if rule.pattern.closes && rule.pattern.endings.all known.excludes then known.first? later
    else if rule.pattern.loose && rule.pattern.endings.any (·.covers known.ending) then some rule
    else none

variable {known : Known} {rules : List Rule}

theorem Ending.EndsWord.length_le {ending : Ending} {keys : List Char} (ends : ending.EndsWord keys) :
    ending.length ≤ keys.length := by
  obtain ⟨front, rest, rfl, fits⟩ := Ending.endsWord_iff.mp ends
  rw [fits.length_eq, List.length_append]
  exact Nat.le_add_right ..

private theorem Known.Of.not_endsWord {ending : Ending} (of : known.Of word)
    (excludes : known.excludes ending = true) : ¬ending.EndsWord (backKeys word) := by
  rcases Bool.or_eq_true_iff.mp excludes with apart | long
  · exact Ending.not_endsWord_of_apart apart of.ends
  · obtain ⟨whole, longer⟩ := Bool.and_eq_true_iff.mp long
    intro ends
    have most := ends.length_le
    rw [length_backKeys, of.whole whole] at most
    exact absurd (Nat.blt_eq.mp longer) (Nat.not_lt.mpr most)

/-- The first rule is found from what is known of a word. -/
theorem Known.Of.exists_inflect (of : known.Of word) (first : known.first? rules = some rule) :
    ∃ form, rule.inflect? word = some form ∧ rules.findSome? (·.inflect? word) = some form := by
  induction rules with
  | nil => cases first
  | cons candidate later ih =>
    rw [Known.first?] at first
    split at first
    · rename_i passes
      obtain ⟨closes, excluded⟩ := Bool.and_eq_true_iff.mp passes
      have passed : candidate.inflect? word = none := by
        rw [Option.eq_none_iff_forall_ne_some]
        intro form inflected
        obtain ⟨ending, member, ends⟩ := Rule.endsWord_of_inflect closes of.trimmed inflected
        exact of.not_endsWord (List.all_eq_true.mp excluded ending member) ends
      obtain ⟨form, inflected, found⟩ := ih first
      exact ⟨form, inflected, by rw [List.findSome?_cons, passed, found]⟩
    · split at first
      · rename_i included
        cases first
        obtain ⟨loose, covered⟩ := Bool.and_eq_true_iff.mp included
        obtain ⟨ending, member, covers⟩ := List.any_eq_true.mp covered
        obtain ⟨form, inflected⟩ :=
          Rule.exists_inflect loose member (Ending.endsWord_of_covers covers of.ends)
        exact ⟨form, inflected, by rw [List.findSome?_cons, inflected]⟩
      · cases first

end Scaffold.Inflection
