import Mathlib.Data.List.Forall2
import Scaffold.Inflection.Language
import Scaffold.Proofs.Letters

/-! What a pattern can have read when it ends. Every place at which it ends is reached by reading some
text, and what the pattern is made of says something about that text: that it has a letter, that it is one
of a few texts, that nothing comes behind it. These are computed for a pattern, so that a rule can be
asked whether a word keeps a letter under it or loses an ending. -/
namespace Scaffold.Inflection

open Text

variable {pattern first second : Pattern} {place last : Place} {read cs : List Char} {c x : Char}

/-! ## Reading -/

/-- From one place to another by reading a text. -/
structure Place.Reads (place : Place) (read : List Char) (last : Place) : Prop where
  after : place.after = read ++ last.after
  before : last.before = read.reverse ++ place.before

theorem Place.Reads.refl (place : Place) : place.Reads [] place :=
  ⟨rfl, rfl⟩

theorem Place.Reads.trans {middle : Place} {more : List Char} (reads : place.Reads read middle)
    (onward : middle.Reads more last) : place.Reads (read ++ more) last where
  after := by rw [reads.after, onward.after, List.append_assoc]
  before := by rw [onward.before, reads.before, List.reverse_append, List.append_assoc]

/-- Only one text lies between two places. -/
theorem Place.Reads.unique {other : List Char} (reads : place.Reads read last)
    (reads' : place.Reads other last) : read = other :=
  List.append_cancel_right (reads.after.symm.trans reads'.after)

theorem Place.Reads.textSince (reads : place.Reads read last) : last.textSince place = read := by
  rw [Place.textSince, reads.before, List.length_append, Nat.add_sub_cancel, List.take_left,
    List.reverse_reverse]

theorem mem_step {accepts : Char → Bool} (member : last ∈ place.step accepts) :
    ∃ x, accepts x = true ∧ place.Reads [x] last ∧ last.kept = place.kept := by
  unfold Place.step at member
  split at member
  · cases member
  · rename_i x rest split
    split at member
    · rename_i accepted
      obtain rfl := List.mem_singleton.mp member
      exact ⟨x, accepted, ⟨split, rfl⟩, rfl⟩
    · cases member

theorem mem_check {holds : Bool} (member : last ∈ place.check holds) :
    holds = true ∧ last = place := by
  unfold Place.check at member
  split at member
  · exact ⟨‹_›, List.mem_singleton.mp member⟩
  · cases member

/-- Repeating something that reads on reads on. -/
theorem repeatUpTo_reads {step : Place → List Place} {bound : Nat}
    (reads : ∀ {place last}, last ∈ step place → ∃ read, place.Reads read last)
    (member : last ∈ repeatUpTo step bound place) : ∃ read, place.Reads read last := by
  induction bound generalizing place with
  | zero =>
    obtain rfl := List.mem_singleton.mp member
    exact ⟨[], .refl _⟩
  | succ bound ih =>
    rcases List.mem_append.mp member with more | done
    · obtain ⟨middle, among, later⟩ := List.mem_flatMap.mp more
      obtain ⟨front, first⟩ := reads among
      obtain ⟨back, second⟩ := ih later
      exact ⟨front ++ back, first.trans second⟩
    · obtain rfl := List.mem_singleton.mp done
      exact ⟨[], .refl _⟩

/-- A pattern reads on from a place. -/
theorem Pattern.reads (member : last ∈ pattern.ends place) : ∃ read, place.Reads read last := by
  induction pattern generalizing place last with
  | empty =>
    obtain rfl := List.mem_singleton.mp member
    exact ⟨[], .refl _⟩
  | letter | oneOf | noneOf =>
    obtain ⟨x, -, reads, -⟩ := mem_step member
    exact ⟨[x], reads⟩
  | start | finish | notAfter =>
    obtain ⟨-, rfl⟩ := mem_check member
    exact ⟨[], .refl _⟩
  | both first second ihFirst ihSecond =>
    obtain ⟨middle, among, later⟩ := List.mem_flatMap.mp member
    obtain ⟨front, reads⟩ := ihFirst among
    obtain ⟨back, onward⟩ := ihSecond later
    exact ⟨front ++ back, reads.trans onward⟩
  | either first second ihFirst ihSecond =>
    rcases List.mem_append.mp member with among | among
    · exact ihFirst among
    · exact ihSecond among
  | upTo bound item ih => exact repeatUpTo_reads ih member
  | keep item ih =>
    obtain ⟨middle, among, rfl⟩ := List.mem_map.mp member
    obtain ⟨read, reads⟩ := ih among
    exact ⟨read, reads.after, reads.before⟩

/-- What two patterns read in a row falls into what each of them reads. -/
theorem Pattern.reads_both (member : last ∈ (first.both second).ends place)
    (reads : place.Reads read last) : ∃ middle front back, middle ∈ first.ends place ∧
      last ∈ second.ends middle ∧ place.Reads front middle ∧ middle.Reads back last ∧
      read = front ++ back := by
  obtain ⟨middle, among, later⟩ := List.mem_flatMap.mp member
  obtain ⟨front, toMiddle⟩ := Pattern.reads among
  obtain ⟨back, onward⟩ := Pattern.reads later
  exact ⟨middle, front, back, among, later, toMiddle, onward,
    reads.unique (toMiddle.trans onward)⟩

/-! ## What is read -/

/-- What a letter of a pattern is read as is a letter. -/
theorem isLetter_of_sameLetter (letter : isLetter c = true) (same : sameLetter c x = true) :
    isLetter x = true := by
  apply isLetter_of_lowerLetter
  simp only [sameLetter, Bool.or_eq_true, beq_iff_eq] at same
  rcases same with rfl | twin
  · exact letter
  · have twins_letters : ∀ pair ∈ twins, isLetter pair.2 = true := by decide
    exact twins_letters (c, lowerLetter x) (List.contains_iff_mem.mp twin)

/-- Whether a pattern reads a letter wherever it ends. -/
def Pattern.readsLetter : Pattern → Bool
  | .letter c => isLetter c
  | .oneOf cs => cs.all isLetter
  | .both first second => first.readsLetter || second.readsLetter
  | .either first second => first.readsLetter && second.readsLetter
  | .keep item => item.readsLetter
  | .empty | .noneOf _ | .start | .finish | .notAfter _ | .upTo _ _ => false

private theorem Pattern.lettered_of_readsLetter (lettered : pattern.readsLetter = true)
    (member : last ∈ pattern.ends place) (reads : place.Reads read last) : Lettered read := by
  induction pattern generalizing place last read with
  | letter c =>
    obtain ⟨x, same, reads', -⟩ := mem_step member
    obtain rfl := reads.unique reads'
    exact ⟨x, List.mem_cons_self, isLetter_of_sameLetter lettered same⟩
  | oneOf cs =>
    obtain ⟨x, some, reads', -⟩ := mem_step member
    obtain rfl := reads.unique reads'
    obtain ⟨c, among, same⟩ := List.any_eq_true.mp some
    exact ⟨x, List.mem_cons_self, isLetter_of_sameLetter (List.all_eq_true.mp lettered c among) same⟩
  | both first second ihFirst ihSecond =>
    obtain ⟨middle, front, back, among, later, toMiddle, onward, rfl⟩ := reads_both member reads
    rw [lettered_append]
    rcases Bool.or_eq_true_iff.mp lettered with here | there
    · exact .inl (ihFirst here among toMiddle)
    · exact .inr (ihSecond there later onward)
  | either first second ihFirst ihSecond =>
    obtain ⟨here, there⟩ := Bool.and_eq_true_iff.mp lettered
    rcases List.mem_append.mp member with among | among
    · exact ihFirst here among reads
    · exact ihSecond there among reads
  | keep item ih =>
    obtain ⟨middle, among, rfl⟩ := List.mem_map.mp member
    exact ih lettered among ⟨reads.after, reads.before⟩
  | empty | noneOf | start | finish | notAfter | upTo => cases lettered

/-- Whether a pattern keeps no text of its own. -/
def Pattern.keepsNone : Pattern → Bool
  | .both first second | .either first second => first.keepsNone && second.keepsNone
  | .upTo _ item => item.keepsNone
  | .keep _ => false
  | .empty | .letter _ | .oneOf _ | .noneOf _ | .start | .finish | .notAfter _ => true

private theorem repeatUpTo_kept {step : Place → List Place} {bound : Nat}
    (keeps : ∀ {place last}, last ∈ step place → last.kept = place.kept)
    (member : last ∈ repeatUpTo step bound place) : last.kept = place.kept := by
  induction bound generalizing place with
  | zero => rw [List.mem_singleton.mp member]
  | succ bound ih =>
    rcases List.mem_append.mp member with more | done
    · obtain ⟨middle, among, later⟩ := List.mem_flatMap.mp more
      rw [ih later, keeps among]
    · rw [List.mem_singleton.mp done]

theorem Pattern.kept_of_keepsNone (none : pattern.keepsNone = true)
    (member : last ∈ pattern.ends place) : last.kept = place.kept := by
  induction pattern generalizing place last with
  | empty => rw [List.mem_singleton.mp member]
  | letter | oneOf | noneOf =>
    obtain ⟨-, -, -, kept⟩ := mem_step member
    exact kept
  | start | finish | notAfter => rw [(mem_check member).2]
  | both first second ihFirst ihSecond =>
    obtain ⟨here, there⟩ := Bool.and_eq_true_iff.mp none
    obtain ⟨middle, among, later⟩ := List.mem_flatMap.mp member
    rw [ihSecond there later, ihFirst here among]
  | either first second ihFirst ihSecond =>
    obtain ⟨here, there⟩ := Bool.and_eq_true_iff.mp none
    rcases List.mem_append.mp member with among | among
    · exact ihFirst here among
    · exact ihSecond there among
  | upTo bound item ih => exact repeatUpTo_kept (ih none) member
  | keep => cases none

/-- Whether the text that a pattern keeps has a letter wherever it ends. -/
def Pattern.keepsLetter : Pattern → Bool
  | .both first second => second.keepsLetter || first.keepsLetter && second.keepsNone
  | .either first second => first.keepsLetter && second.keepsLetter
  | .keep item => item.readsLetter
  | .empty | .letter _ | .oneOf _ | .noneOf _ | .start | .finish | .notAfter _ | .upTo _ _ => false

theorem Pattern.lettered_of_keepsLetter (lettered : pattern.keepsLetter = true)
    (member : last ∈ pattern.ends place) : Lettered last.kept := by
  induction pattern generalizing place last with
  | both first second ihFirst ihSecond =>
    obtain ⟨middle, among, later⟩ := List.mem_flatMap.mp member
    rcases Bool.or_eq_true_iff.mp lettered with there | here
    · exact ihSecond there later
    · obtain ⟨here, none⟩ := Bool.and_eq_true_iff.mp here
      rw [kept_of_keepsNone none later]
      exact ihFirst here among
  | either first second ihFirst ihSecond =>
    obtain ⟨here, there⟩ := Bool.and_eq_true_iff.mp lettered
    rcases List.mem_append.mp member with among | among
    · exact ihFirst here among
    · exact ihSecond there among
  | keep item =>
    obtain ⟨middle, among, rfl⟩ := List.mem_map.mp member
    obtain ⟨read, reads⟩ := Pattern.reads among
    have kept := lettered_of_readsLetter lettered among reads
    rwa [← reads.textSince] at kept
  | empty | letter | oneOf | noneOf | start | finish | notAfter | upTo => cases lettered

/-- The texts that a pattern can read, when these are few. -/
def Pattern.texts? : Pattern → Option (List (List Char))
  | .empty | .start | .finish | .notAfter _ => some [[]]
  | .letter c => some [[c]]
  | .oneOf cs => some (cs.map ([·]))
  | .both first second =>
    match first.texts?, second.texts? with
    | some fronts, some backs => some (fronts.flatMap fun front => backs.map (front ++ ·))
    | _, _ => none
  | .either first second =>
    match first.texts?, second.texts? with
    | some texts, some more => some (texts ++ more)
    | _, _ => none
  | .keep item => item.texts?
  | .noneOf _ | .upTo _ _ => none

/-- A text that spells another one letter by letter, in any case. -/
def Spells (text read : List Char) : Prop :=
  List.Forall₂ (fun c x => sameLetter c x = true) text read

private theorem Pattern.spells_of_texts {texts : List (List Char)}
    (few : pattern.texts? = some texts)
    (member : last ∈ pattern.ends place) (reads : place.Reads read last) :
    ∃ text ∈ texts, Spells text read := by
  induction pattern generalizing place last read texts with
  | empty =>
    cases few
    obtain rfl := List.mem_singleton.mp member
    obtain rfl := reads.unique (.refl _)
    exact ⟨[], List.mem_cons_self, .nil⟩
  | start | finish | notAfter =>
    cases few
    obtain ⟨-, rfl⟩ := mem_check member
    obtain rfl := reads.unique (.refl _)
    exact ⟨[], List.mem_cons_self, .nil⟩
  | letter c =>
    cases few
    obtain ⟨x, same, reads', -⟩ := mem_step member
    obtain rfl := reads.unique reads'
    exact ⟨[c], List.mem_cons_self, .cons same .nil⟩
  | oneOf cs =>
    cases few
    obtain ⟨x, some, reads', -⟩ := mem_step member
    obtain rfl := reads.unique reads'
    obtain ⟨c, among, same⟩ := List.any_eq_true.mp some
    exact ⟨[c], List.mem_map_of_mem among, .cons same .nil⟩
  | both first second ihFirst ihSecond =>
    obtain ⟨middle, front, back, among, later, toMiddle, onward, rfl⟩ := reads_both member reads
    rw [texts?] at few
    split at few
    · rename_i fronts backs here there
      cases few
      obtain ⟨text, inFronts, spells⟩ := ihFirst here among toMiddle
      obtain ⟨more, inBacks, spells'⟩ := ihSecond there later onward
      exact ⟨text ++ more, List.mem_flatMap.mpr ⟨text, inFronts, List.mem_map_of_mem inBacks⟩,
        List.rel_append spells spells'⟩
    · cases few
  | either first second ihFirst ihSecond =>
    rw [texts?] at few
    split at few
    · rename_i texts more here there
      cases few
      rcases List.mem_append.mp member with among | among
      · obtain ⟨text, inside, spells⟩ := ihFirst here among reads
        exact ⟨text, List.mem_append_left _ inside, spells⟩
      · obtain ⟨text, inside, spells⟩ := ihSecond there among reads
        exact ⟨text, List.mem_append_right _ inside, spells⟩
    · cases few
  | keep item ih =>
    obtain ⟨middle, among, rfl⟩ := List.mem_map.mp member
    exact ih few among ⟨reads.after, reads.before⟩
  | noneOf | upTo => cases few

/-- Whether a pattern ends only where the word ends. -/
def Pattern.closes : Pattern → Bool
  | .finish => true
  | .both first second => second.closes || first.closes && second.texts? == some [[]]
  | .either first second => first.closes && second.closes
  | .keep item => item.closes
  | .empty | .letter _ | .oneOf _ | .noneOf _ | .start | .notAfter _ | .upTo _ _ => false

theorem Pattern.after_of_closes (closes : pattern.closes = true)
    (member : last ∈ pattern.ends place) : last.after = [] ∨ last.after = ['\n'] := by
  induction pattern generalizing place last with
  | finish =>
    obtain ⟨ended, rfl⟩ := mem_check member
    simpa using ended
  | both first second ihFirst ihSecond =>
    obtain ⟨middle, among, later⟩ := List.mem_flatMap.mp member
    rcases Bool.or_eq_true_iff.mp closes with there | here
    · exact ihSecond there later
    · obtain ⟨here, still⟩ := Bool.and_eq_true_iff.mp here
      obtain ⟨read, reads⟩ := Pattern.reads later
      obtain ⟨text, inside, spells⟩ := spells_of_texts (beq_iff_eq.mp still) later reads
      rw [List.mem_singleton.mp inside] at spells
      cases spells
      have same : middle.after = last.after := reads.after
      rw [← same]
      exact ihFirst here among
  | either first second ihFirst ihSecond =>
    obtain ⟨here, there⟩ := Bool.and_eq_true_iff.mp closes
    rcases List.mem_append.mp member with among | among
    · exact ihFirst here among
    · exact ihSecond there among
  | keep item ih =>
    obtain ⟨middle, among, rfl⟩ := List.mem_map.mp member
    exact @ih place middle closes among
  | empty | letter | oneOf | noneOf | start | notAfter | upTo => cases closes

/-! ## Rules -/

variable {rule : Rule} {word form before : List Char}

/-- A rule takes a word to a form: it reads a text somewhere in the word and puts something else there. -/
structure Rule.Applies (rule : Rule) (word form before read : List Char) (last : Place) : Prop where
  word_eq : word = before ++ read ++ last.after
  form_eq : form = before ++ rule.fill last.kept ++ last.after
  ends : last ∈ rule.pattern.ends ⟨before.reverse, read ++ last.after, []⟩
  reads : Place.Reads ⟨before.reverse, read ++ last.after, []⟩ read last

/-- A search finds the end of a pattern behind a front of the word. -/
theorem Pattern.exists_of_searchFrom {front : List Char}
    (found : pattern.searchFrom before word = some (front, last)) :
    ∃ skipped rest, front = skipped.reverse ++ before ∧ word = skipped ++ rest ∧
      last ∈ pattern.ends ⟨front, rest, []⟩ := by
  induction word generalizing before with
  | nil =>
    obtain ⟨place, ends, same⟩ := Option.map_eq_some_iff.mp found
    cases same
    exact ⟨[], [], rfl, rfl, List.mem_of_mem_head? ends⟩
  | cons c rest ih =>
    rw [searchFrom] at found
    split at found
    · rename_i place ends
      cases found
      exact ⟨[], c :: rest, rfl, rfl, List.mem_of_mem_head? ends⟩
    · obtain ⟨skipped, left, same, split, ends⟩ := ih found
      refine ⟨c :: skipped, left, ?_, by rw [split, List.cons_append], ends⟩
      rw [same, List.reverse_cons, List.append_assoc, List.singleton_append]

theorem Rule.applies_of_inflect (inflected : rule.inflect? word = some form) :
    ∃ before read last, rule.Applies word form before read last := by
  obtain ⟨⟨front, last⟩, found, rfl⟩ := Option.map_eq_some_iff.mp inflected
  obtain ⟨skipped, rest, rfl, rfl, ends⟩ := Pattern.exists_of_searchFrom found
  rw [List.append_nil] at ends
  obtain ⟨read, reads⟩ := Pattern.reads ends
  have split : rest = read ++ last.after := reads.after
  subst split
  exact ⟨skipped, read, last, by rw [List.append_assoc], by simp, ends, reads⟩

/-- Whether a rule reads nothing but one of some endings. -/
def Rule.readsEnding (rule : Rule) (endings : List String) : Bool :=
  rule.pattern.closes &&
    rule.pattern.texts?.any fun texts => texts.all fun text => (endings.map String.toList).contains text

theorem Rule.exists_of_readsEnding {endings : List String}
    (readsEnding : rule.readsEnding endings = true)
    (applies : rule.Applies word form before read last) :
    (∃ text ∈ endings, Spells text.toList read) ∧ (last.after = [] ∨ last.after = ['\n']) := by
  obtain ⟨closes, few⟩ := Bool.and_eq_true_iff.mp readsEnding
  refine ⟨?_, Pattern.after_of_closes closes applies.ends⟩
  cases found : rule.pattern.texts? with
  | none =>
    rw [found] at few
    cases few
  | some texts =>
    rw [found] at few
    obtain ⟨text, member, spells⟩ := Pattern.spells_of_texts found applies.ends applies.reads
    have among := List.contains_iff_mem.mp (List.all_eq_true.mp few text member)
    obtain ⟨ending, inside, rfl⟩ := List.mem_map.mp among
    exact ⟨ending, inside, spells⟩

end Scaffold.Inflection
