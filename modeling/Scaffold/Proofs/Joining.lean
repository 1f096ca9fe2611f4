import Mathlib.Data.List.DropRight
import Scaffold.Text.Blank
import Scaffold.Text.Pieces

/-! Texts as words with marks between them. Drawing the runs of a text together and stripping its ends leaves
its words with one mark between each two, and such a text is made of these words and no others: it neither
begins nor ends with a mark, and no two stand in a row. -/
namespace Scaffold.Text

variable {isMark : Char → Bool} {mark c : Char} {cs more word : List Char} {pieces : List (List Char)}

/-! ## Words -/

theorem split_eq_splitOnP : split isMark cs = cs.splitOnP isMark := by
  induction cs with
  | nil => rfl
  | cons c rest ih =>
    rw [split, ih, List.splitOnP_cons_eq_if_modifyHead]
    cases pieces : rest.splitOnP isMark with
    | nil => exact absurd pieces (List.splitOnP_ne_nil _ _)
    | cons piece pieces => rfl

theorem words_append (marked : isMark c = true) :
    words isMark (cs ++ c :: more) = words isMark cs ++ words isMark more := by
  simp only [words, split_eq_splitOnP, List.splitOnP_append_cons cs more marked, List.filter_append]

@[simp] theorem words_nil : words isMark [] = [] :=
  rfl

private theorem words_cons_mark (marked : isMark c = true) :
    words isMark (c :: cs) = words isMark cs :=
  @words_append isMark c [] cs marked

theorem words_of_solid (filled : cs ≠ []) (solid : ∀ c ∈ cs, isMark c = false) :
    words isMark cs = [cs] := by
  rw [words, split_eq_splitOnP, List.splitOnP_eq_singleton solid]
  simp [filled]

/-- A text is a word, which may be empty, or it goes on with a mark and another text behind its first word. -/
@[elab_as_elim]
theorem words_induction {motive : List Char → Prop} (isMark : Char → Bool)
    (last : ∀ word, (∀ c ∈ word, isMark c = false) → motive word)
    (more : ∀ word c rest, (∀ d ∈ word, isMark d = false) → isMark c = true → motive rest →
      motive (word ++ c :: rest))
    (cs : List Char) : motive cs := by
  -- What is left behind a word is not the tail of the text, so the induction is on the length.
  induction size : cs.length using Nat.strongRecOn generalizing cs with
  | ind count ih =>
    have solid : ∀ c ∈ cs.takeWhile (!isMark ·), isMark c = false := fun c member => by
      simpa using List.mem_takeWhile_imp member
    have whole := @List.takeWhile_append_dropWhile _ (!isMark ·) cs
    cases left : cs.dropWhile (!isMark ·) with
    | nil =>
      rw [left, List.append_nil] at whole
      rw [← whole]
      exact last _ solid
    | cons c rest =>
      have stops := List.head?_dropWhile_not (!isMark ·) cs
      rw [left] at whole stops
      have shorter : rest.length < count := by
        rw [← size, ← whole, List.length_append, List.length_cons]
        omega
      rw [← whole]
      exact more _ c rest solid (by simpa using stops) (ih rest.length shorter rest rfl)

private theorem eq_of_mem_words (solid : ∀ c ∈ cs, isMark c = false)
    (member : word ∈ words isMark cs) :
    word = cs ∧ word ≠ [] := by
  by_cases none : cs = []
  · rw [none] at member
    cases member
  · rw [words_of_solid none solid, List.mem_singleton] at member
    exact ⟨member, member ▸ none⟩

/-- Words are filled, and hold characters of the text that are no marks. -/
theorem mem_words (member : word ∈ words isMark cs) :
    word ≠ [] ∧ ∀ c ∈ word, isMark c = false ∧ c ∈ cs := by
  induction cs using words_induction isMark with
  | last first solid =>
    obtain ⟨rfl, filled⟩ := eq_of_mem_words solid member
    exact ⟨filled, fun c inside => ⟨solid c inside, inside⟩⟩
  | more first c rest solid marked ih =>
    rw [words_append marked] at member
    rcases List.mem_append.mp member with here | later
    · obtain ⟨rfl, filled⟩ := eq_of_mem_words solid here
      exact ⟨filled, fun d inside => ⟨solid d inside, List.mem_append_left _ inside⟩⟩
    · obtain ⟨filled, letters⟩ := ih later
      refine ⟨filled, fun d inside => ?_⟩
      obtain ⟨plain, among⟩ := letters d inside
      exact ⟨plain, List.mem_append_right _ (.tail _ among)⟩

/-- A part of a text with a mark or an end on either side. -/
def StandsIn (isMark : Char → Bool) (word cs : List Char) : Prop :=
  ∃ before after, cs = before ++ word ++ after ∧ (∀ c, before.getLast? = some c → isMark c = true) ∧
    ∀ c, after.head? = some c → isMark c = true

theorem mem_words_of_standsIn (filled : word ≠ []) (solid : ∀ c ∈ word, isMark c = false)
    (stands : StandsIn isMark word cs) : word ∈ words isMark cs := by
  obtain ⟨before, after, rfl, left, right⟩ := stands
  have inner : word ∈ words isMark (word ++ after) := by
    cases after with
    | nil => simp [words_of_solid filled solid]
    | cons c rest => simp [words_append (right c rfl), words_of_solid filled solid]
  rcases List.eq_nil_or_concat' before with rfl | ⟨init, c, rfl⟩
  · exact inner
  · rw [List.append_assoc, List.append_assoc, List.singleton_append,
      words_append (left c List.getLast?_concat)]
    exact List.mem_append_right _ inner

theorem standsIn_of_mem_words (member : word ∈ words isMark cs) : StandsIn isMark word cs := by
  induction cs using words_induction isMark with
  | last first solid =>
    obtain ⟨rfl, -⟩ := eq_of_mem_words solid member
    exact ⟨[], [], by simp, nofun, nofun⟩
  | more first c rest solid marked ih =>
    rw [words_append marked] at member
    rcases List.mem_append.mp member with here | later
    · obtain ⟨rfl, -⟩ := eq_of_mem_words solid here
      refine ⟨[], c :: rest, by simp, nofun, fun d head => ?_⟩
      rw [List.head?_cons, Option.some.injEq] at head
      rwa [← head]
    · obtain ⟨before, after, rfl, left, right⟩ := ih later
      refine ⟨first ++ c :: before, after, by simp, fun d last => ?_, right⟩
      rw [List.getLast?_append_of_ne_nil _ (List.cons_ne_nil _ _)] at last
      rcases List.eq_nil_or_concat' before with rfl | ⟨init, e, rfl⟩
      · rw [List.getLast?_singleton, Option.some.injEq] at last
        rwa [← last]
      · rw [← List.cons_append, List.getLast?_concat] at last
        exact left d (by rw [List.getLast?_concat, last])

/-! ## Words with marks between them -/

theorem intercalate_cons : [mark].intercalate (word :: pieces) =
    if pieces = [] then word else word ++ mark :: [mark].intercalate pieces := by
  cases pieces with
  | nil => simp
  | cons next rest => simp [List.intercalate_cons_cons]

/-- The words of a joined text are the ones it was made of. -/
theorem words_intercalate (marked : isMark mark = true)
    (solid : ∀ piece ∈ pieces, piece ≠ [] ∧ ∀ c ∈ piece, isMark c = false) :
    words isMark ([mark].intercalate pieces) = pieces := by
  induction pieces with
  | nil => rfl
  | cons piece rest ih =>
    obtain ⟨⟨filled, first⟩, later⟩ := List.forall_mem_cons.mp solid
    rw [intercalate_cons]
    split
    · rename_i alone
      rw [words_of_solid filled first, alone]
    · rw [words_append marked, words_of_solid filled first, ih later, List.singleton_append]

theorem map_intercalate (f : Char → Char) :
    ([mark].intercalate pieces).map f = [f mark].intercalate (pieces.map (List.map f)) := by
  induction pieces with
  | nil => rfl
  | cons piece rest ih =>
    cases rest with
    | nil => simp
    | cons next rest =>
      rw [List.map_cons] at ih
      simp only [List.map_cons, List.intercalate_cons_cons, List.map_append, List.map_nil, ih]

theorem mem_intercalate (member : c ∈ [mark].intercalate pieces) :
    c = mark ∨ ∃ piece ∈ pieces, c ∈ piece := by
  induction pieces with
  | nil => cases member
  | cons piece rest ih =>
    have later : c ∈ [mark].intercalate rest → c = mark ∨ ∃ other ∈ piece :: rest, c ∈ other := by
      intro member
      rcases ih member with same | ⟨other, among, inside⟩
      · exact .inl same
      · exact .inr ⟨other, .tail _ among, inside⟩
    rw [intercalate_cons] at member
    split at member
    · exact .inr ⟨piece, .head _, member⟩
    · rcases List.mem_append.mp member with first | member
      · exact .inr ⟨piece, .head _, first⟩
      · rcases List.mem_cons.mp member with same | member
        · exact .inl same
        · exact later member

private theorem intercalate_eq_nil_iff (filled : ∀ piece ∈ pieces, piece ≠ []) :
    [mark].intercalate pieces = [] ↔ pieces = [] := by
  cases pieces with
  | nil => simp
  | cons piece rest =>
    have first : piece ≠ [] := filled piece List.mem_cons_self
    rw [intercalate_cons]
    split <;> simp [first]

/-- No mark at either end and no two in a row. -/
structure Spaced (mark : Char) (cs : List Char) : Prop where
  single : ¬[mark, mark] <:+: cs
  first : cs.head? ≠ some mark
  last : cs.getLast? ≠ some mark

/-- A text is spaced when no piece between its marks is empty. -/
theorem spaced_of_splitOn (filled : [] ∉ cs.splitOn mark) : Spaced mark cs := by
  have parted : ∀ before after, cs = before ++ mark :: after →
      [] ∉ before.splitOn mark ∧ [] ∉ after.splitOn mark := by
    rintro before after rfl
    have pieces := @List.splitOnP_append_cons _ (· == mark) before after mark (beq_self_eq_true mark)
    rw [List.splitOn, pieces, List.mem_append, not_or] at filled
    exact filled
  constructor
  · rintro ⟨before, after, rfl⟩
    have behind := (parted before (mark :: after) (by simp)).2
    rw [List.splitOn, List.splitOnP_cons_eq_if_modifyHead, if_pos (beq_self_eq_true mark)] at behind
    exact behind List.mem_cons_self
  · intro first
    obtain ⟨rest, rfl⟩ := List.head?_eq_some_iff.mp first
    exact (parted [] rest rfl).1 List.mem_cons_self
  · intro last
    obtain ⟨init, rfl⟩ := List.getLast?_eq_some_iff.mp last
    exact (parted init [] rfl).2 List.mem_cons_self

theorem spaced_intercalate (solid : ∀ piece ∈ pieces, piece ≠ [] ∧ mark ∉ piece) :
    Spaced mark ([mark].intercalate pieces) := by
  by_cases none : pieces = []
  · subst none
    exact ⟨by simp, by simp, by simp⟩
  · apply spaced_of_splitOn
    rw [List.splitOn_intercalate mark (fun piece member => (solid piece member).2) none]
    exact fun member => (solid [] member).1 rfl

/-- What follows a mark in a spaced text is filled, and spaced as well. -/
theorem Spaced.behind (spaced : Spaced mark (cs ++ mark :: more)) :
    cs ≠ [] ∧ more ≠ [] ∧ Spaced mark more := by
  have filled : more ≠ [] := by
    rintro rfl
    exact spaced.last List.getLast?_concat
  have next : more.head? ≠ some mark := by
    intro head
    obtain ⟨rest, rfl⟩ := List.head?_eq_some_iff.mp head
    exact spaced.single ⟨cs, rest, by simp⟩
  refine ⟨?_, filled, fun inside => ?_, next, fun last => ?_⟩
  · rintro rfl
    exact spaced.first rfl
  · exact spaced.single (inside.trans ⟨cs ++ [mark], [], by simp⟩)
  · apply spaced.last
    rw [List.append_cons, List.getLast?_append_of_ne_nil _ filled, last]

/-- A text that is spaced by a mark, and has no other marks, is its words with that mark between them. -/
theorem intercalate_words (marks : ∀ c ∈ cs, isMark c = true → c = mark) (spaced : Spaced mark cs) :
    [mark].intercalate (words isMark cs) = cs := by
  induction cs using words_induction isMark with
  | last first solid =>
    by_cases none : first = []
    · rw [none]
      rfl
    · rw [words_of_solid none solid, List.intercalate_singleton]
  | more first c rest solid marked ih =>
    obtain rfl : c = mark := marks c (by simp) marked
    obtain ⟨filled, more, spaced⟩ := spaced.behind
    have inner : ∀ d ∈ rest, isMark d = true → d = c := fun d member => marks d (by simp [member])
    have rejoined := ih inner spaced
    have some : words isMark rest ≠ [] := by
      intro none
      rw [none] at rejoined
      exact more rejoined.symm
    rw [words_append marked, words_of_solid filled solid, List.singleton_append, intercalate_cons,
      if_neg some, rejoined]

/-! ## Runs drawn together -/

section

variable {drop : Char → Bool} (marks : ∀ c, drop c = true → isMark c = true)

include marks

private theorem words_dropWhile : words isMark (cs.dropWhile drop) = words isMark cs := by
  induction cs with
  | nil => rfl
  | cons c rest ih =>
    cases first : drop c with
    | true => rw [List.dropWhile_cons_of_pos first, ih, words_cons_mark (marks c first)]
    | false => rw [List.dropWhile_cons_of_neg (by simp [first])]

private theorem words_rdropWhile : words isMark (cs.rdropWhile drop) = words isMark cs := by
  induction cs using List.reverseRecOn with
  | nil => rfl
  | append_singleton init c ih =>
    rw [List.rdropWhile_concat]
    split
    · rename_i last
      rw [ih, words_append (marks c last), words_nil, List.append_nil]
    · rfl

/-- Marks at the ends are no part of the words. -/
theorem words_stripBy : words isMark (stripBy drop cs) = words isMark cs :=
  (words_rdropWhile marks).trans (words_dropWhile marks)

end

private theorem collapse_append {inRun : Char → Bool} (solid : ∀ c ∈ word, inRun c = false) :
    collapse inRun mark (word ++ cs) = word ++ collapse inRun mark cs := by
  induction word with
  | nil => rfl
  | cons c rest ih =>
    obtain ⟨first, later⟩ := List.forall_mem_cons.mp solid
    rw [List.cons_append, collapse, first, if_neg Bool.false_ne_true, ih later, List.cons_append]

private theorem collapse_of_solid {inRun : Char → Bool} (solid : ∀ c ∈ word, inRun c = false) :
    collapse inRun mark word = word := by
  have whole := @collapse_append mark [] word inRun solid
  rwa [List.append_nil, collapse, List.append_nil] at whole

/-- A run at the front of a text becomes one mark. -/
theorem collapse_run {inRun : Char → Bool} (run : inRun c = true) :
    collapse inRun mark (c :: cs) = mark :: collapse inRun mark (cs.dropWhile inRun) := by
  induction cs generalizing c with
  | nil => simp [collapse, run]
  | cons d rest ih =>
    rw [collapse, if_pos run, List.head?_cons, Option.any_some]
    cases next : inRun d with
    | true => rw [if_pos rfl, ih next, List.dropWhile_cons_of_pos next]
    | false => rw [if_neg Bool.false_ne_true, List.dropWhile_cons_of_neg (by simp [next])]

private theorem words_collapse_dropWhile {inRun : Char → Bool} (marked : isMark mark = true) :
    words isMark (collapse inRun mark (cs.dropWhile inRun)) = words isMark (collapse inRun mark cs) := by
  cases cs with
  | nil => rfl
  | cons c rest =>
    cases first : inRun c with
    | true => rw [collapse_run first, words_cons_mark marked, List.dropWhile_cons_of_pos first]
    | false => rw [List.dropWhile_cons_of_neg (by simp [first])]

/-- Drawing runs together into marks leaves the words between marks and runs. -/
theorem words_collapse {inRun : Char → Bool} (marked : isMark mark = true) :
    words isMark (collapse inRun mark cs) = words (fun c => inRun c || isMark c) cs := by
  have alone : ∀ {word : List Char}, (∀ c ∈ word, (inRun c || isMark c) = false) →
      (∀ c ∈ word, inRun c = false) ∧ words isMark word = words (fun c => inRun c || isMark c) word := by
    intro word solid
    have plain := fun c member => Bool.or_eq_false_iff.mp (solid c member)
    refine ⟨fun c member => (plain c member).1, ?_⟩
    by_cases none : word = []
    · rw [none]
      rfl
    · rw [words_of_solid none fun c member => (plain c member).2, words_of_solid none solid]
  induction cs using words_induction (fun c => inRun c || isMark c) with
  | last word solid =>
    rw [collapse_of_solid (alone solid).1, (alone solid).2]
  | more word c rest solid between ih =>
    have parted : words isMark (word ++ collapse inRun mark (c :: rest)) =
        words isMark word ++ words isMark (collapse inRun mark rest) := by
      cases run : inRun c with
      | true => rw [collapse_run run, words_append marked, words_collapse_dropWhile marked]
      | false =>
        have isMark : isMark c = true := by simpa [run] using between
        rw [collapse, run, if_neg Bool.false_ne_true, words_append isMark]
    rw [collapse_append (alone solid).1, parted, ih, (alone solid).2]
    exact (words_append between).symm

/-- What follows the marks at the front is drawn together on its own. -/
theorem dropWhile_collapse (marked : isMark mark = true) :
    (collapse isMark mark cs).dropWhile isMark = collapse isMark mark (cs.dropWhile isMark) := by
  induction cs with
  | nil => rfl
  | cons c rest ih =>
    rw [collapse]
    cases first : isMark c with
    | true =>
      rw [if_pos rfl, List.dropWhile_cons_of_pos first]
      split
      · exact ih
      · rw [List.dropWhile_cons_of_pos marked, ih]
    | false =>
      rw [if_neg Bool.false_ne_true, List.dropWhile_cons_of_neg (by simp [first]),
        List.dropWhile_cons_of_neg (by simp [first]), collapse, first, if_neg Bool.false_ne_true]

private theorem dropWhile_of_solid (solid : ∀ c ∈ word, isMark c = false) :
    word.dropWhile isMark = word := by
  cases word with
  | nil => rfl
  | cons c rest => exact List.dropWhile_cons_of_neg (by simp [solid c List.mem_cons_self])

/-- A mark behind a word stays when something that is no mark follows. -/
theorem rdropWhile_append_mark (solid : ∀ c ∈ word, isMark c = false) (marked : isMark mark = true) :
    (word ++ mark :: cs).rdropWhile isMark =
      if cs.rdropWhile isMark = [] then word else word ++ mark :: cs.rdropWhile isMark := by
  have back := @dropWhile_of_solid isMark word.reverse fun c member => solid c (List.mem_reverse.mp member)
  unfold List.rdropWhile
  rw [List.reverse_append, List.reverse_cons, List.append_assoc, List.dropWhile_append,
    List.singleton_append, List.dropWhile_cons_of_pos marked, back]
  cases cs.reverse.dropWhile isMark with
  | nil => simp
  | cons d more => simp

/-- A text drawn together and stripped at both ends is its words with one mark between each two. -/
theorem stripBy_collapse (marked : isMark mark = true) :
    stripBy isMark (collapse isMark mark cs) = [mark].intercalate (words isMark cs) := by
  induction cs using words_induction isMark with
  | last word solid =>
    have back := @dropWhile_of_solid isMark word.reverse fun c member => solid c (List.mem_reverse.mp member)
    rw [collapse_of_solid solid, stripBy, dropWhile_of_solid solid, back, List.reverse_reverse]
    by_cases none : word = []
    · rw [none]
      rfl
    · rw [words_of_solid none solid, List.intercalate_singleton]
  | more word c rest solid between ih =>
    change ((collapse isMark mark rest).dropWhile isMark).rdropWhile isMark = _ at ih
    change ((collapse isMark mark (word ++ c :: rest)).dropWhile isMark).rdropWhile isMark = _
    rw [dropWhile_collapse marked] at ih
    rw [collapse_append solid, collapse_run between, words_append between]
    by_cases none : word = []
    · rw [none, List.nil_append, List.dropWhile_cons_of_pos marked, dropWhile_collapse marked,
        List.dropWhile_idempotent, ih]
      rfl
    · rw [List.dropWhile_append, dropWhile_of_solid solid, if_neg (by simpa using none),
        rdropWhile_append_mark solid marked, ih, words_of_solid none solid, List.singleton_append,
        intercalate_cons]
      simp only [intercalate_eq_nil_iff fun piece member => (mem_words member).1]

/-! ## What is kept -/

section

variable {keep : Char → Bool}

theorem filter_collapse {inRun : Char → Bool} (mark' : keep mark = false)
    (runs : ∀ c, inRun c = true → keep c = false) :
    (collapse inRun mark cs).filter keep = cs.filter keep := by
  induction cs with
  | nil => rfl
  | cons c rest ih =>
    rw [collapse]
    split
    · rename_i run
      rw [List.filter_cons_of_neg (by simp [runs c run])]
      split
      · exact ih
      · rw [List.filter_cons_of_neg (by simp [mark']), ih]
    · rw [List.filter_cons, List.filter_cons, ih]

theorem filter_stripBy {drop : Char → Bool} (ends : ∀ c, drop c = true → keep c = false) :
    (stripBy drop cs).filter keep = cs.filter keep := by
  have front : ∀ cs : List Char, (cs.dropWhile drop).filter keep = cs.filter keep := by
    intro cs
    conv_rhs => rw [← List.takeWhile_append_dropWhile (p := drop) (l := cs), List.filter_append]
    have none : (cs.takeWhile drop).filter keep = [] :=
      List.filter_eq_nil_iff.mpr fun c member => by simp [ends c (List.mem_takeWhile_imp member)]
    rw [none, List.nil_append]
  rw [stripBy, List.filter_reverse, front, List.filter_reverse, List.reverse_reverse, front]

end

end Scaffold.Text
