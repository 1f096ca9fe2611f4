import Scaffold.Proofs.Segments

/-! What inflection does with the capital of a name. What stands before the last segment stays, and so does
the capital of that segment, unless a rule reads it as a whole and puts a text of its own at the beginning:
rule texts are written small. Which words these are is computed from the rules, and every one of them
loses its capital. -/
namespace Scaffold.Inflection

open Text

variable {rules : RuleSet} {rule : Rule} {regular : List Rule} {lowered : List String}
  {known already : List Char → Option (List Char)} {pattern : Pattern} {place last : Place}
  {lead segment read word form before : List Char} {c : Char}

/-- A text that begins with a capital. -/
def Capitalised (cs : List Char) : Prop :=
  cs.head?.any isUpper = true

private theorem Capitalised.of_head (capital : Capitalised word) (same : form.head? = word.head?) :
    Capitalised form := by
  rwa [Capitalised, same]

theorem Capitalised.filled (capital : Capitalised word) : word ≠ [] := by
  rintro rfl
  cases capital

/-! ## Where the letters of a form come from -/

private theorem subset_of_both {start middle kept front back : List Char}
    (here : middle ⊆ start ++ front)
    (there : kept ⊆ middle ++ back) : kept ⊆ start ++ (front ++ back) := by
  rw [← List.append_assoc]
  exact List.Subset.trans there (List.append_subset.mpr
    ⟨List.subset_append_of_subset_left _ here, List.subset_append_right ..⟩)

private theorem repeatUpTo_kept_subset {step : Place → List Place} {bound : Nat}
    (reads : ∀ {place last}, last ∈ step place → ∃ read, place.Reads read last)
    (subset : ∀ {place last read}, last ∈ step place → place.Reads read last →
      last.kept ⊆ place.kept ++ read)
    (member : last ∈ repeatUpTo step bound place) (whole : place.Reads read last) :
    last.kept ⊆ place.kept ++ read := by
  induction bound generalizing place read with
  | zero =>
    rw [List.mem_singleton.mp member]
    exact List.subset_append_left ..
  | succ bound ih =>
    rcases List.mem_append.mp member with more | done
    · obtain ⟨middle, among, later⟩ := List.mem_flatMap.mp more
      obtain ⟨front, toMiddle⟩ := reads among
      obtain ⟨back, onward⟩ := repeatUpTo_reads reads later
      obtain rfl := whole.unique (toMiddle.trans onward)
      exact subset_of_both (subset among toMiddle) (ih later onward)
    · rw [List.mem_singleton.mp done]
      exact List.subset_append_left ..

/-- A pattern keeps no letters but those that it reads. -/
theorem Pattern.kept_subset (member : last ∈ pattern.ends place) (reads : place.Reads read last) :
    last.kept ⊆ place.kept ++ read := by
  induction pattern generalizing place last read with
  | empty =>
    rw [List.mem_singleton.mp member]
    exact List.subset_append_left ..
  | letter | oneOf | noneOf =>
    obtain ⟨-, -, -, kept⟩ := mem_step member
    rw [kept]
    exact List.subset_append_left ..
  | start | finish | notAfter =>
    rw [(mem_check member).2]
    exact List.subset_append_left ..
  | both first second ihFirst ihSecond =>
    obtain ⟨middle, front, back, among, later, toMiddle, onward, rfl⟩ := reads_both member reads
    exact subset_of_both (ihFirst among toMiddle) (ihSecond later onward)
  | either first second ihFirst ihSecond =>
    rcases List.mem_append.mp member with among | among
    · exact ihFirst among reads
    · exact ihSecond among reads
  | upTo bound item ih => exact repeatUpTo_kept_subset Pattern.reads ih member reads
  | keep item ih =>
    obtain ⟨middle, among, rfl⟩ := List.mem_map.mp member
    have toMiddle : place.Reads read middle := ⟨reads.after, reads.before⟩
    rw [toMiddle.textSince]
    exact List.subset_append_right ..

/-- The letters that a part puts into a form by itself. -/
def Part.written : Part → List Char
  | .text s => s.toList
  | .kept => []

/-- A form is made of letters of the word and of the texts of its rule. -/
theorem Rule.mem_of_inflect (inflected : rule.inflect? word = some form) (member : c ∈ form) :
    c ∈ word ∨ ∃ part ∈ rule.replacement, c ∈ part.written := by
  obtain ⟨before, read, last, applies⟩ := Rule.applies_of_inflect inflected
  rw [applies.form_eq, List.append_assoc, List.mem_append, List.mem_append] at member
  rw [applies.word_eq, List.append_assoc, List.mem_append, List.mem_append]
  rcases member with front | filled | behind
  · exact .inl (.inl front)
  · obtain ⟨part, among, inside⟩ := List.mem_flatMap.mp filled
    cases part with
    | text s => exact .inr ⟨.text s, among, inside⟩
    | kept => exact .inl (.inr (.inl (Pattern.kept_subset applies.ends applies.reads inside)))
  · exact .inl (.inr (.inr behind))

/-! ## Rules that keep a capital -/

/-- Whether a rule puts back a text that it kept, before anything else that it read. -/
def Rule.keepsFirst (rule : Rule) : Bool :=
  match rule.replacement, rule.pattern.parts? with
  | .kept :: _, some (item, rest) => rest.keepsNone && item.endings.all (!·.isEmpty)
  | _, _ => false

/-- Whether a rule puts nothing in the place of what it takes away at the end of a word. -/
def Rule.clears (rule : Rule) : Bool :=
  rule.pattern.closes && rule.replacement.all fun
    | .text s => s.isEmpty
    | .kept => false

private theorem Rule.head_of_keepsFirst (keeps : rule.keepsFirst = true)
    (applies : rule.Applies word form before read last) : form.head? = word.head? := by
  unfold keepsFirst at keeps
  split at keeps
  · rename_i later item rest replacement parts
    obtain ⟨none, filled⟩ := Bool.and_eq_true_iff.mp keeps
    obtain ⟨middle, back, split, ⟨behind, inside, reads⟩, -⟩ :=
      Pattern.kept_of_parts parts none applies.ends applies.reads
    obtain ⟨ending, member, fits⟩ := Pattern.fits_of_ends inside reads
    have kept : last.kept ≠ [] := by
      intro empty
      rw [empty] at fits
      cases fits
      exact absurd (List.all_eq_true.mp filled [] member) Bool.false_ne_true
    have front : before ++ last.kept ≠ [] := List.append_ne_nil_of_right_ne_nil before kept
    have whole : word = (before ++ last.kept) ++ (back ++ last.after) := by
      rw [applies.word_eq, split]
      simp only [List.append_assoc]
    have changed : form = (before ++ last.kept) ++
        ((Rule.mk rule.pattern later).fill last.kept ++ last.after) := by
      rw [applies.form_eq, Rule.fill, replacement, List.flatMap_cons, Rule.fill]
      simp only [List.append_assoc]
    rw [whole, changed, List.head?_append_of_ne_nil _ front, List.head?_append_of_ne_nil _ front]
  · cases keeps

private theorem Rule.fill_of_clears {kept : List Char} (clears : rule.clears = true) :
    rule.fill kept = [] := by
  rw [Rule.fill, List.flatMap_eq_nil_iff]
  intro part member
  have empty := List.all_eq_true.mp (Bool.and_eq_true_iff.mp clears).2 part member
  cases part with
  | text s => exact String.toList_eq_nil_iff.mpr (String.isEmpty_iff.mp empty)
  | kept => cases empty

/-- A word keeps its capital under a rule that keeps first letters or leaves nothing of a whole word, and
under one that reads an ending, when the word is more than the ending. -/
theorem Rule.capital_of_inflect (capital : Capitalised word) (trimmed : word.getLast? ≠ some '\n')
    (kept : rule.keepsFirst = true ∨ rule.clears = true ∨ rule.readsEnding ("" :: lowered) = true)
    (inflected : rule.inflect? word = some form) :
    (form = [] ∨ Capitalised form) ∨ ∃ ending ∈ lowered, Spells ending.toList word := by
  obtain ⟨before, read, last, applies⟩ := Rule.applies_of_inflect inflected
  by_cases further : before = []
  · subst further
    rcases kept with keeps | clears | readsEnding
    · exact .inl (.inr (capital.of_head (Rule.head_of_keepsFirst keeps applies)))
    · have closes := (Bool.and_eq_true_iff.mp clears).1
      refine .inl (.inl ?_)
      rw [applies.form_eq, Rule.fill_of_clears clears, applies.after_eq_nil closes trimmed]
      rfl
    · have closes := (Bool.and_eq_true_iff.mp readsEnding).1
      have whole : word = read := by
        rw [applies.word_eq, applies.after_eq_nil closes trimmed, List.append_nil, List.nil_append]
      obtain ⟨⟨ending, member, spells⟩, -⟩ := Rule.exists_of_readsEnding readsEnding applies
      rw [← whole] at spells
      rcases List.mem_cons.mp member with rfl | among
      · cases spells
        cases capital
      · exact .inr ⟨ending, among, spells⟩
  · refine .inl (.inr (capital.of_head ?_))
    rw [applies.form_eq, applies.word_eq, List.append_assoc, List.append_assoc,
      List.head?_append_of_ne_nil _ further, List.head?_append_of_ne_nil _ further]

/-! ## Rules that lower it -/

/-- The text that a rule puts first, when it is not one that it kept. -/
def Rule.firstText (rule : Rule) : List Char :=
  match rule.replacement with
  | .text s :: _ => s.toList
  | _ => []

private theorem Rule.Applies.head_of_firstText (applies : rule.Applies word form [] read last)
    (head : rule.firstText.head? = some c) : form.head? = some c := by
  unfold firstText at head
  split at head
  · rename_i s later replacement
    have fill : rule.fill last.kept = s.toList ++ (Rule.mk rule.pattern later).fill last.kept := by
      rw [Rule.fill, replacement]
      rfl
    rw [applies.form_eq, fill, List.nil_append, List.append_assoc, List.head?_append, head,
      Option.some_or]
  · cases head

/-- Whether the first rule that changes a whole word is seen to begin its form with a small letter. -/
def Known.lowers (known : Known) (rules : List Rule) : Bool :=
  match known.first? rules with
  | some rule =>
    rule.pattern.width? == some known.ending.length && rule.firstText.head?.any smallLetters.contains
  | none => false

private theorem Known.Of.exists_lowered {whole : Known} (of : whole.Of word)
    (single : whole.whole = true)
    (lowers : whole.lowers regular = true) :
    ∃ form, regular.findSome? (·.inflect? word) = some form ∧ form ≠ [] ∧ ¬Capitalised form := by
  unfold Known.lowers at lowers
  split at lowers
  · rename_i rule first
    obtain ⟨width, small⟩ := Bool.and_eq_true_iff.mp lowers
    obtain ⟨c, head, letter⟩ := (Option.any_eq_true ..).mp small
    obtain ⟨form, inflected, found⟩ := of.exists_inflect first
    obtain ⟨before, read, last, applies⟩ := Rule.applies_of_inflect inflected
    have length := Pattern.length_of_width (beq_iff_eq.mp width) applies.ends applies.reads
    have all := congrArg List.length applies.word_eq
    rw [of.whole single, List.length_append, List.length_append, length] at all
    obtain rfl : before = [] := List.length_eq_zero_iff.mp (by omega)
    have begins := applies.head_of_firstText head
    refine ⟨form, found, ?_, ?_⟩
    · rintro rfl
      cases begins
    · obtain ⟨capital, cases⟩ := exists_capital (List.contains_iff_mem.mp letter)
      rw [Capitalised, begins, Option.any_some, cases.upper.1]
      exact Bool.false_ne_true
  · cases lowers

private theorem spells_iff {text : List Char} :
    Spells text read ↔ text.map untwin = read.map letterKey := by
  rw [← List.forall₂_eq_eq_eq, List.forall₂_map_left_iff, List.forall₂_map_right_iff]
  simp only [Spells, sameLetter_iff]

/-- What is known of a word that spells a text. -/
def Known.spelling (text : List Char) : Known :=
  ⟨Ending.ofKeys (text.map untwin).reverse, true⟩

private theorem Known.of_spells {text : List Char} (spells : Spells text word)
    (trimmed : word.getLast? ≠ some '\n') : (Known.spelling text).Of word where
  ends := by
    refine Ending.endsWord_iff.mpr ⟨_, [], (List.append_nil _).symm, Ending.fits_ofKeys.mpr ?_⟩
    rw [spells_iff.mp spells, backKeys, List.map_reverse]
  whole _ := by
    simp [Known.spelling, Ending.ofKeys, spells.length_eq]
  trimmed := trimmed

/-! ## The rule sets -/

/-- What the rules of a language that inflect one way do with capitals. -/
structure RuleSet.Cases (rules : RuleSet) (regular : List Rule) (lowered : List String) : Prop where
  supported : rules ∈ ruleSets
  texts : ∀ rule ∈ regular, ∀ part ∈ rule.replacement, ∀ c ∈ part.written, c ∈ smallLetters
  kept : ∀ rule ∈ regular,
    rule.keepsFirst = true ∨ rule.clears = true ∨ rule.readsEnding ("" :: lowered) = true
  lost : ∀ ending ∈ lowered, (Known.spelling ending.toList).lowers regular = true
  unknown : ∀ ending ∈ lowered, ∀ text ∈ rules.words, text.map untwin ≠ ending.toList.map untwin

/-- What becomes of a segment is the segment, a word of the tables in its case, or what the rules make of
it. -/
theorem RuleSet.formOf_cases (rules : RuleSet) (known already : List Char → Option (List Char))
    (regular : List Rule) (segment : List Char) :
    rules.formOf known already regular segment = segment ∨
      (∃ form, known (lowerChars segment) = some form ∧
        rules.formOf known already regular segment = cased segment form) ∨
      ∃ rule ∈ regular,
        rule.inflect? segment = some (rules.formOf known already regular segment) := by
  unfold RuleSet.formOf RuleSet.formBy
  dsimp only
  split
  · exact .inl rfl
  · cases known (lowerChars segment) with
    | some form => exact .inr (.inl ⟨form, rfl, rfl⟩)
    | none =>
      cases found : changeOf regular segment with
      | none => exact .inl rfl
      | some form => exact .inr (.inr (List.exists_of_findSome?_eq_some found))

/-- The lower-case form of a word that spells a lowered text is not in the tables. -/
theorem RuleSet.Cases.not_listed (cases : rules.Cases regular lowered) {ending : String}
    (member : ending ∈ lowered) (spells : Spells ending.toList segment) :
    lowerChars segment ∉ rules.listed := by
  intro listed
  have letters := (simple_of_listed cases.supported listed).2
  rw [listed_eq_words cases.supported] at listed
  refine cases.unknown ending member _ listed ?_
  rw [letters, spells_iff.mp spells, List.map_map]
  rfl

/-- A word of the tables gets the capital of the segment that it stands for. -/
theorem RuleSet.Cases.cased_word (cases : rules.Cases regular lowered) (capital : Capitalised segment)
    (member : form ∈ rules.words) : Capitalised (cased segment form) ∧
      ∀ c ∈ cased segment form, Identifier.isSeparator c = false := by
  obtain ⟨filled, small⟩ := words_small cases.supported form member
  obtain ⟨first, upper, rest, rfl, cases, shape⟩ := exists_cased capital filled small
  rw [shape]
  constructor
  · exact cases.upper.2
  · intro c inside
    rcases List.mem_cons.mp inside with rfl | later
    · exact Identifier.not_isSeparator_of_isLetter cases.letters.2
    · exact solid_of_small small c (List.mem_cons_of_mem _ later)

private theorem RuleSet.Cases.solid_of_inflect (cases : rules.Cases regular lowered)
    (member : rule ∈ regular)
    (solid : ∀ c ∈ segment, Identifier.isSeparator c = false)
    (inflected : rule.inflect? segment = some form) :
    ∀ c ∈ form, Identifier.isSeparator c = false := by
  intro c inside
  rcases Rule.mem_of_inflect inflected inside with own | ⟨part, among, letter⟩
  · exact solid c own
  · exact solid_of_small (cases.texts rule member part among) c letter

/-- The result of an inflection has the text before the last segment of a name, and a capital behind it
if anything, unless the segment spells one of the lowered texts. -/
def KeepsCapital (lowered : List String) (lead segment result : List Char) : Prop :=
  ∃ form, result = lead ++ form ∧ EndsName lead form ∧
    ((form = [] ∨ Capitalised form) ↔ ¬∃ ending ∈ lowered, Spells ending.toList segment)

/-- One way to inflect keeps the capitals of all segments but the lowered texts. -/
theorem RuleSet.Cases.keepsCapital (cases : rules.Cases regular lowered)
    (table : ∀ form, known (lowerChars segment) = some form → form ∈ rules.words)
    (unlisted : lowerChars segment ∉ rules.listed →
      rules.formOf known already regular segment =
        (regular.findSome? (·.inflect? segment)).getD segment)
    (ends : EndsName lead segment) (capital : Capitalised segment) :
    KeepsCapital lowered lead segment (lead ++ rules.formOf known already regular segment) := by
  have kept : (∀ c ∈ rules.formOf known already regular segment, Identifier.isSeparator c = false) ∧
      ((rules.formOf known already regular segment = [] ∨
        Capitalised (rules.formOf known already regular segment)) ∨
          ∃ ending ∈ lowered, Spells ending.toList segment) := by
    rcases RuleSet.formOf_cases rules known already regular segment with same |
      ⟨form, found, same⟩ | ⟨rule, member, inflected⟩
    · rw [same]
      exact ⟨ends.solid, .inl (.inr capital)⟩
    · rw [same]
      obtain ⟨raised, solid⟩ := cases.cased_word capital (table form found)
      exact ⟨solid, .inl (.inr raised)⟩
    · exact ⟨cases.solid_of_inflect member ends.solid inflected,
        Rule.capital_of_inflect capital ends.trimmed (cases.kept rule member) inflected⟩
  refine ⟨_, rfl, ⟨kept.1, ends.parted⟩, ?_, fun other => kept.2.resolve_right other⟩
  rintro good ⟨ending, member, spells⟩
  have of := Known.of_spells spells ends.trimmed
  obtain ⟨form, found, filled, small⟩ := of.exists_lowered rfl (cases.lost ending member)
  rw [unlisted (cases.not_listed member spells), found, Option.getD_some] at good
  exact good.elim filled small

/-! ## The languages -/

/-- The texts that lose a capital in the plural when they are all there is of a word. -/
def loweredPlurals (rules : RuleSet) : List String :=
  match rules.language with
  | "english" => ["sis", "s"]
  | "spanish" => ["z", "ús", "ún", "ós", "ón", "ís", "ín", "és", "én", "ás", "án"]
  | "french" => ["ail", "al"]
  | "portuguese" => ["ão", "al", "el", "ol", "ul", "m", "s"]
  | "norwegian-bokmal" => ["e"]
  | _ => []

/-- The texts that lose a capital in the singular when they are all there is of a word. -/
def loweredSingulars (rules : RuleSet) : List String :=
  match rules.language with
  | "spanish" => ["ereses", "iones", "ces"]
  | "french" => ["eaux", "aux"]
  | "portuguese" => ["ões", "ais", "éis", "óis", "uis", "ns"]
  | _ => []

/-- The two ways to inflect, each with its rules and the texts that lose a capital under them. -/
def RuleSet.ways (rules : RuleSet) : List (List Rule × List String) :=
  [(rules.plural, loweredPlurals rules), (rules.singular, loweredSingulars rules)]

/-- The texts are those that the rules say. -/
theorem cases_of_mem_ruleSets : ∀ rules ∈ ruleSets, ∀ way ∈ rules.ways, rules.Cases way.1 way.2 := by
  have texts : ∀ rules ∈ ruleSets, ∀ way ∈ rules.ways, ∀ rule ∈ way.1,
      ∀ part ∈ rule.replacement, isSmallText part.written = true := by
    decide
  have kept : ∀ rules ∈ ruleSets, ∀ way ∈ rules.ways, ∀ rule ∈ way.1,
      rule.keepsFirst = true ∨ rule.clears = true ∨ rule.readsEnding ("" :: way.2) = true := by
    decide +kernel
  have lost : ∀ rules ∈ ruleSets, ∀ way ∈ rules.ways, ∀ ending ∈ way.2,
      (Known.spelling ending.toList).lowers way.1 = true ∧
        ∀ text ∈ rules.words, text.map untwin ≠ ending.toList.map untwin := by
    decide +kernel
  intro rules member way among
  refine ⟨member, fun rule inside part written => ?_, kept rules member way among,
    fun ending inside => (lost rules member way among ending inside).1,
    fun ending inside => (lost rules member way among ending inside).2⟩
  exact mem_of_isSmallText (texts rules member way among rule inside part written)

/-- In every language a name keeps what stands before its last segment and the capital of that segment,
but for a segment that is one of a few endings, in whatever case: it begins with a small letter then. -/
theorem capital_kept {entry : String × RuleSet} {name : String} (supported : entry ∈ languages)
    (parts : name.toList = lead ++ segment) (ends : EndsName lead segment)
    (capital : Capitalised segment) :
    KeepsCapital (loweredPlurals entry.2) lead segment (entry.2.pluralize name).toList ∧
      KeepsCapital (loweredSingulars entry.2) lead segment (entry.2.singularize name).toList := by
  have ways := cases_of_mem_ruleSets _ (mem_ruleSets supported)
  have plural := ways _ List.mem_cons_self
  have singular := ways _ (List.mem_cons_of_mem _ List.mem_cons_self)
  obtain rfl : name = String.ofList (lead ++ segment) := by rw [← parts, String.ofList_toList]
  rw [RuleSet.pluralize_eq ends capital.filled, RuleSet.singularize_eq ends capital.filled,
    String.toList_ofList, String.toList_ofList]
  constructor
  · refine plural.keepsCapital (fun form found => ?_)
      (fun missing => (RuleSet.forms_of_not_listed missing).1) ends capital
    obtain ⟨pair, member, -, rfl⟩ := RuleSet.exists_of_pluralOf found
    exact (RuleSet.mem_words member).2
  · refine singular.keepsCapital (fun form found => ?_)
      (fun missing => (RuleSet.forms_of_not_listed missing).2) ends capital
    obtain ⟨pair, member, -, rfl⟩ := RuleSet.exists_of_singularOf found
    exact (RuleSet.mem_words member).1

/-- A compound name whose last segment is a word of the tables with a capital that is none of the plain
ones. -/
theorem capital_kept_eye : ("fr", french) ∈ languages ∧
    "bel_Œil".toList = "bel_".toList ++ "Œil".toList ∧ EndsName "bel_".toList "Œil".toList ∧
    Capitalised "Œil".toList ∧
    KeepsCapital (loweredPlurals french) "bel_".toList "Œil".toList (french.pluralize "bel_Œil").toList ∧
    KeepsCapital (loweredSingulars french) "bel_".toList "Œil".toList
      (french.singularize "bel_Œil").toList := by
  have supported : ("fr", french) ∈ languages := .tail _ (.tail _ (.tail _ (.head _)))
  have parts : "bel_Œil".toList = "bel_".toList ++ "Œil".toList := by decide +kernel
  have solid : ∀ c ∈ "Œil".toList, Identifier.isSeparator c = false :=
    List.all_iff_forall_prop.mp (by decide +kernel)
  have parted : ∀ c, "bel_".toList.getLast? = some c → Identifier.isSeparator c = true := by
    have last : "bel_".toList.getLast? = some '_' := by decide +kernel
    rintro c same
    rw [last] at same
    cases same
    decide +kernel
  have ends : EndsName "bel_".toList "Œil".toList := ⟨solid, parted⟩
  have capital : Capitalised "Œil".toList := by
    unfold Capitalised
    decide +kernel
  have kept := capital_kept supported parts ends capital
  exact ⟨supported, parts, ends, capital, kept⟩

/-- A word that is nothing but an ending loses its capital. -/
theorem garlic_lowered : ("fr", french) ∈ languages ∧ EndsName [] "Ail".toList ∧
    Capitalised "Ail".toList ∧ french.pluralize "Ail" = "ails" ∧ EndsName [] "ails".toList ∧
    "ails".toList ≠ [] ∧ ¬Capitalised "ails".toList := by
  have supported : ("fr", french) ∈ languages := .tail _ (.tail _ (.tail _ (.head _)))
  have ends : EndsName [] "Ail".toList := .alone (List.all_iff_forall_prop.mp (by decide +kernel))
  have ends' : EndsName [] "ails".toList := .alone (List.all_iff_forall_prop.mp (by decide +kernel))
  have capital : Capitalised "Ail".toList := by
    unfold Capitalised
    decide +kernel
  have small : ¬Capitalised "ails".toList := by
    unfold Capitalised
    decide +kernel
  have plural : french.pluralize "Ail" = "ails" := by decide +kernel
  exact ⟨supported, ends, capital, plural, ends', by decide +kernel, small⟩

end Scaffold.Inflection
