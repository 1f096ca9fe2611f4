import Scaffold.Proofs.Segments

/-! English plurals of words that end in a consonant. Every plural rule exchanges an end of the word for
another one, and what is known of the new end tells which singular rule comes first and that it makes the
same exchange the other way round, and that the plural rules find nothing left to do. -/
namespace Scaffold.Inflection

open Text

variable {rules : RuleSet} {rule : Rule} {ending : Ending} {cs word form : List Char} {c : Char}

/-! ## Exchanges that are undone -/

/-- Whether the singular rules are seen to undo a rule, and the plural rules to leave its form alone, in all
words with an ending. -/
def RuleSet.retraces (rules : RuleSet) (rule : Rule) (ending : Ending) : Bool :=
  match rule.change? with
  | none => false
  | some (count, new) =>
    let plural := ending.changed count new
    match plural.change? rules.singular, plural.change? rules.plural with
    | some (added, old), some (left, same) =>
      added == new.length && old.length == count && ending.take count == Ending.ofKeys old.reverse &&
        (count == 0 || Nat.blt count ending.length) && same.length == left && same.isSuffixOf new
    | _, _ => false

/-- The consonants that do not look like the end of a plural. -/
def finalConsonants : List Char :=
  "bcdfghjklmnpqrtvwyz".toList

/-- A word that is known by its keys is the word, behind a first letter in either case. -/
theorem eq_of_backKeys {base back old : List Char} (own : ∀ c ∈ (base ++ back).tail, letterKey c = c)
    (further : back = [] ∨ base ≠ []) (keys : backKeys back = old.reverse) : back = old := by
  have same : ∀ c ∈ back, letterKey c = c := by
    intro c member
    rcases further with rfl | filled
    · cases member
    · refine own c ?_
      rw [List.tail_append_of_ne_nil filled]
      exact List.mem_append_right _ member
  rw [backKeys, List.map_reverse, List.map_congr_left same, List.map_id'] at keys
  exact List.reverse_injective keys

/-- What is seen of a rule and an ending: the rule puts a text in the place of some letters, the first
singular rule for the form puts the letters back, and the first plural rule changes nothing. -/
structure RuleSet.Retraces (rules : RuleSet) (rule : Rule) (ending : Ending)
    (front same old : List Char) : Prop where
  change : rule.change? = some (old.length, front ++ same)
  singular : (ending.changed old.length (front ++ same)).change? rules.singular =
    some ((front ++ same).length, old)
  plural : (ending.changed old.length (front ++ same)).change? rules.plural = some (same.length, same)
  known : ending.take old.length = Ending.ofKeys old.reverse
  further : old.length = 0 ∨ old.length < ending.length

private theorem RuleSet.exists_of_retraces (retraces : rules.retraces rule ending = true) :
    ∃ front same old, rules.Retraces rule ending front same old := by
  unfold RuleSet.retraces at retraces
  split at retraces
  · cases retraces
  · rename_i count new change
    dsimp only at retraces
    split at retraces
    · rename_i added old left same singular plural
      simp only [Bool.and_eq_true, beq_iff_eq, Bool.or_eq_true, Nat.blt_eq,
        List.isSuffixOf_iff_suffix] at retraces
      obtain ⟨⟨⟨⟨⟨rfl, rfl⟩, known⟩, further⟩, rfl⟩, front, rfl⟩ := retraces
      exact ⟨front, same, old, change, singular, plural, known, further⟩
    · cases retraces

/-- The letters that a rule took away are the ones that are put back. -/
theorem RuleSet.Retraces.taken {front same old base back : List Char}
    (retraces : rules.Retraces rule ending front same old) (size : back.length = old.length)
    (own : ∀ c ∈ (base ++ back).tail, letterKey c = c)
    (ends : ending.EndsWord (backKeys (base ++ back))) : back = old := by
  have filled : back = [] ∨ base ≠ [] := by
    rcases retraces.further with none | longer
    · exact .inl (List.length_eq_zero_iff.mp (size.trans none))
    · refine .inr ?_
      rintro rfl
      have most := ends.length_le
      rw [List.nil_append, length_backKeys] at most
      omega
  have known : ending.take old.reverse.length = Ending.ofKeys old.reverse := by
    rw [List.length_reverse, retraces.known]
  have size' : back.length = old.reverse.length := by rw [List.length_reverse, size]
  exact eq_of_backKeys own filled (Ending.backKeys_eq ends size' known)

/-- A rule that is seen to be undone is, and its form stays. -/
theorem RuleSet.forms_of_retraces (seen : rules.retraces rule ending = true)
    (closes : rule.pattern.closes = true) (own : ∀ c ∈ word.tail, letterKey c = c)
    (trimmed : word.getLast? ≠ some '\n') (trimmed' : form.getLast? ≠ some '\n')
    (ends : ending.EndsWord (backKeys word)) (inflected : rule.inflect? word = some form) :
    rules.singular.findSome? (·.inflect? form) = some word ∧
      rules.plural.findSome? (·.inflect? form) = some form := by
  obtain ⟨front, same, old, retraces⟩ := RuleSet.exists_of_retraces seen
  obtain ⟨base, back, rfl, size, rfl⟩ :=
    Rule.change_of_inflect closes trimmed retraces.change inflected
  have after := Ending.endsWord_changed (front ++ same) ends
  rw [size] at after
  constructor
  · obtain ⟨base', back', split, length, found⟩ :=
      Ending.exists_change retraces.singular after trimmed'
    obtain ⟨rfl, -⟩ := List.append_inj' split length.symm
    rw [found, retraces.taken size own ends]
  · obtain ⟨base', back', split, length, found⟩ := Ending.exists_change retraces.plural after trimmed'
    rw [← List.append_assoc] at split
    obtain ⟨rfl, -⟩ := List.append_inj' split length.symm
    rw [found, List.append_assoc]

/-! ## Plain words -/

/-- The letters `a` to `z` are seen as they are, and look like consonants or like the end of a plural. -/
theorem small_of_isSmall (small : isSmall c = true) :
    untwin c = c ∧ (c ∉ "aeiousx".toList → c ∈ finalConsonants) :=
  @forall_between c 'a' 'z' (fun c => untwin c = c ∧ (c ∉ "aeiousx".toList → c ∈ finalConsonants))
    (by decide) small

/-- A letter of a plain word in both its cases. -/
theorem cases_of_plain (plain : (isCapital c || isSmall c) = true) : ∃ small capital,
    InBothCases small capital ∧ isSmall small = true ∧ (c = capital ∨ c = small) := by
  rcases Bool.or_eq_true_iff.mp plain with upper | small
  · have paired : ∃ pair ∈ letterPairs, pair.2 = c ∧ isSmall pair.1 = true :=
      @forall_between c 'A' 'Z' (fun c => ∃ pair ∈ letterPairs, pair.2 = c ∧ isSmall pair.1 = true)
        (by decide +kernel) upper
    obtain ⟨pair, member, rfl, small⟩ := paired
    exact ⟨pair.1, pair.2, inBothCases_of_mem pair member, small, .inl rfl⟩
  · obtain ⟨capital, cases⟩ := exists_capital (mem_smallLetters small)
    exact ⟨c, capital, cases, small, .inr rfl⟩

/-- A word of the letters `a` to `z`, of which the first may be a capital. -/
def IsPlainWord (cs : List Char) : Prop :=
  ∃ first rest, cs = first :: rest ∧ (isCapital first || isSmall first) = true ∧
    ∀ c ∈ rest, isSmall c = true

private theorem IsPlainWord.cases_of_mem (plain : IsPlainWord cs) (member : c ∈ cs) :
    ∃ small capital,
    InBothCases small capital ∧ isSmall small = true ∧ (c = capital ∨ c = small) := by
  obtain ⟨first, rest, rfl, either, small⟩ := plain
  rcases List.mem_cons.mp member with rfl | later
  · exact cases_of_plain either
  · exact cases_of_plain (Bool.or_eq_true_iff.mpr (.inr (small c later)))

theorem IsPlainWord.solid (plain : IsPlainWord cs) : ∀ c ∈ cs, Identifier.isSeparator c = false := by
  intro c member
  obtain ⟨small, capital, cases, -, rfl | rfl⟩ := plain.cases_of_mem member
  · exact Identifier.not_isSeparator_of_isLetter cases.letters.2
  · exact Identifier.not_isSeparator_of_isLetter cases.letters.1

theorem IsPlainWord.filled (plain : IsPlainWord cs) : cs ≠ [] := by
  obtain ⟨first, rest, rfl, -⟩ := plain
  exact List.cons_ne_nil _ _

theorem IsPlainWord.own (plain : IsPlainWord cs) : ∀ c ∈ cs.tail, letterKey c = c := by
  obtain ⟨first, rest, rfl, -, small⟩ := plain
  intro c member
  have letter := mem_smallLetters (small c member)
  rw [letterKey, (own_of_small letter).2, (small_of_isSmall (small c member)).1]

/-- A plain word is its lower-case form with its own capital. -/
theorem IsPlainWord.cased_lower (plain : IsPlainWord cs) : cased cs (lowerChars cs) = cs := by
  obtain ⟨first, rest, rfl, either, small⟩ := plain
  have later : ∀ c ∈ rest, c ∈ smallLetters := fun c member => mem_smallLetters (small c member)
  unfold cased
  obtain ⟨letter, capital, cases, small, rfl | rfl⟩ := cases_of_plain either
  · rw [lowerChars_capital cases later, List.head?_cons, Option.any_some, cases.upper.2, if_pos rfl,
      upperFirstChars, cases.raised, List.singleton_append]
  · have whole : ∀ c ∈ first :: rest, c ∈ smallLetters :=
      List.forall_mem_cons.mpr ⟨mem_smallLetters small, later⟩
    rw [List.head?_cons, Option.any_some, cases.upper.1, if_neg Bool.false_ne_true,
      lowerChars_small whole]

/-- A word whose last letter does not look like the end of a plural. -/
theorem IsPlainWord.endsWord (plain : IsPlainWord cs)
    (final : ∀ c, cs.getLast? = some c → lowerLetter c ∉ "aeiousx".toList) :
    Ending.EndsWord [.among finalConsonants] (backKeys cs) := by
  obtain ⟨init, c, rfl⟩ := (List.eq_nil_or_concat' cs).resolve_left plain.filled
  obtain ⟨small, capital, cases, isSmall, either⟩ := plain.cases_of_mem List.mem_concat_self
  have lowered : lowerLetter c = small := by
    rcases either with rfl | rfl
    · exact cases.lowered.2
    · exact cases.lowered.1
  obtain ⟨own, consonant⟩ := small_of_isSmall isSmall
  have last := final c List.getLast?_concat
  rw [lowered] at last
  rw [backKeys_append]
  refine ⟨List.contains_iff_mem.mpr ?_, trivial⟩
  rw [letterKey, lowered, own]
  exact consonant last

/-! ## English words -/

/-- A word has a plural that leads back to it and is its own plural. -/
structure Retraced (cs : List Char) : Prop where
  solid : ∀ c ∈ english.pluralForm cs, Identifier.isSeparator c = false
  filled : english.pluralForm cs ≠ []
  back : english.singularForm (english.pluralForm cs) = cs
  stays : english.pluralForm (english.pluralForm cs) = english.pluralForm cs

/-- Behind a final consonant every plural rule puts an end in `s` that leads back. -/
theorem english_retraces : ∀ rule ∈ english.plural, rule.pattern.closes = true ∧
    ∀ ending ∈ rule.pattern.endings,
      ending.apart [.among finalConsonants] = true ∨
        english.retraces rule (ending.meet [.among finalConsonants]) = true ∧
          rule.change?.any (fun (_, new) => new.getLast? == some 's' &&
            new.all (!Identifier.isSeparator ·)) = true := by
  decide +kernel

/-- Some plural rule changes every word. -/
theorem english_plural_total : ∃ rule ∈ english.plural, rule.pattern.loose = true ∧
    [] ∈ rule.pattern.endings := by
  decide +kernel

private theorem english_supported : english ∈ ruleSets :=
  List.mem_cons_self

/-- No word of the tables stands there twice, and no singular ends in `s`. -/
theorem english_words : english.words.Nodup ∧
    ∀ pair ∈ english.irregular, pair.1.toList.getLast? ≠ some 's' := by
  decide +kernel

private theorem english_tidy : english.Tidy := by
  apply RuleSet.tidy_of_nodup
  rw [listed_eq_words english_supported]
  exact english_words.1

/-- An irregular pair stands in the tables in lower case. -/
theorem english_pair_small {pair : String × String} (member : pair ∈ english.irregular) :
    lowerChars pair.1.toList = pair.1.toList ∧ lowerChars pair.2.toList = pair.2.toList := by
  obtain ⟨singular, plural⟩ := RuleSet.mem_words member
  exact ⟨lowerChars_small (words_small english_supported _ singular).2,
    lowerChars_small (words_small english_supported _ plural).2⟩

private theorem retraced_of_uninflected (plain : IsPlainWord cs)
    (form : english.isUninflected (lowerChars cs) = true) : Retraced cs := by
  have plural : english.pluralForm cs = cs := by
    rw [RuleSet.pluralForm, RuleSet.formOf, RuleSet.formBy, form, Bool.true_or, if_pos rfl]
  have singular : english.singularForm cs = cs := by
    rw [RuleSet.singularForm, RuleSet.formOf, RuleSet.formBy, form, Bool.true_or, if_pos rfl]
  refine ⟨?_, ?_, ?_, ?_⟩
  · rw [plural]
    exact plain.solid
  · rw [plural]
    exact plain.filled
  · rw [plural, singular]
  · rw [plural, plural]

private theorem retraced_of_irregular {pair : String × String} (plain : IsPlainWord cs)
    (member : pair ∈ english.irregular) (same : lowerChars cs = lowerChars pair.1.toList) :
    Retraced cs := by
  obtain ⟨filled, small⟩ := words_small english_supported _ (RuleSet.mem_words member).2
  obtain ⟨singular, plural⟩ := english_pair_small member
  obtain ⟨solid, filled', lowered, recased⟩ := @cased_small cs _ filled small
  have form := english_tidy.pluralForm_singular member same
  rw [← plural] at lowered
  obtain ⟨back, again⟩ := english_tidy.forms_plural member lowered
  rw [singular] at same
  refine ⟨?_, ?_, ?_, ?_⟩
  · rw [form]
    exact solid
  · rw [form]
    exact filled'
  · rw [form, ← plural, back, plural, recased, ← same, plain.cased_lower]
  · rw [form, ← plural, again]

/-- The rules lead back from the plural of a word that ends in a consonant, and leave it alone. -/
theorem retraced_by_rules (plain : IsPlainWord cs)
    (final : ∀ c, cs.getLast? = some c → lowerLetter c ∉ "aeiousx".toList) :
    ∃ base new, english.plural.findSome? (·.inflect? cs) = some (base ++ new) ∧ base ⊆ cs ∧
      new.getLast? = some 's' ∧ (∀ c ∈ new, Identifier.isSeparator c = false) ∧
      english.singular.findSome? (·.inflect? (base ++ new)) = some cs ∧
      english.plural.findSome? (·.inflect? (base ++ new)) = some (base ++ new) := by
  have trimmed := (EndsName.alone plain.solid).trimmed
  cases inflected : english.plural.findSome? (·.inflect? cs) with
  | none =>
    obtain ⟨rule, member, loose, always⟩ := english_plural_total
    obtain ⟨form, applied⟩ := @Rule.exists_inflect _ cs _ loose always trivial
    rw [List.findSome?_eq_none_iff.mp inflected rule member] at applied
    cases applied
  | some form =>
    obtain ⟨rule, member, applied⟩ := List.exists_of_findSome?_eq_some inflected
    obtain ⟨closes, all⟩ := english_retraces rule member
    obtain ⟨ending, inside, ends⟩ := Rule.endsWord_of_inflect closes trimmed applied
    have consonant := plain.endsWord final
    rcases all ending inside with apart | ⟨retraces, regular⟩
    · exact absurd ends (Ending.not_endsWord_of_apart apart consonant)
    · obtain ⟨⟨count, new⟩, change, shape⟩ := (Option.any_eq_true ..).mp regular
      obtain ⟨last, solid⟩ := Bool.and_eq_true_iff.mp shape
      have last : new.getLast? = some 's' := beq_iff_eq.mp last
      obtain ⟨base, back, rfl, -, rfl⟩ := Rule.change_of_inflect closes trimmed change applied
      have trimmed' : (base ++ new).getLast? ≠ some '\n' := by
        rw [List.getLast?_append, last, Option.some_or]
        decide
      obtain ⟨singular, plural⟩ := RuleSet.forms_of_retraces retraces closes plain.own trimmed trimmed'
        (Ending.endsWord_meet ends consonant) applied
      refine ⟨base, new, rfl, List.subset_append_left .., last, ?_, singular, plural⟩
      intro c member
      simpa using List.all_eq_true.mp solid c member

/-- The tables do not list a plural in `s`, when they do not list its word and do not take it for a word
without a plural or for the plural of another one. -/
theorem plural_not_listed (missing : lowerChars cs ∉ english.listed)
    (last : form.getLast? = some 's')
    (free : String.ofList (lowerChars form) ∈ english.uninflected →
      String.ofList (lowerChars cs) ∈ english.uninflected)
    (sole : ∀ pair ∈ english.irregular, String.ofList (lowerChars form) = pair.2 →
      pair.1 = String.ofList (lowerChars cs)) :
    lowerChars form ∉ english.listed := by
  intro listed
  rw [RuleSet.mem_listed, RuleSet.exists_uninflected_iff, not_or, not_or] at missing
  rcases RuleSet.mem_listed.mp listed with uninflected | ⟨pair, member, same⟩ | ⟨pair, member, same⟩
  · exact missing.1 (free (RuleSet.exists_uninflected_iff.mp uninflected))
  · have other := english_words.2 pair member
    rw [(english_pair_small member).1] at same
    rw [same, (simple_of_listed english_supported listed).2, List.getLast?_map, last] at other
    exact other (congrArg some (own_of_small (mem_smallLetters (by decide))).2)
  · obtain ⟨singular, plural⟩ := english_pair_small member
    rw [plural] at same
    refine missing.2.1 ⟨pair, member, ?_⟩
    have single := sole pair member (by rw [← same, String.ofList_toList])
    rw [singular, single, String.toList_ofList]

/-- A word that the tables do not list comes back by the rules, when they do not list its plural
either. -/
theorem retraced_of_not_listed (plain : IsPlainWord cs)
    (final : ∀ c, cs.getLast? = some c → lowerLetter c ∉ "aeiousx".toList)
    (missing : lowerChars cs ∉ english.listed)
    (free : String.ofList (lowerChars (english.pluralForm cs)) ∈ english.uninflected →
      String.ofList (lowerChars cs) ∈ english.uninflected)
    (sole : ∀ pair ∈ english.irregular,
      String.ofList (lowerChars (english.pluralForm cs)) = pair.2 →
        pair.1 = String.ofList (lowerChars cs)) :
    Retraced cs := by
  obtain ⟨base, new, there, within, last, solid, back, again⟩ := retraced_by_rules plain final
  have form : english.pluralForm cs = base ++ new := by
    rw [(RuleSet.forms_of_not_listed missing).1, there, Option.getD_some]
  rw [form] at free sole
  have last' : (base ++ new).getLast? = some 's' := by
    rw [List.getLast?_append, last, Option.some_or]
  have missing' := plural_not_listed missing last' free sole
  refine ⟨?_, ?_, ?_, ?_⟩
  · rw [form]
    exact fun c member => (List.mem_append.mp member).elim
      (fun inside => plain.solid c (within inside)) (solid c)
  · rw [form]
    intro none
    rw [none] at last'
    cases last'
  · rw [form, (RuleSet.forms_of_not_listed missing').2, back, Option.getD_some]
  · rw [form, (RuleSet.forms_of_not_listed missing').1, again, Option.getD_some]

/-- A plain word that ends in a consonant comes back from its plural, and the plural is its own, unless the
tables take the word for a plural or its plural for another word. -/
theorem plural_retraced {word : String} (plain : IsPlainWord word.toList)
    (final : ∀ c, word.toList.getLast? = some c → lowerLetter c ∉ "aeiousx".toList)
    (single : ∀ pair ∈ english.irregular, lower word ≠ pair.2)
    (free : lower (english.pluralize word) ∈ english.uninflected → lower word ∈ english.uninflected)
    (sole : ∀ pair ∈ english.irregular, lower (english.pluralize word) = pair.2 →
      pair.1 = lower word) :
    english.singularize (english.pluralize word) = word ∧
      english.pluralize (english.pluralize word) = english.pluralize word := by
  obtain ⟨cs, rfl⟩ : ∃ cs, word = String.ofList cs := ⟨word.toList, String.ofList_toList.symm⟩
  rw [String.toList_ofList] at plain final
  have plural := @RuleSet.pluralize_segment english cs plain.solid plain.filled
  rw [plural] at free sole ⊢
  simp only [lower, String.toList_ofList] at single free sole
  have retraced : Retraced cs := by
    by_cases listed : lowerChars cs ∈ english.listed
    · rcases RuleSet.mem_listed.mp listed with form | ⟨pair, member, same⟩ | ⟨pair, member, same⟩
      · exact retraced_of_uninflected plain (RuleSet.isUninflected_iff.mpr form)
      · exact retraced_of_irregular plain member same.symm
      · rw [(english_pair_small member).2] at same
        refine absurd ?_ (single pair member)
        rw [← same, String.ofList_toList]
    · exact retraced_of_not_listed plain final listed free sole
  rw [RuleSet.singularize_segment retraced.solid retraced.filled, retraced.back,
    RuleSet.pluralize_segment retraced.solid retraced.filled, retraced.stays]
  exact ⟨rfl, rfl⟩

/-- A word with a capital whose ending has two letters before the last one. -/
theorem plural_retraced_soliloquy : IsPlainWord "Soliloquy".toList ∧
    (∀ c, "Soliloquy".toList.getLast? = some c → lowerLetter c ∉ "aeiousx".toList) ∧
    (∀ pair ∈ english.irregular, lower "Soliloquy" ≠ pair.2) ∧
    (lower (english.pluralize "Soliloquy") ∈ english.uninflected →
      lower "Soliloquy" ∈ english.uninflected) ∧
    (∀ pair ∈ english.irregular, lower (english.pluralize "Soliloquy") = pair.2 →
      pair.1 = lower "Soliloquy") ∧
    english.singularize (english.pluralize "Soliloquy") = "Soliloquy" ∧
      english.pluralize (english.pluralize "Soliloquy") = english.pluralize "Soliloquy" := by
  have plain : IsPlainWord "Soliloquy".toList :=
    ⟨'S', "oliloquy".toList, by decide +kernel, by decide, List.all_iff_forall_prop.mp (by decide +kernel)⟩
  have final : ∀ c, "Soliloquy".toList.getLast? = some c → lowerLetter c ∉ "aeiousx".toList := by
    have last : "Soliloquy".toList.getLast? = some 'y' := by decide +kernel
    rintro c same
    rw [last] at same
    cases same
    decide +kernel
  have single : ∀ pair ∈ english.irregular, lower "Soliloquy" ≠ pair.2 := by decide +kernel
  have plural : english.pluralize "Soliloquy" = "Soliloquies" := by decide +kernel
  have free : lower (english.pluralize "Soliloquy") ∈ english.uninflected →
      lower "Soliloquy" ∈ english.uninflected := by
    rw [plural]
    decide +kernel
  have sole : ∀ pair ∈ english.irregular, lower (english.pluralize "Soliloquy") = pair.2 →
      pair.1 = lower "Soliloquy" := by
    rw [plural]
    decide +kernel
  exact ⟨plain, final, single, free, sole, plural_retraced plain final single free sole⟩

end Scaffold.Inflection
