import Scaffold.Proofs.Segments

/-! Turkish plurals. The suffix goes by the last vowel of a word, if no more than six letters follow it,
and every word but those of the tables comes back from its plural. A vowel without its dot is read as the
dotted one, so that it takes the suffix of the front vowels. -/
namespace Scaffold.Inflection

open Text

variable {cs suffix : List Char}

/-! ## The way back -/

/-- The suffixes of plural words. -/
def pluralSuffixes : List (List Char) :=
  [['l', 'e', 'r'], ['l', 'a', 'r']]

/-- Every plural rule adds a suffix that the singular rule takes away, whatever stands before. -/
theorem turkish_plural_undone : ∀ rule ∈ turkish.plural, rule.pattern.closes = true ∧
    ∃ suffix ∈ pluralSuffixes, rule.change? = some (0, suffix) ∧
      ∀ ending ∈ rule.pattern.endings,
        (ending.changed 0 suffix).change? turkish.singular = some (suffix.length, []) := by
  decide

/-- What the singular rule reads. -/
theorem turkish_singular_endings : ∀ rule ∈ turkish.singular, rule.pattern.closes = true ∧
    rule.pattern.endings = [[.among ['r'], .among ['a', 'e'], .among ['l']]] := by
  decide

/-- The plural rules change every word that has a vowel of a suffix before its last letter. -/
theorem turkish_plural_applies : ∀ vowel ∈ ['a', 'e'], ∃ suffix ∈ pluralSuffixes,
    Ending.change? [.among ['r'], .among [vowel]] turkish.plural = some (0, suffix) :=
  List.all_iff_forall_prop.mp (by decide)

/-- A word that the plural rules leave alone does not end like a plural word. -/
theorem turkish_singular_of_plural (trimmed : cs.getLast? ≠ some '\n')
    (alone : turkish.plural.findSome? (·.inflect? cs) = none) :
    turkish.singular.findSome? (·.inflect? cs) = none := by
  rw [List.findSome?_eq_none_iff]
  intro rule member
  rw [Option.eq_none_iff_forall_ne_some]
  intro form inflected
  obtain ⟨closes, endings⟩ := turkish_singular_endings rule member
  obtain ⟨ending, inside, ends⟩ := Rule.endsWord_of_inflect closes trimmed inflected
  rw [endings, List.mem_singleton] at inside
  subst inside
  -- The vowel that was read is one of two, and each of them has a plural rule of its own.
  obtain ⟨front, rest, keys, fits⟩ := Ending.endsWord_iff.mp ends
  obtain ⟨vowel, among, known⟩ : ∃ vowel ∈ ['a', 'e'],
      Ending.EndsWord [.among ['r'], .among [vowel]] (backKeys cs) := by
    cases fits with
    | cons last fits =>
      cases fits with
      | cons vowel fits =>
        refine ⟨_, List.contains_iff_mem.mp vowel, ?_⟩
        rw [keys]
        exact ⟨last, by simp [LetterClass.holds], trivial⟩
  obtain ⟨suffix, -, change⟩ := turkish_plural_applies vowel among
  obtain ⟨base, back, -, -, found⟩ := Ending.exists_change change known trimmed
  rw [alone] at found
  cases found

private theorem turkish_supported : turkish ∈ ruleSets := by
  simp [ruleSets]

/-- What the tables list, and the only plural word with a suffix among it. -/
theorem turkish_words : ∀ text ∈ turkish.words,
    (∃ pair ∈ turkish.irregular, text = pair.1.toList ∨ text = pair.2.toList) ∧
    String.ofList text ∈ ["ben", "sen", "o", "biz", "siz", "onlar"] ∧
    ∀ suffix ∈ pluralSuffixes, suffix.isSuffixOf text = true → text = "on".toList ++ suffix := by
  decide

private theorem pluralSuffix_small (among : suffix ∈ pluralSuffixes) :
    ∀ c ∈ suffix, c ∈ smallLetters := by
  have small : 'l' ∈ smallLetters ∧ 'e' ∈ smallLetters ∧ 'a' ∈ smallLetters ∧ 'r' ∈ smallLetters := by
    simp [smallLetters, letterPairs]
  simp only [pluralSuffixes, List.mem_cons, List.not_mem_nil, or_false] at among
  rcases among with rfl | rfl <;> simp [small]

private theorem not_listed_plural (among : suffix ∈ pluralSuffixes)
    (other : lowerChars cs ≠ "on".toList) :
    lowerChars (cs ++ suffix) ∉ turkish.listed := by
  intro listed
  obtain ⟨simple, spelled⟩ := simple_of_listed turkish_supported listed
  rw [listed_eq_words turkish_supported] at listed
  obtain ⟨-, -, ended⟩ := turkish_words _ listed
  rw [List.map_append, map_lowerLetter_small (pluralSuffix_small among)] at spelled
  have whole := ended suffix among (List.isSuffixOf_iff_suffix.mpr ⟨_, spelled.symm⟩)
  have front : cs.map lowerLetter = "on".toList :=
    List.append_cancel_right (spelled.symm.trans whole)
  refine other (Eq.trans ?_ front)
  exact lowerAfter_simple fun c member => simple c (List.mem_append_left _ member)

/-- A word comes back from its plural under the rules alone. -/
theorem turkish_forms_retraced (trimmed : cs.getLast? ≠ some '\n') :
    turkish.plural.findSome? (·.inflect? cs) = none ∧
        turkish.singular.findSome? (·.inflect? cs) = none ∨
      ∃ suffix ∈ pluralSuffixes, turkish.plural.findSome? (·.inflect? cs) = some (cs ++ suffix) ∧
        turkish.singular.findSome? (·.inflect? (cs ++ suffix)) = some cs := by
  cases inflected : turkish.plural.findSome? (·.inflect? cs) with
  | none => exact .inl ⟨rfl, turkish_singular_of_plural trimmed inflected⟩
  | some form =>
    obtain ⟨rule, member, applied⟩ := List.exists_of_findSome?_eq_some inflected
    obtain ⟨closes, suffix, among, change, back⟩ := turkish_plural_undone rule member
    obtain ⟨base, none, rfl, length, rfl⟩ := Rule.change_of_inflect closes trimmed change applied
    obtain rfl := List.length_eq_zero_iff.mp length
    obtain ⟨ending, inside, ends⟩ := Rule.endsWord_of_inflect closes trimmed applied
    have known := Ending.endsWord_changed suffix ends
    have trimmed' : (base ++ suffix).getLast? ≠ some '\n' := by
      have last : ∀ suffix ∈ pluralSuffixes, suffix.getLast? = some 'r' := by simp [pluralSuffixes]
      rw [List.getLast?_append, last suffix among, Option.some_or]
      decide
    obtain ⟨word, taken, split, same, found⟩ :=
      Ending.exists_change (back ending inside) known trimmed'
    obtain ⟨rfl, -⟩ := List.append_inj' split same.symm
    rw [List.append_nil] at found
    refine .inr ⟨suffix, among, by rw [List.append_nil], ?_⟩
    rw [List.append_nil]
    exact found

/-- Every word comes back from its plural, also when the rules give it none: all but those that the tables
list and the one whose plural they list. -/
theorem turkish_retraced {word : String}
    (solid : ∀ c ∈ word.toList, Identifier.isSeparator c = false)
    (other : lower word ∉ ["ben", "sen", "o", "biz", "siz", "onlar", "on"]) :
    turkish.singularize (turkish.pluralize word) = word := by
  obtain ⟨cs, rfl⟩ : ∃ cs, word = String.ofList cs := ⟨word.toList, (String.ofList_toList).symm⟩
  rw [String.toList_ofList] at solid
  rw [lower, String.toList_ofList] at other
  have missing : lowerChars cs ∉ turkish.listed := by
    rw [listed_eq_words turkish_supported]
    intro listed
    obtain ⟨-, known, -⟩ := turkish_words _ listed
    exact other (List.mem_append_left ["on"] known)
  have unlike : lowerChars cs ≠ "on".toList := by
    intro same
    rw [same, String.ofList_toList] at other
    exact other (by simp)
  by_cases filled : cs = []
  · subst filled
    rfl
  have trimmed := (EndsName.alone solid).trimmed
  have forms := RuleSet.forms_of_not_listed missing
  rw [RuleSet.pluralize_segment solid filled, forms.1]
  rcases turkish_forms_retraced trimmed with ⟨plural, singular⟩ | ⟨suffix, among, plural, singular⟩
  · rw [plural, Option.getD_none, RuleSet.singularize_segment solid filled, forms.2, singular,
      Option.getD_none]
  · have joined := solid_of_small (pluralSuffix_small among)
    have solid' : ∀ c ∈ cs ++ suffix, Identifier.isSeparator c = false :=
      fun c member => (List.mem_append.mp member).elim (solid c) (joined c)
    have filled' : cs ++ suffix ≠ [] := List.append_ne_nil_of_left_ne_nil filled suffix
    have missing' := not_listed_plural among unlike
    rw [plural, Option.getD_some, RuleSet.singularize_segment solid' filled',
      (RuleSet.forms_of_not_listed missing').2, singular, Option.getD_some]

/-- A word whose vowels are read as dotted ones. -/
theorem turkish_retraced_capitals : (∀ c ∈ "IŞIK".toList, Identifier.isSeparator c = false) ∧
    lower "IŞIK" ∉ ["ben", "sen", "o", "biz", "siz", "onlar", "on"] ∧
      turkish.singularize (turkish.pluralize "IŞIK") = "IŞIK" := by
  have solid : ∀ c ∈ "IŞIK".toList, Identifier.isSeparator c = false :=
    List.all_iff_forall_prop.mp (by decide +kernel)
  have other : lower "IŞIK" ∉ ["ben", "sen", "o", "biz", "siz", "onlar", "on"] := by decide +kernel
  exact ⟨solid, other, turkish_retraced solid other⟩

/-! ## Harmony -/

/-- The small letters of the Turkish alphabet. -/
def turkishLetters : List Char :=
  "abcçdefgğhıijklmnoöprsştuüvyz".toList

def turkishVowels : List Char :=
  "aıoueiöü".toList

/-- The suffix that goes with a vowel. -/
def harmonicSuffix (vowel : Char) : String :=
  if vowel ∈ "aıou".toList then "lar" else "ler"

/-- The end of a word from its last vowel on. -/
def fromVowel (vowel : Char) (behind : Nat) : Ending :=
  List.replicate behind (.among (turkishLetters.filter (· ∉ turkishVowels))) ++ [.among [untwin vowel]]

private theorem change_fromVowel : ∀ vowel ∈ turkishVowels, ∀ behind < 7,
    (fromVowel vowel behind).change? turkish.plural =
      some (0, (if vowel = 'ı' then "ler" else harmonicSuffix vowel).toList) :=
  List.all_iff_forall_prop.mp (by decide +kernel)

/-- The letters of the alphabet are small letters, none of them a separator. -/
theorem turkishLetters_plain : ∀ c ∈ turkishLetters, (IsSimple c ∧ lowerLetter c = c) ∧
    Identifier.isSeparator c = false ∧ (c ∉ turkishVowels → untwin c = c) := by
  have kinds : ∀ c ∈ turkishLetters, (c ∈ smallLetters ∨ c = 'ı') ∧
      (c ∉ turkishVowels → untwin c = c) :=
    List.all_iff_forall_prop.mp (by decide)
  have dotless : (IsSimple 'ı' ∧ lowerLetter 'ı' = 'ı') ∧ Identifier.isSeparator 'ı' = false := by
    unfold IsSimple
    decide
  intro c member
  obtain ⟨small | rfl, consonant⟩ := kinds c member
  · exact ⟨own_of_small small, solid_of_small (fun d inside => List.mem_singleton.mp inside ▸ small) c
      (List.mem_singleton_self c), consonant⟩
  · exact ⟨dotless.1, dotless.2, consonant⟩

private theorem fits_replicate {kind : LetterClass} {keys : List Char}
    (holds : ∀ key ∈ keys, kind.holds key = true) :
    Ending.Fits (List.replicate keys.length kind) keys := by
  induction keys with
  | nil => exact .nil
  | cons key keys ih =>
    exact .cons (holds key List.mem_cons_self) (ih fun other member =>
      holds other (List.mem_cons_of_mem _ member))

private theorem endsWord_fromVowel {front tail : List Char} {vowel : Char}
    (letters : ∀ c ∈ vowel :: tail, c ∈ turkishLetters) (last : ∀ c ∈ tail, c ∉ turkishVowels) :
    (fromVowel vowel tail.length).EndsWord (backKeys (front ++ vowel :: tail)) := by
  have keys : backKeys (front ++ vowel :: tail) =
      backKeys tail ++ letterKey vowel :: backKeys front := by
    simp [backKeys]
  have key : letterKey vowel = untwin vowel := by
    rw [letterKey, (turkishLetters_plain vowel (letters vowel List.mem_cons_self)).1.2]
  rw [keys, fromVowel, ← length_backKeys]
  refine Ending.endsWord_append.mpr ⟨_, _, rfl, fits_replicate ?_, ?_, trivial⟩
  · intro other member
    obtain ⟨c, inside, rfl⟩ := List.mem_map.mp member
    have inside := List.mem_reverse.mp inside
    have letter := letters c (List.mem_cons_of_mem _ inside)
    obtain ⟨⟨-, small⟩, -, same⟩ := turkishLetters_plain c letter
    rw [letterKey, small, same (last c inside)]
    simp [LetterClass.holds, letter, last c inside]
  · simp [LetterClass.holds, key]

/-- The plural of a word goes by its last vowel, and a vowel without a dot counts as one with it. -/
theorem plural_harmonious {word : String} {front tail : List Char} {vowel : Char}
    (letters : ∀ c ∈ word.toList, c ∈ turkishLetters)
    (split : word.toList = front ++ vowel :: tail) (vocal : vowel ∈ turkishVowels)
    (last : ∀ c ∈ tail, c ∉ turkishVowels) (near : tail.length ≤ 6)
    (regular : ∀ pair ∈ turkish.irregular, word ≠ pair.1 ∧ word ≠ pair.2) :
    turkish.pluralize word = word ++ (if vowel = 'ı' then "ler" else harmonicSuffix vowel) := by
  have plain := fun c member => turkishLetters_plain c (letters c member)
  have small : lowerChars word.toList = word.toList :=
    lowerChars_own fun c member => (plain c member).1
  have missing : lowerChars word.toList ∉ turkish.listed := by
    rw [listed_eq_words turkish_supported, small]
    intro listed
    obtain ⟨⟨pair, member, same⟩, -⟩ := turkish_words _ listed
    rw [String.toList_inj, String.toList_inj] at same
    exact same.elim (regular pair member).1 (regular pair member).2
  have solid : ∀ c ∈ word.toList, Identifier.isSeparator c = false := fun c member =>
    (plain c member).2.1
  have filled : word.toList ≠ [] := by simp [split]
  have known : (fromVowel vowel tail.length).EndsWord (backKeys word.toList) := by
    rw [split]
    exact endsWord_fromVowel (fun c member => letters c (split ▸ List.mem_append_right _ member)) last
  have change := change_fromVowel vowel vocal tail.length (by omega)
  obtain ⟨base, none, same, length, found⟩ :=
    Ending.exists_change change known (EndsName.alone solid).trimmed
  obtain rfl := List.length_eq_zero_iff.mp length
  rw [List.append_nil] at same
  have plural := @RuleSet.pluralize_segment turkish _ solid filled
  rw [String.ofList_toList, (RuleSet.forms_of_not_listed missing).1, found, Option.getD_some,
    ← same, String.ofList_append, String.ofList_toList, String.ofList_toList] at plural
  exact plural

/-- Three letters behind the last vowel. -/
theorem plural_harmonious_sphinx : (∀ c ∈ "sfenks".toList, c ∈ turkishLetters) ∧
    "sfenks".toList = ['s', 'f'] ++ 'e' :: ['n', 'k', 's'] ∧ 'e' ∈ turkishVowels ∧
    (∀ c ∈ ['n', 'k', 's'], c ∉ turkishVowels) ∧ ['n', 'k', 's'].length ≤ 6 ∧
    (∀ pair ∈ turkish.irregular, "sfenks" ≠ pair.1 ∧ "sfenks" ≠ pair.2) ∧
    turkish.pluralize "sfenks" =
      "sfenks" ++ (if 'e' = 'ı' then "ler" else harmonicSuffix 'e') := by
  have letters : ∀ c ∈ "sfenks".toList, c ∈ turkishLetters :=
    List.all_iff_forall_prop.mp (by decide +kernel)
  have split : "sfenks".toList = ['s', 'f'] ++ 'e' :: ['n', 'k', 's'] := by decide +kernel
  have vocal : 'e' ∈ turkishVowels := by decide +kernel
  have last : ∀ c ∈ ['n', 'k', 's'], c ∉ turkishVowels := List.all_iff_forall_prop.mp (by decide +kernel)
  have near : ['n', 'k', 's'].length ≤ 6 := by decide
  have regular : ∀ pair ∈ turkish.irregular, "sfenks" ≠ pair.1 ∧ "sfenks" ≠ pair.2 := by
    decide +kernel
  exact ⟨letters, split, vocal, last, near, regular,
    plural_harmonious letters split vocal last near regular⟩

/-- A vowel without a dot goes with one suffix and gets the other. -/
theorem dotless_disharmony : (∀ c ∈ "kadın".toList, c ∈ turkishLetters) ∧
    "kadın".toList = ['k', 'a', 'd'] ++ 'ı' :: ['n'] ∧ 'ı' ∈ turkishVowels ∧
    (∀ c ∈ ['n'], c ∉ turkishVowels) ∧ ['n'].length ≤ 6 ∧
    (∀ pair ∈ turkish.irregular, "kadın" ≠ pair.1 ∧ "kadın" ≠ pair.2) ∧
    turkish.pluralize "kadın" = "kadınler" ∧ "kadınler" ≠ "kadın" ++ harmonicSuffix 'ı' := by
  have letters : ∀ c ∈ "kadın".toList, c ∈ turkishLetters :=
    List.all_iff_forall_prop.mp (by decide +kernel)
  have last : ∀ c ∈ ['n'], c ∉ turkishVowels := List.all_iff_forall_prop.mp (by decide +kernel)
  exact ⟨letters, by decide +kernel, by decide +kernel, last, by decide, by decide +kernel,
    by decide +kernel, by decide +kernel⟩

end Scaffold.Inflection
