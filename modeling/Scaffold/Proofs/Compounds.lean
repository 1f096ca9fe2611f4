import Scaffold.Proofs.Segments

/-! Compound names and irregular words under rules of any kind. The rules see nothing but the last segment of
a name, so what they make of it does not depend on the text before it. They do not see the words of the tables
at all: the two forms of an irregular pair lead to each other, in either case of their first letter. -/
namespace Scaffold.Inflection

open Text

variable {rules : RuleSet} {lead segment : String} {pair : String × String}

/-- The plural of a name with any way of changing a word in the place of the rules. -/
def RuleSet.pluralizeBy (rules : RuleSet) (change : List Char → Option (List Char)) (name : String) :
    String :=
  String.ofList (rules.inflectBy rules.pluralOf? rules.singularOf? change name.toList)

/-- The singular of a name with any way of changing a word in the place of the rules. -/
def RuleSet.singularizeBy (rules : RuleSet) (change : List Char → Option (List Char)) (name : String) :
    String :=
  String.ofList (rules.inflectBy rules.singularOf? rules.pluralOf? change name.toList)

private theorem RuleSet.pluralize_eq_pluralizeBy :
    rules.pluralize = rules.pluralizeBy (changeOf rules.plural) :=
  rfl

private theorem RuleSet.singularize_eq_singularizeBy :
    rules.singularize = rules.singularizeBy (changeOf rules.singular) :=
  rfl

variable {change : List Char → Option (List Char)}

private theorem RuleSet.pluralizeBy_append (ends : EndsName lead.toList segment.toList)
    (filled : segment ≠ "") :
    rules.pluralizeBy change (lead ++ segment) =
      lead ++ String.ofList (rules.formBy rules.pluralOf? rules.singularOf? change segment.toList) := by
  have filled' : segment.toList ≠ [] := by simpa using filled
  rw [pluralizeBy, String.toList_append, RuleSet.inflectBy_append ends filled', String.ofList_append,
    String.ofList_toList]

private theorem RuleSet.singularizeBy_append (ends : EndsName lead.toList segment.toList)
    (filled : segment ≠ "") :
    rules.singularizeBy change (lead ++ segment) =
      lead ++ String.ofList (rules.formBy rules.singularOf? rules.pluralOf? change segment.toList) := by
  have filled' : segment.toList ≠ [] := by simpa using filled
  rw [singularizeBy, String.toList_append, RuleSet.inflectBy_append ends filled', String.ofList_append,
    String.ofList_toList]

/-! ## Compound names -/

/-- A segment is inflected behind a text as it is inflected alone, whatever the rules. -/
theorem RuleSet.inflected_alone (ends : EndsName lead.toList segment.toList) (filled : segment ≠ "")
    (change : List Char → Option (List Char)) :
    rules.pluralizeBy change (lead ++ segment) = lead ++ rules.pluralizeBy change segment ∧
      rules.singularizeBy change (lead ++ segment) = lead ++ rules.singularizeBy change segment := by
  have alone : EndsName "".toList segment.toList := .alone ends.solid
  have plural := @RuleSet.pluralizeBy_append rules "" segment change alone filled
  have singular := @RuleSet.singularizeBy_append rules "" segment change alone filled
  rw [String.empty_append, String.empty_append] at plural singular
  rw [pluralizeBy_append ends filled, singularizeBy_append ends filled, plural, singular]
  exact ⟨rfl, rfl⟩

/-- Only the last segment of a compound name is inflected, by the rules of a rule set as by any other way of
changing a word. -/
theorem last_segment_inflected (ends : EndsName lead.toList segment.toList) (filled : segment ≠ "") :
    (rules.pluralize (lead ++ segment) = lead ++ rules.pluralize segment ∧
      rules.singularize (lead ++ segment) = lead ++ rules.singularize segment) ∧
    ∀ change : List Char → Option (List Char),
      rules.pluralizeBy change (lead ++ segment) = lead ++ rules.pluralizeBy change segment ∧
      rules.singularizeBy change (lead ++ segment) = lead ++ rules.singularizeBy change segment := by
  refine ⟨⟨?_, ?_⟩, RuleSet.inflected_alone ends filled⟩
  · rw [RuleSet.pluralize_eq_pluralizeBy]
    exact (RuleSet.inflected_alone ends filled _).1
  · rw [RuleSet.singularize_eq_singularizeBy]
    exact (RuleSet.inflected_alone ends filled _).2

/-- A text of several lines, the last of which holds a space alone. -/
theorem last_segment_inflected_lines : EndsName "sea-\nfield ".toList "Mouse".toList ∧ "Mouse" ≠ "" ∧
    (english.pluralize ("sea-\nfield " ++ "Mouse") = "sea-\nfield " ++ english.pluralize "Mouse" ∧
      english.singularize ("sea-\nfield " ++ "Mouse") = "sea-\nfield " ++ english.singularize "Mouse") ∧
    ∀ change : List Char → Option (List Char),
      english.pluralizeBy change ("sea-\nfield " ++ "Mouse") =
        "sea-\nfield " ++ english.pluralizeBy change "Mouse" ∧
      english.singularizeBy change ("sea-\nfield " ++ "Mouse") =
        "sea-\nfield " ++ english.singularizeBy change "Mouse" := by
  have solid : ∀ c ∈ "Mouse".toList, Identifier.isSeparator c = false :=
    List.all_iff_forall_prop.mp (by decide +kernel)
  have last : "sea-\nfield ".toList.getLast? = some ' ' := by decide +kernel
  have ends : EndsName "sea-\nfield ".toList "Mouse".toList :=
    ⟨solid, parted_of_last last (by decide +kernel)⟩
  have filled : "Mouse" ≠ "" := by decide
  exact ⟨ends, filled, last_segment_inflected ends filled⟩

/-! ## Irregular words -/

/-- Irregular pairs of words of small letters. No singular and no plural stands there twice, no word is both,
and none has one form only. -/
structure RuleSet.Distinct (rules : RuleSet) : Prop where
  small : ∀ pair ∈ rules.irregular, ∀ word ∈ [pair.1, pair.2],
    word ≠ "" ∧ ∀ c ∈ word.toList, isSmall c = true
  singulars : (rules.irregular.map Prod.fst).Nodup
  plurals : (rules.irregular.map Prod.snd).Nodup
  sides : ∀ pair ∈ rules.irregular, ∀ other ∈ rules.irregular, pair.1 ≠ other.2
  inflected : ∀ pair ∈ rules.irregular,
    pair.1 ∉ rules.uninflected ∧ pair.2 ∉ rules.uninflected

/-- The words of the pairs are texts of small letters, and so their own lower-case forms. -/
theorem RuleSet.Distinct.word (distinct : rules.Distinct) (member : pair ∈ rules.irregular) :
    ∀ word ∈ [pair.1, pair.2], word.toList ≠ [] ∧ (∀ c ∈ word.toList, c ∈ smallLetters) ∧
      lowerChars word.toList = word.toList := by
  intro word among
  obtain ⟨filled, small⟩ := distinct.small pair member word among
  have letters : ∀ c ∈ word.toList, c ∈ smallLetters := fun c inside => mem_smallLetters (small c inside)
  exact ⟨by simpa using filled, letters, lowerChars_small letters⟩

theorem RuleSet.Distinct.singular (distinct : rules.Distinct) (member : pair ∈ rules.irregular) :
    pair.1.toList ≠ [] ∧ (∀ c ∈ pair.1.toList, c ∈ smallLetters) ∧
      lowerChars pair.1.toList = pair.1.toList :=
  distinct.word member _ List.mem_cons_self

theorem RuleSet.Distinct.plural (distinct : rules.Distinct) (member : pair ∈ rules.irregular) :
    pair.2.toList ≠ [] ∧ (∀ c ∈ pair.2.toList, c ∈ smallLetters) ∧
      lowerChars pair.2.toList = pair.2.toList :=
  distinct.word member _ (List.mem_cons_of_mem _ List.mem_cons_self)

private theorem RuleSet.not_isUninflected {word : String} (missing : word ∉ rules.uninflected) :
    rules.isUninflected word.toList = false := by
  rw [← Bool.not_eq_true, isUninflected_iff, exists_uninflected_iff, String.ofList_toList]
  exact missing

theorem RuleSet.Distinct.tidy (distinct : rules.Distinct) : rules.Tidy := by
  have singulars : rules.irregular.map (lowerChars ·.1.toList) =
      (rules.irregular.map Prod.fst).map String.toList := by
    rw [List.map_map]
    exact List.map_congr_left fun pair member => (distinct.singular member).2.2
  have plurals : rules.irregular.map (lowerChars ·.2.toList) =
      (rules.irregular.map Prod.snd).map String.toList := by
    rw [List.map_map]
    exact List.map_congr_left fun pair member => (distinct.plural member).2.2
  refine ⟨?_, ?_, fun pair member other inside => ?_, fun pair member => ?_⟩
  · rw [singulars]
    exact distinct.singulars.map fun _ _ => String.toList_inj.mp
  · rw [plurals]
    exact distinct.plurals.map fun _ _ => String.toList_inj.mp
  · rw [(distinct.singular member).2.2, (distinct.plural inside).2.2, Ne, String.toList_inj]
    exact distinct.sides pair member other inside
  · rw [(distinct.singular member).2.2, (distinct.plural member).2.2]
    obtain ⟨singular, plural⟩ := distinct.inflected pair member
    exact ⟨not_isUninflected singular, not_isUninflected plural⟩

/-- A singular and a plural behind a text lead to each other, and each stays when it is asked for. -/
structure Exchanged (pluralize singularize : String → String) (lead singular plural : String) : Prop where
  pluralized : pluralize (lead ++ singular) = lead ++ plural
  singularized : singularize (lead ++ plural) = lead ++ singular
  plural_stays : pluralize (lead ++ plural) = lead ++ plural
  singular_stays : singularize (lead ++ singular) = lead ++ singular

/-- A pair with the first letters in the case that the one of a given text has. -/
def casedPair (like : List Char) (pair : String × String) : String × String :=
  (String.ofList (cased like pair.1.toList), String.ofList (cased like pair.2.toList))

private theorem casedPair_small : casedPair [] pair = pair := by
  simp [casedPair, cased]

private theorem casedPair_capital :
    casedPair ['A'] pair = (upperFirst pair.1, upperFirst pair.2) := by
  have upper : isUpper 'A' = true := by decide
  simp [casedPair, cased, upper, upperFirst]

/-- The tables come before any rules, and they know a word by its lower-case form. -/
theorem RuleSet.Distinct.exchanged (distinct : rules.Distinct) (member : pair ∈ rules.irregular)
    (parted : ∀ c, lead.toList.getLast? = some c → Identifier.isSeparator c = true)
    (like : List Char) (toPlural toSingular : List Char → Option (List Char)) :
    Exchanged (rules.pluralizeBy toPlural) (rules.singularizeBy toSingular) lead
      (casedPair like pair).1 (casedPair like pair).2 := by
  obtain ⟨filled, small, own⟩ := distinct.singular member
  obtain ⟨filled', small', own'⟩ := distinct.plural member
  obtain ⟨solid, some, lowered, recased⟩ := @cased_small like _ filled small
  obtain ⟨solid', some', lowered', recased'⟩ := @cased_small like _ filled' small'
  have singular : EndsName lead.toList (casedPair like pair).1.toList := by
    rw [casedPair, String.toList_ofList]
    exact ⟨solid, parted⟩
  have plural : EndsName lead.toList (casedPair like pair).2.toList := by
    rw [casedPair, String.toList_ofList]
    exact ⟨solid', parted⟩
  have given : (casedPair like pair).1 ≠ "" := by simpa [casedPair] using some
  have given' : (casedPair like pair).2 ≠ "" := by simpa [casedPair] using some'
  have fromSingular := distinct.tidy.formBy_singular member (lowered.trans own.symm)
  have fromPlural := distinct.tidy.formBy_plural member (lowered'.trans own'.symm)
  rw [recased] at fromSingular
  rw [recased'] at fromPlural
  constructor
  · rw [pluralizeBy_append singular given, casedPair, String.toList_ofList, (fromSingular _).1]
  · rw [singularizeBy_append plural given', casedPair, String.toList_ofList, (fromPlural _).1]
  · rw [pluralizeBy_append plural given', casedPair, String.toList_ofList, (fromPlural _).2]
  · rw [singularizeBy_append singular given, casedPair, String.toList_ofList, (fromSingular _).2]

/-- The two words of an irregular pair lead to each other behind any text, in small letters and with capitals
at their beginnings, whatever the rules of the rule set are or anything that stands in their place. -/
theorem irregular_pairs_exchanged (distinct : rules.Distinct) (member : pair ∈ rules.irregular)
    (parted : ∀ c, lead.toList.getLast? = some c → Identifier.isSeparator c = true) :
    ∀ forms ∈ [pair, (upperFirst pair.1, upperFirst pair.2)],
      Exchanged rules.pluralize rules.singularize lead forms.1 forms.2 ∧
      ∀ toPlural toSingular : List Char → Option (List Char),
        Exchanged (rules.pluralizeBy toPlural) (rules.singularizeBy toSingular) lead forms.1 forms.2 := by
  intro forms among
  -- The empty text and a capital are models for the two cases a first letter can be in.
  have like : ∃ like, casedPair like pair = forms := by
    rcases List.mem_pair.mp among with rfl | rfl
    · exact ⟨[], casedPair_small⟩
    · exact ⟨['A'], casedPair_capital⟩
  obtain ⟨like, rfl⟩ := like
  have exchanged := distinct.exchanged member parted like
  refine ⟨?_, exchanged⟩
  rw [RuleSet.pluralize_eq_pluralizeBy, RuleSet.singularize_eq_singularizeBy]
  exact exchanged _ _

private theorem english_distinct : english.Distinct := by
  have small : (english.irregular.all fun pair =>
      [pair.1, pair.2].all fun word => word != "" && word.toList.all isSmall) = true := by decide
  refine ⟨fun pair member word among => ?_, ?_, ?_, ?_, ?_⟩
  · have checked := List.all_eq_true.mp (List.all_eq_true.mp small pair member) word among
    rw [Bool.and_eq_true, bne_iff_ne, List.all_eq_true] at checked
    exact checked
  all_goals decide +kernel

/-- A pair whose plural the rules would take for that of a word in `ch`. -/
theorem irregular_pairs_exchanged_caches : english.Distinct ∧ ("cache", "caches") ∈ english.irregular ∧
    (∀ c, "web-".toList.getLast? = some c → Identifier.isSeparator c = true) ∧
    ∀ forms ∈ [("cache", "caches"), (upperFirst "cache", upperFirst "caches")],
      Exchanged english.pluralize english.singularize "web-" forms.1 forms.2 ∧
      ∀ toPlural toSingular : List Char → Option (List Char),
        Exchanged (english.pluralizeBy toPlural) (english.singularizeBy toSingular) "web-" forms.1
          forms.2 := by
  have member : ("cache", "caches") ∈ english.irregular := by decide +kernel
  have last : "web-".toList.getLast? = some '-' := by decide +kernel
  have parted := parted_of_last last (by decide +kernel)
  exact ⟨english_distinct, member, parted, irregular_pairs_exchanged english_distinct member parted⟩

end Scaffold.Inflection
