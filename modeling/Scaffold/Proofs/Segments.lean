import Scaffold.Proofs.Alphabet
import Scaffold.Proofs.Exchanging

/-! What a rule set does with the last segment of a name. The text before it stays, and its form depends on
nothing but the segment: the tables know it by its lower-case form, and what they do not know goes by the
rules. -/
namespace Scaffold.Inflection

open Text

variable {rules : RuleSet} {known already : List Char → Option (List Char)} {regular : List Rule}
  {lead segment : List Char}

/-- A text without separators that stands behind the last separator of a name. -/
structure EndsName (lead segment : List Char) : Prop where
  solid : ∀ c ∈ segment, Identifier.isSeparator c = false
  parted : ∀ c, lead.getLast? = some c → Identifier.isSeparator c = true

theorem EndsName.alone (solid : ∀ c ∈ segment, Identifier.isSeparator c = false) :
    EndsName [] segment :=
  ⟨solid, nofun⟩

theorem parted_of_last {c : Char} (last : lead.getLast? = some c)
    (separator : Identifier.isSeparator c = true) :
    ∀ d, lead.getLast? = some d → Identifier.isSeparator d = true := by
  intro d same
  rw [last] at same
  cases same
  exact separator

theorem EndsName.trimmed (ends : EndsName lead segment) : segment.getLast? ≠ some '\n' := by
  intro last
  have solid := ends.solid '\n' (List.mem_of_getLast? last)
  revert solid
  decide

private theorem lastSegment_append (ends : EndsName lead segment) (filled : segment ≠ []) :
    lastSegment (lead ++ segment) = (lead, segment) := by
  have whole : (if (lead ++ segment).getLast? == some '\n' then (lead ++ segment).dropLast
      else lead ++ segment) = lead ++ segment := by
    rw [if_neg]
    rw [beq_iff_eq, List.getLast?_append_of_ne_nil _ filled]
    exact ends.trimmed
  have back : ((lead ++ segment).reverse.takeWhile fun c => !Identifier.isSeparator c).reverse =
      segment := by
    have stops : lead.reverse.takeWhile (fun c => !Identifier.isSeparator c) = [] := by
      cases reversed : lead.reverse with
      | nil => rfl
      | cons c rest =>
        have last : lead.getLast? = some c := by
          rw [← List.head?_reverse, reversed, List.head?_cons]
        rw [List.takeWhile_cons, ends.parted c last]
        rfl
    rw [List.reverse_append, List.takeWhile_append_of_pos, stops, List.append_nil, List.reverse_reverse]
    intro c member
    rw [ends.solid c (List.mem_reverse.mp member)]
    rfl
  unfold lastSegment
  dsimp only
  rw [whole, back, List.length_append, Nat.add_sub_cancel, List.take_left]
  cases lead with
  | nil => rfl
  | cons c rest =>
    rw [if_neg]
    simpa using filled

/-- What becomes of the last segment of a name with any way of changing a word in the place of the
rules. -/
def RuleSet.formBy (rules : RuleSet) (known already change : List Char → Option (List Char))
    (segment : List Char) : List Char :=
  let key := lowerChars segment
  if rules.isUninflected key || (already key).isSome then segment
  else
    match known key with
    | some form => if segment.head?.any isUpper then upperFirstChars form else form
    | none => (change segment).getD segment

/-- What becomes of the last segment of a name. -/
def RuleSet.formOf (rules : RuleSet) (known already : List Char → Option (List Char))
    (regular : List Rule) (segment : List Char) : List Char :=
  rules.formBy known already (changeOf regular) segment

theorem RuleSet.inflectBy_append {change : List Char → Option (List Char)}
    (ends : EndsName lead segment) (filled : segment ≠ []) :
    rules.inflectBy known already change (lead ++ segment) =
      lead ++ rules.formBy known already change segment := by
  have full : (lead ++ segment).isEmpty = false := by
    rw [List.isEmpty_eq_false_iff]
    simp [filled]
  unfold RuleSet.inflectBy RuleSet.formBy
  rw [full, if_neg Bool.false_ne_true, lastSegment_append ends filled]
  dsimp only
  split
  · rfl
  · cases known (lowerChars segment) with
    | some form => rfl
    | none => cases change segment with
      | some form => rfl
      | none => rfl

private theorem RuleSet.inflect_append (ends : EndsName lead segment) (filled : segment ≠ []) :
    rules.inflect known already regular (lead ++ segment) =
      lead ++ rules.formOf known already regular segment := by
  rw [RuleSet.inflect, RuleSet.inflectBy_append ends filled]
  rfl

/-- What becomes of the last segment of a name in the plural. -/
def RuleSet.pluralForm (rules : RuleSet) (segment : List Char) : List Char :=
  rules.formOf rules.pluralOf? rules.singularOf? rules.plural segment

/-- What becomes of the last segment of a name in the singular. -/
def RuleSet.singularForm (rules : RuleSet) (segment : List Char) : List Char :=
  rules.formOf rules.singularOf? rules.pluralOf? rules.singular segment

theorem RuleSet.pluralize_eq (ends : EndsName lead segment) (filled : segment ≠ []) :
    rules.pluralize (String.ofList (lead ++ segment)) =
      String.ofList (lead ++ rules.pluralForm segment) := by
  rw [RuleSet.pluralize, String.toList_ofList, RuleSet.inflect_append ends filled, pluralForm]

theorem RuleSet.singularize_eq (ends : EndsName lead segment) (filled : segment ≠ []) :
    rules.singularize (String.ofList (lead ++ segment)) =
      String.ofList (lead ++ rules.singularForm segment) := by
  rw [RuleSet.singularize, String.toList_ofList, RuleSet.inflect_append ends filled, singularForm]

theorem RuleSet.pluralize_segment (solid : ∀ c ∈ segment, Identifier.isSeparator c = false)
    (filled : segment ≠ []) :
    rules.pluralize (String.ofList segment) = String.ofList (rules.pluralForm segment) :=
  @RuleSet.pluralize_eq rules [] segment (.alone solid) filled

theorem RuleSet.singularize_segment (solid : ∀ c ∈ segment, Identifier.isSeparator c = false)
    (filled : segment ≠ []) :
    rules.singularize (String.ofList segment) = String.ofList (rules.singularForm segment) :=
  @RuleSet.singularize_eq rules [] segment (.alone solid) filled

/-- The words that the tables of a rule set know, in lower case. -/
def RuleSet.listed (rules : RuleSet) : List (List Char) :=
  rules.uninflected.map String.toList ++ rules.irregular.map (lowerChars ·.1.toList) ++
    rules.irregular.map (lowerChars ·.2.toList)

theorem RuleSet.mem_listed {key : List Char} : key ∈ rules.listed ↔
    (∃ form ∈ rules.uninflected, form.toList = key) ∨
      (∃ pair ∈ rules.irregular, lowerChars pair.1.toList = key) ∨
        ∃ pair ∈ rules.irregular, lowerChars pair.2.toList = key := by
  simp only [listed, List.mem_append, List.mem_map, or_assoc]

theorem RuleSet.isUninflected_iff {key : List Char} :
    rules.isUninflected key = true ↔ ∃ form ∈ rules.uninflected, form.toList = key := by
  simp [RuleSet.isUninflected]

theorem RuleSet.exists_uninflected_iff {key : List Char} :
    (∃ form ∈ rules.uninflected, form.toList = key) ↔ String.ofList key ∈ rules.uninflected := by
  constructor
  · rintro ⟨form, member, rfl⟩
    rwa [String.ofList_toList]
  · exact fun member => ⟨_, member, String.toList_ofList⟩

theorem RuleSet.exists_of_pluralOf {key form : List Char} (found : rules.pluralOf? key = some form) :
    ∃ pair ∈ rules.irregular, lowerChars pair.1.toList = key ∧ form = pair.2.toList := by
  obtain ⟨pair, among, rfl⟩ := Option.map_eq_some_iff.mp found
  have same := List.find?_some among
  exact ⟨pair, List.mem_reverse.mp (List.mem_of_find?_eq_some among), beq_iff_eq.mp same, rfl⟩

theorem RuleSet.exists_of_singularOf {key form : List Char}
    (found : rules.singularOf? key = some form) :
    ∃ pair ∈ rules.irregular, lowerChars pair.2.toList = key ∧ form = pair.1.toList := by
  obtain ⟨pair, among, rfl⟩ := Option.map_eq_some_iff.mp found
  have same := List.find?_some among
  exact ⟨pair, List.mem_reverse.mp (List.mem_of_find?_eq_some among), beq_iff_eq.mp same, rfl⟩

/-- The tables know nothing of a word that they do not list. -/
theorem RuleSet.unknown_of_not_listed {key : List Char} (missing : key ∉ rules.listed) :
    rules.isUninflected key = false ∧ rules.pluralOf? key = none ∧ rules.singularOf? key = none := by
  simp only [mem_listed, not_or] at missing
  obtain ⟨form, singular, plural⟩ := missing
  refine ⟨?_, ?_, ?_⟩
  · rw [← Bool.not_eq_true, isUninflected_iff]
    exact form
  · rw [Option.eq_none_iff_forall_ne_some]
    intro text found
    obtain ⟨pair, member, same, -⟩ := exists_of_pluralOf found
    exact singular ⟨pair, member, same⟩
  · rw [Option.eq_none_iff_forall_ne_some]
    intro text found
    obtain ⟨pair, member, same, -⟩ := exists_of_singularOf found
    exact plural ⟨pair, member, same⟩

/-- Words that the tables do not list go by the rules. -/
theorem RuleSet.forms_of_not_listed (missing : lowerChars segment ∉ rules.listed) :
    rules.pluralForm segment = (rules.plural.findSome? (·.inflect? segment)).getD segment ∧
      rules.singularForm segment = (rules.singular.findSome? (·.inflect? segment)).getD segment := by
  obtain ⟨form, plural, singular⟩ := RuleSet.unknown_of_not_listed missing
  unfold RuleSet.pluralForm RuleSet.singularForm RuleSet.formOf RuleSet.formBy
  dsimp only
  rw [form, plural, singular]
  exact ⟨rfl, rfl⟩

/-! ## The words of the languages -/

/-- The words that the tables of a rule set hold, as they are written there. -/
def RuleSet.words (rules : RuleSet) : List (List Char) :=
  rules.uninflected.map String.toList ++ rules.irregular.map (·.1.toList) ++
    rules.irregular.map (·.2.toList)

theorem RuleSet.mem_words {pair : String × String} (member : pair ∈ rules.irregular) :
    pair.1.toList ∈ rules.words ∧ pair.2.toList ∈ rules.words :=
  ⟨List.mem_append_left _ (List.mem_append_right _ (List.mem_map.mpr ⟨pair, member, rfl⟩)),
    List.mem_append_right _ (List.mem_map.mpr ⟨pair, member, rfl⟩)⟩

/-- The rule sets of all languages. -/
def ruleSets : List RuleSet :=
  [english, spanish, french, norwegian, portuguese, turkish]

theorem mem_ruleSets {entry : String × RuleSet} (supported : entry ∈ languages) :
    entry.2 ∈ ruleSets := by
  simp only [languages, List.mem_cons, List.not_mem_nil, or_false] at supported
  rcases supported with rfl | rfl | rfl | rfl | rfl | rfl | rfl | rfl | rfl | rfl | rfl | rfl | rfl <;>
    simp [ruleSets]

/-- The tables hold words of small letters. -/
theorem words_small (member : rules ∈ ruleSets) :
    ∀ text ∈ rules.words, text ≠ [] ∧ ∀ c ∈ text, c ∈ smallLetters := by
  have seen : ∀ rules ∈ ruleSets, ∀ text ∈ rules.words, text ≠ [] ∧ isSmallText text = true := by
    decide +kernel
  intro text inside
  obtain ⟨filled, small⟩ := seen rules member text inside
  exact ⟨filled, mem_of_isSmallText small⟩

theorem listed_eq_words (member : rules ∈ ruleSets) : rules.listed = rules.words := by
  have own : ∀ text ∈ rules.words, lowerChars text = text :=
    fun text inside => lowerChars_small (words_small member text inside).2
  have singulars : rules.irregular.map (lowerChars ·.1.toList) = rules.irregular.map (·.1.toList) :=
    List.map_congr_left fun pair inside => own _ (RuleSet.mem_words inside).1
  have plurals : rules.irregular.map (lowerChars ·.2.toList) = rules.irregular.map (·.2.toList) :=
    List.map_congr_left fun pair inside => own _ (RuleSet.mem_words inside).2
  rw [RuleSet.listed, singulars, plurals, RuleSet.words]

/-- What the tables list is lower-cased letter by letter. -/
theorem simple_of_listed (member : rules ∈ ruleSets) (listed : lowerChars segment ∈ rules.listed) :
    (∀ c ∈ segment, IsSimple c) ∧ lowerChars segment = segment.map lowerLetter := by
  rw [listed_eq_words member] at listed
  exact simple_of_small (words_small member _ listed).2

/-! ## Irregular words -/

/-- A form of a word with a capital at its beginning if the word has one there. -/
def cased (segment form : List Char) : List Char :=
  if segment.head?.any isUpper then upperFirstChars form else form

/-- A word of small letters gets a capital for its first letter. -/
theorem exists_cased {form : List Char} (capital : segment.head?.any isUpper = true)
    (filled : form ≠ []) (small : ∀ c ∈ form, c ∈ smallLetters) :
    ∃ first upper rest, form = first :: rest ∧ InBothCases first upper ∧
      cased segment form = upper :: rest := by
  obtain ⟨first, rest, rfl⟩ := List.exists_cons_of_ne_nil filled
  obtain ⟨upper, cases⟩ := exists_capital (small first List.mem_cons_self)
  refine ⟨first, upper, rest, rfl, cases, ?_⟩
  rw [cased, if_pos capital, upperFirstChars, cases.raised, List.singleton_append]

/-- A text of small letters with a capital at its beginning or none has no separators, and a capital where
the text had one. -/
theorem cased_small {form : List Char} (filled : form ≠ []) (small : ∀ c ∈ form, c ∈ smallLetters) :
    (∀ c ∈ cased segment form, Identifier.isSeparator c = false) ∧ cased segment form ≠ [] ∧
      lowerChars (cased segment form) = form ∧
        ∀ other, cased (cased segment form) other = cased segment other := by
  by_cases upper : segment.head?.any isUpper = true
  · obtain ⟨first, capital, rest, rfl, cases, shape⟩ := exists_cased upper filled small
    have later := fun c member => small c (List.mem_cons_of_mem first member)
    rw [shape]
    refine ⟨?_, List.cons_ne_nil _ _, lowerChars_capital cases later, fun other => ?_⟩
    · exact List.forall_mem_cons.mpr
        ⟨Identifier.not_isSeparator_of_isLetter cases.letters.2, solid_of_small later⟩
    · rw [cased, cased, if_pos upper, List.head?_cons, Option.any_some, cases.upper.2, if_pos rfl]
  · have shape : cased segment form = form := by rw [cased, if_neg upper]
    rw [shape]
    refine ⟨solid_of_small small, filled, lowerChars_small small, fun other => ?_⟩
    obtain ⟨first, rest, rfl⟩ := List.exists_cons_of_ne_nil filled
    obtain ⟨capital, cases⟩ := exists_capital (small first List.mem_cons_self)
    rw [cased, cased, if_neg upper, List.head?_cons, Option.any_some, cases.upper.1,
      if_neg Bool.false_ne_true]

private theorem find?_of_nodup {α β : Type} [BEq β] [LawfulBEq β] {list : List α} {key : α → β}
    {x : α}
    (once : (list.map key).Nodup) (member : x ∈ list) :
    (list.find? fun other => key other == key x) = some x := by
  cases found : list.find? fun other => key other == key x with
  | none =>
    have missed := List.find?_eq_none.mp found x member
    simp at missed
  | some other =>
    have same := List.find?_some found
    rw [beq_iff_eq] at same
    rw [List.inj_on_of_nodup_map once (List.mem_of_find?_eq_some found) member same]

/-- Tables in which no word stands twice. -/
structure RuleSet.Tidy (rules : RuleSet) : Prop where
  singulars : (rules.irregular.map (lowerChars ·.1.toList)).Nodup
  plurals : (rules.irregular.map (lowerChars ·.2.toList)).Nodup
  sides : ∀ pair ∈ rules.irregular, ∀ other ∈ rules.irregular,
    lowerChars pair.1.toList ≠ lowerChars other.2.toList
  forms : ∀ pair ∈ rules.irregular, rules.isUninflected (lowerChars pair.1.toList) = false ∧
    rules.isUninflected (lowerChars pair.2.toList) = false

theorem RuleSet.tidy_of_nodup (once : rules.listed.Nodup) : rules.Tidy := by
  rw [listed, List.nodup_append', List.nodup_append'] at once
  obtain ⟨⟨-, singulars, apart⟩, plurals, apart'⟩ := once
  refine ⟨singulars, plurals, fun pair member other inside same => ?_, fun pair member => ?_⟩
  · exact apart' (List.mem_append_right _ (List.mem_map.mpr ⟨pair, member, rfl⟩))
      (List.mem_map.mpr ⟨other, inside, same.symm⟩)
  · rw [← Bool.not_eq_true, isUninflected_iff, ← Bool.not_eq_true, isUninflected_iff]
    constructor
    · rintro ⟨form, inside, same⟩
      exact apart (List.mem_map.mpr ⟨form, inside, same⟩) (List.mem_map.mpr ⟨pair, member, rfl⟩)
    · rintro ⟨form, inside, same⟩
      exact apart' (List.mem_append_left _ (List.mem_map.mpr ⟨form, inside, same⟩))
        (List.mem_map.mpr ⟨pair, member, rfl⟩)

variable {pair : String × String}

private theorem RuleSet.Tidy.pluralOf_eq (tidy : rules.Tidy) (member : pair ∈ rules.irregular) :
    rules.pluralOf? (lowerChars pair.1.toList) = some pair.2.toList ∧
      rules.singularOf? (lowerChars pair.1.toList) = none := by
  constructor
  · have once : (rules.irregular.reverse.map (lowerChars ·.1.toList)).Nodup := by
      rw [List.map_reverse]
      exact List.nodup_reverse.mpr tidy.singulars
    rw [pluralOf?, find?_of_nodup once (List.mem_reverse.mpr member)]
    rfl
  · rw [Option.eq_none_iff_forall_ne_some]
    intro form found
    obtain ⟨other, inside, same, -⟩ := exists_of_singularOf found
    exact tidy.sides pair member other inside same.symm

private theorem RuleSet.Tidy.singularOf_eq (tidy : rules.Tidy) (member : pair ∈ rules.irregular) :
    rules.singularOf? (lowerChars pair.2.toList) = some pair.1.toList ∧
      rules.pluralOf? (lowerChars pair.2.toList) = none := by
  constructor
  · have once : (rules.irregular.reverse.map (lowerChars ·.2.toList)).Nodup := by
      rw [List.map_reverse]
      exact List.nodup_reverse.mpr tidy.plurals
    rw [singularOf?, find?_of_nodup once (List.mem_reverse.mpr member)]
    rfl
  · rw [Option.eq_none_iff_forall_ne_some]
    intro form found
    obtain ⟨other, inside, same, -⟩ := exists_of_pluralOf found
    exact tidy.sides other inside pair member same

/-- A listed singular goes to its plural, and is in the singular, whatever the rules. -/
theorem RuleSet.Tidy.formBy_singular (tidy : rules.Tidy) (member : pair ∈ rules.irregular)
    (same : lowerChars segment = lowerChars pair.1.toList) (change : List Char → Option (List Char)) :
    rules.formBy rules.pluralOf? rules.singularOf? change segment = cased segment pair.2.toList ∧
      rules.formBy rules.singularOf? rules.pluralOf? change segment = segment := by
  obtain ⟨plural, singular⟩ := tidy.pluralOf_eq member
  unfold formBy
  dsimp only
  rw [same, (tidy.forms pair member).1, plural, singular]
  exact ⟨rfl, rfl⟩

/-- A listed plural goes to its singular, and is in the plural, whatever the rules. -/
theorem RuleSet.Tidy.formBy_plural (tidy : rules.Tidy) (member : pair ∈ rules.irregular)
    (same : lowerChars segment = lowerChars pair.2.toList) (change : List Char → Option (List Char)) :
    rules.formBy rules.singularOf? rules.pluralOf? change segment = cased segment pair.1.toList ∧
      rules.formBy rules.pluralOf? rules.singularOf? change segment = segment := by
  obtain ⟨singular, plural⟩ := tidy.singularOf_eq member
  unfold formBy
  dsimp only
  rw [same, (tidy.forms pair member).2, plural, singular]
  exact ⟨rfl, rfl⟩

/-- A listed singular goes to its plural. -/
theorem RuleSet.Tidy.pluralForm_singular (tidy : rules.Tidy) (member : pair ∈ rules.irregular)
    (same : lowerChars segment = lowerChars pair.1.toList) :
    rules.pluralForm segment = cased segment pair.2.toList :=
  (tidy.formBy_singular member same (changeOf rules.plural)).1

/-- A listed plural goes to its singular, and is in the plural. -/
theorem RuleSet.Tidy.forms_plural (tidy : rules.Tidy) (member : pair ∈ rules.irregular)
    (same : lowerChars segment = lowerChars pair.2.toList) :
    rules.singularForm segment = cased segment pair.1.toList ∧ rules.pluralForm segment = segment :=
  ⟨(tidy.formBy_plural member same (changeOf rules.singular)).1,
    (tidy.formBy_plural member same (changeOf rules.plural)).2⟩

end Scaffold.Inflection
