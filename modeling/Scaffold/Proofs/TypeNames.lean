import Scaffold.Proofs.Lowering
import Scaffold.Schema.DeclaredType

/-! The normal form of a declared type. A text that is in lower case, closes none of its parentheses, has no
modifier as a word of its own and is spaced by single spaces is its own normal form, and every normal form is
such a text. So a type and its normal form are of one kind, and what is in parentheses has no part in it. -/
namespace Scaffold.Schema

open Text

variable {c : Char} {cs more word declared : List Char} {inside : Bool}

/-- A character between the words of a declared type. -/
def isBreak (c : Char) : Bool :=
  !isWord c

/-- A declared type with nothing left to take out. -/
structure IsNormal (cs : List Char) : Prop where
  lowered : ∀ c ∈ cs, Lowered c
  unclosed : ¬['(', ')'].Sublist cs
  unmodified : ∀ word ∈ modifiers, ¬StandsIn isBreak word cs
  blanks : ∀ c ∈ cs, isBlank c = true → c = ' '
  spaced : Spaced ' ' cs

private theorem isBreak_of_isBlank (blank : isBlank c = true) : isBreak c = true := by
  rw [isBreak, Bool.not_eq_true', ← Bool.not_eq_true]
  intro word
  have letter : isLetter c = true := by
    refine isLetter_iff.mpr ⟨word, ?_⟩
    rintro rfl
    revert blank
    decide
  exact not_isLetter_of_isBlank blank letter

private theorem modifiers_solid :
    ∀ word ∈ modifiers, word ≠ [] ∧ ∀ c ∈ word, isBreak c = false := by
  have solid : (modifiers.all fun word => !word.isEmpty && word.all (!isBreak ·)) = true := by decide
  intro word listed
  simpa using List.all_eq_true.mp solid word listed

/-! ## Arguments -/

private theorem mem_blankArguments (member : c ∈ blankArguments inside cs) : c = ' ' ∨ c ∈ cs := by
  induction cs generalizing inside with
  | nil => cases member
  | cons d rest ih =>
    have later : ∀ {inside}, c ∈ blankArguments inside rest → c = ' ' ∨ c ∈ d :: rest := fun member =>
      (ih member).imp_right (List.mem_cons_of_mem _)
    unfold blankArguments at member
    split at member
    · exact later member
    · split at member
      · rcases List.mem_cons.mp member with same | member
        · exact .inl same
        · exact later member
      · rcases List.mem_cons.mp member with rfl | member
        · exact .inr (.head _)
        · exact later member

/-- No parenthesis that is left open is closed later on. -/
theorem open_blankArguments : ¬['(', ')'].Sublist (blankArguments inside cs) := by
  induction cs generalizing inside with
  | nil => simp [blankArguments]
  | cons c rest ih =>
    unfold blankArguments
    split
    · exact ih
    · split
      · intro closed
        rcases List.sublist_cons_iff.mp closed with later | ⟨_, same, -⟩
        · exact ih later
        · cases same
      · rename_i unclosed
        intro closed
        rcases List.sublist_cons_iff.mp closed with later | ⟨tail, same, ends⟩
        · exact ih later
        · cases same
          rcases mem_blankArguments (List.singleton_sublist.mp ends) with blank | among
          · cases blank
          · exact unclosed (by simpa using among)

private theorem blankArguments_of_open (unclosed : ¬['(', ')'].Sublist cs) :
    blankArguments false cs = cs := by
  induction cs with
  | nil => rfl
  | cons c rest ih =>
    have later : ¬['(', ')'].Sublist rest := fun closed => unclosed (closed.cons _)
    have plain : ¬(c == '(' && rest.contains ')') = true := by
      rw [Bool.and_eq_true, beq_iff_eq, List.contains_iff_mem]
      rintro ⟨rfl, among⟩
      exact unclosed ((List.singleton_sublist.mpr among).cons_cons _)
    rw [blankArguments, if_neg Bool.false_ne_true, if_neg plain, ih later]

private theorem blankArguments_append (unopened : '(' ∉ cs) :
    blankArguments false (cs ++ more) = cs ++ blankArguments false more := by
  induction cs with
  | nil => rfl
  | cons c rest ih =>
    rw [List.mem_cons, not_or] at unopened
    have plain : ¬(c == '(' && (rest ++ more).contains ')') = true := by
      rw [Bool.and_eq_true, beq_iff_eq]
      exact fun opens => unopened.1 opens.1.symm
    rw [List.cons_append, blankArguments, if_neg Bool.false_ne_true, if_neg plain, ih unopened.2,
      List.cons_append]

/-- Everything up to the next closing parenthesis is left out. -/
theorem blankArguments_inside (unclosed : ')' ∉ cs) :
    blankArguments true (cs ++ ')' :: more) = blankArguments false more := by
  induction cs with
  | nil => rfl
  | cons c rest ih =>
    rw [List.mem_cons, not_or] at unclosed
    have goes : (c != ')') = true := bne_iff_ne.mpr (Ne.symm unclosed.1)
    rw [List.cons_append, blankArguments, if_pos rfl, goes, ih unclosed.2]

/-! ## Modifiers -/

private theorem mem_closeWord (member : c ∈ closeWord word) : c = ' ' ∨ c ∈ word := by
  unfold closeWord at member
  split at member
  · exact .inl (List.mem_singleton.mp member)
  · exact .inr (List.mem_reverse.mp member)

private theorem mem_blankModifiers (member : c ∈ blankModifiers word cs) :
    c = ' ' ∨ c ∈ word ∨ c ∈ cs := by
  induction cs generalizing word with
  | nil => exact (mem_closeWord member).imp_right .inl
  | cons d rest ih =>
    unfold blankModifiers at member
    split at member
    · rcases ih member with blank | inside | later
      · exact .inl blank
      · rcases List.mem_cons.mp inside with rfl | inside
        · exact .inr (.inr (.head _))
        · exact .inr (.inl inside)
      · exact .inr (.inr (.tail _ later))
    · rcases List.mem_append.mp member with closed | member
      · exact (mem_closeWord closed).imp_right .inl
      · rcases List.mem_cons.mp member with rfl | member
        · exact .inr (.inr (.head _))
        · rcases ih member with blank | inside | later
          · exact .inl blank
          · cases inside
          · exact .inr (.inr (.tail _ later))

private theorem words_closeWord (solid : ∀ c ∈ word, isBreak c = false) :
    words isBreak (closeWord word) = (words isBreak word.reverse).filter (!modifiers.contains ·) := by
  have solid' : ∀ c ∈ word.reverse, isBreak c = false := fun c member => solid c (List.mem_reverse.mp member)
  unfold closeWord
  by_cases none : word = []
  · subst none
    decide
  · have filled : word.reverse ≠ [] := by simpa using none
    rw [words_of_solid filled solid']
    split
    · rename_i listed
      rw [List.filter_cons_of_neg (by simpa using listed)]
      decide +kernel
    · rename_i missing
      rw [words_of_solid filled solid', List.filter_cons_of_pos (by simpa using missing)]
      rfl

/-- The words that are no modifiers stay, and no others do. -/
theorem words_blankModifiers (solid : ∀ c ∈ word, isBreak c = false) :
    words isBreak (blankModifiers word cs) =
      (words isBreak (word.reverse ++ cs)).filter (!modifiers.contains ·) := by
  induction cs generalizing word with
  | nil =>
    rw [List.append_nil]
    exact words_closeWord solid
  | cons c rest ih =>
    unfold blankModifiers
    split
    · rename_i inside
      have solid' : ∀ d ∈ c :: word, isBreak d = false :=
        List.forall_mem_cons.mpr ⟨by simp [isBreak, inside], solid⟩
      rw [ih solid', List.reverse_cons, List.append_assoc, List.singleton_append]
    · rename_i outside
      have marked : isBreak c = true := by simpa [isBreak] using outside
      have alone := @ih [] nofun
      rw [List.reverse_nil, List.nil_append] at alone
      rw [words_append marked, words_append marked, List.filter_append, words_closeWord solid, alone]

private theorem closeWord_of_unmodified (solid : ∀ c ∈ word, isBreak c = false)
    (unmodified : ∀ other ∈ words isBreak word.reverse, other ∉ modifiers) :
    closeWord word = word.reverse := by
  rw [closeWord, if_neg]
  rw [List.contains_iff_mem]
  intro listed
  refine unmodified word.reverse ?_ listed
  rw [words_of_solid (modifiers_solid _ listed).1 fun c member => solid c (List.mem_reverse.mp member)]
  exact List.mem_cons_self

private theorem blankModifiers_of_unmodified (solid : ∀ c ∈ word, isBreak c = false)
    (unmodified : ∀ other ∈ words isBreak (word.reverse ++ cs), other ∉ modifiers) :
    blankModifiers word cs = word.reverse ++ cs := by
  induction cs generalizing word with
  | nil =>
    rw [List.append_nil] at unmodified ⊢
    exact closeWord_of_unmodified solid unmodified
  | cons c rest ih =>
    unfold blankModifiers
    split
    · rename_i inside
      have further : (c :: word).reverse ++ rest = word.reverse ++ c :: rest := by simp
      rw [ih (List.forall_mem_cons.mpr ⟨by simp [isBreak, inside], solid⟩) (by rwa [further]), further]
    · rename_i outside
      rw [words_append (by simpa [isBreak] using outside), List.forall_mem_append] at unmodified
      rw [closeWord_of_unmodified solid unmodified.1, ih (List.forall_mem_nil _) unmodified.2,
        List.reverse_nil, List.nil_append]

/-! ## Parentheses -/

def isParenthesis (c : Char) : Bool :=
  c == '(' || c == ')'

/-- Only the parentheses of a text decide whether one is closed. -/
theorem open_iff : ¬['(', ')'].Sublist cs ↔ ¬['(', ')'].Sublist (cs.filter isParenthesis) :=
  not_congr ⟨fun closed => closed.filter isParenthesis, fun closed => closed.trans List.filter_sublist⟩

/-- A parenthesis stands between words, and is no white space. -/
theorem isBreak_of_isParenthesis (parenthesis : isParenthesis c = true) :
    isBreak c = true ∧ isBlank c = false := by
  rcases Bool.or_eq_true_iff.mp parenthesis with opens | closes
  · rw [beq_iff_eq.mp opens]
    decide +kernel
  · rw [beq_iff_eq.mp closes]
    decide +kernel

private theorem isParenthesis_of_solid (solid : isBreak c = false) : isParenthesis c = false := by
  rw [← Bool.not_eq_true]
  exact fun parenthesis => Bool.eq_false_iff.mp solid (isBreak_of_isParenthesis parenthesis).1

private theorem isParenthesis_of_isBlank (blank : isBlank c = true) : isParenthesis c = false := by
  rw [← Bool.not_eq_true]
  exact fun parenthesis => Bool.eq_false_iff.mp (isBreak_of_isParenthesis parenthesis).2 blank

private theorem filter_blankModifiers (solid : ∀ c ∈ word, isBreak c = false) :
    (blankModifiers word cs).filter isParenthesis = cs.filter isParenthesis := by
  have closed : ∀ {word : List Char}, (∀ c ∈ word, isBreak c = false) →
      (closeWord word).filter isParenthesis = [] := by
    intro word solid
    refine List.filter_eq_nil_iff.mpr fun c member => ?_
    rcases mem_closeWord member with rfl | inside
    · decide
    · simp [isParenthesis_of_solid (solid c inside)]
  induction cs generalizing word with
  | nil => exact closed solid
  | cons c rest ih =>
    unfold blankModifiers
    split
    · rename_i inside
      have marked : isBreak c = false := by simp [isBreak, inside]
      rw [ih (List.forall_mem_cons.mpr ⟨marked, solid⟩),
        List.filter_cons_of_neg (by simp [isParenthesis_of_solid marked])]
    · rw [List.filter_append, closed solid, List.nil_append, List.filter_cons, List.filter_cons,
        ih (List.forall_mem_nil _)]

/-! ## The normal form -/

/-- A normal form is the words of a type, after its arguments and its modifiers are gone, one space apart. -/
theorem normalChars_eq : normalChars declared = [' '].intercalate
    (words isBlank (blankModifiers [] (blankArguments false (lowerChars declared)))) :=
  stripBy_collapse (by decide)

private theorem mem_normalChars (member : c ∈ normalChars declared) :
    c = ' ' ∨ c ∈ lowerChars declared := by
  rcases mem_collapse (mem_stripBy member) with blank | ⟨among, -⟩
  · exact .inl blank
  · rcases mem_blankModifiers among with blank | inside | among
    · exact .inl blank
    · cases inside
    · exact mem_blankArguments among

private theorem isNormal_normalChars (declared : List Char) : IsNormal (normalChars declared) := by
  have blank : isBlank ' ' = true := by decide
  constructor
  · intro c member
    rcases mem_normalChars member with rfl | among
    · decide +kernel
    · exact lowered_of_mem_lowerChars among
  · have kept : (normalChars declared).filter isParenthesis =
        (blankArguments false (lowerChars declared)).filter isParenthesis := by
      unfold normalChars
      dsimp only
      rw [filter_stripBy fun _ => isParenthesis_of_isBlank,
        filter_collapse (isParenthesis_of_isBlank blank) fun _ => isParenthesis_of_isBlank,
        filter_blankModifiers (List.forall_mem_nil _)]
    rw [open_iff, kept, ← open_iff]
    exact open_blankArguments
  · intro word listed stands
    obtain ⟨filled, solid⟩ := modifiers_solid word listed
    have member := mem_words_of_standsIn filled solid stands
    have either : (fun c => isBlank c || isBreak c) = isBreak := by
      funext c
      cases found : isBlank c with
      | true => rw [Bool.true_or, isBreak_of_isBlank found]
      | false => rw [Bool.false_or]
    unfold normalChars at member
    dsimp only at member
    rw [words_stripBy fun _ => isBreak_of_isBlank, words_collapse (isBreak_of_isBlank blank), either,
      words_blankModifiers (List.forall_mem_nil _)] at member
    have missing := (List.mem_filter.mp member).2
    simp [listed] at missing
  · intro c member isBlank
    rcases mem_collapse (mem_stripBy member) with same | ⟨-, solid⟩
    · exact same
    · rw [solid] at isBlank
      cases isBlank
  · rw [normalChars_eq]
    refine spaced_intercalate fun word member => ⟨(mem_words member).1, fun inside => ?_⟩
    have solid := ((mem_words member).2 _ inside).1
    rw [blank] at solid
    cases solid

private theorem normalChars_of_isNormal (normal : IsNormal cs) : normalChars cs = cs := by
  have unmodified : ∀ word ∈ words isBreak ([].reverse ++ cs), word ∉ modifiers := fun word member listed =>
    normal.unmodified word listed (standsIn_of_mem_words member)
  rw [normalChars_eq, lowerChars_lowered normal.lowered, blankArguments_of_open normal.unclosed,
    blankModifiers_of_unmodified (List.forall_mem_nil _) unmodified]
  exact intercalate_words normal.blanks normal.spaced

/-- The normal texts are those that are their own normal form. -/
theorem normalType_eq_self_iff {declared : String} :
    normalType declared = declared ↔ IsNormal declared.toList := by
  constructor
  · intro same
    rw [← same, normalType, String.toList_ofList]
    exact isNormal_normalChars _
  · intro normal
    rw [normalType, normalChars_of_isNormal normal, String.ofList_toList]

/-- Arguments behind a text without an opening parenthesis come to a space. -/
theorem normalChars_arguments {before arguments after : List Char} (unopened : '(' ∉ before)
    (unclosed : ')' ∉ arguments) :
    normalChars (before ++ '(' :: (arguments ++ ')' :: after)) = normalChars (before ++ ' ' :: after) := by
  have walls : IsWall '(' ∧ IsWall ')' ∧ IsWall ' ' := by decide +kernel
  have unopened' : '(' ∉ lowerChars before := fun member =>
    unopened (mem_of_mem_lowerChars member (by unfold isRaised; decide))
  have unclosed' : ')' ∉ lowerChars arguments := fun member =>
    unclosed (mem_of_mem_lowerChars member (by unfold isRaised; decide))
  have removed : blankArguments false ('(' :: (lowerChars arguments ++ ')' :: lowerChars after)) =
      blankArguments false (' ' :: lowerChars after) := by
    have closes : ('(' == '(' && (lowerChars arguments ++ ')' :: lowerChars after).contains ')') = true := by
      simp
    rw [blankArguments, if_neg Bool.false_ne_true, if_pos closes, blankArguments_inside unclosed']
    rfl
  unfold normalChars
  rw [lowerChars_wall walls.1, lowerChars_wall walls.2.1, lowerChars_wall walls.2.2,
    blankArguments_append unopened', blankArguments_append unopened', removed]

/-- The normal form of a declared type is normal and its own normal form, so a type and its normal form get
the same kind of field from every map of types; and arguments in parentheses are no more than a space. -/
theorem declared_types_normal :
    (∀ declared : String,
      normalType (normalType declared) = normalType declared ∧ IsNormal (normalType declared).toList ∧
        ∀ types : TypeMap, fieldKind types declared = fieldKind types (normalType declared)) ∧
    ∀ before arguments after : String, '(' ∉ before.toList → ')' ∉ arguments.toList →
      normalType (before ++ "(" ++ arguments ++ ")" ++ after) = normalType (before ++ " " ++ after) := by
  refine ⟨fun declared => ?_, fun before arguments after unopened unclosed => ?_⟩
  · have normal : IsNormal (normalType declared).toList := by
      rw [normalType, String.toList_ofList]
      exact isNormal_normalChars _
    have settled := normalType_eq_self_iff.mpr normal
    refine ⟨settled, normal, fun types => ?_⟩
    rw [fieldKind, fieldKind, settled]
  · have arranged : (before ++ "(" ++ arguments ++ ")" ++ after).toList =
        before.toList ++ '(' :: (arguments.toList ++ ')' :: after.toList) := by simp
    have blank : (before ++ " " ++ after).toList = before.toList ++ ' ' :: after.toList := by simp
    rw [normalType, normalType, arranged, blank, normalChars_arguments unopened unclosed]

/-- Arguments that open a parenthesis of their own, and a parenthesis behind them that is never closed. -/
theorem declared_types_normal_decimal : '(' ∉ "Unsigned DECIMAL".toList ∧ ')' ∉ "10,(2".toList ∧
    (normalType (normalType "İSigned(1)(x") = normalType "İSigned(1)(x" ∧
      IsNormal (normalType "İSigned(1)(x").toList ∧
      ∀ types : TypeMap, fieldKind types "İSigned(1)(x" = fieldKind types (normalType "İSigned(1)(x")) ∧
    normalType ("Unsigned DECIMAL" ++ "(" ++ "10,(2" ++ ")" ++ "zerofill(3") =
      normalType ("Unsigned DECIMAL" ++ " " ++ "zerofill(3") := by
  have unopened : '(' ∉ "Unsigned DECIMAL".toList := by decide +kernel
  have unclosed : ')' ∉ "10,(2".toList := by decide +kernel
  exact ⟨unopened, unclosed, declared_types_normal.1 _, declared_types_normal.2 _ _ _ unopened unclosed⟩

end Scaffold.Schema
