import Scaffold.Proofs.Enclosing
import Scaffold.Proofs.Matching

/-! Which requests get names that can be used. A name with a letter has one in all its spellings, and the
plural rules of every language keep one. The singular rules keep one too, but for those that take an
ending away and put nothing in its place: a table whose name has no other letters than such an ending is
left without a name. Nothing else is. -/
namespace Scaffold

open Files Text

namespace Inflection

variable {rule : Rule} {rules : RuleSet} {word form lead segment : List Char} {name : List Char}

/-! ## One rule -/

/-- Whether a rule leaves a letter in every word that it changes. -/
def Rule.leavesLetter (rule : Rule) : Bool :=
  rule.replacement.any fun
    | .text s => s.toList.any isLetter
    | .kept => rule.pattern.keepsLetter

private theorem Rule.lettered_of_leavesLetter {before read : List Char} {last : Place}
    (leaves : rule.leavesLetter = true) (applies : rule.Applies word form before read last) :
    Lettered form := by
  obtain ⟨part, member, filled⟩ := List.any_eq_true.mp leaves
  have lettered : Lettered (rule.fill last.kept) := by
    cases part with
    | text s =>
      obtain ⟨c, inside, letter⟩ := List.any_eq_true.mp filled
      exact ⟨c, List.mem_flatMap.mpr ⟨_, member, inside⟩, letter⟩
    | kept =>
      have kept := Pattern.lettered_of_keepsLetter filled applies.ends
      exact kept.mono fun c inside => List.mem_flatMap.mpr ⟨_, member, inside⟩
  rw [applies.form_eq, lettered_append, lettered_append]
  exact .inl (.inr lettered)

/-! ## The rules of all languages -/

/-- The endings that the singular rules of a language take away without putting anything in their
place, also when they have nothing before them. -/
def bareEndings (rules : RuleSet) : List String :=
  match rules.language with
  | "spanish" => ["es", "s"]
  | "turkish" => ["lar", "ler"]
  | "norwegian-bokmal" => ["er"]
  | _ => ["s"]

/-- What the rules of a language do with letters. -/
structure RuleSet.Keeps (rules : RuleSet) : Prop where
  plural : ∀ rule ∈ rules.plural, rule.leavesLetter = true
  singular : ∀ rule ∈ rules.singular,
    rule.leavesLetter = true ∨ rule.readsEnding (bareEndings rules) = true
  irregular : ∀ pair ∈ rules.irregular,
    pair.1.toList.any isLetter = true ∧ pair.2.toList.any isLetter = true

private theorem RuleSet.Keeps.lettered_pluralOf {key : List Char} (keeps : rules.Keeps)
    (found : rules.pluralOf? key = some form) : Lettered form := by
  obtain ⟨pair, among, rfl⟩ := Option.map_eq_some_iff.mp found
  have member := List.mem_reverse.mp (List.mem_of_find?_eq_some among)
  exact List.any_eq_true.mp (keeps.irregular pair member).2

private theorem RuleSet.Keeps.lettered_singularOf {key : List Char} (keeps : rules.Keeps)
    (found : rules.singularOf? key = some form) : Lettered form := by
  obtain ⟨pair, among, rfl⟩ := Option.map_eq_some_iff.mp found
  have member := List.mem_reverse.mp (List.mem_of_find?_eq_some among)
  exact List.any_eq_true.mp (keeps.irregular pair member).1

private theorem keeps_of_mem_languages : ∀ entry ∈ languages, entry.2.Keeps := by
  have checked : ∀ entry ∈ languages, (∀ rule ∈ entry.2.plural, rule.leavesLetter = true) ∧
      (∀ rule ∈ entry.2.singular,
        rule.leavesLetter = true ∨ rule.readsEnding (bareEndings entry.2) = true) ∧
      ∀ pair ∈ entry.2.irregular,
        pair.1.toList.any isLetter = true ∧ pair.2.toList.any isLetter = true := by
    decide +kernel
  intro entry member
  obtain ⟨plural, singular, irregular⟩ := checked entry member
  exact ⟨plural, singular, irregular⟩

private theorem keeps_of_rulesFor {language : Option String}
    (selected : rulesFor? language = some rules) :
    rules.Keeps := by
  have standard : english.Keeps := keeps_of_mem_languages ("en", english) List.mem_cons_self
  unfold rulesFor? at selected
  split at selected
  · exact Option.some.inj selected ▸ standard
  · split at selected
    · exact Option.some.inj selected ▸ standard
    · rename_i name _
      exact keeps_of_mem_languages (languageKey name, rules) (Data.mem_of_lookup selected)

/-- A name falls into its two parts, but for a line break at its end. -/
theorem lastSegment_eq (parts : lastSegment name = (lead, segment)) :
    name = lead ++ segment ∨ name = lead ++ segment ++ ['\n'] := by
  unfold lastSegment at parts
  dsimp only at parts
  generalize trimmed : (if name.getLast? == some '\n' then name.dropLast else name) = body at parts
  have onto : name = body ∨ name = body ++ ['\n'] := by
    split at trimmed
    · rename_i last
      obtain ⟨init, rfl⟩ := List.getLast?_eq_some_iff.mp (beq_iff_eq.mp last)
      rw [List.dropLast_concat] at trimmed
      exact .inr (by rw [trimmed])
    · exact .inl trimmed
  have back : (body.reverse.takeWhile fun c => !Identifier.isSeparator c).reverse <:+ body := by
    rw [← List.reverse_prefix, List.reverse_reverse]
    exact List.takeWhile_prefix _
  split at parts
  · cases parts
    exact .inl rfl
  · cases parts
    rw [List.suffix_iff_eq_append.mp back]
    exact onto

/-- The text is nothing but an ending that the singular rules take away, behind characters that are no
letters. -/
def Bare (rules : RuleSet) (name : List Char) : Prop :=
  ∃ lead ending, name = lead ++ ending ∧ ¬Lettered lead ∧
    ∃ text ∈ bareEndings rules, Spells text.toList ending

/-- A name with a letter keeps one under inflection, or a regular rule has left none of its last
part. -/
theorem RuleSet.lettered_inflect {known already : List Char → Option (List Char)}
    {regular : List Rule} (lettered : Lettered name)
    (irregular : ∀ key form, known key = some form → Lettered form) :
    Lettered (rules.inflect known already regular name) ∨
      ∃ lead segment form, lastSegment name = (lead, segment) ∧ ¬Lettered lead ∧ ¬Lettered form ∧
        ∃ rule ∈ regular, rule.inflect? segment = some form := by
  unfold RuleSet.inflect RuleSet.inflectBy
  split
  · exact .inl lettered
  · rcases lastSegment name with ⟨lead, segment⟩
    dsimp only
    split
    · exact .inl lettered
    · cases found : known (lowerChars segment) with
      | some form =>
        have lettered := irregular _ form found
        refine .inl (lettered_append.mpr (.inr ?_))
        split
        · exact lettered_upperFirstChars lettered
        · exact lettered
      | none =>
        cases inflected : changeOf regular segment with
        | none => exact .inl lettered
        | some form =>
          by_cases kept : Lettered (lead ++ form)
          · exact .inl kept
          · rw [lettered_append, not_or] at kept
            exact .inr ⟨lead, segment, form, rfl, kept.1, kept.2,
              List.exists_of_findSome?_eq_some inflected⟩

private theorem RuleSet.lettered_pluralize {name : String} (keeps : rules.Keeps)
    (lettered : Lettered name.toList) : Lettered (rules.pluralize name).toList := by
  rw [RuleSet.pluralize, String.toList_ofList]
  rcases RuleSet.lettered_inflect lettered fun _ _ => keeps.lettered_pluralOf with kept |
    ⟨lead, segment, form, -, -, lost, rule, member, inflected⟩
  · exact kept
  · obtain ⟨before, read, last, applies⟩ := Rule.applies_of_inflect inflected
    exact absurd (Rule.lettered_of_leavesLetter (keeps.plural rule member) applies) lost

/-- The singular of a name with a letter has one, unless the name is a bare ending. -/
theorem RuleSet.lettered_singularize {name : String} (keeps : rules.Keeps)
    (lettered : Lettered name.toList) (trimmed : name.toList.getLast? ≠ some '\n') :
    Lettered (rules.singularize name).toList ∨ Bare rules name.toList := by
  rw [RuleSet.singularize, String.toList_ofList]
  rcases RuleSet.lettered_inflect lettered fun _ _ => keeps.lettered_singularOf with kept |
    ⟨lead, segment, form, parts, bare, lost, rule, member, inflected⟩
  · exact .inl kept
  · obtain ⟨before, read, last, applies⟩ := Rule.applies_of_inflect inflected
    rcases keeps.singular rule member with leaves | readsEnding
    · exact absurd (Rule.lettered_of_leavesLetter leaves applies) lost
    · obtain ⟨⟨text, among, spells⟩, ended⟩ := Rule.exists_of_readsEnding readsEnding applies
      rw [applies.form_eq, lettered_append, lettered_append, not_or, not_or] at lost
      have whole : name.toList = lead ++ (before ++ read ++ last.after) := by
        rw [← applies.word_eq]
        rcases lastSegment_eq parts with same | broken
        · exact same
        · rw [broken] at trimmed
          simp at trimmed
      have closed : last.after = [] := by
        rcases ended with none | broken
        · exact none
        · rw [whole, broken] at trimmed
          simp at trimmed
      refine .inr ⟨lead ++ before, read, ?_, ?_, text, among, spells⟩
      · rw [whole, closed, List.append_nil, List.append_assoc]
      · rw [lettered_append, not_or]
        exact ⟨bare, lost.1.1⟩

end Inflection

/-! ## Accepted requests -/

namespace Text

private theorem getLast?_stripBy {drop : Char → Bool} {cs : List Char} {c : Char}
    (last : (stripBy drop cs).getLast? = some c) : drop c = false := by
  rw [stripBy, List.getLast?_reverse] at last
  have first := List.head?_dropWhile_not drop (cs.dropWhile drop).reverse
  rwa [last] at first

end Text

namespace Request

open Data Validation

private theorem trimmed_of_readTableName {value : Value} {name : String}
    (read : readTableName value = .ok name) : name.toList.getLast? ≠ some '\n' := by
  unfold readTableName at read
  split at read
  · dsimp only at read
    split at read
    · cases read
    · cases read
      rw [Text.strip, String.toList_ofList]
      intro last
      exact absurd (Text.getLast?_stripBy last) (by decide)
  · cases read

/-- The table name of an accepted request does not end with a line break. -/
theorem tableName_trimmed {entries : Entries} {request : Request}
    (accepted : ofEntries entries = .ok request) : request.tableName.toList.getLast? ≠ some '\n' := by
  have field : readField entries "table_name" (.error .absent) readTableName =
      .ok request.tableName := by
    unfold ofEntries at accepted
    dsimp only at accepted
    split at accepted
    · rename_i table _ _ _ found _ _ _ _
      cases accepted
      exact found
    · cases accepted
  unfold readField at field
  split at field
  · rename_i name found
    cases field
    cases given : entries.get? "table_name" with
    | none =>
      rw [given] at found
      cases found
    | some value =>
      rw [given] at found
      exact trimmed_of_readTableName found
  · cases field

end Request

namespace Naming

open Config Data Inflection

variable {rules : RuleSet} {request : Request}

/-- Names none of which is empty, of those that classes, files and folders are called by. -/
structure Usable (naming : Naming) : Prop where
  className : naming.className ≠ ""
  snakeName : naming.snakeName ≠ ""
  pluralSnakeName : naming.pluralSnakeName ≠ ""
  viewFolder : naming.viewFolder ≠ ""

/-- When the class name has a letter, all names can be used. -/
theorem usable_of_lettered (keeps : rules.Keeps)
    (lettered : Lettered (classNameOf rules request).toList) : (resolve rules request).Usable where
  className := by
    intro empty
    have bare : classNameOf rules request = "" := empty
    rw [bare] at lettered
    obtain ⟨c, member, -⟩ := lettered
    cases member
  snakeName empty := Identifier.snake_eq_empty_iff.mp empty lettered
  pluralSnakeName empty :=
    Identifier.snake_eq_empty_iff.mp empty (RuleSet.lettered_pluralize keeps lettered)
  viewFolder empty := Identifier.kebab_eq_empty_iff.mp empty lettered

/-- The class name has a letter when what it is made of has one, unless that is a bare ending. -/
theorem lettered_classNameOf (keeps : rules.Keeps)
    (trimmed : request.tableName.toList.getLast? ≠ some '\n')
    (named : Lettered (request.classNameOverride.getD request.tableName).toList) :
    Lettered (classNameOf rules request).toList ∨
      request.classNameOverride = none ∧ Bare rules request.tableName.toList := by
  unfold classNameOf
  cases override : request.classNameOverride with
  | some name =>
    rw [override] at named
    refine .inl ?_
    change Lettered (Text.upperFirst name).toList
    rw [Text.upperFirst, String.toList_ofList]
    exact lettered_upperFirstChars named
  | none =>
    rw [override] at named
    rcases RuleSet.lettered_singularize keeps named trimmed with kept | bare
    · exact .inl (Identifier.lettered_studly kept)
    · exact .inr ⟨rfl, bare⟩

/-- With names that can be used no file is called by its ending alone, and the views have a folder of
their own. -/
theorem Usable.paths (usable : (resolve rules request).Usable) (config : Config) :
    (config.controllerPath (resolve rules request)).name ≠ "_controller.py" ∧
    (config.modelPath (resolve rules request)).name ≠ ".py" ∧
    ∀ view ∈ Generation.viewNames, ∃ rest, (config.viewPath (resolve rules request) view).names =
      (config.resolved config.viewsDir).names ++ (resolve rules request).viewFolder :: rest := by
  have longer : ∀ ending : String, (resolve rules request).snakeName ++ ending ≠ ending :=
    fun ending same => usable.snakeName (by simpa using same)
  have last : ∀ {base path : Path} {name : String}, base.Encloses [name] path → path.name = name := by
    intro base path name encloses
    rw [encloses.whole, Path.name]
    simp
  refine ⟨?_, ?_, fun view member => ?_⟩
  · rw [last (controllerPath_enclosed rules request config)]
    exact longer _
  · rw [last (modelPath_enclosed rules request config)]
    exact longer _
  · have folder := (folder_enclosed rules request config).whole
    rw [folderNames, if_neg usable.viewFolder] at folder
    obtain ⟨flat, long⟩ := viewNames_long view member
    have filled : view.toList ≠ [] := by
      intro none
      rw [String.toList_eq_nil_iff.mp none] at long
      exact absurd long (by decide)
    have further : (view ++ config.viewExtension).toList.head? ≠ some '/' := by
      rw [String.toList_append, List.head?_append_of_ne_nil _ filled]
      exact Path.head?_ne_of_flat flat
    have onward : (Path.ofString (view ++ config.viewExtension)).start = .here :=
      Path.startOf_of_plain further
    refine ⟨(Path.ofString (view ++ config.viewExtension)).names, ?_⟩
    rw [viewPath, folder]
    change (Path.append _ _).names = _
    simp [Path.append, onward]

/-- Every accepted request gets names that can be used when what its class is called after has a plain
letter or digit, unless there is nothing else in the name of its table than an ending that the singular
rules take away. Then it gets none for its files and its folder. -/
theorem accepted_names_usable {entries : Entries} (accepted : Request.ofEntries entries = .ok request)
    (selected : rulesFor? request.language = some rules)
    (named : ∃ c ∈ (request.classNameOverride.getD request.tableName).toList,
      (isCapital c || isSmall c || isDigit c) = true) :
    ((resolve rules request).Usable ∧ ∀ config : Config,
      (config.controllerPath (resolve rules request)).name ≠ "_controller.py" ∧
      (config.modelPath (resolve rules request)).name ≠ ".py" ∧
      ∀ view ∈ Generation.viewNames, ∃ rest, (config.viewPath (resolve rules request) view).names =
        (config.resolved config.viewsDir).names ++ (resolve rules request).viewFolder :: rest) ∨
    (request.classNameOverride = none ∧ Bare rules request.tableName.toList ∧
      (resolve rules request).snakeName = "" ∧ (resolve rules request).viewFolder = "") := by
  have keeps := keeps_of_rulesFor selected
  have lettered : Lettered (request.classNameOverride.getD request.tableName).toList := by
    obtain ⟨c, member, plain⟩ := named
    refine ⟨c, member, isLetter_iff.mpr ⟨?_, ?_⟩⟩
    · simp only [Bool.or_eq_true] at plain
      simp only [isWord, Bool.or_eq_true]
      exact .inl (.inl plain)
    · rintro rfl
      exact absurd plain (by decide)
  by_cases kept : Lettered (classNameOf rules request).toList
  · have usable := usable_of_lettered keeps kept
    exact .inl ⟨usable, usable.paths⟩
  · have trimmed := Request.tableName_trimmed accepted
    rcases lettered_classNameOf keeps trimmed lettered with other | ⟨derived, bare⟩
    · exact absurd other kept
    · exact .inr ⟨derived, bare, Identifier.snake_eq_empty_iff.mpr kept,
        Identifier.kebab_eq_empty_iff.mpr kept⟩

/-- The entries of a request for a table, in a language. -/
def tableEntries (tableName language : String) : Entries :=
  [(.text "table_name", .text tableName), (.text "language", .text language)]

/-- A request for a table that is called by an ending behind a digit. -/
def digitRequest : Request :=
  ⟨"7_LER", none, none, some "tr"⟩

theorem accepted_names_usable_digit : ∃ rules,
    Request.ofEntries (tableEntries "7_LER" "tr") = .ok digitRequest ∧
      rulesFor? digitRequest.language = some rules ∧ (resolve rules digitRequest).Usable := by
  have accepted : Request.ofEntries (tableEntries "7_LER" "tr") = .ok digitRequest := by
    decide +kernel
  have checked : (rulesFor? digitRequest.language).any
      (fun rules => (resolve rules digitRequest).snakeName != "") = true := by decide +kernel
  rcases selected : rulesFor? digitRequest.language with _ | rules
  · rw [selected] at checked
    cases checked
  · rw [selected, Option.any_some, bne_iff_ne] at checked
    refine ⟨rules, accepted, rfl, ?_⟩
    have digit : '7' ∈ (digitRequest.classNameOverride.getD digitRequest.tableName).toList := by
      decide +kernel
    rcases accepted_names_usable accepted selected ⟨'7', digit, by decide⟩ with
      ⟨usable, -⟩ | ⟨-, -, bare, -⟩
    · exact usable
    · exact absurd bare checked

/-- The names that some entries lead to. -/
def ofEntries? (entries : Entries) : Option Naming :=
  match Request.ofEntries entries with
  | .ok request => (rulesFor? request.language).map (resolve · request)
  | .error _ => none

/-- Tables that are called by a bare ending, each with a language in which it is one. -/
def bareTables : List (String × String) :=
  [("s", "en"), ("s", "fr"), ("s", "pt"), ("s", "es"), ("es", "es"), ("er", "nb"), ("lar", "tr"),
   ("LER", "tr")]

/-- A table that is called by a bare ending is accepted in every language, and gets no names. -/
theorem bare_endings_nameless : (bareTables.all fun (tableName, language) =>
    (tableName.toList.any fun c => isCapital c || isSmall c || isDigit c) &&
      (ofEntries? (tableEntries tableName language)).map (fun naming =>
        (naming.className, naming.snakeName, naming.pluralSnakeName, naming.viewFolder)) ==
        some ("", "", "", "")) = true := by
  decide +kernel

end Naming

end Scaffold
