import Scaffold.Proofs.Eligibility
import Scaffold.Proofs.Joining
import Scaffold.Proofs.References
import Scaffold.Proofs.Remaining

/-! That written lists and maps can be read back. How a display of plain texts in double quotes is
read is stated as a grammar, with blanks between tokens and a comma behind the last member. Every
text has one reading at most, since each member shows where it ends; and what is written has the
reading that it was made of. So a literal determines its members, also in the lines of a generated
model. -/
namespace Scaffold

open Text Files Schema Generation Scaffold.Action

/-! ## The grammar -/

namespace Text

variable {α : Type}

/-- The blanks that may stand between tokens inside brackets. -/
def blanks : List Char :=
  [' ', '\t', '\n', '\r', '\x0c']

def IsGap (cs : List Char) : Prop :=
  ∀ c ∈ cs, c ∈ blanks

/-- A text without double quotes, backslashes and line breaks, which stands for itself between
double quotes. -/
def IsUnescaped (s : String) : Prop :=
  ∀ c ∈ s.toList, c ∉ ['"', '\\', '\n', '\r']

/-- A text in double quotes. -/
inductive Quoted : List Char → String → Prop where
  | of {s : String} (simple : IsUnescaped s) : Quoted ('"' :: (s.toList ++ ['"'])) s

/-- A key and its value, both in double quotes. -/
inductive QuotedPair : List Char → String × String → Prop where
  | of {first second before after : List Char} {key value : String} (keyed : Quoted first key)
      (gap : IsGap before) (gap' : IsGap after) (valued : Quoted second value) :
      QuotedPair (first ++ (before ++ ':' :: (after ++ second))) (key, value)

/-- What stands between brackets: members with commas between them, and one behind the last if need
be. -/
inductive Members (Member : List Char → α → Prop) : List Char → List α → Prop where
  | none {gap : List Char} (blank : IsGap gap) : Members Member gap []
  | last {before member after : List Char} {a : α} (blank : IsGap before) (read : Member member a)
      (blank' : IsGap after) : Members Member (before ++ (member ++ after)) [a]
  | more {before member after rest : List Char} {a : α} {others : List α} (blank : IsGap before)
      (read : Member member a) (blank' : IsGap after) (onward : Members Member rest others) :
      Members Member (before ++ (member ++ (after ++ ',' :: rest))) (a :: others)

/-- A whole text that is a pair of brackets with members between them. -/
def Display (opening closing : Char) (Member : List Char → α → Prop) (text : String) (read : List α) :
    Prop :=
  ∃ inner, text.toList = opening :: (inner ++ [closing]) ∧ Members Member inner read

/-- The texts that a list display stands for. -/
def ListDisplay : String → List String → Prop :=
  Display '[' ']' Quoted

/-- The map that a display in braces stands for, where the last value of a key counts. -/
def MapDisplay (text : String) (map : List (String × String)) : Prop :=
  ∃ pairs, Display '\x7b' '\x7d' QuotedPair text pairs ∧ map = Data.putAll [] pairs

/-! ## One reading at most -/

/-- Members that begin with no blank and show where they end, whatever follows. -/
structure Delimited (Member : List Char → α → Prop) : Prop where
  begins : ∀ {member a}, Member member a → ∃ c cs, member = c :: cs ∧ c ∉ blanks
  ends : ∀ {first second a b rest rest'}, Member first a → Member second b →
    first ++ rest = second ++ rest' → b = a ∧ rest' = rest

variable {Member : List Char → α → Prop} {before before' first second rest rest' cs cs' : List Char}
  {c d : Char} {a b : α} {read read' : List α} {text : String}

private theorem gap_ends (blank : IsGap before) (blank' : IsGap before') (solid : c ∉ blanks)
    (solid' : d ∉ blanks) (same : before ++ c :: rest = before' ++ d :: rest') :
    d :: rest' = c :: rest := by
  induction before generalizing before' with
  | nil =>
    cases before' with
    | nil => exact same.symm
    | cons e more =>
      rw [List.nil_append, List.cons_append] at same
      exact absurd (blank' e (by simp)) ((List.cons.inj same).1 ▸ solid)
  | cons e more ih =>
    cases before' with
    | nil =>
      rw [List.nil_append, List.cons_append] at same
      exact absurd (blank e (by simp)) ((List.cons.inj same).1 ▸ solid')
    | cons f others =>
      rw [List.cons_append, List.cons_append] at same
      exact ih (fun x member => blank x (.tail _ member)) (fun x member => blank' x (.tail _ member))
        (List.cons.inj same).2

/-- Behind a gap, two readings have the same member and the same rest. -/
theorem Delimited.gap_ends (delimited : Delimited Member) (blank : IsGap before)
    (blank' : IsGap before') (readA : Member first a) (readB : Member second b)
    (same : before ++ (first ++ rest) = before' ++ (second ++ rest')) : b = a ∧ rest' = rest := by
  obtain ⟨c, cs, rfl, solid⟩ := delimited.begins readA
  obtain ⟨d, ds, rfl, solid'⟩ := delimited.begins readB
  exact delimited.ends readA readB (Text.gap_ends blank blank' solid solid' same).symm

/-- A gap has no member in it. -/
theorem Delimited.not_gap (delimited : Delimited Member) (readA : Member first a) :
    ¬ IsGap (before ++ (first ++ rest)) := by
  obtain ⟨c, cs, rfl, solid⟩ := delimited.begins readA
  exact fun blank => solid (blank c (by simp))

private theorem not_gap_comma : ¬ IsGap (before ++ ',' :: rest) :=
  fun blank => absurd (blank ',' (by simp)) (by decide)

/-- Between brackets there is one reading at most. -/
theorem Members.unique (delimited : Delimited Member) (members : Members Member cs read)
    (members' : Members Member cs' read') (same : cs = cs') : read' = read := by
  induction members generalizing cs' read' with
  | none blank =>
    cases members' with
    | none => rfl
    | last _ readB => exact absurd (same ▸ blank) (delimited.not_gap readB)
    | more _ readB => exact absurd (same ▸ blank) (delimited.not_gap readB)
  | last blank readA after =>
    cases members' with
    | none gap => exact absurd (same ▸ gap) (delimited.not_gap readA)
    | last blank' readB => rw [(delimited.gap_ends blank blank' readA readB same).1]
    | more blank' readB =>
      have behind := (delimited.gap_ends blank blank' readA readB same).2
      exact absurd (behind ▸ after) not_gap_comma
  | more blank readA after _ ih =>
    cases members' with
    | none gap => exact absurd (same ▸ gap) (delimited.not_gap readA)
    | last blank' readB after' =>
      have behind := (delimited.gap_ends blank blank' readA readB same).2
      exact absurd (behind ▸ after') not_gap_comma
    | more blank' readB after' onward' =>
      obtain ⟨sameMember, behind⟩ := delimited.gap_ends blank blank' readA readB same
      have later := Text.gap_ends after' after (by decide) (by decide) behind
      rw [sameMember, ih onward' (List.cons.inj later).2]

/-- A whole text has one reading at most. -/
theorem Display.unique {opening closing : Char} (delimited : Delimited Member)
    (display : Display opening closing Member text read)
    (display' : Display opening closing Member text read') : read' = read := by
  obtain ⟨inner, whole, members⟩ := display
  obtain ⟨inner', whole', members'⟩ := display'
  rw [whole] at whole'
  exact members.unique delimited members' (List.append_cancel_right (List.cons.inj whole').2)

private theorem quoted_delimited : Delimited Quoted where
  begins := by
    rintro _ _ ⟨simple⟩
    exact ⟨'"', _, rfl, by decide⟩
  ends := by
    rintro _ _ s t rest rest' ⟨simple⟩ ⟨simple'⟩ same
    have free : ∀ {s : String}, IsUnescaped s → ∀ c ∈ s.toList, (c != '"') = true := by
      intro s simple c member
      have other := simple c member
      simp_all
    have cut : ∀ {s : String} (rest : List Char), IsUnescaped s →
        ((s.toList ++ '"' :: rest).takeWhile (· != '"'),
          (s.toList ++ '"' :: rest).dropWhile (· != '"')) = (s.toList, '"' :: rest) := by
      intro s rest simple
      rw [List.takeWhile_append_of_pos (free simple), List.dropWhile_append_of_pos (free simple)]
      simp
    simp only [List.cons_append, List.append_assoc, List.cons.injEq, true_and, List.nil_append]
      at same
    have parted := cut rest simple
    rw [same, cut rest' simple', Prod.mk.injEq] at parted
    exact ⟨String.toList_injective parted.1, (List.cons.inj parted.2).2⟩

private theorem quotedPair_delimited : Delimited QuotedPair where
  begins := by
    rintro _ _ ⟨keyed, -, -, -⟩
    obtain ⟨c, cs, rfl, solid⟩ := quoted_delimited.begins keyed
    exact ⟨c, _, rfl, solid⟩
  ends := by
    rintro _ _ _ _ rest rest' ⟨keyed, gap, behind, valued⟩ ⟨keyed', gap', behind', valued'⟩ same
    simp only [List.append_assoc, List.cons_append] at same
    obtain ⟨sameKey, further⟩ := quoted_delimited.ends keyed keyed' same
    have colon := gap_ends gap' gap (by decide) (by decide) further
    obtain ⟨sameValue, left⟩ :=
      quoted_delimited.gap_ends behind' behind valued' valued (List.cons.inj colon).2.symm
    exact ⟨by rw [sameKey, sameValue], left.symm⟩

/-! ## What is written -/

variable {items : List α} {write : α → String} {gap : List Char} {opening closing : Char}

/-- Members that are written with commas and spaces between them read as what they are. -/
theorem members_join (reads : ∀ a ∈ items, Member (write a).toList a) (blank : IsGap gap) :
    Members Member (gap ++ (join ", " (items.map write)).toList) items := by
  induction items generalizing gap with
  | nil => simpa [join] using Members.none blank
  | cons a rest ih =>
    obtain ⟨first, later⟩ := List.forall_mem_cons.mp reads
    have nothing : IsGap [] := by simp [IsGap]
    cases rest with
    | nil => simpa [join] using Members.last blank first nothing
    | cons b others =>
      have space : IsGap [' '] := by simp [IsGap, blanks]
      have joined : (join ", " ((a :: b :: others).map write)).toList =
          (write a).toList ++ ([] ++ ',' :: ([' '] ++ (join ", " ((b :: others).map write)).toList)) := by
        simp [join, List.intercalate_cons_cons]
      rw [joined]
      exact .more blank first nothing (ih later space)

/-- A display that is written so has the reading that it was made of, and no other. -/
theorem display_iff (delimited : Delimited Member) (reads : ∀ a ∈ items, Member (write a).toList a)
    (whole : text.toList = opening :: ((join ", " (items.map write)).toList ++ [closing])) :
    Display opening closing Member text read ↔ read = items := by
  have written : Display opening closing Member text items :=
    ⟨_, whole, @members_join _ Member items write [] reads (by simp [IsGap])⟩
  constructor
  · exact written.unique delimited
  · rintro rfl
    exact written

end Text

namespace Template

variable {items items' : List String} {entries entries' : List (String × String)}

private theorem quoted_quotedIf {s : String} (simple : IsUnescaped s) :
    Quoted (quotedIf true s).toList s := by
  simpa [quotedIf, String.toList_append] using Quoted.of simple

private theorem quotedPair_entryLiteral {entry : String × String} (key : IsUnescaped entry.1)
    (value : IsUnescaped entry.2) : QuotedPair (entryLiteral true true entry).toList entry := by
  have nothing : IsGap [] := by simp [IsGap]
  have space : IsGap [' '] := by simp [IsGap, blanks]
  simpa [entryLiteral, String.toList_append] using
    QuotedPair.of (quoted_quotedIf key) nothing space (quoted_quotedIf value)

/-- The literal of a list reads as that list and as nothing else. -/
theorem listDisplay_iff (simple : ∀ item ∈ items, IsUnescaped item) (read : List String) :
    ListDisplay (listLiteral true items) read ↔ read = items := by
  refine display_iff quoted_delimited (fun item member => quoted_quotedIf (simple item member)) ?_
  simp [listLiteral, String.toList_append]

/-- The literal of a map with different keys reads as that map and as nothing else. -/
theorem mapDisplay_iff (simple : ∀ entry ∈ entries, IsUnescaped entry.1 ∧ IsUnescaped entry.2)
    (distinct : (entries.map (·.1)).Nodup) (read : List (String × String)) :
    MapDisplay (mapLiteral true true entries) read ↔ read = entries := by
  have pairs : ∀ read, Display '\x7b' '\x7d' QuotedPair (mapLiteral true true entries) read ↔
      read = entries := by
    intro read
    refine display_iff quotedPair_delimited (fun entry member =>
      quotedPair_entryLiteral (simple entry member).1 (simple entry member).2) ?_
    simp [mapLiteral, String.toList_append]
  simp only [MapDisplay, pairs, exists_eq_left, Data.putAll_of_nodup distinct]

/-! ## The lines of a model -/

variable {unwanted : List String} {types : TypeMap} {columns : List Column} {fields : List Field}

/-- A value that is put again for its key changes nothing. -/
theorem put_again (names : List String) (name value : String) :
    Data.put name value (names.map fun known => (known, value)) =
      (if name ∈ names then names else names ++ [name]).map fun known => (known, value) := by
  induction names with
  | nil => simp [Data.put]
  | cons first rest ih =>
    rw [List.map_cons, Data.put]
    by_cases same : first = name
    · simp [same]
    · have other : (first == name) = false := by simpa using same
      rw [other, ih]
      by_cases later : name ∈ rest <;> simp [later, Ne.symm same]

/-- Keys that all have one value are in the map once each, in the order in which they first came. -/
theorem putAll_same (names : List String) (value : String) :
    Data.putAll [] (names.map fun name => (name, value)) =
      names.eraseDups.map fun name => (name, value) := by
  induction names using List.reverseRecOn with
  | nil => rfl
  | append_singleton init name ih =>
    have last : Data.putAll [] ((init ++ [name]).map fun name => (name, value)) =
        Data.put name value (Data.putAll [] (init.map fun name => (name, value))) := by
      simp [Data.putAll]
    rw [last, ih, put_again, List.eraseDups_append]
    by_cases known : name ∈ init <;>
      simp [known, List.mem_eraseDups, List.removeAll, List.eraseDups_cons]

/-- The rules name each eligible column once that may not be null, in the order of the table. -/
theorem ruleEntries_names (unwanted : List String) (types : TypeMap) (columns : List Column) :
    ruleEntries ((FieldPolicy.make unwanted types).fields columns) =
      (((eligible unwanted columns).filter fun column => !column.nullable).map
        (·.name)).eraseDups.map fun name => (name, "required") := by
  rw [← putAll_same, ruleEntries, fields_make, List.filter_map, List.map_map, List.map_map]
  rfl

/-- The model has the literals of its fields and of its rules in lines of their own, which stand
before its last method. -/
theorem model_lines (naming : Naming) (config : Config) (columns : List Column) (fields : List Field)
    (kinds : KindMap) : ∃ before after,
    Body.filled (modelFilling naming config columns fields kinds) Standard.model =
      before ++ "\n\n    fillable: ClassVar[List[str]] = " ++ listLiteral true (fields.map (·.name)) ++
        "\n\n    rules: ClassVar[Dict[str, str]] = " ++ mapLiteral true true (ruleEntries fields) ++
        "\n\n    def __repr__(self) -> str:\n" ++ after := by
  let filling := modelFilling naming config columns fields kinds
  obtain ⟨front, last, parted⟩ : ∃ front last : Body, Standard.model = front ++
      ([.hole .columns, .text "\n", .text "\n", .text "    fillable: ClassVar[List[str]] = ",
        .hole .fillable, .text "\n", .text "\n", .text "    rules: ClassVar[Dict[str, str]] = ",
        .hole .rules, .text "\n", .text "\n", .text "    def __repr__(self) -> str:", .text "\n"] ++
      last) :=
    ⟨Standard.model.takeWhile (· != .hole .columns), _, List.takeWhile_append_dropWhile.symm⟩
  have fillable : filling.lookup .fillable = some (listLiteral true (fields.map (·.name))) := rfl
  have rules : filling.lookup .rules = some (mapLiteral true true (ruleEntries fields)) := rfl
  have first : "\n\n    fillable: ClassVar[List[str]] = " =
      "\n" ++ ("\n" ++ "    fillable: ClassVar[List[str]] = ") := by rfl
  have second : "\n\n    rules: ClassVar[Dict[str, str]] = " =
      "\n" ++ ("\n" ++ "    rules: ClassVar[Dict[str, str]] = ") := by rfl
  have third : "\n\n    def __repr__(self) -> str:\n" =
      "\n" ++ ("\n" ++ ("    def __repr__(self) -> str:" ++ "\n")) := by rfl
  refine ⟨front.filled filling ++ Piece.filled filling (.hole .columns), last.filled filling, ?_⟩
  rw [parted, first, second, third]
  simp only [filled_append, filled_cons, filled_nil, Piece.filled, filling, fillable, rules,
    Option.getD_some, String.append_assoc, String.empty_append]

/-- Literals can be read back. That of a list of simple texts, and that of a map with different
simple keys and simple values, read as what they were made of and as nothing else, so that no other
one has the same literal. In a model from the built-in template the line of the fields reads as the
names of the eligible columns in the order of the table, and the line of the rules as those of them
that may not be null, whatever else the model is filled with. -/
theorem literals_read_back :
    (∀ items, (∀ item ∈ items, IsUnescaped item) →
      (∀ read, ListDisplay (listLiteral true items) read ↔ read = items) ∧
      ∀ others, (∀ item ∈ others, IsUnescaped item) →
        listLiteral true others = listLiteral true items → others = items) ∧
    (∀ entries : List (String × String), (∀ entry ∈ entries, IsUnescaped entry.1 ∧ IsUnescaped entry.2) →
      (entries.map (·.1)).Nodup →
      (∀ read, MapDisplay (mapLiteral true true entries) read ↔ read = entries) ∧
      ∀ others : List (String × String), (∀ entry ∈ others, IsUnescaped entry.1 ∧ IsUnescaped entry.2) →
        (others.map (·.1)).Nodup → mapLiteral true true others = mapLiteral true true entries →
        others = entries) ∧
    ∀ (g : Generator) (session : Session) (unwanted : List String) (types : TypeMap)
      (naming : Naming) (columns : List Column),
      g.library.builtIn = Library.standard → g.library.file? session.workspace "model" = none →
      g.policy = FieldPolicy.make unwanted types →
      (∀ column ∈ eligible unwanted columns, IsUnescaped column.name) →
      let kept := eligible unwanted columns
      let required := (kept.filter fun column => !column.nullable).map (·.name)
      ∃ text before fillable rules after,
        ((renderTemplate g "model" (modelFilling naming g.config columns (g.policy.fields columns)
          (kindsOf g.policy columns))).run session).1 = .ok text ∧
        text = before ++ "\n\n    fillable: ClassVar[List[str]] = " ++ fillable ++
          "\n\n    rules: ClassVar[Dict[str, str]] = " ++ rules ++
          "\n\n    def __repr__(self) -> str:\n" ++ after ∧
        (∀ read, ListDisplay fillable read ↔ read = kept.map (·.name)) ∧
        ∀ read, MapDisplay rules read ↔
          read = required.eraseDups.map fun name => (name, "required") := by
  refine ⟨fun items simple => ⟨listDisplay_iff simple, fun others simple' same => ?_⟩,
    fun entries simple distinct => ⟨mapDisplay_iff simple distinct,
      fun others simple' distinct' same => ?_⟩,
    fun g session unwanted types naming columns builtIn own policy simple => ?_⟩
  · exact (listDisplay_iff simple others).mp (same ▸ (listDisplay_iff simple' others).mpr rfl)
  · exact (mapDisplay_iff simple distinct others).mp
      (same ▸ (mapDisplay_iff simple' distinct' others).mpr rfl)
  · intro kept required
    obtain ⟨before, after, lines⟩ := model_lines naming g.config columns (g.policy.fields columns)
      (kindsOf g.policy columns)
    have rendered : ((renderTemplate g "model" (modelFilling naming g.config columns
        (g.policy.fields columns) (kindsOf g.policy columns))).run session).1 =
        .ok (Body.filled (modelFilling naming g.config columns (g.policy.fields columns)
          (kindsOf g.policy columns)) Standard.model) := by
      have found : standardBodies.lookup "model" = some Standard.model := rfl
      rw [(answers_renderTemplate g "model" _ session).1, contentIn,
        bodyIn_standard builtIn own found]
      exact congrArg Except.ok
        (render_written (standardBodies_isQuiet _ (Data.mem_of_lookup found)) _)
    have named : (g.policy.fields columns).map (·.name) = kept.map (·.name) := by
      rw [policy, fields_make, List.map_map]
      rfl
    have ruled : ruleEntries (g.policy.fields columns) =
        required.eraseDups.map fun name => (name, "required") := by
      rw [policy, ruleEntries_names]
    rw [named, ruled] at lines
    refine ⟨_, before, _, _, after, rendered, lines, listDisplay_iff ?_, mapDisplay_iff ?_ ?_⟩
    · exact List.forall_mem_map.mpr simple
    · have word : IsUnescaped "required" := by simp [IsUnescaped]
      refine List.forall_mem_map.mpr fun name member => ⟨?_, word⟩
      obtain ⟨column, among, rfl⟩ := List.mem_map.mp (List.mem_eraseDups.mp member)
      exact simple column (List.mem_of_mem_filter among)
    · rw [List.map_map]
      simpa [Function.comp_def] using nodup_eraseDups required

/-- Columns with a key, a name that looks like what stands between members, and one with a bracket
and a hole in it that may be null. -/
def oddColumns : List Column :=
  [⟨"id", "INTEGER", false, true, false⟩, ⟨", ", "TEXT", false, false, false⟩,
   ⟨"]\x7b\x7brules\x7d\x7d", "TEXT", true, false, false⟩]

/-- A generator that wants all columns and has the built-in templates only. -/
def plainGenerator : Generator :=
  .ofConfig { Config.standard with unwantedColumns := [] } ⟨{}, none, "sqlite"⟩

/-- The names are read back from the line of the fields, and the one that is required from the line
of the rules. -/
theorem literals_read_back_odd :
    let naming : Naming := ⟨"Post", "posts", "posts", "Posts", "post", "posts", "posts", "Post", "Posts"⟩
    (∀ read, ListDisplay "[\"\", \", \"]" read ↔ read = ["", ", "]) ∧
    ∃ text before fillable rules after,
      ((renderTemplate plainGenerator "model" (modelFilling naming plainGenerator.config oddColumns
        (plainGenerator.policy.fields oddColumns) (kindsOf plainGenerator.policy oddColumns))).run
        emptySession).1 = .ok text ∧
      text = before ++ "\n\n    fillable: ClassVar[List[str]] = " ++ fillable ++
        "\n\n    rules: ClassVar[Dict[str, str]] = " ++ rules ++
        "\n\n    def __repr__(self) -> str:\n" ++ after ∧
      (∀ read, ListDisplay fillable read ↔ read = [", ", "]\x7b\x7brules\x7d\x7d"]) ∧
      ∀ read, MapDisplay rules read ↔ read = [(", ", "required")] := by
  intro naming
  obtain ⟨lists, -, models⟩ := literals_read_back
  obtain ⟨read, -⟩ := lists ["", ", "] (by simp [IsUnescaped])
  have simple : ∀ column ∈ eligible [] oddColumns, IsUnescaped column.name := by
    simp [eligible, Column.Eligible, oddColumns, IsUnescaped]
  exact ⟨read, models plainGenerator emptySession [] commonTypes naming oddColumns rfl rfl rfl simple⟩

end Template

end Scaffold
