import Mathlib.Data.List.Nodup
import Scaffold.Config

/-! What settings accept. `Takes` says which values a setting takes and what it holds then; checking
values, one by one or all those of some entries, is stated in these terms. A configuration is made
of entries exactly when it describes them, and there is one exactly when every key is a setting and
every value is of its sort. -/
namespace Scaffold

open Data Validation

/-! ## Entries -/

namespace Data.Entries

variable {entries : Entries} {key probe : String} {value : Value}

/-- Whether an entry has a text key. -/
def hasKey (key : String) : Value × Value → Bool
  | (.text k, _) => k == key
  | _ => false

theorem hasKey_iff {entry : Value × Value} : hasKey key entry = true ↔ entry.1 = .text key := by
  obtain ⟨k, held⟩ := entry
  cases k <;> simp [hasKey]

theorem get?_nil (key : String) : get? [] key = none := rfl

theorem get?_cons (entry : Value × Value) (rest : Entries) (key : String) :
    get? (entry :: rest) key = if hasKey key entry then some entry.2 else get? rest key := by
  obtain ⟨k, held⟩ := entry
  cases k with
  | text k => by_cases same : k = key <;> simp [get?, hasKey, same]
  | _ => rfl

private theorem put_eq (entries : Entries) (key : String) (value : Value) :
    put entries key value =
      if entries.any (hasKey key) then
        entries.map fun entry => if hasKey key entry then (entry.1, value) else entry
      else entries ++ [(.text key, value)] := rfl

private theorem get?_append (entries more : Entries) (key : String) :
    get? (entries ++ more) key = (get? entries key).or (get? more key) := by
  induction entries with
  | nil => rfl
  | cons entry rest ih =>
    rw [List.cons_append, get?_cons, get?_cons, ih]
    split <;> simp

private theorem get?_of_not_any (new : entries.any (hasKey key) = false) :
    get? entries key = none := by
  induction entries with
  | nil => rfl
  | cons entry rest ih =>
    rw [List.any_cons, Bool.or_eq_false_iff] at new
    rw [get?_cons, new.1, ih new.2]
    rfl

/-- Replacing the value of a key, where it is. -/
theorem get?_map_replace (entries : Entries) :
    get? (entries.map fun entry => if hasKey key entry then (entry.1, value) else entry) probe =
      if probe = key then if entries.any (hasKey key) then some value else none
      else get? entries probe := by
  induction entries with
  | nil => simp [get?_nil]
  | cons entry rest ih =>
    rw [List.map_cons, get?_cons, get?_cons, ih, List.any_cons]
    by_cases here : hasKey key entry = true
    · have spelled := hasKey_iff.mp here
      by_cases same : probe = key
      · simp [here, same, hasKey_iff, spelled]
      · have other : hasKey probe entry = false := by
          simp [← Bool.not_eq_true, hasKey_iff, spelled, Ne.symm same]
        simp [here, same, other, hasKey_iff, spelled, Ne.symm same]
    · rw [Bool.not_eq_true] at here
      by_cases same : probe = key
      · subst same
        rw [here, Bool.false_or]
        simp [here]
      · simp [here, same]

theorem get?_put (entries : Entries) (key probe : String) (value : Value) :
    get? (put entries key value) probe = if probe = key then some value else get? entries probe := by
  rw [put_eq]
  split
  · rename_i there
    rw [get?_map_replace, if_pos there]
  · rename_i new
    rw [Bool.not_eq_true] at new
    rw [get?_append, get?_cons, get?_nil]
    by_cases same : probe = key
    · subst same
      simp [get?_of_not_any new, hasKey]
    · have other : hasKey probe (.text key, value) = false := by
        simpa [hasKey] using Ne.symm same
      simp [same, other]

private theorem keys_put (entries : Entries) (key : String) (value : Value) :
    (put entries key value).map (·.1) =
      if entries.any (hasKey key) then entries.map (·.1) else entries.map (·.1) ++ [.text key] := by
  rw [put_eq]
  split
  · rw [List.map_map]
    refine List.map_congr_left fun entry _ => ?_
    simp only [Function.comp]
    split <;> rfl
  · rw [List.map_append]
    rfl

/-- The keys after a value was put are those that were there, and its own. -/
theorem mem_keys_put {k : Value} :
    k ∈ (put entries key value).map (·.1) ↔ k ∈ entries.map (·.1) ∨ k = .text key := by
  rw [keys_put]
  split
  · rename_i there
    obtain ⟨entry, member, spelled⟩ := List.any_eq_true.mp there
    refine ⟨.inl, ?_⟩
    rintro (member | rfl)
    · exact member
    · exact List.mem_map.mpr ⟨entry, member, hasKey_iff.mp spelled⟩
  · simp

end Data.Entries

/-! ## Readers -/

namespace Validation

variable {value : Value} {values : List Value} {s field : String} {texts : List String}
  {issues : List Issue}

private theorem readText_eq_ok_iff : readText value = .ok s ↔ value = .text s := by
  cases value <;> simp [readText]

private theorem readFilledText_eq_ok_iff :
    readFilledText value = .ok s ↔ value = .text s ∧ s ≠ "" := by
  cases value with
  | text known =>
    change (if known.isEmpty then Except.error Defect.emptyText else .ok known) = .ok s ↔ _
    rw [Value.text.injEq]
    split
    · rename_i empty
      constructor
      · rintro ⟨⟩
      · rintro ⟨same, filled⟩
        exact absurd (by simpa [same] using empty) filled
    · rename_i filled
      rw [Except.ok.injEq]
      exact ⟨fun same => ⟨same, by simpa [same] using filled⟩, And.left⟩
  | _ => simp [readFilledText, readText, bind, Except.bind]

private theorem readOptionalText_eq_ok_iff {held : Option String} :
    readOptionalText value = .ok held ↔
      value = .null ∧ held = none ∨ ∃ s, value = .text s ∧ held = some s := by
  cases value <;> simp [readOptionalText, readText, eq_comm, Functor.map, Except.map]

/-- A list is read without an issue exactly when it is one of texts. -/
theorem readTextItems_eq_iff {index : Nat} :
    readTextItems field index values = (texts, []) ↔ values = texts.map .text := by
  induction values generalizing index texts with
  | nil => simp [readTextItems, eq_comm]
  | cons value rest ih =>
    obtain ⟨read, found⟩ : ∃ read, readTextItems field (index + 1) rest = read := ⟨_, rfl⟩
    have later : ∀ texts, read = (texts, []) ↔ rest = texts.map .text :=
      fun texts => found ▸ ih
    cases texts <;> cases value <;>
      simp [readTextItems, readText, found, ← later, Prod.ext_iff, and_assoc]

/-- A list of something else than texts has an issue, and all its issues are with its field. -/
theorem readTextItems_issues (field : String) (index : Nat) (values : List Value) :
    ∀ issue ∈ (readTextItems field index values).2, issue.field = some field := by
  induction values generalizing index with
  | nil => simp [readTextItems]
  | cons value rest ih =>
    cases value <;> simpa [readTextItems, readText] using ih (index + 1)

private theorem readTextList_eq_ok_iff :
    readTextList field value = .ok texts ↔ value = .list (texts.map .text) := by
  cases value with
  | list items =>
    have read : readTextItems field 0 items = (texts, []) ↔ items = texts.map .text :=
      readTextItems_eq_iff
    rw [Value.list.injEq, ← read, readTextList]
    cases readTextItems field 0 items with
    | mk read found => cases found <;> simp
  | _ => simp [readTextList]

private theorem readTextList_issues (refused : readTextList field value = .error issues) :
    issues ≠ [] ∧ ∀ issue ∈ issues, issue.field = some field := by
  unfold readTextList at refused
  split at refused
  · rename_i items
    have named := readTextItems_issues field 0 items
    simp only at refused
    split at refused
    · cases refused
    · rename_i found
      cases refused
      exact ⟨by simpa using found, named⟩
  · cases refused
    simp

end Validation

/-! ## Single settings -/

namespace Setting

variable {setting : Setting} {value held other : Value}

/-- Settings that may be null. -/
def isOptional : Setting → Bool
  | .databaseUrl | .dbSchema | .stubPath => true
  | _ => false

/-- Settings that may not be empty. -/
def isFilled : Setting → Bool
  | .layout | .routeTemplate => true
  | _ => false

/-- An extension that is empty or begins with a dot. -/
def IsDotted (extension : String) : Prop :=
  extension = "" ∨ extension.toList.head? = some '.'

/-- The values that a setting takes, each with what the setting holds then. -/
inductive Takes : Setting → Value → Value → Prop where
  | null {setting : Setting} (optional : setting.isOptional = true) : Takes setting .null .null
  | text {setting : Setting} {s : String} (single : setting ≠ .unwantedColumns)
      (filled : setting.isFilled = true → s ≠ "") (dotted : setting = .viewExtension → IsDotted s) :
      Takes setting (.text s) (.text s)
  /-- A dot is put in front of an extension that has none. -/
  | bare {s : String} (undotted : ¬ IsDotted s) :
      Takes .viewExtension (.text s) (.text ("." ++ s))
  | texts (names : List String) :
      Takes .unwantedColumns (.list (names.map .text)) (.list (names.map .text))

private theorem Takes.of_list {items : List Value} (takes : Takes setting (.list items) held) :
    held = .list items := by
  cases takes with
  | texts => rfl

/-- A setting holds one value for each that it takes. -/
theorem Takes.unique (takes : Takes setting value held) (takes' : Takes setting value other) :
    other = held := by
  cases takes with
  | null => cases takes'; rfl
  | text single filled dotted =>
    cases takes' with
    | text => rfl
    | bare undotted => exact absurd (dotted rfl) undotted
  | bare undotted =>
    cases takes' with
    | text _ _ dotted => exact absurd (dotted rfl) undotted
    | bare => rfl
  | texts names => exact takes'.of_list

/-- A setting that may not be empty holds no empty text. -/
theorem Takes.filled {s : String} (takes : Takes setting value (.text s))
    (needed : setting.isFilled = true) : s ≠ "" := by
  cases takes with
  | text _ filled => exact filled needed
  | bare => cases needed

/-- The extension is held with its dot. -/
theorem Takes.dotted {s : String} (takes : Takes .viewExtension value (.text s)) : IsDotted s := by
  cases takes with
  | text _ _ dotted => exact dotted rfl
  | bare => exact .inr (by simp [String.toList_append])

/-- What a setting holds it takes as it is. -/
theorem Takes.again (takes : Takes setting value held) : Takes setting held held := by
  cases takes with
  | null optional => exact .null optional
  | text single filled dotted => exact .text single filled dotted
  | bare undotted =>
    exact .text (by decide) (fun filled => by cases filled) fun _ => (Takes.bare undotted).dotted
  | texts names => exact .texts names

private theorem dotted_of_isDotted {s : String} (dotted : IsDotted s) : Config.dotted s = s := by
  unfold Config.dotted
  rcases dotted with rfl | dot
  · rfl
  · obtain ⟨rest, spelled⟩ := List.head?_eq_some_iff.mp dot
    simp only [spelled]
    rw [← spelled, String.ofList_toList]

private theorem dotted_of_not {s : String} (undotted : ¬ IsDotted s) :
    Config.dotted s = "." ++ s := by
  unfold Config.dotted
  split
  · rename_i none
    exact absurd (.inl (String.toList_eq_nil_iff.mp none)) undotted
  · rename_i rest spelled
    exact absurd (.inr (by rw [spelled, List.head?_cons])) undotted
  · apply String.toList_injective
    simp [String.toList_append]

private theorem takes_extension (s : String) :
    Takes .viewExtension (.text s) (.text (Config.dotted s)) := by
  by_cases dotted : IsDotted s
  · rw [dotted_of_isDotted dotted]
    exact .text (by decide) (fun filled => by cases filled) fun _ => dotted
  · rw [dotted_of_not dotted]
    exact .bare dotted

theorem ofName?_eq_some_iff {name : String} : ofName? name = some setting ↔ setting.name = name := by
  constructor
  · intro found
    simpa using List.find?_some found
  · rintro rfl
    exact ofName?_name setting

theorem name_injective : Function.Injective name := by
  intro setting other same
  have found := ofName?_name setting
  rw [same, ofName?_name] at found
  exact (Option.some.inj found).symm

theorem mem_all (setting : Setting) : setting ∈ all := by
  cases setting <;> decide

end Setting

namespace Config

variable {config after last : Config} {setting : Setting} {value : Value} {entries : Entries}
  {issues : List Issue}

/-- A configuration is known by what its settings hold. -/
theorem ext_get {first second : Config} (same : ∀ setting, first.get setting = second.get setting) :
    first = second := by
  have optional : Function.Injective fun held : Option String => held.elim Value.null Value.text := by
    rintro (_ | s) (_ | t) held
    all_goals simp_all
  have listed : Function.Injective (List.map Value.text) :=
    List.map_injective_iff.mpr fun _ _ => Value.text.inj
  cases first
  cases second
  simp only [mk.injEq]
  exact ⟨Value.text.inj (same .projectRoot), optional (same .databaseUrl),
    optional (same .dbSchema), optional (same .stubPath), Value.text.inj (same .layout),
    Value.text.inj (same .controllerDir), Value.text.inj (same .modelDir),
    Value.text.inj (same .viewsDir), Value.text.inj (same .routesFile),
    Value.text.inj (same .controllerNamespace), Value.text.inj (same .modelNamespace),
    Value.text.inj (same .viewExtension), Value.text.inj (same .routeTemplate),
    listed (Value.list.inj (same .unwantedColumns))⟩

theorem map_eq_ok_iff {ε α β : Type} {read : Except ε α} {change : α → β} {b : β} :
    read.map change = .ok b ↔ ∃ a, read = .ok a ∧ change a = b := by
  cases read <;> simp [Except.map]

theorem map_eq_error_iff {ε α β : Type} {read : Except ε α} {change : α → β} {e : ε} :
    read.map change = .error e ↔ read = .error e := by
  cases read <;> simp [Except.map]

private theorem located_eq_ok_iff {α : Type} {read : Except Defect α} {a : α} :
    located setting read = .ok a ↔ read = .ok a := by
  cases read <;> simp [located]

private theorem located_eq_error {α : Type} {read : Except Defect α}
    (refused : located setting read = .error issues) :
    issues ≠ [] ∧ ∀ issue ∈ issues, issue.field = some setting.name := by
  cases read <;> cases refused
  simp

/-- Setting one setting leaves the others as they are. -/
theorem get_of_set_ne {other : Setting} (done : config.set setting value = .ok after)
    (different : other ≠ setting) : after.get other = config.get other := by
  cases setting <;>
    (obtain ⟨held, -, rfl⟩ := map_eq_ok_iff.mp done
     cases other <;> first | rfl | exact absurd rfl different)

/-- A setting is set to what it holds for a value that it takes. -/
theorem set_takes (done : config.set setting value = .ok after) :
    setting.Takes value (after.get setting) := by
  cases setting with
  | databaseUrl | dbSchema | stubPath =>
    obtain ⟨held, read, rfl⟩ := map_eq_ok_iff.mp done
    rcases readOptionalText_eq_ok_iff.mp (located_eq_ok_iff.mp read) with
      ⟨rfl, rfl⟩ | ⟨s, rfl, rfl⟩
    · exact .null rfl
    · exact .text (by decide) (fun filled => by cases filled) (fun same => by cases same)
  | layout | routeTemplate =>
    obtain ⟨held, read, rfl⟩ := map_eq_ok_iff.mp done
    obtain ⟨rfl, filled⟩ := readFilledText_eq_ok_iff.mp (located_eq_ok_iff.mp read)
    exact .text (by decide) (fun _ => filled) (fun same => by cases same)
  | viewExtension =>
    obtain ⟨held, read, rfl⟩ := map_eq_ok_iff.mp done
    rw [readText_eq_ok_iff.mp (located_eq_ok_iff.mp read)]
    exact Setting.takes_extension held
  | unwantedColumns =>
    obtain ⟨held, read, rfl⟩ := map_eq_ok_iff.mp done
    rw [readTextList_eq_ok_iff.mp read]
    exact .texts held
  | _ =>
    obtain ⟨held, read, rfl⟩ := map_eq_ok_iff.mp done
    rw [readText_eq_ok_iff.mp (located_eq_ok_iff.mp read)]
    exact .text (by decide) (fun filled => by cases filled) (fun same => by cases same)

/-- A value that a setting takes is not refused. -/
theorem exists_set {held : Value} (config : Config) (takes : setting.Takes value held) :
    ∃ after, config.set setting value = .ok after := by
  have single : ∀ {α : Type} {read : Except Defect α} {change : α → Config} {a : α},
      read = .ok a → ∃ after, (located setting read).map change = .ok after :=
    fun read => ⟨_, map_eq_ok_iff.mpr ⟨_, located_eq_ok_iff.mpr read, rfl⟩⟩
  cases takes with
  | null optional => cases setting <;> first | exact single rfl | cases optional
  | text distinct filled =>
    cases setting with
    | unwantedColumns => exact absurd rfl distinct
    | layout | routeTemplate => exact single (readFilledText_eq_ok_iff.mpr ⟨rfl, filled rfl⟩)
    | _ => exact single rfl
  | bare => exact single rfl
  | texts names => exact ⟨_, map_eq_ok_iff.mpr ⟨_, readTextList_eq_ok_iff.mpr rfl, rfl⟩⟩

/-- A value that is refused is none that the setting takes, and all issues are with that setting. -/
theorem set_refuses (refused : config.set setting value = .error issues) :
    (∀ held, ¬ setting.Takes value held) ∧ issues ≠ [] ∧
      ∀ issue ∈ issues, issue.field = some setting.name := by
  refine ⟨fun held takes => ?_, ?_⟩
  · obtain ⟨after, done⟩ := exists_set config takes
    rw [refused] at done
    cases done
  · cases setting with
    | unwantedColumns => exact readTextList_issues (map_eq_error_iff.mp refused)
    | _ => exact located_eq_error (map_eq_error_iff.mp refused)

/-! ## All settings of some entries -/

variable {settings : List Setting}

/-- One setting after another: the configuration with the setting's entry, if it has one that it
takes, and the issues with that entry. -/
def setOne (entries : Entries) (setting : Setting) (config : Config) : Config × List Issue :=
  match entries.get? setting.name with
  | none => (config, [])
  | some value =>
    match config.set setting value with
    | .ok changed => (changed, [])
    | .error issues => (config, issues)

private theorem setAll_cons (entries : Entries) (setting : Setting) (rest : List Setting)
    (config : Config) :
    setAll entries (setting :: rest) config =
      ((setAll entries rest (setOne entries setting config).1).1,
        (setOne entries setting config).2 ++
          (setAll entries rest (setOne entries setting config).1).2) := by
  cases found : entries.get? setting.name with
  | none => simp [setAll, setOne, found]
  | some value => cases done : config.set setting value <;> simp [setAll, setOne, found, done]

private theorem get_setOne_ne {other : Setting} (different : other ≠ setting) :
    (setOne entries setting config).1.get other = config.get other := by
  unfold setOne
  split
  · rfl
  · split
    · rename_i done
      exact get_of_set_ne done different
    · rfl

private theorem get_setOne_of_takes {held : Value} (found : entries.get? setting.name = some value)
    (takes : setting.Takes value held) : (setOne entries setting config).1.get setting = held := by
  obtain ⟨after, done⟩ := exists_set config takes
  simp only [setOne, found, done]
  exact takes.unique (set_takes done)

private theorem setOne_of_absent (absent : entries.get? setting.name = none) :
    setOne entries setting config = (config, []) := by
  simp only [setOne, absent]

private theorem issues_setOne_eq_nil_iff :
    (setOne entries setting config).2 = [] ↔
      ∀ value, entries.get? setting.name = some value → ∃ held, setting.Takes value held := by
  cases found : entries.get? setting.name with
  | none => simp [setOne_of_absent found]
  | some value =>
    cases done : config.set setting value with
    | ok after => simpa [setOne, found, done] using ⟨_, set_takes done⟩
    | error issues =>
      obtain ⟨unfit, present, -⟩ := set_refuses done
      simpa [setOne, found, done, present] using unfit

/-- A setting stays as it is unless one with an entry is set. -/
theorem get_setAll_of_absent (absent : setting ∉ settings ∨ entries.get? setting.name = none) :
    (setAll entries settings config).1.get setting = config.get setting := by
  induction settings generalizing config with
  | nil => rfl
  | cons first rest ih =>
    have later : setting ∉ rest ∨ entries.get? setting.name = none :=
      absent.imp_left fun out member => out (List.mem_cons_of_mem _ member)
    rw [setAll_cons, ih later]
    by_cases same : setting = first
    · subst same
      have none : entries.get? setting.name = none := by simpa using absent
      rw [setOne_of_absent none]
    · exact get_setOne_ne same

/-- A setting with an entry that it takes is set, also when there are issues with others. -/
theorem get_setAll_of_takes {held : Value} (distinct : settings.Nodup) (member : setting ∈ settings)
    (found : entries.get? setting.name = some value) (takes : setting.Takes value held) :
    (setAll entries settings config).1.get setting = held := by
  induction settings generalizing config with
  | nil => cases member
  | cons first rest ih =>
    obtain ⟨new, distinct⟩ := List.nodup_cons.mp distinct
    rw [setAll_cons]
    rcases List.mem_cons.mp member with rfl | member
    · rw [get_setAll_of_absent (.inl new), get_setOne_of_takes found takes]
    · exact ih distinct member

private theorem issues_setAll_eq_nil_iff :
    (setAll entries settings config).2 = [] ↔ ∀ setting ∈ settings, ∀ value,
      entries.get? setting.name = some value → ∃ held, setting.Takes value held := by
  induction settings generalizing config with
  | nil => simp [setAll]
  | cons first rest ih =>
    rw [setAll_cons, List.append_eq_nil_iff, issues_setOne_eq_nil_iff, ih, List.forall_mem_cons]

/-! ## Whole configurations -/

/-- Entries of which a configuration can be made: every key is a setting, and every value is one
that its setting takes. -/
structure Acceptable (entries : Entries) : Prop where
  known : ∀ entry ∈ entries, ∃ setting : Setting, entry.1 = .text setting.name
  valid : ∀ (setting : Setting) value, entries.get? setting.name = some value →
    ∃ held, setting.Takes value held

/-- Entries that describe a configuration: every key is a setting, and every setting holds the value
of its entry, or the standard value when it has none. -/
structure Describes (entries : Entries) (config : Config) : Prop where
  known : ∀ entry ∈ entries, ∃ setting : Setting, entry.1 = .text setting.name
  taken : ∀ (setting : Setting) value, entries.get? setting.name = some value →
    setting.Takes value (config.get setting)
  left : ∀ setting : Setting, entries.get? setting.name = none →
    config.get setting = standard.get setting

private theorem unknownEntries_eq_nil_iff :
    unknownEntries (Setting.all.map (·.name)) entries = [] ↔
      ∀ entry ∈ entries, ∃ setting : Setting, entry.1 = .text setting.name := by
  rw [unknownEntries, List.filterMap_eq_nil_iff]
  refine forall₂_congr fun entry member => ?_
  obtain ⟨key, value⟩ := entry
  cases key with
  | text key =>
    have known : (∃ setting : Setting, Value.text key = .text setting.name) ↔
        key ∈ Setting.all.map (·.name) := by
      simp [Setting.mem_all, eq_comm]
    rw [known, ← List.contains_iff_mem]
    change (if (Setting.all.map (·.name)).contains key then none else some (_ : Issue)) = none ↔ _
    split <;> simp_all
  | _ => simp

private theorem ofEntries_eq_ok_iff_setAll : ofEntries entries = .ok config ↔
    Acceptable entries ∧ (setAll entries Setting.all standard).1 = config := by
  have issues : (setAll entries Setting.all standard).2 ++
      unknownEntries (Setting.all.map (·.name)) entries = [] ↔ Acceptable entries := by
    rw [List.append_eq_nil_iff, issues_setAll_eq_nil_iff, unknownEntries_eq_nil_iff]
    exact ⟨fun ⟨valid, known⟩ => ⟨known, fun setting => valid setting (Setting.mem_all setting)⟩,
      fun acceptable => ⟨fun setting _ => acceptable.valid setting, acceptable.known⟩⟩
  rw [← issues, ofEntries]
  simp only
  cases (setAll entries Setting.all standard).2 ++
    unknownEntries (Setting.all.map (·.name)) entries <;> simp

/-- There is a configuration for entries exactly when they are acceptable. -/
theorem exists_ofEntries_iff : (∃ config, ofEntries entries = .ok config) ↔ Acceptable entries := by
  simp [ofEntries_eq_ok_iff_setAll]

private theorem describes_setAll (acceptable : Acceptable entries) :
    Describes entries (setAll entries Setting.all standard).1 where
  known := acceptable.known
  taken setting value found := by
    obtain ⟨held, takes⟩ := acceptable.valid setting value found
    rw [get_setAll_of_takes (by decide) (Setting.mem_all setting) found takes]
    exact takes
  left setting absent := get_setAll_of_absent (.inr absent)

theorem Describes.acceptable (describes : Describes entries config) : Acceptable entries :=
  ⟨describes.known, fun setting value found => ⟨_, describes.taken setting value found⟩⟩

/-- Entries describe one configuration at most. -/
theorem Describes.unique {other : Config} (describes : Describes entries config)
    (describes' : Describes entries other) : other = config := by
  refine ext_get fun setting => ?_
  cases found : entries.get? setting.name with
  | none => rw [describes.left setting found, describes'.left setting found]
  | some value => exact (describes.taken setting value found).unique (describes'.taken _ _ found)

/-- A configuration is made of entries exactly when they describe it. -/
theorem ofEntries_eq_ok_iff : ofEntries entries = .ok config ↔ Describes entries config := by
  rw [ofEntries_eq_ok_iff_setAll]
  constructor
  · rintro ⟨acceptable, rfl⟩
    exact describes_setAll acceptable
  · intro describes
    exact ⟨describes.acceptable, describes.unique (describes_setAll describes.acceptable)⟩

end Config

end Scaffold
