import Scaffold.Proofs.Accounts
import Scaffold.Proofs.Checking
import Scaffold.Proofs.Configuring

/-! Where each setting of a call comes from. What is given explicitly goes before the settings file,
and that before the standard value; a null setting counts as not given. Which file is used, what it
says and which part of it counts are stated as relations beside the functions that find it, and the
configuration of a call is had exactly when every key is a setting and every value is one that its
setting takes. -/
namespace Scaffold

open Data Files Files.Workspace Scaffold.Action Running

namespace Settings

variable {w : Workspace} {path : Path} {pairs overrides : List (String × Value)}
  {entries all above : Entries} {key text : String} {value : Value} {given file : Option Path}
  {format : Format} {failure : Failure} {config : Config}

/-! ## Explicit settings -/

/-- Explicit settings as entries. -/
def named (pairs : List (String × Value)) : Entries :=
  pairs.map fun pair => (.text pair.1, pair.2)

/-- A setting is given when it is not null. -/
def IsGiven (overrides : List (String × Value)) (key : String) (value : Value) : Prop :=
  (key, value) ∈ overrides ∧ value ≠ .null

/-- The pairs that give something. -/
def stated (overrides : List (String × Value)) : List (String × Value) :=
  overrides.filter fun
    | (_, .null) => false
    | _ => true

private theorem mem_stated_iff : (key, value) ∈ stated overrides ↔ IsGiven overrides key value := by
  rw [stated, List.mem_filter, IsGiven]
  cases value <;> simp

private theorem stated_distinct (distinct : (overrides.map (·.1)).Nodup) :
    ((stated overrides).map (·.1)).Nodup :=
  distinct.sublist (List.filter_sublist.map _)

private theorem givenOf_named (overrides : List (String × Value)) :
    givenOf (named overrides) = named (stated overrides) := by
  rw [givenOf, named, List.filter_map]
  refine congrArg named (List.filter_congr fun pair _ => ?_)
  obtain ⟨key, value⟩ := pair
  cases value <;> rfl

private theorem named_cons (pair : String × Value) (rest : List (String × Value)) :
    named (pair :: rest) = (.text pair.1, pair.2) :: named rest := rfl

private theorem get?_named (distinct : (pairs.map (·.1)).Nodup) :
    (named pairs).get? key = some value ↔ (key, value) ∈ pairs := by
  induction pairs with
  | nil => simp [named, Entries.get?_nil]
  | cons first rest ih =>
    obtain ⟨known, held⟩ := first
    obtain ⟨new, distinct⟩ := List.nodup_cons.mp distinct
    rw [named_cons, Entries.get?_cons, List.mem_cons]
    by_cases same : known = key
    · subst same
      have absent : (known, value) ∉ rest :=
        fun member => new (List.mem_map.mpr ⟨_, member, rfl⟩)
      simp [Entries.hasKey, absent, eq_comm]
    · have other : Entries.hasKey key (.text known, held) = false := by simpa [Entries.hasKey]
      simp [other, ih distinct, Ne.symm same]

private theorem overlay_named_cons (pair : String × Value) (rest : List (String × Value)) :
    overlay entries (named (pair :: rest)) = overlay (entries.put pair.1 pair.2) (named rest) := rfl

/-- What lies above goes before what lies below. -/
theorem get?_overlay (distinct : (pairs.map (·.1)).Nodup) :
    (overlay entries (named pairs)).get? key =
      ((named pairs).get? key).or (entries.get? key) := by
  induction pairs generalizing entries with
  | nil => rfl
  | cons first rest ih =>
    obtain ⟨known, held⟩ := first
    obtain ⟨new, distinct⟩ := List.nodup_cons.mp distinct
    rw [overlay_named_cons, ih distinct, Entries.get?_put, named_cons, Entries.get?_cons]
    by_cases same : known = key
    · subst same
      have absent : (named rest).get? known = none :=
        Option.eq_none_iff_forall_ne_some.mpr fun value found =>
          new (List.mem_map.mpr ⟨_, (get?_named distinct).mp found, rfl⟩)
      simp [Entries.hasKey, absent]
    · have other : Entries.hasKey key (.text known, held) = false := by simpa [Entries.hasKey]
      simp [other, Ne.symm same]

private theorem mem_keys_overlay {k : Value} : k ∈ (overlay entries (named pairs)).map (·.1) ↔
    k ∈ entries.map (·.1) ∨ ∃ pair ∈ pairs, k = .text pair.1 := by
  induction pairs generalizing entries with
  | nil => simp [overlay, named]
  | cons first rest ih =>
    simp only [overlay_named_cons, ih, Entries.mem_keys_put, List.mem_cons, exists_eq_or_imp, or_assoc]

/-! ## The file that is used -/

/-- The directory in which a settings file is looked for: the project root when it is given,
otherwise the current directory. -/
inductive LooksIn (overrides : List (String × Value)) : Path → Prop where
  | root {root : String} (given : ("project_root", .text root) ∈ overrides) :
      LooksIn overrides (Path.ofString root)
  | current (free : ∀ value, ("project_root", value) ∈ overrides → value = .null) :
      LooksIn overrides .current

/-- The settings file that a call uses: the one it is given, otherwise the first of the files with
the usual names that is there, otherwise none. -/
inductive Uses (w : Workspace) (overrides : List (String × Value)) :
    Option Path → Option Path → Prop where
  | given (file : Path) : Uses w overrides (some file) (some file)
  | found {root : Path} {name : String} {before after : List String} (looks : LooksIn overrides root)
      (among : ["crudgen.yaml", "crudgen.yml", "crudgen.json"] = before ++ name :: after)
      (there : w.isFile (root.child name) = true)
      (first : ∀ earlier ∈ before, w.isFile (root.child earlier) = false) :
      Uses w overrides none (some (root.child name))
  | none {root : Path} (looks : LooksIn overrides root)
      (absent : ∀ name ∈ ["crudgen.yaml", "crudgen.yml", "crudgen.json"],
        w.isFile (root.child name) = false) :
      Uses w overrides none none

/-- The project root of explicit settings is a text, if it is given at all. -/
def HasPlace (overrides : List (String × Value)) : Prop :=
  ∀ value, IsGiven overrides "project_root" value → ∃ root, value = .text root

private theorem looksIn_iff {root : Path} (distinct : (overrides.map (·.1)).Nodup)
    (place : HasPlace overrides) :
    LooksIn overrides root ↔ root = rootOf (givenOf (named overrides)) := by
  have looked : ∀ value, (named (stated overrides)).get? "project_root" = some value ↔
      IsGiven overrides "project_root" value :=
    fun value => (get?_named (stated_distinct distinct)).trans mem_stated_iff
  rw [givenOf_named, rootOf, show Setting.projectRoot.name = "project_root" from rfl]
  cases found : (named (stated overrides)).get? "project_root" with
  | none =>
    have free : ∀ value, ("project_root", value) ∈ overrides → value = .null := by
      intro value member
      by_contra held
      have got := (looked value).mpr ⟨member, held⟩
      rw [found] at got
      cases got
    constructor
    · rintro (given | -)
      · cases free _ given
      · rfl
    · rintro rfl
      exact .current free
  | some value =>
    have isGiven := (looked value).mp found
    obtain ⟨text, rfl⟩ := place value isGiven
    constructor
    · rintro (given | free)
      · have got := (looked _).mpr ⟨given, by simp⟩
        rw [found] at got
        cases got
        rfl
      · cases free _ isGiven.1
    · rintro rfl
      exact .root isGiven.1

private theorem find?_eq_some_iff {root found : Path} : find? w root = some found ↔
    ∃ name before after, defaultNames = before ++ name :: after ∧ root.child name = found ∧
      w.isFile (root.child name) = true ∧
      ∀ earlier ∈ before, w.isFile (root.child earlier) = false := by
  rw [find?, List.find?_map, Option.map_eq_some_iff]
  refine exists_congr fun name => ?_
  rw [List.find?_eq_some_iff_append]
  constructor
  · rintro ⟨⟨there, before, after, among, first⟩, spelled⟩
    exact ⟨before, after, among, spelled, there, by simpa using first⟩
  · rintro ⟨before, after, among, spelled, there, first⟩
    exact ⟨⟨there, before, after, among, by simpa using first⟩, spelled⟩

private theorem find?_eq_none_iff {root : Path} : find? w root = none ↔
    ∀ name ∈ defaultNames, w.isFile (root.child name) = false := by
  rw [find?, List.find?_map, Option.map_eq_none_iff, List.find?_eq_none]
  exact forall₂_congr fun name _ => Bool.not_eq_true (w.isFile (root.child name)) |>.to_iff

/-- The file that a call uses is the one that is found. -/
theorem uses_iff (distinct : (overrides.map (·.1)).Nodup) (place : HasPlace overrides) :
    Uses w overrides given file ↔
      file = (given <|> find? w (rootOf (givenOf (named overrides)))) := by
  constructor
  · intro uses
    cases uses with
    | given file => rfl
    | found looks among there first =>
      obtain rfl := (looksIn_iff distinct place).mp looks
      exact (find?_eq_some_iff.mpr ⟨_, _, _, among, rfl, there, first⟩).symm
    | none looks absent =>
      obtain rfl := (looksIn_iff distinct place).mp looks
      exact (find?_eq_none_iff.mpr absent).symm
  · rintro rfl
    have looks := (looksIn_iff distinct place).mpr rfl
    cases given with
    | some file => exact .given file
    | none =>
      change Uses w overrides none (find? w _)
      cases found : find? w (rootOf (givenOf (named overrides))) with
      | none => exact .none looks (find?_eq_none_iff.mp found)
      | some file =>
        obtain ⟨name, before, after, among, rfl, there, first⟩ := find?_eq_some_iff.mp found
        exact .found looks among there first

/-! ## What a file says -/

/-- The format in which a file is written, by its ending in any case. -/
inductive Written (path : Path) : Format → Prop where
  | yaml (ending : Text.lower path.ending = ".yaml" ∨ Text.lower path.ending = ".yml") :
      Written path .yaml
  | json (ending : Text.lower path.ending = ".json") : Written path .json
  | either (other : Text.lower path.ending ∉ [".yaml", ".yml", ".json"]) : Written path .either

/-- The entries that a text holds in a format. In YAML a text with no value holds none; a text in a
format that is not known is in JSON when that holds entries, otherwise in YAML. -/
inductive Tells (text : String) : Format → Entries → Prop where
  | json {entries : Entries} (parsed : Json.read? text = some (.map entries)) :
      Tells text .json entries
  | yaml {entries : Entries} (parsed : Yaml.read text = .ok (.map entries)) :
      Tells text .yaml entries
  | blank (parsed : Yaml.read text = .ok .null) : Tells text .yaml []
  | first {entries : Entries} (parsed : Json.read? text = some (.map entries)) :
      Tells text .either entries
  | second {entries : Entries} (other : ∀ entries, Json.read? text ≠ some (.map entries))
      (parsed : Yaml.read text = .ok (.map entries)) : Tells text .either entries
  | secondBlank (other : ∀ entries, Json.read? text ≠ some (.map entries))
      (parsed : Yaml.read text = .ok .null) : Tells text .either []

/-- The entries for this program: those of its own part when there is one, otherwise all. -/
inductive Part (all : Entries) : Entries → Prop where
  | own {entries : Entries} (parted : all.get? "crudgen" = some (.map entries)) : Part all entries
  | whole (unparted : all.get? "crudgen" = none) : Part all all

/-- A file that is there, holds text, says entries in its format and has a part for this program
gives the entries of that part. -/
inductive Provides (w : Workspace) (path : Path) (entries : Entries) : Prop where
  | of {place : Location} {mode : Nat} {bytes : Text.Bytes} {text : String} {format : Format}
      {all : Entries} (located : w.locate .follow path = .ok place)
      (file : w.entryAt place = some (.file mode bytes)) (read : Text.fileText? bytes = some text)
      (written : Written path format) (told : Tells text format all) (part : Part all entries)

/-- What is supplied without a file is nothing. -/
def Supplies (w : Workspace) : Option Path → Entries → Prop
  | none, entries => entries = []
  | some file, entries => Provides w file entries

private theorem written_iff : Written path format ↔ format = formatOf (Text.lower path.ending) := by
  unfold formatOf
  constructor
  · intro written
    cases written with
    | yaml ending => rw [if_pos (by simpa using ending)]
    | json ending => rw [if_neg (by simp [ending]), if_pos (by simp [ending])]
    | either other =>
      simp only [List.mem_cons, List.not_mem_nil, or_false, not_or] at other
      rw [if_neg (by simpa using ⟨other.1, other.2.1⟩), if_neg (by simpa using other.2.2)]
  · intro same
    rw [same]
    split
    · rename_i ending
      exact .yaml (by simpa using ending)
    · rename_i notYaml
      split
      · rename_i ending
        exact .json (by simpa using ending)
      · rename_i notJson
        exact .either (by simpa [not_or, and_assoc] using And.intro notYaml notJson)

private theorem ofJson_eq_ok_iff :
    ofJson path text = .ok entries ↔ Json.read? text = some (.map entries) := by
  unfold ofJson
  split <;> simp_all

private theorem ofYaml_eq_ok_iff : ofYaml path text = .ok entries ↔
    Yaml.read text = .ok (.map entries) ∨ Yaml.read text = .ok .null ∧ entries = [] := by
  unfold ofYaml
  cases Yaml.read text with
  | error trouble => cases trouble <;> simp
  | ok value => cases value <;> simp [eq_comm]

private theorem read_eq_ok_iff :
    format.read path text = .ok entries ↔ Tells text format entries := by
  cases format with
  | json =>
    exact ofJson_eq_ok_iff.trans ⟨.json, fun | .json parsed => parsed⟩
  | yaml =>
    refine ofYaml_eq_ok_iff.trans ⟨?_, ?_⟩
    · rintro (parsed | ⟨parsed, rfl⟩)
      · exact .yaml parsed
      · exact .blank parsed
    · rintro (_ | parsed | parsed)
      · exact .inl parsed
      · exact .inr ⟨parsed, rfl⟩
  | either =>
    rw [Format.read]
    cases json : ofJson path text with
    | ok held =>
      have parsed := ofJson_eq_ok_iff.mp json
      constructor
      · rintro ⟨⟩
        exact .first parsed
      · rintro (_ | _ | _ | parsed' | ⟨other, -⟩ | ⟨other, -⟩)
        · rw [parsed] at parsed'
          cases parsed'
          rfl
        · exact absurd parsed (other _)
        · exact absurd parsed (other _)
    | error fault =>
      have other : ∀ entries, Json.read? text ≠ some (.map entries) := by
        intro entries parsed
        rw [ofJson_eq_ok_iff.mpr parsed] at json
        cases json
      refine ofYaml_eq_ok_iff.trans ⟨?_, ?_⟩
      · rintro (parsed | ⟨parsed, rfl⟩)
        · exact .second other parsed
        · exact .secondBlank other parsed
      · rintro (_ | _ | _ | parsed | ⟨-, parsed⟩ | ⟨-, parsed⟩)
        · exact absurd parsed (other _)
        · exact .inl parsed
        · exact .inr ⟨parsed, rfl⟩

private theorem part_eq_ok_iff : part path all = .ok entries ↔ Part all entries := by
  unfold part
  rw [show partName = "crudgen" from rfl]
  constructor
  · intro parted
    split at parted
    · rename_i unparted
      cases parted
      exact .whole unparted
    · rename_i own found
      cases parted
      exact .own found
    · cases parted
  · rintro (parted | unparted)
    · rw [parted]
    · rw [unparted]

private theorem entriesIn_eq_ok_iff : entriesIn path text = .ok entries ↔
    ∃ format all, Written path format ∧ Tells text format all ∧ Part all entries := by
  have bound : entriesIn path text = .ok entries ↔
      ((formatOf (Text.lower path.ending)).read path text >>= part path) = .ok entries := by
    unfold entriesIn
    split <;> simp_all
  rw [bound, ok_of_bind_iff]
  constructor
  · rintro ⟨all, read, parted⟩
    exact ⟨_, all, written_iff.mpr rfl, read_eq_ok_iff.mp read, part_eq_ok_iff.mp parted⟩
  · rintro ⟨format, all, written, told, part⟩
    rw [← written_iff.mp written]
    exact ⟨all, read_eq_ok_iff.mpr told, part_eq_ok_iff.mpr part⟩

private theorem textIn_eq_ok_iff : Template.textIn path w = .ok text ↔
    ∃ place mode bytes, w.locate .follow path = .ok place ∧
      w.entryAt place = some (.file mode bytes) ∧ Text.fileText? bytes = some text := by
  unfold Template.textIn Workspace.read Workspace.find?
  cases w.locate .follow path with
  | error fault => simp
  | ok place =>
    cases found : w.entryAt place with
    | none => simp [found]
    | some entry =>
      cases entry with
      | file mode bytes =>
        simp only [found]
        cases read : Text.fileText? bytes <;> simp [found, read]
      | _ => simp [found]

/-- The entries that are loaded are those that the file provides. -/
theorem loadedFrom_eq_ok_iff : loadedFrom path w = .ok entries ↔ Provides w path entries := by
  constructor
  · intro loaded
    unfold loadedFrom at loaded
    split at loaded
    · split at loaded
      · obtain ⟨text, texted, had⟩ := ok_of_bind_iff.mp loaded
        obtain ⟨place, mode, bytes, located, file, read⟩ := textIn_eq_ok_iff.mp texted
        obtain ⟨format, all, written, told, part⟩ := entriesIn_eq_ok_iff.mp had
        exact .of located file read written told part
      · cases loaded
    · cases loaded
  · rintro ⟨located, file, read, written, told, part⟩
    have there : w.isThere path = true := isThere_iff.mpr ⟨_, located, by simp [file]⟩
    have isFile : w.isFile path = true := isFile_iff.mpr ⟨_, _, _, located, file⟩
    rw [loadedFrom, if_pos there, if_pos isFile, ok_of_bind_iff]
    exact ⟨_, textIn_eq_ok_iff.mpr ⟨_, _, _, located, file, read⟩,
      entriesIn_eq_ok_iff.mpr ⟨_, _, written, told, part⟩⟩

private theorem entriesOf_eq_ok_iff : entriesOf file w = .ok entries ↔ Supplies w file entries := by
  cases file with
  | none => simp [entriesOf, Supplies, eq_comm]
  | some path => exact loadedFrom_eq_ok_iff

/-! ## The configuration of a call -/

/-- What is set for a key: what is given explicitly, otherwise what the file says. -/
inductive Holds (entries : Entries) (overrides : List (String × Value)) (key : String) :
    Value → Prop where
  | above {value : Value} (given : IsGiven overrides key value) : Holds entries overrides key value
  | below {value : Value} (free : ∀ other, ¬ IsGiven overrides key other)
      (found : entries.get? key = some value) : Holds entries overrides key value

/-- Settings of which a configuration can be made: every key of the file and every key that is given
is a setting, and what is set for a setting is one of the values that it takes. -/
structure Valid (entries : Entries) (overrides : List (String × Value)) : Prop where
  filed : ∀ entry ∈ entries, ∃ setting : Setting, entry.1 = .text setting.name
  given : ∀ key value, IsGiven overrides key value → ∃ setting : Setting, setting.name = key
  taken : ∀ (setting : Setting) value, Holds entries overrides setting.name value →
    ∃ held, setting.Takes value held

private theorem get?_overlay_givenOf (distinct : (overrides.map (·.1)).Nodup) :
    (overlay entries (givenOf (named overrides))).get? key = some value ↔
      Holds entries overrides key value := by
  have given : ∀ value, (named (stated overrides)).get? key = some value ↔
      IsGiven overrides key value :=
    fun value => (get?_named (stated_distinct distinct)).trans mem_stated_iff
  rw [givenOf_named, get?_overlay (stated_distinct distinct), Option.or_eq_some_iff, given,
    Option.eq_none_iff_forall_ne_some]
  constructor
  · rintro (isGiven | ⟨free, found⟩)
    · exact .above isGiven
    · exact .below (fun other isGiven => free other ((given other).mpr isGiven)) found
  · rintro (isGiven | ⟨free, found⟩)
    · exact .inl isGiven
    · exact .inr ⟨fun other found => free other ((given other).mp found), found⟩

private theorem known_overlay_iff :
    (∀ entry ∈ overlay entries (givenOf (named overrides)),
        ∃ setting : Setting, entry.1 = .text setting.name) ↔
      (∀ entry ∈ entries, ∃ setting : Setting, entry.1 = .text setting.name) ∧
        ∀ key value, IsGiven overrides key value → ∃ setting : Setting, setting.name = key := by
  have keyed : ∀ all : Entries, (∀ entry ∈ all, ∃ setting : Setting, entry.1 = .text setting.name) ↔
      ∀ k ∈ all.map (·.1), ∃ setting : Setting, k = .text setting.name :=
    fun all => by simp only [List.forall_mem_map]
  rw [keyed, keyed, givenOf_named]
  simp only [mem_keys_overlay]
  constructor
  · intro known
    refine ⟨fun k member => known k (.inl member), fun key value isGiven => ?_⟩
    obtain ⟨setting, called⟩ := known (.text key) (.inr ⟨_, mem_stated_iff.mpr isGiven, rfl⟩)
    exact ⟨setting, (Value.text.inj called).symm⟩
  · rintro ⟨filed, given⟩ k (member | ⟨⟨key, value⟩, member, rfl⟩)
    · exact filed k member
    · obtain ⟨setting, rfl⟩ := given key value (mem_stated_iff.mp member)
      exact ⟨setting, rfl⟩

private theorem acceptable_overlay_iff (distinct : (overrides.map (·.1)).Nodup) :
    Config.Acceptable (overlay entries (givenOf (named overrides))) ↔ Valid entries overrides := by
  constructor
  · intro acceptable
    obtain ⟨filed, given⟩ := known_overlay_iff.mp acceptable.known
    exact ⟨filed, given, fun setting value holds =>
      acceptable.valid setting value ((get?_overlay_givenOf distinct).mpr holds)⟩
  · intro valid
    exact ⟨known_overlay_iff.mpr ⟨valid.filed, valid.given⟩, fun setting value found =>
      valid.taken setting value ((get?_overlay_givenOf distinct).mp found)⟩

private theorem configOf_eq_ok_iff : configOf above entries = .ok config ↔
    Config.Describes (overlay entries above) config := by
  rw [← Config.ofEntries_eq_ok_iff, configOf]
  cases Config.ofEntries (overlay entries above) <;> simp

/-- What a file holds is never the reason why it is not there. -/
theorem entriesIn_ne_missing (missing : Path) :
    entriesIn path text ≠ .error (.settings (.missing missing)) := by
  have json : ofJson path text ≠ .error (.missing missing) := by
    unfold ofJson
    split <;> simp
  have yaml : ofYaml path text ≠ .error (.missing missing) := by
    unfold ofYaml
    split <;> simp
  have read : ∀ format : Format, format.read path text ≠ .error (.missing missing) := by
    intro format
    cases format with
    | json => exact json
    | yaml => exact yaml
    | either =>
      rw [Format.read]
      split
      · simp
      · exact yaml
  have parted : ∀ all, part path all ≠ .error (.missing missing) := by
    intro all
    unfold part
    split <;> simp
  unfold entriesIn
  split
  · simp
  · rename_i fault failed
    rintro ⟨⟩
    rcases error_of_bind failed with unread | ⟨all, -, refused⟩
    · exact read _ unread
    · exact parted all refused

private theorem entriesOf_eq_missing_iff : entriesOf file w = .error (.settings (.missing path)) ↔
    file = some path ∧ w.isThere path = false := by
  cases file with
  | none => simp [entriesOf]
  | some known =>
    rw [entriesOf, loadedFrom, Option.some.injEq]
    constructor
    · intro failed
      split at failed
      · split at failed
        · rename_i isFile
          rcases error_of_bind failed with unread | ⟨text, -, refused⟩
          · cases Template.textIn_of_isFile isFile unread
          · exact absurd refused (entriesIn_ne_missing path)
        · cases failed
      · rename_i there
        cases failed
        exact ⟨rfl, by simpa using there⟩
    · rintro ⟨rfl, missing⟩
      rw [missing]
      rfl

/-- Where the settings of a call come from. It uses one settings file at most. When that supplies
entries, or there is none, the configuration is had exactly when every key is a setting and every
value is one that its setting takes; each setting then holds what it takes the value as that is
given for it, otherwise the value of the file, otherwise the standard value. In every other case the
call is refused, and that a file is missing is said exactly of one that was to be used and is not
there. -/
theorem configure_precedence (session : Session) (given : Option Path)
    (overrides : List (String × Value)) (distinct : (overrides.map (·.1)).Nodup)
    (place : HasPlace overrides) :
    let w := session.workspace
    let result := ((configure given (named overrides)).run session).1
    ∃ file, Uses w overrides given file ∧ (∀ other, Uses w overrides given other → other = file) ∧
      (∀ entries, Supplies w file entries →
        ((∃ config, result = .ok config) ↔ Valid entries overrides) ∧
        ∀ config, result = .ok config → ∀ setting : Setting,
          (∀ value, Holds entries overrides setting.name value →
            setting.Takes value (config.get setting)) ∧
          ((∀ value, ¬ Holds entries overrides setting.name value) →
            config.get setting = Config.standard.get setting)) ∧
      ((∀ entries, ¬ Supplies w file entries) → ∃ failure, result = .error failure) ∧
      (∀ failure, result = .error failure →
        failure = .notText ∨ ∃ fault, failure = .settings fault) ∧
      ∀ path, result = .error (.settings (.missing path)) ↔
        file = some path ∧ w.isThere path = false := by
  intro w result
  have had : result = configIn given (named overrides) w :=
    (answers_configure given (named overrides) session).1
  let file := given <|> find? w (rootOf (givenOf (named overrides)))
  have inRow : result = entriesOf file w >>= configOf (givenOf (named overrides)) := had
  have okIff : ∀ {entries}, Supplies w file entries → ∀ config, result = .ok config ↔
      Config.Describes (overlay entries (givenOf (named overrides))) config := by
    intro entries supplies config
    rw [inRow, entriesOf_eq_ok_iff.mpr supplies]
    exact configOf_eq_ok_iff
  refine ⟨file, (uses_iff distinct place).mpr rfl, fun other => (uses_iff distinct place).mp,
    fun entries supplies => ⟨?_, fun config succeeded setting => ?_⟩, fun unsupplied => ?_,
    fun failure failed => configIn_refused (had ▸ failed), fun path => ?_⟩
  · rw [← acceptable_overlay_iff distinct, ← Config.exists_ofEntries_iff]
    exact exists_congr fun config => (okIff supplies config).trans Config.ofEntries_eq_ok_iff.symm
  · have describes := (okIff supplies config).mp succeeded
    refine ⟨fun value holds => describes.taken setting value
      ((get?_overlay_givenOf distinct).mpr holds), fun free => describes.left setting ?_⟩
    rw [Option.eq_none_iff_forall_ne_some]
    exact fun value found => free value ((get?_overlay_givenOf distinct).mp found)
  · rw [inRow]
    cases loaded : entriesOf file w with
    | error failure => exact ⟨failure, rfl⟩
    | ok entries => exact absurd (entriesOf_eq_ok_iff.mp loaded) (unsupplied entries)
  · rw [inRow, ← entriesOf_eq_missing_iff]
    cases entriesOf file w with
    | error failure => simp [bind, Except.bind]
    | ok entries =>
      change configOf _ entries = _ ↔ _
      rw [configOf]
      cases Config.ofEntries (overlay entries (givenOf (named overrides))) <;> simp

/-- A settings file with a part of its own for this program. -/
def projectText : String :=
  "\x7b\"crudgen\": \x7b\"layout\": \"a.html\", \"db_schema\": \"s\"\x7d\x7d"

/-- What that part says. -/
def projectEntries : Entries :=
  [(.text "layout", .text "a.html"), (.text "db_schema", .text "s")]

/-- A session with that file in the directory of a project. -/
def projectSession : Session where
  workspace :=
    { home := []
      entries := [(["p"], .directory),
        (["p", "crudgen.json"], .file 0o644 (Text.encode projectText))] }
  consent := .always true

/-- A project root, a layout, and no schema. -/
def projectSettings : List (String × Value) :=
  [("project_root", .text "p"), ("layout", .text "b.html"), ("db_schema", .null)]

private theorem project_supplies :
    Supplies projectSession.workspace (some ⟨.here, ["p", "crudgen.json"]⟩) projectEntries := by
  have read : Text.fileText? (Text.encode projectText) = some projectText := by rfl
  have parsed : Json.read? projectText = some (.map [(.text "crudgen", .map projectEntries)]) := by
    cbv
  exact .of rfl rfl read (.json (by rfl)) (.json parsed) (.own rfl)

private theorem takes_project {setting : Setting} {s : String}
    (called : setting.name ∈ ["project_root", "layout", "db_schema"]) (filled : s ≠ "") :
    setting.Takes (.text s) (.text s) :=
  .text (by rintro rfl; simp [Setting.name] at called) (fun _ => filled)
    (by rintro rfl; simp [Setting.name] at called)

private theorem project_valid : Valid projectEntries projectSettings where
  filed := by
    simp only [projectEntries, List.forall_mem_cons]
    exact ⟨⟨.layout, rfl⟩, ⟨.dbSchema, rfl⟩, by simp⟩
  given := by
    rintro key value ⟨member, -⟩
    simp only [projectSettings, List.mem_cons, Prod.mk.injEq, List.not_mem_nil, or_false] at member
    rcases member with ⟨rfl, -⟩ | ⟨rfl, -⟩ | ⟨rfl, -⟩
    · exact ⟨.projectRoot, rfl⟩
    · exact ⟨.layout, rfl⟩
    · exact ⟨.dbSchema, rfl⟩
  taken := by
    rintro setting value (⟨member, held⟩ | ⟨-, found⟩)
    · simp only [projectSettings, List.mem_cons, Prod.mk.injEq, List.not_mem_nil, or_false]
        at member
      rcases member with ⟨same, rfl⟩ | ⟨same, rfl⟩ | ⟨-, rfl⟩
      · exact ⟨_, takes_project (by simp [same]) (by simp)⟩
      · exact ⟨_, takes_project (by simp [same]) (by simp)⟩
      · exact absurd rfl held
    · simp only [projectEntries, Entries.get?_cons, Entries.hasKey_iff, Value.text.injEq] at found
      split at found
      · rename_i same
        cases found
        exact ⟨_, takes_project (by simp [← same]) (by simp)⟩
      · split at found
        · rename_i same
          cases found
          exact ⟨_, takes_project (by simp [← same]) (by simp)⟩
        · cases found

/-- The layout of the call goes before that of the file, the schema of the file before a null one,
and what neither sets is as it is by default. -/
theorem configure_precedence_project :
    (projectSettings.map (·.1)).Nodup ∧ HasPlace projectSettings ∧
    Uses projectSession.workspace projectSettings none (some ⟨.here, ["p", "crudgen.json"]⟩) ∧
    ∃ config, ((configure none (named projectSettings)).run projectSession).1 = .ok config ∧
      config.get .layout = .text "b.html" ∧ config.get .dbSchema = .text "s" ∧
      config.get .modelDir = .text "app/models" := by
  have distinct : (projectSettings.map (·.1)).Nodup := by decide
  have place : HasPlace projectSettings := by
    rintro value ⟨member, -⟩
    simp only [projectSettings, List.mem_cons, Prod.mk.injEq, List.not_mem_nil, or_false] at member
    rcases member with ⟨-, rfl⟩ | ⟨same, -⟩ | ⟨same, -⟩
    · exact ⟨_, rfl⟩
    · exact absurd same (by decide)
    · exact absurd same (by decide)
  have free : ∀ key, key ≠ "project_root" → key ≠ "layout" → ∀ value,
      ¬ IsGiven projectSettings key value := by
    rintro key notRoot notLayout value ⟨member, held⟩
    simp_all [projectSettings]
  obtain ⟨file, uses, -, supplied, -⟩ :=
    configure_precedence projectSession none projectSettings distinct place
  obtain rfl : file = some ⟨.here, ["p", "crudgen.json"]⟩ := by
    rw [(uses_iff distinct place).mp uses]
    rfl
  obtain ⟨made, sources⟩ := supplied projectEntries project_supplies
  obtain ⟨config, succeeded⟩ := made.mpr project_valid
  have source := sources config succeeded
  refine ⟨distinct, place, uses, config, succeeded, ?_, ?_, ?_⟩
  · exact (takes_project (by simp [Setting.name]) (by simp)).unique
      ((source .layout).1 (.text "b.html") (.above ⟨by simp [projectSettings, Setting.name], by simp⟩))
  · exact (takes_project (by simp [Setting.name]) (by simp)).unique
      ((source .dbSchema).1 (.text "s") (.below (free _ (by decide) (by decide)) rfl))
  · refine (source .modelDir).2 ?_
    rintro value (isGiven | ⟨-, present⟩)
    · exact free _ (by decide) (by decide) value isGiven
    · cases present

end Settings

end Scaffold
