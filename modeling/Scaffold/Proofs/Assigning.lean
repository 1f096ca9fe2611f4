import Scaffold.Config.Object
import Scaffold.Proofs.Checking

/-! What becomes of a configuration while names are assigned values. Every setting holds something
that it takes as it is: that is so when a configuration is made, and each assignment that is checked
keeps it, since the check is the same. So a configuration can be made again of what its settings hold
at any time. Only names that the object has of its own lead past the checks. -/
namespace Scaffold.Config

open Data Validation

variable {config next : Config} {setting : Setting} {entries : Entries} {name : String}
  {value kept : Value} {own : OwnNames} {object after : Object}

/-- Every setting holds something that it takes as it is. -/
def Sound (config : Config) : Prop :=
  ∀ setting : Setting, setting.Takes (config.get setting) (config.get setting)

private theorem standard_sound : standard.Sound := by
  intro setting
  cases setting with
  | databaseUrl | dbSchema | stubPath => exact .null rfl
  | unwantedColumns => exact .texts defaultUnwanted
  | viewExtension =>
    exact .text (by decide) (fun filled => by cases filled) fun _ => .inr (by decide)
  | _ => exact .text (by decide) (fun _ => by decide) fun same => by cases same

/-- What entries describe is sound. -/
theorem Describes.sound (describes : Describes entries config) : config.Sound := by
  intro setting
  cases found : entries.get? setting.name with
  | none =>
    rw [describes.left setting found]
    exact standard_sound setting
  | some value => exact (describes.taken setting value found).again

private theorem get?_entries (config : Config) (setting : Setting) :
    config.entries.get? setting.name = some (config.get setting) := by
  have listed : ∀ settings : List Setting, setting ∈ settings →
      Entries.get? (settings.map fun known => (.text known.name, config.get known)) setting.name =
        some (config.get setting) := by
    intro settings member
    induction settings with
    | nil => cases member
    | cons first rest ih =>
      rw [List.map_cons, Entries.get?_cons]
      by_cases same : first = setting
      · subst same
        rw [if_pos (Entries.hasKey_iff.mpr rfl)]
      · have other : ¬ Entries.hasKey setting.name (.text first.name, config.get first) = true := by
          rw [Entries.hasKey_iff]
          exact fun names => same (Setting.name_injective (Value.text.inj names))
        rw [if_neg other]
        exact ih ((List.mem_cons.mp member).resolve_left (Ne.symm same))
  exact listed _ (Setting.mem_all setting)

/-- What the settings of a sound configuration hold describes it. -/
theorem Sound.describes (sound : config.Sound) : Describes config.entries config where
  known entry member := by
    obtain ⟨setting, -, rfl⟩ := List.mem_map.mp member
    exact ⟨setting, rfl⟩
  taken setting value found := by
    rw [get?_entries] at found
    cases found
    exact sound setting
  left setting absent := by
    rw [get?_entries] at absent
    cases absent

/-- Giving a setting a value is making the configuration again with that value in its entry: the
setting holds what it takes the value as, and all others hold what they held. -/
theorem Sound.remade_iff (sound : config.Sound) :
    ofEntries (config.entries.put setting.name value) = .ok next ↔
      setting.Takes value (next.get setting) ∧
        ∀ other, other ≠ setting → next.get other = config.get other := by
  rw [ofEntries_eq_ok_iff]
  constructor
  · intro describes
    refine ⟨describes.taken setting value (by rw [Entries.get?_put, if_pos rfl]), ?_⟩
    intro other different
    have found : (config.entries.put setting.name value).get? other.name =
        some (config.get other) := by
      rw [Entries.get?_put, if_neg fun names => different (Setting.name_injective names),
        get?_entries]
    exact (sound other).unique (describes.taken other _ found)
  · rintro ⟨takes, frame⟩
    refine ⟨fun entry member => ?_, fun other held found => ?_, fun other absent => ?_⟩
    · rcases Entries.mem_keys_put.mp (List.mem_map_of_mem member) with key | key
      · obtain ⟨known, among, same⟩ := List.mem_map.mp key
        exact same ▸ sound.describes.known known among
      · exact ⟨setting, key⟩
    · rw [Entries.get?_put, get?_entries] at found
      by_cases same : other = setting
      · subst same
        rw [if_pos rfl] at found
        cases found
        exact takes
      · rw [if_neg fun names => same (Setting.name_injective names)] at found
        cases found
        rw [frame other same]
        exact sound other
    · rw [Entries.get?_put, get?_entries] at absent
      split at absent <;> cases absent

/-! ## Configurations as objects -/

private theorem held_eq_ok_iff : held setting value = .ok kept ↔ setting.Takes value kept := by
  constructor
  · intro done
    obtain ⟨reached, set, rfl⟩ := map_eq_ok_iff.mp done
    exact set_takes set
  · intro takes
    obtain ⟨reached, set⟩ := exists_set standard takes
    exact map_eq_ok_iff.mpr ⟨reached, set, takes.unique (set_takes set)⟩

namespace Object

private theorem texts_of_all {items : List Value} (all : items.all (·.text?.isSome) = true) :
    (items.filterMap Value.text?).map .text = items := by
  induction items with
  | nil => rfl
  | cons item rest ih =>
    simp only [List.all_cons, Bool.and_eq_true] at all
    cases item with
    | text s => simp [Value.text?, ih all.2]
    | _ => cases all.1

/-- What is of the right sort is read as it is. -/
private theorem get_settings (found : object.get? setting = some value)
    (sorted : isOfSort setting value = true) : object.settings.get setting = value := by
  cases setting with
  | databaseUrl | dbSchema | stubPath =>
    cases value with
    | null | text => simp [settings, Config.get, text?, found, Value.text?]
    | _ => cases sorted
  | unwantedColumns =>
    cases value with
    | list items =>
      simp only [settings, Config.get, texts, found]
      rw [texts_of_all sorted]
    | _ => cases sorted
  | _ =>
    cases value with
    | text => simp [settings, Config.get, text?, found, Value.text?]
    | _ => cases sorted

private theorem isOfSort_get (config : Config) (setting : Setting) :
    isOfSort setting (config.get setting) = true := by
  cases setting with
  | databaseUrl | dbSchema | stubPath => obtain ⟨_, _ | _, _ | _, _ | _⟩ := config <;> rfl
  | unwantedColumns => simp [Config.get, isOfSort, Value.text?]
  | _ => rfl

/-- An object is a configuration when the attribute of every setting holds what that does. -/
theorem config?_eq_some_iff :
    object.config? = some config ↔ ∀ setting, object.get? setting = some (config.get setting) := by
  constructor
  · intro shown setting
    obtain ⟨sorted, same⟩ := Option.ite_none_right_eq_some.mp shown
    cases same
    have known := List.all_eq_true.mp sorted setting (Setting.mem_all setting)
    obtain ⟨value, found, fits⟩ := (Option.any_eq_true _ _).mp known
    rw [get_settings found fits, found]
  · intro held
    have sorted : Setting.all.all
        (fun setting => (object.get? setting).any (isOfSort setting)) = true := by
      simp [held, isOfSort_get]
    have same : object.settings = config :=
      ext_get fun setting => get_settings (held setting) (isOfSort_get config setting)
    rw [config?, if_pos sorted, same]

private theorem config?_ofConfig (config : Config) : (ofConfig config).config? = some config :=
  config?_eq_some_iff.mpr (get?_entries config)

theorem get?_put (object : Object) (name : String) (value : Value) (setting : Setting) :
    get? ⟨object.attributes.put name value⟩ setting =
      if setting.name = name then some value else object.get? setting :=
  Entries.get?_put object.attributes name setting.name value

end Object

/-! ## One assignment -/

/-- An object may take a value for a private name of its own, and then nothing is checked. -/
def OwnNames.Bypasses (own : OwnNames) (name : String) (value : Value) : Prop :=
  isPrivate name = true ∧ own.has name = true ∧
    ∃ attributes left, own.assign attributes name value = .ok left

private theorem not_isPrivate_name (setting : Setting) : isPrivate setting.name = false := by
  cases setting <;> decide

namespace Object

/-- How the assignment of a value to a name ends. A setting is set to what it holds for the value. A
private name is put aside, unless it is the object's own, which does with it what it does. All else
is rejected, and issues say the name. -/
inductive Assigns (own : OwnNames) (object : Object) (name : String) (value : Value) :
    Except Rejection Object → Prop where
  | set {setting : Setting} {kept : Value} (called : setting.name = name)
      (takes : setting.Takes value kept) :
      Assigns own object name value (.ok ⟨object.attributes.put name kept⟩)
  | aside (hidden : isPrivate name = true) (free : own.has name = false) :
      Assigns own object name value (.ok ⟨object.attributes.put name value⟩)
  | taken {left : Entries} (hidden : isPrivate name = true) (owned : own.has name = true)
      (did : own.assign object.attributes name value = .ok left) :
      Assigns own object name value (.ok ⟨left⟩)
  | refused {rejection : Rejection} (hidden : isPrivate name = true) (owned : own.has name = true)
      (did : own.assign object.attributes name value = .error rejection) :
      Assigns own object name value (.error rejection)
  | rejected {rejection : Rejection} (shown : isPrivate name = false)
      (unfit : ∀ (setting : Setting) kept, setting.name = name → ¬ setting.Takes value kept)
      (named : ∀ issues, rejection = .invalid issues →
        issues ≠ [] ∧ ∀ issue ∈ issues, issue.field = some name) :
      Assigns own object name value (.error rejection)

private theorem assign_ends (own : OwnNames) (object : Object) (name : String) (value : Value) :
    Assigns own object name value (object.assign own name value) := by
  unfold assign
  split
  · rename_i setting known
    have called := Setting.ofName?_eq_some_iff.mp known
    cases done : held setting value with
    | ok kept => exact .set called (held_eq_ok_iff.mp done)
    | error issues =>
      obtain ⟨unfit, found, named⟩ := set_refuses (map_eq_error_iff.mp done)
      refine .rejected (called ▸ not_isPrivate_name setting) ?_ ?_
      · intro other kept same
        rw [← called] at same
        rw [Setting.name_injective same]
        exact unfit kept
      · rintro _ ⟨⟩
        exact ⟨found, called ▸ named⟩
  · rename_i unknown
    have unfit : ∀ (setting : Setting) kept, setting.name = name → ¬ setting.Takes value kept := by
      rintro setting kept rfl
      rw [Setting.ofName?_name] at unknown
      cases unknown
    cases hidden : isPrivate name with
    | true =>
      rw [if_pos rfl]
      cases owned : own.has name with
      | true =>
        rw [if_pos rfl]
        cases did : own.assign object.attributes name value with
        | ok left => exact .taken hidden owned did
        | error rejection => exact .refused hidden owned did
      | false => exact .aside hidden owned
    | false =>
      rw [if_neg Bool.false_ne_true]
      split
      · exact .rejected hidden unfit nofun
      · refine .rejected hidden unfit ?_
        rintro _ ⟨⟩
        simp

/-- What is accepted without going past the checks: any value for a private name that is not the
object's own, and for a setting the values that it takes. -/
theorem exists_assign_iff (checked : ¬ own.Bypasses name value) :
    (∃ after, object.assign own name value = .ok after) ↔
      (isPrivate name = true ∧ own.has name = false) ∨
        ∃ setting : Setting, setting.name = name ∧ ∃ kept, setting.Takes value kept := by
  have shut : ∀ setting : Setting, setting.name = name → isPrivate name = false := by
    rintro setting rfl
    exact not_isPrivate_name setting
  have ends := assign_ends own object name value
  generalize object.assign own name value = result at ends
  cases ends with
  | set called takes => exact ⟨fun _ => .inr ⟨_, called, _, takes⟩, fun _ => ⟨_, rfl⟩⟩
  | aside hidden free => exact ⟨fun _ => .inl ⟨hidden, free⟩, fun _ => ⟨_, rfl⟩⟩
  | taken hidden owned did => exact absurd ⟨hidden, owned, _, _, did⟩ checked
  | refused hidden owned =>
    refine ⟨nofun, ?_⟩
    rintro (⟨-, free⟩ | ⟨setting, called, -⟩)
    · simp [free] at owned
    · simp [shut setting called] at hidden
  | rejected shown unfit =>
    refine ⟨nofun, ?_⟩
    rintro (⟨hidden, -⟩ | ⟨setting, called, kept, takes⟩)
    · simp [shown] at hidden
    · exact absurd takes (unfit setting kept called)

/-- What is changed without going past the checks: the setting of the name, if it is one, and no
other. -/
theorem config?_of_assign (checked : ¬ own.Bypasses name value) (shown : object.config? = some config)
    (accepted : object.assign own name value = .ok after) :
    ∃ next, after.config? = some next ∧ ∀ setting : Setting,
      (setting.name = name → setting.Takes value (next.get setting)) ∧
        (setting.name ≠ name → next.get setting = config.get setting) := by
  rw [config?_eq_some_iff] at shown
  have ends := assign_ends own object name value
  rw [accepted] at ends
  cases ends with
  | @set setting kept called takes =>
    obtain ⟨next, done⟩ := exists_set config takes
    have holds : next.get setting = kept := takes.unique (set_takes done)
    refine ⟨next, config?_eq_some_iff.mpr fun other => ?_, fun other => ⟨fun same => ?_, fun new => ?_⟩⟩
    · rw [get?_put]
      split
      · rename_i same
        rw [← called] at same
        rw [Setting.name_injective same, holds]
      · rename_i new
        rw [shown, get_of_set_ne done (by rintro rfl; exact new called)]
    · rw [← called] at same
      rw [Setting.name_injective same, holds]
      exact takes
    · exact get_of_set_ne done (by rintro rfl; exact new called)
  | aside hidden =>
    have other : ∀ setting : Setting, setting.name ≠ name := by
      rintro setting rfl
      simp [not_isPrivate_name] at hidden
    refine ⟨config, config?_eq_some_iff.mpr fun setting => ?_,
      fun setting => ⟨fun same => absurd same (other setting), fun _ => rfl⟩⟩
    rw [get?_put, if_neg (other setting), shown]
  | taken hidden owned did => exact absurd ⟨hidden, owned, _, _, did⟩ checked

/-- Assigning a setting succeeds with the configuration in which it holds what it takes the value as,
and all others hold what they held. -/
theorem assign_name_iff (shown : object.config? = some config) :
    (∃ after, object.assign own setting.name value = .ok after ∧ after.config? = some next) ↔
      setting.Takes value (next.get setting) ∧
        ∀ other, other ≠ setting → next.get other = config.get other := by
  have checked : ¬ own.Bypasses setting.name value := by
    rintro ⟨hidden, -⟩
    simp [not_isPrivate_name] at hidden
  constructor
  · rintro ⟨after, accepted, reached⟩
    obtain ⟨next', reached', changed⟩ := config?_of_assign checked shown accepted
    obtain rfl : next = next' := Option.some.inj (reached.symm.trans reached')
    exact ⟨(changed setting).1 rfl, fun other different =>
      (changed other).2 fun same => different (Setting.name_injective same)⟩
  · rintro ⟨takes, frame⟩
    refine ⟨⟨object.attributes.put setting.name (next.get setting)⟩, ?_, ?_⟩
    · simp only [assign, Setting.ofName?_name, held_eq_ok_iff.mpr takes]
    · rw [config?_eq_some_iff] at shown ⊢
      intro other
      rw [get?_put]
      split
      · rename_i same
        rw [Setting.name_injective same]
      · rename_i new
        rw [shown, frame other fun same => new (congrArg Setting.name same)]

/-! ## Any number of assignments -/

/-- An assignment that does not go past the checks leaves a sound configuration, accepted or
rejected. -/
theorem attempt_sound (checked : ¬ own.Bypasses name value) (shown : object.config? = some config)
    (sound : config.Sound) :
    ∃ next, (object.attempt own (name, value)).config? = some next ∧ next.Sound := by
  unfold attempt
  split
  · rename_i after accepted
    obtain ⟨next, reached, changed⟩ := config?_of_assign checked shown accepted
    refine ⟨next, reached, fun setting => ?_⟩
    by_cases same : setting.name = name
    · exact ((changed setting).1 same).again
    · rw [(changed setting).2 same]
      exact sound setting
  · exact ⟨config, shown, sound⟩

private theorem attemptAll_sound {assignments : List (String × Value)}
    (checked : ∀ assignment ∈ assignments, ¬ own.Bypasses assignment.1 assignment.2)
    (shown : object.config? = some config) (sound : config.Sound) :
    ∃ state, (object.attemptAll own assignments).config? = some state ∧ state.Sound := by
  induction assignments generalizing object config with
  | nil => exact ⟨config, shown, sound⟩
  | cons first rest ih =>
    obtain ⟨first_checked, rest_checked⟩ := List.forall_mem_cons.mp checked
    obtain ⟨next, reached, ordered⟩ := attempt_sound first_checked shown sound
    exact ih rest_checked reached ordered

end Object

/-- A configuration keeps its order through any assignments, accepted and rejected ones, as long as
none of them goes past the checks, whatever the object does with private names of its own. In
whatever state it comes to, every setting holds something, the layout and the statement for routes
are not empty, the extension is empty or has its dot, and making the configuration again of what its
settings hold gives the same one. The next assignment is accepted for a private name, which changes
no setting, and for a setting that takes the value, which changes that setting alone and does what
making the configuration again with the value would do. One that is rejected changes nothing. -/
theorem assignments_keep_sound (own : OwnNames) (built : ofEntries entries = .ok config)
    (assignments : List (String × Value))
    (checked : ∀ assignment ∈ assignments, ¬ own.Bypasses assignment.1 assignment.2) :
    let object := (Object.ofConfig config).attemptAll own assignments
    ∃ state, object.config? = some state ∧
    state.layout ≠ "" ∧ state.routeTemplate ≠ "" ∧ Setting.IsDotted state.viewExtension ∧
    ofEntries state.entries = .ok state ∧
    (∀ (setting : Setting) value next,
      (∃ after, object.assign own setting.name value = .ok after ∧ after.config? = some next) ↔
        ofEntries (state.entries.put setting.name value) = .ok next) ∧
    (∀ setting : Setting, ∃ after,
      object.assign own setting.name (state.get setting) = .ok after ∧
        after.config? = some state) ∧
    ∀ name value, ¬ own.Bypasses name value →
      ((∃ after, object.assign own name value = .ok after) ↔
        (isPrivate name = true ∧ own.has name = false) ∨
          ∃ setting : Setting, setting.name = name ∧ ∃ kept, setting.Takes value kept) ∧
      (∀ rejection, object.assign own name value = .error rejection →
        object.attempt own (name, value) = object) ∧
      ∀ after, object.assign own name value = .ok after →
        object.attempt own (name, value) = after ∧ ∃ next, after.config? = some next ∧
          ∀ setting : Setting, (setting.name = name → setting.Takes value (next.get setting)) ∧
            (setting.name ≠ name → next.get setting = state.get setting) := by
  intro object
  obtain ⟨state, shown, sound⟩ : ∃ state, object.config? = some state ∧ state.Sound :=
    Object.attemptAll_sound checked (Object.config?_ofConfig config)
      (ofEntries_eq_ok_iff.mp built).sound
  refine ⟨state, shown, (sound .layout).filled rfl, (sound .routeTemplate).filled rfl,
    (sound .viewExtension).dotted, ofEntries_eq_ok_iff.mpr sound.describes, ?_, ?_, ?_⟩
  · intro setting value next
    rw [Object.assign_name_iff shown, sound.remade_iff]
  · exact fun setting => (Object.assign_name_iff shown).mpr ⟨sound setting, fun _ _ => rfl⟩
  · intro name value checked
    refine ⟨Object.exists_assign_iff checked, fun rejection rejected => ?_, fun after accepted => ?_⟩
    · rw [Object.attempt, rejected]
    · exact ⟨by rw [Object.attempt, accepted], Object.config?_of_assign checked shown accepted⟩

/-- A configuration that got its extension without a dot. -/
def bareEntries : Entries :=
  [(.text "view_extension", .text "jinja")]

/-- An empty layout, another extension without a dot, a name that is no setting, a private one, and
two that cannot be assigned. -/
def mixedAssignments : List (String × Value) :=
  [("layout", .text ""), ("view_extension", .text "j2"), ("bogus", .null), ("_seen", .bool true),
   ("root", .text "p"), ("__dict__", .text "p")]

/-- Of six assignments one changes a setting, and what comes of them can be made again. -/
theorem assignments_keep_sound_mixed :
    let start : Config := { standard with viewExtension := ".jinja" }
    let state : Config := { standard with viewExtension := ".j2" }
    let object := (Object.ofConfig start).attemptAll .standard mixedAssignments
    ofEntries bareEntries = .ok start ∧
      (∀ assignment ∈ mixedAssignments,
        ¬ OwnNames.standard.Bypasses assignment.1 assignment.2) ∧
      object.config? = some state ∧ Setting.IsDotted state.viewExtension ∧
      ofEntries state.entries = .ok state ∧
      object.attempt .standard ("route_template", .text "") = object := by
  intro start state object
  have built : ofEntries bareEntries = .ok start := by rfl
  have checked : ∀ assignment ∈ mixedAssignments,
      ¬ OwnNames.standard.Bypasses assignment.1 assignment.2 := by
    rintro assignment member ⟨-, owned, _, _, did⟩
    simp only [mixedAssignments, List.mem_cons, List.not_mem_nil, or_false] at member
    rcases member with rfl | rfl | rfl | rfl | rfl | rfl
    -- Only the last name is one of the object's own, and it does not take a text.
    case inr.inr.inr.inr.inr => cases did
    all_goals exact absurd owned (by decide)
  obtain ⟨reached, shown, -, -, dotted, again, -, -, next⟩ :=
    assignments_keep_sound .standard built mixedAssignments checked
  have known : object.config? = some state := by rfl
  obtain rfl : reached = state := Option.some.inj (shown.symm.trans known)
  obtain ⟨-, rejected, -⟩ := next "route_template" (.text "")
    (by simp [OwnNames.Bypasses, isPrivate])
  have empty : object.assign .standard "route_template" (.text "") =
      .error (.invalid [⟨some "route_template", none, .emptyText⟩]) := by rfl
  exact ⟨built, checked, known, dotted, again, rejected _ empty⟩

/-- The standard configuration but for an empty layout. -/
def blankConfig : Config :=
  { standard with layout := "" }

/-- A map takes the place of all attributes at once and is not checked: another setting than the one
that is named is changed, the layout is empty, and the configuration cannot be made again. -/
theorem dictionary_replaces_settings :
    ofEntries [] = .ok standard ∧ (∀ setting : Setting, setting.name ≠ "__dict__") ∧
      ∃ after issues,
        (Object.ofConfig standard).assign .standard "__dict__" (.map blankConfig.entries) =
          .ok after ∧
        after.config? = some blankConfig ∧ blankConfig.layout = "" ∧ standard.layout ≠ "" ∧
        ofEntries blankConfig.entries = .error issues := by
  refine ⟨rfl, fun setting => by cases setting <;> decide, _, _, rfl, rfl, rfl, by decide, rfl⟩

end Scaffold.Config
