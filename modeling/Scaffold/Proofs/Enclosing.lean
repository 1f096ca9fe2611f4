import Scaffold.Proofs.References

/-! Where the names of a request can lead. Whatever a table is called, the names that follow from it
are spelled without slashes, dots and null characters, so each of them is one step down from a
directory that the settings name. Only the settings decide which directories those are. -/
namespace Scaffold

open Files Text

namespace Files.Path

variable {base path : Path} {name ending : String} {names : List String}

/-- A name that leads one step down, wherever it is followed from: not to a root, since it has no
slash, not up, and not nowhere. -/
structure IsStepDown (name : String) : Prop where
  flat : '/' ∉ name.toList
  filled : name ≠ ""
  moving : name ≠ "."
  down : name ≠ ".."

/-- A path that leads down from another one by some names, one step each. -/
structure Encloses (base : Path) (names : List String) (path : Path) : Prop where
  whole : path = ⟨base.start, base.names ++ names⟩
  steps : ∀ name ∈ names, IsStepDown name

theorem Encloses.refl (base : Path) : base.Encloses [] base :=
  ⟨by rw [List.append_nil], by simp⟩

/-- Following one more name that leads down. -/
theorem Encloses.child (encloses : base.Encloses names path) (down : IsStepDown name) :
    base.Encloses (names ++ [name]) (path.child name) := by
  have step : isStep name = true := by
    rw [isStep, Bool.and_eq_true, bne_iff_ne, bne_iff_ne]
    exact ⟨down.filled, down.moving⟩
  constructor
  · rw [Path.child, ofString_of_flat down.flat step, encloses.whole]
    exact congrArg (Path.mk base.start) (List.append_assoc ..)
  · intro known member
    rcases List.mem_append.mp member with before | last
    · exact encloses.steps known before
    · exact List.mem_singleton.mp last ▸ down

private theorem child_empty (base : Path) : base.child "" = base := by
  change Path.mk base.start (base.names ++ []) = base
  rw [List.append_nil]

/-- A long name without slashes leads down. -/
theorem isStepDown_of_long (flat : '/' ∉ name.toList) (long : 2 < name.length) :
    IsStepDown name := by
  refine ⟨flat, ?_, ?_, ?_⟩
  · rintro rfl
    exact absurd long (by decide)
  · rintro rfl
    exact absurd long (by decide)
  · rintro rfl
    exact absurd long (by decide)

/-- A name with a long ending leads down. -/
theorem isStepDown_append (flat : '/' ∉ name.toList) (flatEnding : '/' ∉ ending.toList)
    (long : 2 < name.length + ending.length) : IsStepDown (name ++ ending) := by
  apply isStepDown_of_long
  · rw [String.toList_append]
    exact fun member => (List.mem_append.mp member).elim flat flatEnding
  · rw [String.length_append]
    exact long

end Files.Path

namespace Naming

open Inflection

/-- None of the characters with which a name would mean more than one step, or nothing at all. -/
def isHarmless (c : Char) : Prop :=
  c ≠ '/' ∧ c ≠ '.' ∧ c ≠ '\x00'

private theorem isHarmless_of_isRaised {c : Char} (raised : isRaised c) : isHarmless c := by
  obtain ⟨slash, dot⟩ := isPlain_of_isRaised raised
  refine ⟨slash, dot, ?_⟩
  rintro rfl
  unfold isRaised at raised
  exact absurd raised (by decide)

variable (rules : RuleSet) (request : Request)

private theorem resolve_snake_harmless :
    ∀ c ∈ (Naming.resolve rules request).snakeName.toList, isHarmless c := by
  rw [Naming.resolve, Identifier.snake, String.toList_ofList]
  exact fun c member => isHarmless_of_isRaised (Identifier.isRaised_snakeChars _ c member)

private theorem resolve_folder_harmless :
    ∀ c ∈ (Naming.resolve rules request).viewFolder.toList, isHarmless c := by
  rw [Naming.resolve, Identifier.kebab, String.toList_ofList]
  intro c member
  obtain ⟨d, among, rfl⟩ := List.mem_map.mp member
  split
  · exact ⟨by decide, by decide, by decide⟩
  · exact isHarmless_of_isRaised (Identifier.isRaised_snakeChars _ d among)

/-- The folder of the views is one step down, if it has a name. -/
theorem resolve_folder_down (named : (Naming.resolve rules request).viewFolder ≠ "") :
    Path.IsStepDown (Naming.resolve rules request).viewFolder := by
  have harmless := resolve_folder_harmless rules request
  generalize (Naming.resolve rules request).viewFolder = folder at named harmless
  refine ⟨fun slash => (harmless _ slash).1 rfl, named, ?_, ?_⟩
  · rintro rfl
    exact (harmless '.' (by decide)).2.1 rfl
  · rintro rfl
    exact (harmless '.' (by decide)).2.1 rfl

end Naming

namespace Config

open Inflection

/-- The folder of the views as names on the way to it. -/
def folderNames (naming : Naming) : List String :=
  if naming.viewFolder = "" then [] else [naming.viewFolder]

/-- The view names are long enough to be no dots, whatever extension they get. -/
theorem viewNames_long : ∀ view ∈ Generation.viewNames, '/' ∉ view.toList ∧ 2 < view.length := by
  decide

section

variable (rules : RuleSet) (request : Request) (config : Config)

theorem controllerPath_enclosed :
    (config.resolved config.controllerDir).Encloses
      [(Naming.resolve rules request).snakeName ++ "_controller.py"]
      (config.controllerPath (Naming.resolve rules request)) := by
  have harmless := Naming.resolve_snake_harmless rules request
  exact (Path.Encloses.refl _).child (Path.isStepDown_append (fun slash => (harmless _ slash).1 rfl)
    (by decide) (Nat.lt_of_lt_of_le (by decide) (Nat.le_add_left 14 _)))

theorem modelPath_enclosed :
    (config.resolved config.modelDir).Encloses [(Naming.resolve rules request).snakeName ++ ".py"]
      (config.modelPath (Naming.resolve rules request)) := by
  have harmless := Naming.resolve_snake_harmless rules request
  exact (Path.Encloses.refl _).child (Path.isStepDown_append (fun slash => (harmless _ slash).1 rfl)
    (by decide) (Nat.lt_of_lt_of_le (by decide) (Nat.le_add_left 3 _)))

theorem folder_enclosed :
    (config.resolved config.viewsDir).Encloses (folderNames (Naming.resolve rules request))
      ((config.resolved config.viewsDir).child (Naming.resolve rules request).viewFolder) := by
  unfold folderNames
  split
  · rename_i bare
    rw [bare, Path.child_empty]
    exact .refl _
  · rename_i named
    exact (Path.Encloses.refl _).child (Naming.resolve_folder_down rules request named)

end

/-- No request leads out of the directories that the settings name. What it is called is spelled
without the characters that mean something in paths, and each file that is named after it is one step
down from its directory, or two for a view. -/
theorem requests_stay_enclosed (rules : RuleSet) (request : Request) (config : Config)
    {naming : Naming} (resolved : Naming.resolve rules request = naming) :
    (∀ c ∈ naming.snakeName.toList, Naming.isHarmless c) ∧
    (∀ c ∈ naming.viewFolder.toList, Naming.isHarmless c) ∧
    (config.resolved config.controllerDir).Encloses [naming.snakeName ++ "_controller.py"]
      (config.controllerPath naming) ∧
    (config.resolved config.modelDir).Encloses [naming.snakeName ++ ".py"]
      (config.modelPath naming) ∧
    ('/' ∉ config.viewExtension.toList → ∀ view ∈ Generation.viewNames,
      (config.resolved config.viewsDir).Encloses
        (folderNames naming ++ [view ++ config.viewExtension]) (config.viewPath naming view)) := by
  subst resolved
  refine ⟨Naming.resolve_snake_harmless rules request, Naming.resolve_folder_harmless rules request,
    controllerPath_enclosed rules request config, modelPath_enclosed rules request config, ?_⟩
  intro extension view member
  obtain ⟨flat, long⟩ := viewNames_long view member
  have file : Path.IsStepDown (view ++ config.viewExtension) :=
    Path.isStepDown_append flat extension (Nat.lt_of_lt_of_le long (Nat.le_add_right _ _))
  exact (folder_enclosed rules request config).child file

/-- A table whose name spells a way up. -/
def upwardRequest : Request :=
  ⟨"../etc", none, none, none⟩

/-- The name of a table does not lead up. -/
theorem requests_stay_enclosed_upward : ∃ naming, Naming.resolve english upwardRequest = naming ∧
    (∀ c ∈ naming.snakeName.toList, Naming.isHarmless c) ∧
    (standard.resolved standard.controllerDir).Encloses ["etc_controller.py"]
      (standard.controllerPath naming) ∧
    (standard.resolved standard.viewsDir).Encloses ["etc", "index.html"]
      (standard.viewPath naming "index") := by
  refine ⟨Naming.resolve english upwardRequest, rfl, ?_⟩
  obtain ⟨snake, -, controller, -, views⟩ :=
    requests_stay_enclosed english upwardRequest standard rfl
  have view := views (by decide +kernel) "index" List.mem_cons_self
  have file : (Naming.resolve english upwardRequest).snakeName ++ "_controller.py" =
      "etc_controller.py" := by decide +kernel
  have names : folderNames (Naming.resolve english upwardRequest) ++
      ["index" ++ standard.viewExtension] = ["etc", "index.html"] := by decide +kernel
  rw [← file, ← names]
  exact ⟨snake, controller, view⟩

end Config

end Scaffold
