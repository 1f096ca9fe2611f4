import Scaffold.CommandLine.ExitCode
import Scaffold.Proofs.Inputs
import Scaffold.Proofs.Moving
import Scaffold.Settings

/-! How the configuration of a call is had. A settings file is read and nothing is changed, so that the
configuration depends on the workspace alone; and whatever keeps it from being had is told as a fault
of the settings. -/
namespace Scaffold

open Data Files Files.Workspace Scaffold.Action Running

namespace Settings

variable {w : Workspace} {path : Path} {failure : Failure}

/-- The entries for this program in the text of a settings file. -/
def entriesIn (path : Path) (text : String) : Except Failure Entries :=
  match (formatOf (Text.lower path.ending)).read path text >>= part path with
  | .ok entries => .ok entries
  | .error fault => .error (.settings fault)

/-- The entries that a settings file holds. -/
def loadedFrom (path : Path) (w : Workspace) : Except Failure Entries :=
  if w.isThere path then
    if w.isFile path then Template.textIn path w >>= entriesIn path
    else .error (.settings (.notFile path))
  else .error (.settings (.missing path))

theorem answers_load (path : Path) : Answers (load path) (loadedFrom path) := by
  refine Answers.ofWorkspace fun w => ?_
  cases there : w.isThere path with
  | false =>
    simp only [Bool.not_false, if_true]
    exact ⟨_, answers_throw _, by simp [loadedFrom, there]⟩
  | true =>
    simp only [Bool.not_true, Bool.false_eq_true, if_false]
    cases file : w.isFile path with
    | false =>
      simp only [Bool.not_false, if_true]
      exact ⟨_, answers_throw _, by simp [loadedFrom, there, file]⟩
    | true =>
      simp only [Bool.not_true, Bool.false_eq_true, if_false]
      refine ⟨fun w => Template.textIn path w >>= entriesIn path, ?_,
        by simp [loadedFrom, there, file]⟩
      refine Answers.perhapsSaying rfl ((Template.answers_readText path).bind fun text => ?_)
      unfold entriesIn
      cases (formatOf (Text.lower path.ending)).read path text >>= part path with
      | ok entries => exact answers_pure entries
      | error fault => exact answers_throw _

private theorem entriesIn_refused {text : String} (failed : entriesIn path text = .error failure) :
    ∃ fault, failure = .settings fault := by
  unfold entriesIn at failed
  split at failed <;> cases failed
  exact ⟨_, rfl⟩

/-- A settings file is refused for bytes that are no text, for what it is or for what it holds. -/
theorem loadedFrom_refused (failed : loadedFrom path w = .error failure) :
    failure = .notText ∨ ∃ fault, failure = .settings fault := by
  unfold loadedFrom at failed
  split at failed
  · split at failed
    · rename_i file
      rcases error_of_bind failed with unread | ⟨text, -, refused⟩
      · exact .inl (Template.textIn_of_isFile file unread)
      · exact .inr (entriesIn_refused refused)
    · cases failed
      exact .inr ⟨_, rfl⟩
  · cases failed
    exact .inr ⟨_, rfl⟩

/-- The entries of the settings file, if there is one to use. -/
def entriesOf (path : Option Path) (w : Workspace) : Except Failure Entries :=
  match path with
  | none => .ok []
  | some file => loadedFrom file w

private theorem answers_fileEntries (path : Option Path) :
    Answers (fileEntries path) (entriesOf path) := by
  cases path with
  | none => exact answers_pure []
  | some file =>
    refine ((answers_load file).bind fun entries =>
      (answers_pure entries).afterSaying rfl).congr fun w => ?_
    change _ = loadedFrom file w
    cases loadedFrom file w <;> rfl

/-- The configuration that entries with explicit settings over them make. -/
def configOf (given entries : Entries) : Except Failure Config :=
  match Config.ofEntries (overlay entries given) with
  | .ok config => .ok config
  | .error issues => .error (.settings (.invalid issues))

/-- The configuration that follows from a settings file and explicit settings. -/
def configIn (path : Option Path) (explicit : Entries) (w : Workspace) : Except Failure Config :=
  entriesOf (path <|> find? w (rootOf (givenOf explicit))) w >>= configOf (givenOf explicit)

theorem answers_configure (path : Option Path) (explicit : Entries) :
    Answers (configure path explicit) (configIn path explicit) := by
  refine Answers.ofWorkspace fun w => ?_
  have made : ∀ entries, Answers
      (match Config.ofEntries (overlay entries (givenOf explicit)) with
        | .ok config => return config
        | .error issues => throw (.settings (.invalid issues)) : Action Config)
      fun _ => configOf (givenOf explicit) entries := by
    intro entries
    unfold configOf
    cases Config.ofEntries (overlay entries (givenOf explicit)) with
    | ok config => exact answers_pure config
    | error issues => exact answers_throw _
  exact ⟨_, (answers_fileEntries _).bind made, rfl⟩

private theorem configOf_refused {given entries : Entries}
    (failed : configOf given entries = .error failure) : ∃ fault, failure = .settings fault := by
  unfold configOf at failed
  split at failed <;> cases failed
  exact ⟨_, rfl⟩

/-- Without settings to be had there is one of two failures: bytes that are no text, or a fault of
the settings. -/
theorem configIn_refused {given : Option Path} {explicit : Entries}
    (failed : configIn given explicit w = .error failure) :
    failure = .notText ∨ ∃ fault, failure = .settings fault := by
  rcases error_of_bind failed with unread | ⟨entries, -, refused⟩
  · unfold entriesOf at unread
    split at unread
    · cases unread
    · exact loadedFrom_refused unread
  · exact .inr (configOf_refused refused)

/-- Whatever keeps the settings from being had is told as such. -/
theorem configIn_fails {given : Option Path} {explicit : Entries}
    (failed : configIn given explicit w = .error failure) :
    CommandLine.ExitCode.spoilsSettings failure = true := by
  rcases configIn_refused failed with rfl | ⟨fault, rfl⟩ <;> rfl

/-! ## Reading settings in a run -/

private theorem tame_load (path : Path) : Tame (load path) := by
  refine tame_workspace.bind fun w => .ite _ (tame_throw rfl) (.ite _ (tame_throw rfl) ?_)
  refine Tame.perhapsSaying ((tame_readText path).bind fun text => ?_)
  split
  · exact tame_pure _
  · exact tame_throw rfl

theorem tame_configure (path : Option Path) (explicit : Entries) :
    Tame (configure path explicit) := by
  refine tame_workspace.bind fun w => Tame.bind ?_ fun entries => ?_
  · cases path <|> find? w (rootOf (givenOf explicit)) with
    | none => exact tame_pure _
    | some file => exact (tame_load file).bind fun _ => (tame_say _ _ _).bind fun _ => tame_pure _
  · split
    · exact tame_pure _
    · exact tame_throw rfl

end Settings

end Scaffold
