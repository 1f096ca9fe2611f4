import Scaffold.Failure

/-!
Exit codes: one for each way in which a run ends, and the failures that each of them answers.
-/
namespace Scaffold.CommandLine

inductive ExitCode where
  | success
  /-- The table is missing, or the request cannot be carried out. -/
  | validation
  | schema
  | files
  /-- The request or the settings cannot be read. -/
  | input
  deriving DecidableEq, Repr

namespace ExitCode

def number : ExitCode → Nat
  | .success => 0
  | .validation => 1
  | .schema => 2
  | .files => 3
  | .input => 4

/-- Two ways to end have two codes. -/
theorem number_injective {a b : ExitCode} (h : a.number = b.number) : a = b := by
  cases a <;> cases b <;> simp_all [number]

/-- The code for a failure of generation, and the words that stand before its message. Other
failures have no code. -/
def ofFailure? (failure : Failure) : Option (ExitCode × String) :=
  match failure with
  | .unsupportedLanguage _ | .noDatabase => some (.validation, "")
  | .schema _ => some (.schema, "Schema error: ")
  | other => if other.isFileTrouble then some (.files, "I/O error: ") else none

/-- Whether a failure means that the settings cannot be had: they are not right, their file is no
text, or their path is no path. -/
def spoilsSettings : Failure → Bool
  | .settings _ | .notText | .file .nullCharacter | .file .missing => true
  | _ => false

end ExitCode

end Scaffold.CommandLine
