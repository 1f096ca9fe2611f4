/-!
Why an operation on files is refused. The system's own refusals have a number; the others are seen
before the system is asked.
-/
namespace Scaffold.Files

inductive Fault where
  | missing
  | busy
  | exists
  | notDirectory
  | isDirectory
  | notEmpty
  | tooManyLinks
  /-- Links that lead back to themselves, found while a link was followed to its end. -/
  | linkLoop (place : String)
  /-- A name with a null character. -/
  | nullCharacter
  deriving DecidableEq, Repr

/-- The number of a system refusal. -/
def Fault.number? : Fault → Option Nat
  | .missing => some 2
  | .busy => some 16
  | .exists => some 17
  | .notDirectory => some 20
  | .isDirectory => some 21
  | .notEmpty => some 39
  | .tooManyLinks => some 40
  | .linkLoop _ => none
  | .nullCharacter => none

/-- Whether the system itself refused. -/
def Fault.isSystem (fault : Fault) : Bool :=
  fault.number?.isSome

/-- The text of a fault. -/
def Fault.message (fault : Fault) : String :=
  match fault with
  | .linkLoop place => "Symlink loop from '" ++ place ++ "'"
  | .nullCharacter => "embedded null byte"
  | other => "[Errno " ++ toString (other.number?.getD 0) ++ "]"

end Scaffold.Files
