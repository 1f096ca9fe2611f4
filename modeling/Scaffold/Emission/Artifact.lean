import Scaffold.Emission.File
import Scaffold.Emission.Outcome

/-!
Writing generated files. A file that is there is replaced only with consent; declining leaves it as
it is and is no failure.
-/
namespace Scaffold.Emission

open Files

/-- What is asked before a file is replaced. -/
def question (path : Path) : String :=
  path.text ++ " already exists. Do you want to overwrite it?"

/-- Puts a text at a path, in one step. -/
def place (path : Path) (content : String) : Action Unit := do
  let _ ← Action.refusedAs (.artifact path) (writeText path content true)

/-- Writes a text to a path, with consent when something is there. -/
def write (path : Path) (content : String) : Action Outcome := do
  if (← Action.workspace).isThere path then
    if ← Action.confirm (question path) true then
      place path content
      Action.say .info .emitter ("Overwrote " ++ path.text)
      return .overwritten
    else
      Action.say .info .emitter ("Skipped " ++ path.text ++ " (overwrite declined).")
      return .skipped
  else
    place path content
    Action.say .info .emitter ("Created " ++ path.text)
    return .created

/-- Writes a text to a path where nothing is, without asking anyone. -/
def writeIfMissing (path : Path) (content : String) : Action Outcome := do
  if (← Action.workspace).isThere path then
    Action.say .debug .emitter ("Kept existing " ++ path.text)
    return .skipped
  else
    place path content
    Action.say .info .emitter ("Created " ++ path.text)
    return .created

end Scaffold.Emission
