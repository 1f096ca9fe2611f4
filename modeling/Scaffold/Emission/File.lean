import Scaffold.Session

/-!
Writing text to a path and reading it. The directories on the way are made; a link is followed to
its end first, so that the link itself stays.
-/
namespace Scaffold.Emission

open Files Text

/-- Makes a directory and all parents that are missing. -/
def ensureDirectory (path : Path) : Action Unit := do
  Action.change (Change.makeDirectories path)
  Action.say .debug .files ("Ensured directory exists: " ++ path.text)

/-- Writes a text to a path and gives the number of its bytes. In one step, a reader sees the old
text or the new one and nothing between them. -/
def writeText (path : Path) (content : String) (inOneStep : Bool) : Action Nat := do
  let target ← Action.change (Change.ask (·.target path))
  ensureDirectory target.parent
  let bytes := encode content
  Action.change (if inOneStep then Change.replace target bytes else Change.overwrite target bytes)
  Action.say .debug .files ("Wrote " ++ toString bytes.length ++ " bytes to " ++ target.text)
  return bytes.length

/-- Reads the text of a file. -/
def readText (path : Path) : Action String := do
  let bytes ← Action.change (Change.ask (·.read path))
  match fileText? bytes with
  | some text => return text
  | none => throw .notText

end Scaffold.Emission
