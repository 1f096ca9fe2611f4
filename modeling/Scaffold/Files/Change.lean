import Scaffold.Files.Workspace

/-!
Changes of a workspace. A change that is refused leaves what it did before that: making a directory
with its parents may have made some of them. Replacing a file goes through a staged file beside it,
which takes its place in one step or is removed again.
-/
namespace Scaffold.Files

open Text

/-- A change of a workspace, which may be refused on the way. -/
abbrev Change := ExceptT Fault (StateM Workspace)

namespace Change

/-- An answer of the workspace as it is. -/
def ask (question : Workspace → Except Fault α) : Change α := do
  match question (← get) with
  | .ok answer => pure answer
  | .error fault => throw fault

/-- The mode of a new file. -/
def newMode : Nat :=
  0o644

/-- The mode of a directory. -/
def directoryMode : Nat :=
  0o755

/-- Makes one directory. Something that is there already is in the way, also a link. -/
def makeDirectory (path : Path) : Change Unit := do
  let place ← ask (·.locate .stay path)
  if path.names.getLast?.getD ".." == ".." || ((← get).entryAt place).isSome then throw .exists
  modify (·.set place .directory)

/-- Lets a refusal pass when the path is a directory all the same. -/
def unlessDirectory (path : Path) (fault : Fault) : Change Unit := do
  if !(fault.isSystem && (← get).isDirectory path) then throw fault

/-- Makes the directory with the given names, last one first, and all parents that are missing. -/
def makeAll (start : Start) : List String → Change Unit
  | [] => unlessDirectory ⟨start, []⟩ .exists
  | name :: rest =>
    let path : Path := ⟨start, (name :: rest).reverse⟩
    tryCatch (makeDirectory path) fun fault =>
      if fault = .missing then do
        makeAll start rest
        tryCatch (makeDirectory path) (unlessDirectory path)
      else unlessDirectory path fault

/-- Makes a directory and all parents that are missing. Directories that are there are kept. -/
def makeDirectories (path : Path) : Change Unit :=
  if path.hasNull then throw .nullCharacter
  else makeAll path.start path.names.reverse

/-- A name that nothing in the workspace has: longer than all that are in use. -/
def freshName (w : Workspace) (stem : String) : String :=
  let longest := w.entries.foldl
    (fun most entry => entry.1.foldl (fun n name => max n name.length) most) 0
  "." ++ stem ++ "." ++ String.ofList (List.replicate (longest + 1) '_') ++ ".tmp"

/-- Puts a file beside a path, in the directory that the names of the path spell, and gives its
place. -/
def stage (path : Path) (bytes : Bytes) : Change Location := do
  let w ← get
  let names := w.plainPlace path.parent ++ [freshName w path.name]
  let place ← ask (·.locate .make ⟨.root, names⟩)
  set (w.set place (.file 0o600 bytes))
  pure place

/-- The mode that a file written to a path gets: that of what is there, else that of a new file. -/
def modeFor (path : Path) : Change Nat := do
  match (← get).find? .follow path with
  | .ok (_, .file mode _) => pure mode
  | .ok _ => pure directoryMode
  | .error fault => if fault = .missing then pure newMode else throw fault

/-- Moves a staged file to a path. A directory cannot be replaced, least of all one above the staged
file, and neither can what has no name of its own. -/
def moveTo (staged : Location) (entry : Entry) (path : Path) : Change Unit := do
  let place ← ask (·.locate .stay path)
  if path.names.getLast?.getD ".." == ".." then throw .busy
  if (← get).entryAt place = some .directory then
    throw (if place.isPrefixOf staged then .notEmpty else .isDirectory)
  modify fun w => (w.erase staged).set place entry

/-- Replaces what is at a path by a file, in one step. -/
def replace (path : Path) (bytes : Bytes) : Change Unit := do
  let staged ← stage path bytes
  tryCatch
    (do
      let mode ← modeFor path
      moveTo staged (.file mode bytes) path)
    fun fault => do
      modify (·.erase staged)
      throw fault

/-- Writes to the file that a path leads to. A new file is made where the last link points. -/
def overwrite (path : Path) (bytes : Bytes) : Change Unit := do
  let place ← ask (·.locate .make path)
  match (← get).entryAt place with
  | some (.file mode _) => modify (·.set place (.file mode bytes))
  | none => modify (·.set place (.file newMode bytes))
  | some _ => throw .isDirectory

/-- Adds to the end of the file that a path leads to, or makes it. -/
def append (path : Path) (bytes : Bytes) : Change Unit := do
  let place ← ask (·.locate .make path)
  match (← get).entryAt place with
  | some (.file mode old) => modify (·.set place (.file mode (old ++ bytes)))
  | none => modify (·.set place (.file newMode bytes))
  | some _ => throw .isDirectory

end Change

end Scaffold.Files
