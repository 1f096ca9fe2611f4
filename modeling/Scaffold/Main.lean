import Scaffold.CommandLine.Program
import Scaffold.Data.Json
import Scaffold.Files.Difference
import Scaffold.Schema.Description

/-!
The command line of the program. It looks at the current directory as it is, answers its arguments,
and then writes what has changed. A reply is read only when an answer needs one: the same replies
lead to the same answer, so an answer that stops at a question is given again with one reply more.

The database is known by its description, the file `database.json` in the current directory.
-/
namespace Scaffold

open CommandLine Data Files Schema

namespace Disk

/-- The bytes of an array. -/
def bytesOf (content : ByteArray) : Text.Bytes :=
  content.data.toList

/-- Whether an entry is left aside: hidden directories hold no part of a project. -/
def isHidden (name : String) : Bool :=
  name.startsWith "."

/-- Adds entries of a directory, with all that is below them, to a workspace. Links count as what
they lead to. -/
partial def add (place : Location) (items : List IO.FS.DirEntry) (w : Workspace) :
    IO Workspace := do
  match items with
  | [] => return w
  | item :: rest =>
    let here := place ++ [item.fileName]
    if ← item.path.isDir then
      if isHidden item.fileName then add place rest w
      else
        let inner ← item.path.readDir
        add place rest (← add here inner.toList (w.set here .directory))
    else if ← item.path.pathExists then
      let content ← IO.FS.readBinFile item.path
      add place rest (w.set here (.file Change.newMode (bytesOf content)))
    else add place rest w

/-- The workspace of the current directory. -/
def load : IO Workspace := do
  let directory ← IO.currentDir
  let home := (Path.ofString directory.toString).names
  let items ← directory.readDir
  add home items.toList (Workspace.empty home)

/-- Writes an entry to the current directory. -/
def save (path : String) (entry : Entry) : IO Unit := do
  match entry with
  | .directory => IO.FS.createDirAll path
  | .file _ bytes => IO.FS.writeBinFile path ⟨bytes.toArray⟩
  | .link _ => return

end Disk

/-- The file that describes the database. -/
def databaseFile : String :=
  "database.json"

/-- The database that a workspace describes. Without a description it has no tables. -/
def databaseIn (w : Workspace) : Option Database :=
  match w.read (Path.ofString databaseFile) with
  | .error _ => some {}
  | .ok bytes => ((Text.fileText? bytes).bind Json.read?).map Database.ofValue

/-- Prints one piece of output. -/
def printPiece (piece : Output) : IO Unit := do
  let stream ← match piece.stream with
    | .output => IO.getStdout
    | .errors => IO.getStderr
  stream.putStr piece.text
  stream.flush

/-- A line of input without its end, or nothing when the input has ended. -/
def readReply : IO (Option String) := do
  let line ← (← IO.getStdin).getLine
  return if line.isEmpty then none else some ((line.dropEndWhile (· == '\n')).toString)

/-- Prints an answer, of which `seen` pieces have been printed, and reads the replies that it needs
on the way. -/
partial def converse (answer : List (Option String) → Transcript)
    (replies : List (Option String)) (seen : Nat) : IO Transcript := do
  let transcript := answer replies
  match untilQuestion replies.length transcript.output with
  | some part =>
    (part.drop seen).forM printPiece
    converse answer (replies ++ [← readReply]) part.length
  | none =>
    (transcript.output.drop seen).forM printPiece
    return transcript

/-- The exit code of a run whose changes cannot be written. -/
def unwritable : UInt32 :=
  3

end Scaffold

open Scaffold in
/-- Answers a command line in the current directory. -/
def main (arguments : List String) : IO UInt32 := do
  let before ← Disk.load
  match databaseIn before with
  | none =>
    IO.eprintln (databaseFile ++ " describes no database.")
    return unwritable
  | some db =>
    let transcript ← converse (fun replies => CommandLine.run arguments replies db before) [] 0
    if transcript.workspace.differsOutside before then
      IO.eprintln "Nothing is written outside the current directory."
      return unwritable
    (transcript.workspace.changedSince before).forM fun (path, entry) => Disk.save path entry
    match transcript.status with
    | .ok code => return code.toUInt32
    | .error failure =>
      IO.eprintln failure.message
      return 1
