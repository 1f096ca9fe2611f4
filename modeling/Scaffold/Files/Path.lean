import Scaffold.Text.Pieces

/-!
Paths as text names them: where they start and the names after that. Empty names and single dots
say nothing and are left out, so two spellings of a path that differ only in them are one path.
Two dots stay, because what they lead to depends on the links on the way.
-/
namespace Scaffold.Files

open Text

/-- Where a path starts: at the current directory, or at a root written with one or exactly two
slashes. -/
inductive Start where
  | here
  | root
  | doubleRoot
  deriving DecidableEq, Repr

structure Path where
  start : Start
  names : List String
  deriving DecidableEq, Repr

namespace Path

/-- The start that a text writes with its leading slashes. -/
def startOf (cs : List Char) : Start :=
  match (cs.takeWhile (· == '/')).length with
  | 0 => .here
  | 2 => .doubleRoot
  | _ => .root

/-- Whether a name leads anywhere. -/
def isStep (name : String) : Bool :=
  name != "" && name != "."

/-- The path that a text writes. -/
def ofChars (cs : List Char) : Path where
  start := startOf cs
  names := ((split (· == '/') cs).map String.ofList).filter isStep

/-- The path that a text writes. -/
def ofString (s : String) : Path :=
  ofChars s.toList

/-- The current directory. -/
def current : Path :=
  ⟨.here, []⟩

def isAbsolute (path : Path) : Bool :=
  path.start != .here

/-- The slashes in front of the first name. -/
def startText : Start → String
  | .here => ""
  | .root => "/"
  | .doubleRoot => "//"

/-- The text of a path. The current directory is a single dot. -/
def text (path : Path) : String :=
  if path = current then "." else startText path.start ++ join "/" path.names

instance : ToString Path := ⟨text⟩

/-- Follows one path by another. An absolute path leaves the first one behind. -/
def append (base path : Path) : Path :=
  match path.start with
  | .here => ⟨base.start, base.names ++ path.names⟩
  | _ => path

instance : Append Path := ⟨append⟩

/-- Follows a path by one that is given as text. -/
def child (base : Path) (name : String) : Path :=
  base ++ ofString name

/-- Whether a name of a path has a null character, which no entry can have. -/
def hasNull (path : Path) : Bool :=
  path.names.any fun name => name.toList.contains '\x00'

/-- A path without its last name. A path without names is its own parent. -/
def parent (path : Path) : Path :=
  ⟨path.start, path.names.dropLast⟩

/-- The last name of a path, empty when it has none. -/
def name (path : Path) : String :=
  path.names.getLast?.getD ""

/-- A name without its last ending, and that ending with its dot. A dot at the start or at the end
of a name begins no ending. -/
def splitEnding (name : List Char) : List Char × List Char :=
  let ending := (name.reverse.takeWhile (· != '.')).reverse
  let stem := name.take (name.length - ending.length - 1)
  if ending.isEmpty || stem.isEmpty || !name.contains '.' then (name, [])
  else (stem, '.' :: ending)

/-- The last ending of a path, with its dot. -/
def ending (path : Path) : String :=
  String.ofList (splitEnding path.name.toList).2

end Path

end Scaffold.Files
