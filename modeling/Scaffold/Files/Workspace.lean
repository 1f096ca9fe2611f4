import Scaffold.Data.Ordered
import Scaffold.Files.Fault
import Scaffold.Files.Path
import Scaffold.Text.Utf8

/-!
Workspaces: directories, files and symbolic links by the place where they are. `entryAt` is the view
through which everything else is stated: what is at a place, if anything. Walking a path follows
the links on its way, so that two dots lead to the parent of where the walk has come to.
-/
namespace Scaffold.Files

open Text

/-- A place, as the names on the way to it from the root. -/
abbrev Location := List String

inductive Entry where
  | directory
  | file (mode : Nat) (bytes : Bytes)
  | link (target : String)
  deriving DecidableEq, Repr

/-- What is where, and the current directory. -/
structure Workspace where
  home : Location
  entries : List (Location × Entry)
  deriving DecidableEq, Repr

namespace Workspace

/-- What is at a place. The root is always a directory. -/
def entryAt (w : Workspace) (place : Location) : Option Entry :=
  if place.isEmpty then some .directory else w.entries.lookup place

/-- Puts an entry at a place, instead of what was there. -/
def set (w : Workspace) (place : Location) (entry : Entry) : Workspace :=
  { w with entries := Data.put place entry w.entries }

/-- Takes away what is at a place. -/
def erase (w : Workspace) (place : Location) : Workspace :=
  { w with entries := w.entries.filter fun known => known.1 != place }

/-- A workspace with nothing but its current directory. -/
def empty (home : Location) : Workspace where
  home := home
  entries := (List.range home.length).map fun count => (home.take (count + 1), .directory)

/-- How many links one walk follows. -/
def linkLimit : Nat :=
  40

/-- What a walk does with a link at its end. -/
inductive AtEnd where
  /-- It comes to the link itself. -/
  | stay
  /-- It goes where the link leads. -/
  | follow
  /-- It goes where the link leads, to make a file there. -/
  | make
  deriving DecidableEq, Repr

/-- The step of a link target that ends in a slash: to something that has to be a directory, and
that no file can be made as. -/
def slashStep : String :=
  ""

/-- The step of a link target that ends in a dot: to the same directory. -/
def dotStep : String :=
  "."

/-- Whether a step stays where it is. -/
def isPause (step : String) : Bool :=
  step == slashStep || step == dotStep

/-- The steps that the target of a link spells: its names, and a last one when it ends in a slash
or a dot behind them. -/
def linkSteps (target : String) : List String :=
  let names := (Path.ofString target).names
  let tail := target.toList.reverse
  let last := tail.dropWhile (· == '/')
  let pause :=
    match last with
    | ['.'] => [dotStep]
    | '.' :: '/' :: _ => [dotStep]
    | _ => if last.length < tail.length then [slashStep] else []
  if names.isEmpty then [] else names ++ pause

/-- Where the steps of a link's target are counted from, for a link in a directory. -/
def linkStart (here : Location) (target : String) : Location :=
  if (Path.ofString target).isAbsolute then [] else here

/-- Walks from a place along steps up to the first link that has to be followed, and hands the rest
over with the steps of that link in front. Everything on the way has to be a directory. -/
def walkOn (w : Workspace) (atEnd : AtEnd)
    (follow : Location → List String → Except Fault Location) (here : Location) :
    List String → Except Fault Location
  | [] => .ok here
  | step :: rest =>
    match w.entryAt here with
    | none => .error .missing
    | some .directory =>
      if isPause step then walkOn w atEnd follow here rest
      else if step == ".." then walkOn w atEnd follow here.dropLast rest
      else if atEnd = .make ∧ rest = [slashStep] then .error .isDirectory
      else
        match w.entryAt (here ++ [step]) with
        | some (.link target) =>
          if atEnd = .stay ∧ rest = [] then .ok (here ++ [step])
          else follow (linkStart here target) (linkSteps target ++ rest)
        | _ => walkOn w atEnd follow (here ++ [step]) rest
    | some _ => .error .notDirectory

/-- Walks from a place along steps, through a number of links at most, and gives the place it comes
to, which need not hold anything yet. -/
def walk (w : Workspace) (atEnd : AtEnd) : Nat → Location → List String → Except Fault Location
  | 0 => walkOn w atEnd fun _ _ => .error .tooManyLinks
  | left + 1 => walkOn w atEnd (walk w atEnd left)

/-- Where the names of a path are counted from. -/
def base (w : Workspace) (path : Path) : Location :=
  if path.isAbsolute then [] else w.home

/-- The place that a path leads to. -/
def locate (w : Workspace) (atEnd : AtEnd) (path : Path) : Except Fault Location :=
  if path.hasNull then .error .nullCharacter
  else walk w atEnd linkLimit (w.base path) path.names

/-- What a path leads to, with its place. -/
def find? (w : Workspace) (atEnd : AtEnd) (path : Path) : Except Fault (Location × Entry) :=
  match w.locate atEnd path with
  | .error fault => .error fault
  | .ok place =>
    match w.entryAt place with
    | some entry => .ok (place, entry)
    | none => .error .missing

/-- Whether a path leads to something. -/
def isThere (w : Workspace) (path : Path) : Bool :=
  match w.find? .follow path with
  | .ok _ => true
  | .error _ => false

def isFile (w : Workspace) (path : Path) : Bool :=
  match w.find? .follow path with
  | .ok (_, .file _ _) => true
  | _ => false

def isDirectory (w : Workspace) (path : Path) : Bool :=
  match w.find? .follow path with
  | .ok (_, .directory) => true
  | _ => false

/-- Whether a path is a link, wherever that leads. -/
def isLink (w : Workspace) (path : Path) : Bool :=
  match w.find? .stay path with
  | .ok (_, .link _) => true
  | _ => false

/-- The bytes of the file that a path leads to. -/
def read (w : Workspace) (path : Path) : Except Fault Bytes :=
  match w.find? .follow path with
  | .ok (_, .file _ bytes) => .ok bytes
  | .ok _ => .error .isDirectory
  | .error fault => .error fault

/-- Follows names from a place by what they spell, where two dots take back the name before them. -/
def plainFrom (here : Location) (names : List String) : Location :=
  names.foldl (fun here name => if name == ".." then here.dropLast else here ++ [name]) here

/-- The place of a path by its names alone. -/
def plainPlace (w : Workspace) (path : Path) : Location :=
  plainFrom (w.base path) path.names

/-- The path above a path as resolution spells it: without its last name, or with two more dots
where there is no name to take back. -/
def above (path : Path) : Path :=
  match path.names.getLast? with
  | none => if path.isAbsolute then path else ⟨path.start, [".."]⟩
  | some name => ⟨path.start, if name == ".." then path.names ++ [".."] else path.names.dropLast⟩

/-- Where resolution goes on inside of a link: at the root, or beside the link. -/
def beside (link : Path) (target : String) : Path :=
  if (Path.ofString target).isAbsolute then ⟨.root, []⟩ else above link

/-- Resolves names behind a path when what is missing on the way is taken for a directory. `enter`
resolves the links on the way. A link that cannot be resolved leaves its place and the names
behind it. -/
def settleOn (w : Workspace) (enter : Path → String → Except (List String) Path) (here : Path) :
    List String → Except (List String) Path
  | [] => .ok here
  | name :: rest =>
    if name == ".." then settleOn w enter (above here) rest
    else
      let next : Path := ⟨here.start, here.names ++ [name]⟩
      match w.entryAt (w.plainPlace next) with
      | some (.link target) =>
        match enter next target with
        | .ok there => settleOn w enter there rest
        | .error names => .error (names ++ rest)
      | _ => settleOn w enter next rest

/-- Resolves names inside of links that are being resolved. A link that is met again inside of
itself under the same spelling has no end; inside of more links than there are ways to spell them it
must be one of those. -/
def settle (w : Workspace) : Nat → List Path → Path → List String → Except (List String) Path
  | 0, _ => settleOn w fun link _ => .error (w.base link ++ link.names)
  | depth + 1, inside => settleOn w fun link target =>
    if inside.contains link then .error (w.base link ++ link.names)
    else settle w depth (link :: inside) (beside link target) (Path.ofString target).names

/-- The place that a path resolves to, or the names that are left when a link has no end. -/
def resolve (w : Workspace) (path : Path) : Except (List String) Location :=
  let start : Path := ⟨if path.isAbsolute then .root else .here, []⟩
  (settle w (w.entries.length * (w.home.length + 2)) [] start path.names).map w.plainPlace

/-- The path that writing to a path means: where it leads when it is a link, else the path. -/
def target (w : Workspace) (path : Path) : Except Fault Path :=
  if w.isLink path then
    match w.resolve path with
    | .ok place => .ok ⟨.root, place⟩
    | .error names =>
      let left : Path := ⟨.root, plainFrom [] names⟩
      match w.find? .follow left with
      | .error .tooManyLinks => .error (.linkLoop left.text)
      | _ => .ok left
  else .ok path

end Workspace

end Scaffold.Files
