import Scaffold.Data.Yaml.Node
import Scaffold.Data.Yaml.Plain

/-!
Reading YAML. A text holds one document or none; its nodes become values. The entries under the
merge key come first in their map, and entries with the same key give way to later ones.
-/
namespace Scaffold.Data.Yaml

/-- Why a text has no value: it is not written in YAML, or a part of it means nothing. -/
inductive Trouble where
  | malformed
  | meaningless (reason : String)
  deriving DecidableEq, Repr

/-- Whether two keys are the same. Numbers and truth values are compared by what they count. -/
def sameKey : Value → Value → Bool
  | .null, .null => true
  | .text a, .text b => a == b
  | .date a, .date b => a == b
  | .dateTime a, .dateTime b => a == b
  | a, b =>
    let count? : Value → Option Int := fun
      | .bool b => some (if b then 1 else 0)
      | .int i => some i
      | .float x => x.toInt?
      | _ => none
    match count? a, count? b with
    | some m, some n => m == n
    | none, none =>
      match a, b with
      | .float x, .float y => x == y
      | _, _ => false
    | _, _ => false

/-- Gives a key a value. A key that is there keeps its place. -/
def putKey (key value : Value) : Entries → Entries
  | [] => [(key, value)]
  | entry :: rest =>
    if sameKey entry.1 key then (entry.1, value) :: rest else entry :: putKey key value rest

/-- Whether a value can be a key. -/
def isKey : Value → Bool
  | .list _ => false
  | .map _ => false
  | _ => true

/-- The entries that a merge key brings into its map. Of several maps the first one wins. -/
def mergedEntries : Value → Except Trouble Entries
  | .map entries => .ok entries
  | .list items =>
    items.reverse.foldlM
      (fun all item =>
        match item with
        | .map entries => .ok (all ++ entries)
        | _ => .error .malformed) []
  | _ => .error .malformed

/-- The sorts that a tag names. A tag for bytes, a set or pairs names none, since no value is of such a
sort. -/
def taggedSorts : List (String × ScalarSort) :=
  [("tag:yaml.org,2002:str", .text), ("tag:yaml.org,2002:null", .null),
   ("tag:yaml.org,2002:bool", .bool), ("tag:yaml.org,2002:int", .int),
   ("tag:yaml.org,2002:float", .float), ("tag:yaml.org,2002:timestamp", .time)]

/-- The sort of a scalar: by its tag, else by its text when it is plain. -/
def scalarSort? (tag : Option String) (isPlain : Bool) (text : String) : Option ScalarSort :=
  match tag with
  | none => some (if isPlain then sortOf text else .text)
  | some "!" => some (sortOf text)
  | some name => taggedSorts.lookup name

/-- The value of a scalar of a sort. -/
def scalarValue (sort : ScalarSort) (text : String) : Except Trouble Value :=
  let cs := text.toList
  match sort with
  | .text => .ok (.text text)
  | .null => .ok .null
  | .bool =>
    match truthWords.lookup text with
    | some b => .ok (.bool b)
    | none => .error .malformed
  | .int => (intTrouble? cs).elim (.ok (.int (intOf cs))) fun reason => .error (.meaningless reason)
  | .float => .ok (.float (floatOf cs))
  | .time =>
    match time? cs with
    | some parts => parts.value.mapError .meaningless
    | none => .error .malformed
  | .merge => .error .malformed
  | .default => .error .malformed

/-- Whether a node is the merge key. -/
def Node.isMerge : Node → Bool
  | .scalar tag isPlain text => scalarSort? tag isPlain text == some .merge
  | _ => false

/-- Whether a tag fits a list or a map. -/
def fits (tag : Option String) (name : String) : Bool :=
  match tag with
  | none => true
  | some "!" => true
  | some other => other == name

mutual

/-- The value of a node. -/
def Node.value : Node → Except Trouble Value
  | .scalar tag isPlain text =>
    match scalarSort? tag isPlain text with
    | some sort => scalarValue sort text
    | none => .error .malformed
  | .list tag items =>
    if fits tag "tag:yaml.org,2002:seq" then
      match itemValues items with
      | .ok values => .ok (.list values)
      | .error trouble => .error trouble
    else .error .malformed
  | .map tag entries =>
    if fits tag "tag:yaml.org,2002:map" then
      match entryValues entries with
      | .ok (merged, own) =>
        .ok (.map ((merged ++ own).foldl (fun map entry => putKey entry.1 entry.2 map) []))
      | .error trouble => .error trouble
    else .error .malformed

/-- The values of the items of a list. -/
def itemValues : List Node → Except Trouble (List Value)
  | [] => .ok []
  | item :: rest =>
    match item.value, itemValues rest with
    | .ok value, .ok values => .ok (value :: values)
    | .error trouble, _ => .error trouble
    | _, .error trouble => .error trouble

/-- The entries of a map: those that are merged into it and its own. -/
def entryValues : List (Node × Node) → Except Trouble (Entries × Entries)
  | [] => .ok ([], [])
  | (key, item) :: rest =>
    match item.value, entryValues rest with
    | .error trouble, _ => .error trouble
    | _, .error trouble => .error trouble
    | .ok value, .ok (merged, own) =>
      if key.isMerge then
        match mergedEntries value with
        | .ok entries => .ok (entries ++ merged, own)
        | .error trouble => .error trouble
      else
        match keyValue key with
        | .ok name => .ok (merged, (name, value) :: own)
        | .error trouble => .error trouble

/-- The value of a key. An equals sign alone is a text there. -/
def keyValue : Node → Except Trouble Value
  | .scalar tag isPlain text =>
    match scalarSort? tag isPlain text with
    | some .default => .ok (.text text)
    | some sort => scalarValue sort text
    | none => .error .malformed
  | _ => .error .malformed

end

/-- The value of the document in a text, or null when there is none. -/
def read (s : String) : Except Trouble Value :=
  match (tokens? s).bind nodeOf? with
  | none => .error .malformed
  | some none => .ok .null
  | some (some root) => root.value

end Scaffold.Data.Yaml
