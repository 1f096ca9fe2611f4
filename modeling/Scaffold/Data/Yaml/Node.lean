import Scaffold.Data.Yaml.Token

/-!
The nodes of a YAML document: scalars, lists and maps, each with the tag that was written for it. An
alias is the node of its anchor; no name is given to two nodes.
-/
namespace Scaffold.Data.Yaml

inductive Node where
  | scalar (tag : Option String) (isPlain : Bool) (text : String)
  | list (tag : Option String) (items : List Node)
  | map (tag : Option String) (entries : List (Node × Node))
  deriving Repr, Inhabited

/-- The node of what is left out. -/
def Node.nothing : Node :=
  .scalar none true ""

/-- The tokens still to be read, the nodes with a name, and the handles of tags. -/
structure Reader where
  tokens : List Token
  names : List (String × Node) := []
  reserved : List String := []
  handles : List (String × String) := []

/-- Reading of a part of a document. -/
abbrev Read := StateT Reader Option

namespace Read

/-- The next token. -/
def peek? : Read (Option Token) := do
  return (← get).tokens.head?

/-- Goes on over a token. -/
def drop : Read Unit :=
  modify fun reader => { reader with tokens := reader.tokens.tail }

/-- Goes on over the given token if it is next. -/
def accept (token : Token) : Read Bool := do
  if (← peek?) == some token then
    drop
    return true
  else return false

/-- Whether one of some tokens is next. -/
def isNext (tokens : List Token) : Read Bool := do
  match ← peek? with
  | some token => return tokens.contains token
  | none => return false

/-- What stands for all tags of the standard. -/
def standardTag : String :=
  "tag:yaml.org,2002:"

/-- A tag with its handle resolved. -/
def fullTag (handle : Option String) (suffix : String) : Read String := do
  match handle with
  | none => return suffix
  | some name =>
    match ((← get).handles ++ [("!", "!"), ("!!", standardTag)]).lookup name with
    | some start => return start ++ suffix
    | none => failure

/-- The anchor and the tag in front of a node, in either order. -/
def properties (anchor tag : Option String) : Nat → Read (Option String × Option String)
  | 0 => return (anchor, tag)
  | fuel + 1 => do
    match ← peek?, anchor, tag with
    | some (.anchor name), none, _ =>
      drop
      properties (some name) tag fuel
    | some (.tag handle suffix), _, none =>
      drop
      properties anchor (some (← fullTag handle suffix)) fuel
    | _, _, _ => return (anchor, tag)

/-- Takes a name for a node that is about to be read. -/
def reserve (name : String) : Read Unit := do
  let reader ← get
  if reader.reserved.contains name then failure
  else set { reader with reserved := name :: reader.reserved }

/-- Gives a node the name that was taken for it. -/
def bind (anchor : Option String) (node : Node) : Read Node := do
  if let some name := anchor then
    modify fun reader => { reader with names := (name, node) :: reader.names }
  return node

/-- The node that a name stands for. -/
def named (name : String) : Read Node := do
  match (← get).names.lookup name with
  | some node => return node
  | none => failure

mutual

/-- A node. Blocks begin only where they are allowed; items without an indentation of their own
only as the value of a key. -/
def node (block loose : Bool) : Nat → Read Node
  | 0 => failure
  | fuel + 1 => do
    match ← peek? with
    | some (.alias name) =>
      drop
      named name
    | _ =>
      let (anchor, tag) ← properties none none 2
      if let some name := anchor then reserve name
      match ← peek? with
      | some .item =>
        if loose then bind anchor (.list tag (← looseItems fuel))
        else if anchor.isSome || tag.isSome then bind anchor (.scalar tag true "")
        else failure
      | some (.scalar isPlain text) =>
        drop
        bind anchor (.scalar tag isPlain text)
      | some .flowList =>
        drop
        bind anchor (.list tag (← flowItems true fuel))
      | some .flowMap =>
        drop
        bind anchor (.map tag (← flowEntries true fuel))
      | some .blockList =>
        if block then do
          drop
          bind anchor (.list tag (← blockItems fuel))
        else if anchor.isSome || tag.isSome then bind anchor (.scalar tag true "")
        else failure
      | some .blockMap =>
        if block then do
          drop
          bind anchor (.map tag (← blockEntries fuel))
        else if anchor.isSome || tag.isSome then bind anchor (.scalar tag true "")
        else failure
      | _ =>
        if anchor.isSome || tag.isSome then bind anchor (.scalar tag true "") else failure

/-- A node, or nothing where one of some tokens is next. -/
def nodeUnless (stops : List Token) (block loose : Bool) : Nat → Read Node
  | 0 => failure
  | fuel + 1 => do
    if ← isNext stops then return .nothing else node block loose fuel

/-- The items of a block. -/
def blockItems : Nat → Read (List Node)
  | 0 => failure
  | fuel + 1 => do
    if ← accept .item then
      let first ← nodeUnless [.item, .blockEnd] true false fuel
      return first :: (← blockItems fuel)
    else if ← accept .blockEnd then return []
    else failure

/-- The items of a list that has no indentation of its own. -/
def looseItems : Nat → Read (List Node)
  | 0 => failure
  | fuel + 1 => do
    if ← accept .item then
      let first ← nodeUnless [.item, .key, .value, .blockEnd] true false fuel
      return first :: (← looseItems fuel)
    else return []

/-- The entries of a block. -/
def blockEntries : Nat → Read (List (Node × Node))
  | 0 => failure
  | fuel + 1 => do
    if ← accept .key then
      let key ← nodeUnless [.key, .value, .blockEnd] true true fuel
      let value ← if ← accept .value then nodeUnless [.key, .value, .blockEnd] true true fuel
        else pure .nothing
      return (key, value) :: (← blockEntries fuel)
    else if ← accept .blockEnd then return []
    else failure

/-- The items of a list in brackets. A key in it makes a map of one entry. -/
def flowItems (first : Bool) : Nat → Read (List Node)
  | 0 => failure
  | fuel + 1 => do
    if ← accept .flowListEnd then return []
    else
      if !first then
        if !(← accept .comma) then failure
      if ← accept .flowListEnd then return []
      else if ← accept .key then
        let key ← nodeUnless [.value, .comma, .flowListEnd] false false fuel
        let value ← if ← accept .value then nodeUnless [.comma, .flowListEnd] false false fuel
          else pure .nothing
        return .map none [(key, value)] :: (← flowItems false fuel)
      else
        let item ← node false false fuel
        return item :: (← flowItems false fuel)

/-- The entries of a map in braces. A node without a key's mark is a key without a value. -/
def flowEntries (first : Bool) : Nat → Read (List (Node × Node))
  | 0 => failure
  | fuel + 1 => do
    if ← accept .flowMapEnd then return []
    else
      if !first then
        if !(← accept .comma) then failure
      if ← accept .flowMapEnd then return []
      else if ← accept .key then
        let key ← nodeUnless [.value, .comma, .flowMapEnd] false false fuel
        let value ← if ← accept .value then nodeUnless [.comma, .flowMapEnd] false false fuel
          else pure .nothing
        return (key, value) :: (← flowEntries false fuel)
      else
        let key ← node false false fuel
        return (key, .nothing) :: (← flowEntries false fuel)

end

/-- The directives in front of a document. -/
def directives : Nat → Read Unit
  | 0 => failure
  | fuel + 1 => do
    match ← peek? with
    | some (.directive name value) =>
      drop
      if name == "YAML" && !"1.".isPrefixOf value then failure
      directives fuel
    | _ => return ()

/-- The node of the only document, nothing when there is none. -/
def document (fuel : Nat) : Read (Option Node) := do
  match ← peek? with
  | none => return none
  | some token =>
    let isMarked := match token with
      | .documentStart | .directive .. => true
      | _ => false
    let root ← if isMarked then do
        directives fuel
        if !(← accept .documentStart) then failure
        match ← peek? with
        | none | some .documentEnd | some .documentStart | some (.directive ..) => pure Node.nothing
        | _ => node true false fuel
      else node true false fuel
    return some root

/-- Goes on over the ends of documents. -/
def ends : Nat → Read Unit
  | 0 => failure
  | fuel + 1 => do
    if ← accept .documentEnd then ends fuel else return ()

end Read

/-- The node of the only document among some tokens. -/
def nodeOf? (tokens : List Token) : Option (Option Node) :=
  let fuel := 4 * tokens.length + 4
  let reading : Read (Option Node) := do
    let root ← Read.document fuel
    Read.ends fuel
    if (← Read.peek?).isSome then failure
    return root
  (reading.run { tokens := tokens }).map (·.1)

end Scaffold.Data.Yaml
