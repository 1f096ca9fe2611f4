import Scaffold.Data.Yaml.Scalar

/-!
The tokens of a YAML text. What is a key shows only at the colon behind it, so the tokens that may
turn out to be keys are remembered: a colon puts a key token in front of the remembered one and, at
a new indentation, the start of a map before that.
-/
namespace Scaffold.Data.Yaml

inductive Token where
  | directive (name : String) (value : String)
  | documentStart
  | documentEnd
  | blockList
  | blockMap
  | blockEnd
  | flowList
  | flowListEnd
  | flowMap
  | flowMapEnd
  | item
  | comma
  | key
  | value
  | alias (name : String)
  | anchor (name : String)
  | tag (handle : Option String) (suffix : String)
  | scalar (isPlain : Bool) (text : String)
  deriving DecidableEq, Repr, Inhabited

/-- A token that may turn out to be a key. A required one has to. -/
structure PendingKey where
  position : Nat
  required : Bool
  index : Nat
  line : Nat
  column : Nat

/-- What has been read of a text, and what the rest of it will be read by: the indentation with
those around it, the depth of brackets, and the tokens that may be keys, one for each depth. -/
structure Lexer where
  cursor : Cursor
  tokens : List Token := []
  count : Nat := 0
  indent : Int := -1
  indents : List Int := []
  depth : Nat := 0
  keyAllowed : Bool := true
  pending : List (Nat × PendingKey) := []

namespace Lexer

/-- Adds a token. Tokens are kept last one first. -/
def push (x : Lexer) (token : Token) : Lexer :=
  { x with tokens := token :: x.tokens, count := x.count + 1 }

/-- Adds a token and goes on by some characters. -/
def pushOver (x : Lexer) (token : Token) (length : Nat) : Lexer :=
  { x.push token with cursor := x.cursor.skip length }

/-- Puts a token in front of the one at a position. -/
def insertAt (x : Lexer) (position : Nat) (token : Token) : Lexer :=
  let later := x.count - position
  { x with
    tokens := x.tokens.take later ++ token :: x.tokens.drop later
    count := x.count + 1 }

/-- Forgets the tokens that can no longer be keys: those on another line or too far back. -/
def dropStale (x : Lexer) : Option Lexer :=
  let isStale (key : PendingKey) : Bool :=
    key.line != x.cursor.line || 1024 < x.cursor.index - key.index
  if x.pending.any fun (_, key) => isStale key && key.required then none
  else some { x with pending := x.pending.filter fun (_, key) => !isStale key }

/-- Forgets the token at this depth that might have been a key. -/
def dropPending (x : Lexer) : Option Lexer :=
  match x.pending.lookup x.depth with
  | some key =>
    if key.required then none
    else some { x with pending := x.pending.filter fun (depth, _) => depth != x.depth }
  | none => some x

/-- Remembers the token that begins here as a possible key. -/
def savePending (x : Lexer) : Option Lexer :=
  if x.keyAllowed then do
    let required := x.depth == 0 && x.indent == (x.cursor.column : Int)
    let x ← x.dropPending
    let key : PendingKey := ⟨x.count, required, x.cursor.index, x.cursor.line, x.cursor.column⟩
    return { x with pending := (x.depth, key) :: x.pending }
  else some x

/-- Leaves the indentations that are deeper than a column: the new one, those around it, and how
many were left. -/
def outdent (column indent : Int) : List Int → Int × List Int × Nat
  | [] => (indent, [], 0)
  | outer :: rest =>
    if column < indent then
      let (last, around, count) := outdent column outer rest
      (last, around, count + 1)
    else (indent, outer :: rest, 0)

/-- Ends the blocks that are deeper than a column. Inside brackets indentation says nothing. -/
def unwind (x : Lexer) (column : Int) : Lexer :=
  if x.depth != 0 then x
  else
    let (indent, indents, count) := outdent column x.indent x.indents
    { x with
      indent := indent
      indents := indents
      tokens := List.replicate count .blockEnd ++ x.tokens
      count := x.count + count }

/-- Begins a block when a column is deeper than the indentation. -/
def enter (x : Lexer) (column : Nat) (position : Nat) (token : Token) : Lexer :=
  if x.indent < (column : Int) then
    { x.insertAt position token with indent := column, indents := x.indent :: x.indents }
  else x

/-- Goes on to the next token, over spaces, comments and line ends. -/
def skipToToken : Nat → Lexer → Lexer
  | 0, x => x
  | fuel + 1, x =>
    let c := x.cursor.skipComment
    match c.lineBreak? with
    | some (_, after) =>
      skipToToken fuel { x with cursor := after, keyAllowed := x.keyAllowed || x.depth == 0 }
    | none => { x with cursor := c }

/-- A character of the name of an anchor. -/
def isNameChar (c : Char) : Bool :=
  c.isAlphanum || c == '-' || c == '_'

/-- A directive: its name and, for all but a few, nothing more. -/
def directive? (x : Lexer) : Option Lexer := do
  let x ← (x.unwind (-1)).dropPending
  let (name, c) := x.cursor.next.span isNameChar
  if name.isEmpty || !(c.peek == ' ' || isLineEnd c.peek) then none
  else
    let (text, ended) := c.span fun ch => !isLineEnd ch
    let written := (text.takeWhile (· != '#')).filter (· != ' ')
    return { x.push (.directive (String.ofList name) (String.ofList written)) with
      cursor := ended, keyAllowed := false }

/-- The start or the end of a document. -/
def boundary? (x : Lexer) (token : Token) : Option Lexer := do
  let x ← (x.unwind (-1)).dropPending
  return { x.pushOver token 3 with keyAllowed := false }

/-- An opening bracket. -/
def open? (x : Lexer) (token : Token) : Option Lexer := do
  let x ← x.savePending
  return { x.pushOver token 1 with depth := x.depth + 1, keyAllowed := true }

/-- A closing bracket. -/
def close? (x : Lexer) (token : Token) : Option Lexer := do
  let x ← x.dropPending
  if x.depth == 0 then none
  else return { x.pushOver token 1 with depth := x.depth - 1, keyAllowed := false }

/-- A comma. -/
def comma? (x : Lexer) : Option Lexer := do
  let x ← x.dropPending
  return { x.pushOver .comma 1 with keyAllowed := true }

/-- The mark of an item or of a key, which may begin a block. -/
def mark? (x : Lexer) (token begins : Token) (keyNext : Bool) : Option Lexer := do
  if x.depth == 0 && !x.keyAllowed then none
  else
    let x := if x.depth == 0 then x.enter x.cursor.column x.count begins else x
    let x ← x.dropPending
    return { x.pushOver token 1 with keyAllowed := keyNext }

/-- The colon behind a key. -/
def value? (x : Lexer) : Option Lexer :=
  match x.pending.lookup x.depth with
  | some key =>
    let x := { x with pending := x.pending.filter fun (depth, _) => depth != x.depth }
    let x := x.insertAt key.position .key
    let x := if x.depth == 0 then x.enter key.column key.position .blockMap else x
    some { x.pushOver .value 1 with keyAllowed := false }
  | none => x.mark? .value .blockMap (x.depth == 0)

/-- The name behind an ampersand or an asterisk. -/
def name? (x : Lexer) (make : String → Token) : Option Lexer := do
  let x ← x.savePending
  let (name, c) := x.cursor.next.span isNameChar
  if name.isEmpty || !(isGap c.peek || "?:,]\x7d%@`".toList.contains c.peek) then none
  else return { x.push (make (String.ofList name)) with cursor := c, keyAllowed := false }

/-- A character of the name of a tag. -/
def isTagChar (c : Char) : Bool :=
  isNameChar c || ";/?:@&=+$,.!~*'()[]%".toList.contains c

/-- A tag: between angle brackets, alone, or with a handle in front of its name. -/
def tag? (x : Lexer) : Option Lexer := do
  let x ← x.savePending
  let c := x.cursor
  let finish (handle : Option String) (suffix : List Char) (after : Cursor) : Option Lexer :=
    if after.peek == ' ' || isLineEnd after.peek then
      some { x.push (.tag handle (String.ofList suffix)) with cursor := after, keyAllowed := false }
    else none
  if c.peekAt 1 == '<' then
    let (suffix, after) := (c.skip 2).span isTagChar
    if suffix.isEmpty || after.peek != '>' then none else finish none suffix after.next
  else if isGap (c.peekAt 1) then finish none ['!'] c.next
  else
    let ahead := c.next.rest.takeWhile fun ch => !(ch == ' ' || isLineEnd ch)
    if ahead.contains '!' then
      let (name, after) := c.next.span isNameChar
      if after.peek != '!' then none
      else
        let (suffix, last) := after.next.span isTagChar
        if suffix.isEmpty then none
        else finish (some ("!" ++ String.ofList name ++ "!")) suffix last
    else
      let (suffix, last) := c.next.span isTagChar
      if suffix.isEmpty then none else finish (some "!") suffix last

/-- A block of lines. -/
def block? (x : Lexer) (fold : Bool) : Option Lexer := do
  let x ← x.dropPending
  let (text, after) ← Yaml.block? fold x.indent (x.cursor.rest.length + 1) x.cursor.next
  return { x.push (.scalar false text) with cursor := after, keyAllowed := true }

/-- A quoted text. -/
def quoted? (x : Lexer) (double : Bool) : Option Lexer := do
  let x ← x.savePending
  let (text, after) ← quoted double [] (x.cursor.rest.length + 1) x.cursor.next
  return { x.push (.scalar false text) with cursor := after, keyAllowed := false }

/-- A plain text. -/
def plain? (x : Lexer) : Option Lexer := do
  let x ← x.savePending
  let fuel := x.cursor.rest.length + 1
  let (read, after, ended) := plain (x.depth != 0) (x.indent + 1) [] [] false fuel x.cursor
  return { x.push (.scalar true (String.ofList read.reverse)) with
    cursor := after, keyAllowed := ended }

/-- Whether a plain text can begin here. -/
def atPlain (x : Lexer) : Bool :=
  let ch := x.cursor.peek
  let after := x.cursor.peekAt 1
  !(isGap ch || "-?:,[]\x7b\x7d#&*!|>'\"%@`".toList.contains ch) ||
    (!isGap after && (ch == '-' || (x.depth == 0 && (ch == '?' || ch == ':'))))

/-- Reads the next token. -/
def step (x : Lexer) : Option Lexer :=
  let c := x.cursor
  let ch := c.peek
  let alone := isGap (c.peekAt 1)
  let inFlow := x.depth != 0
  if ch == '%' && c.column == 0 then x.directive?
  else if c.column == 0 && c.atMarker '-' then x.boundary? .documentStart
  else if c.column == 0 && c.atMarker '.' then x.boundary? .documentEnd
  else if ch == '[' then x.open? .flowList
  else if ch == '\x7b' then x.open? .flowMap
  else if ch == ']' then x.close? .flowListEnd
  else if ch == '\x7d' then x.close? .flowMapEnd
  else if ch == ',' then x.comma?
  else if ch == '-' && alone then x.mark? .item .blockList true
  else if ch == '?' && (inFlow || alone) then x.mark? .key .blockMap (!inFlow)
  else if ch == ':' && (inFlow || alone) then x.value?
  else if ch == '*' then x.name? .alias
  else if ch == '&' then x.name? .anchor
  else if ch == '!' then x.tag?
  else if ch == '|' && !inFlow then x.block? false
  else if ch == '>' && !inFlow then x.block? true
  else if ch == '\'' then x.quoted? false
  else if ch == '"' then x.quoted? true
  else if x.atPlain then x.plain?
  else none

/-- Reads all tokens. -/
def run : Nat → Lexer → Option (List Token)
  | 0, _ => none
  | fuel + 1, x =>
    match (skipToToken fuel x).dropStale with
    | none => none
    | some ready =>
      let x := ready.unwind ready.cursor.column
      if x.cursor.rest.isEmpty then
        match (x.unwind (-1)).dropPending with
        | some last => some last.tokens.reverse
        | none => none
      else
        match x.step with
        | some next => run fuel next
        | none => none

end Lexer

/-- The tokens of a text. A byte order mark in front of it is left out. -/
def tokens? (s : String) : Option (List Token) :=
  let cs := s.toList
  if cs.all isPrintable then
    let start : Cursor := ⟨cs, 0, 0, 0⟩
    let start := if start.peek == '\uFEFF' then start.next else start
    Lexer.run (2 * cs.length + 2) { cursor := start }
  else none

end Scaffold.Data.Yaml
