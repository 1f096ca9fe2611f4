import Scaffold.Data.Json
import Scaffold.Data.Yaml.Cursor

/-!
The texts of YAML scalars: plain ones, quoted ones, and blocks of lines. A single line end inside a
plain or quoted text reads as a space; of several, the first one is dropped.
-/
namespace Scaffold.Data.Yaml

/-- What a line end and the empty lines after it read as. -/
def folded (first : Char) (breaks : List Char) : List Char :=
  if first != '\n' then first :: breaks
  else if breaks.isEmpty then [' ']
  else breaks

/-! ## Quoted texts -/

/-- The line ends from here on with the blanks around them. A boundary of documents is not
allowed there. -/
def quotedBreaks : Nat → Cursor → Option (List Char × Cursor)
  | 0, _ => none
  | fuel + 1, c =>
    if c.atBoundary then none
    else
      let c := (c.span fun ch => ch == ' ' || ch == '\t').2
      match c.lineBreak? with
      | none => some ([], c)
      | some (ch, after) => (quotedBreaks fuel after).map fun (more, last) => (ch :: more, last)

/-- The characters that a backslash and one character stand for. -/
def escapes : List (Char × Char) :=
  [('0', '\x00'), ('a', '\x07'), ('b', '\x08'), ('t', '\t'), ('\t', '\t'), ('n', '\n'),
   ('v', '\x0b'), ('f', '\x0c'), ('r', '\r'), ('e', '\x1b'), (' ', ' '), ('"', '"'), ('\\', '\\'),
   ('/', '/'), ('N', '\x85'), ('_', '\xa0'), ('L', '\u2028'), ('P', '\u2029')]

/-- The letters that a code in hexadecimal follows, each with the number of its digits. -/
def codeEscapes : List (Char × Nat) :=
  [('x', 2), ('u', 4), ('U', 8)]

/-- What a backslash stands for, and the place behind it all. -/
def escape? (fuel : Nat) (c : Cursor) : Option (List Char × Cursor) :=
  match escapes.lookup c.peek, codeEscapes.lookup c.peek with
  | some ch, _ => some ([ch], c.next)
  | none, some count =>
    let digits := c.next.rest.take count
    if digits.length < count then none
    else
      match Json.hexNumber? digits with
      | some code =>
        if code.isValidChar then some ([Char.ofNat code], c.skip (count + 1)) else none
      | none => none
  | none, none =>
    match c.lineBreak? with
    | some (_, after) => quotedBreaks fuel after
    | none => none

/-- The rest of a quoted text, behind its first quote. `read` holds what was read of it, last
character first. -/
def quoted (double : Bool) (read : List Char) : Nat → Cursor → Option (String × Cursor)
  | 0, _ => none
  | fuel + 1, c =>
    let ch := c.peek
    if ch == (if double then '"' else '\'') then
      if !double && c.peekAt 1 == '\'' then quoted double ('\'' :: read) fuel (c.skip 2)
      else some (String.ofList read.reverse, c.next)
    else if double && ch == '\\' then
      match escape? fuel c.next with
      | some (cs, after) => quoted double (cs.reverse ++ read) fuel after
      | none => none
    else if isGap ch then
      let (blanks, after) := c.span fun ch => ch == ' ' || ch == '\t'
      if after.peek == '\x00' then none
      else
        match after.lineBreak? with
        | none => quoted double (blanks.reverse ++ read) fuel after
        | some (first, next) =>
          match quotedBreaks fuel next with
          | some (breaks, last) => quoted double ((folded first breaks).reverse ++ read) fuel last
          | none => none
    else quoted double (ch :: read) fuel c.next

/-! ## Plain texts -/

/-- A character that ends a plain text inside brackets. -/
def isFlowEnd (c : Char) : Bool :=
  c == ',' || c == '[' || c == ']' || c == '\x7b' || c == '\x7d'

/-- How many characters from here on belong to a plain text. -/
def plainLength (inFlow : Bool) : List Char → Nat
  | [] => 0
  | c :: rest =>
    let after := rest.headD '\x00'
    if isGap c || (c == ':' && (isGap after || (inFlow && isFlowEnd after))) ||
        (inFlow && (c == '?' || isFlowEnd c)) then 0
    else plainLength inFlow rest + 1

/-- The empty lines inside a plain text, and the place behind them. Nothing is given where a
document begins or ends. -/
def plainBreaks (read : List Char) : Nat → Cursor → Option (List Char) × Cursor
  | 0, c => (none, c)
  | fuel + 1, c =>
    if c.peek == ' ' then plainBreaks read fuel c.next
    else
      match c.lineBreak? with
      | none => (some read.reverse, c)
      | some (ch, after) =>
        if after.atBoundary then (none, after) else plainBreaks (ch :: read) fuel after

/-- What stands between two parts of a plain text, the place behind it, and whether there was a
line end. When nothing is given, the text ends here. -/
def plainGap (fuel : Nat) (c : Cursor) : List Char × Cursor × Bool :=
  let (spaces, after) := c.span (· == ' ')
  match after.lineBreak? with
  | none => (spaces, after, false)
  | some (first, next) =>
    if next.atBoundary then ([], next, true)
    else
      match plainBreaks [] fuel next with
      | (some breaks, last) => (folded first breaks, last, true)
      | (none, last) => ([], last, true)

/-- A plain text from here on: its characters, last one first, the place behind it, and whether
the last thing read was a line end. `gap` stands before the next part. -/
def plain (inFlow : Bool) (indent : Int) (read gap : List Char) (ended : Bool) :
    Nat → Cursor → List Char × Cursor × Bool
  | 0, c => (read, c, ended)
  | fuel + 1, c =>
    let length := plainLength inFlow c.rest
    if c.peek == '#' || length == 0 then (read, c, ended)
    else
      let read := (c.rest.take length).reverse ++ (gap.reverse ++ read)
      let (next, after, ended) := plainGap fuel (c.skip length)
      if next.isEmpty || after.peek == '#' || (!inFlow && (after.column : Int) < indent) then
        (read, after, ended)
      else plain inFlow indent read next ended fuel after

/-! ## Blocks of lines -/

/-- What happens to the line ends at the end of a block. -/
inductive Chomping where
  | strip
  | clip
  | keep
  deriving DecidableEq, Repr

/-- The sign of a chomping. -/
def chompingOf? (c : Char) : Option Chomping :=
  if c == '+' then some .keep else if c == '-' then some .strip else none

/-- What a block says about itself in its first line: its chomping and its extra indentation, in
either order. -/
def blockHeader? (c : Cursor) : Option (Chomping × Option Nat × Cursor) :=
  let digit? (ch : Char) : Option Nat :=
    if '0' ≤ ch && ch ≤ '9' then some (ch.toNat - '0'.toNat) else none
  let header : Chomping × Option Nat × Cursor :=
    match chompingOf? c.peek, digit? c.peek with
    | some chomping, _ =>
      match digit? c.next.peek with
      | some n => (chomping, some n, c.skip 2)
      | none => (chomping, none, c.next)
    | none, some n =>
      match chompingOf? c.next.peek with
      | some chomping => (chomping, some n, c.skip 2)
      | none => (.clip, some n, c.next)
    | none, none => (.clip, none, c)
  let (chomping, extra, after) := header
  if extra == some 0 || !(after.peek == ' ' || isLineEnd after.peek) then none
  else
    let ended := after.skipComment
    match ended.lineBreak? with
    | some (_, next) => some (chomping, extra, next)
    | none => if ended.peek == '\x00' then some (chomping, extra, ended) else none

/-- The empty lines before the first line of a block, the greatest column that spaces reach in
them, and the place behind them. -/
def blockStart (breaks : List Char) (deepest : Nat) : Nat → Cursor → List Char × Nat × Cursor
  | 0, c => (breaks.reverse, deepest, c)
  | fuel + 1, c =>
    if c.peek == ' ' then blockStart breaks (max deepest c.next.column) fuel c.next
    else
      match c.lineBreak? with
      | some (ch, after) => blockStart (ch :: breaks) deepest fuel after
      | none => (breaks.reverse, deepest, c)

/-- Goes on over spaces up to a column. -/
def indentTo (indent : Nat) (c : Cursor) : Cursor :=
  c.skip (min (indent - c.column) (c.rest.takeWhile (· == ' ')).length)

/-- The empty lines from here on, and the place behind them. -/
def blockBreaks (indent : Nat) (breaks : List Char) : Nat → Cursor → List Char × Cursor
  | 0, c => (breaks.reverse, c)
  | fuel + 1, c =>
    let c := indentTo indent c
    match c.lineBreak? with
    | some (ch, after) => blockBreaks indent (ch :: breaks) fuel after
    | none => (breaks.reverse, c)

/-- The lines of a block: the text without its last line end, last character first, that line end,
the empty lines after it, and the place behind them. -/
def blockLines (fold : Bool) (indent : Nat) (read breaks : List Char) :
    Nat → Cursor → List Char × List Char × List Char × Cursor
  | 0, c => (read, [], breaks, c)
  | fuel + 1, c =>
    let leading := c.peek != ' ' && c.peek != '\t'
    let (line, ended) := c.span fun ch => !isLineEnd ch
    let read := line.reverse ++ (breaks.reverse ++ read)
    let (last, after) := match ended.lineBreak? with
      | some (ch, next) => ([ch], next)
      | none => ([], ended)
    let (empties, next) := blockBreaks indent [] fuel after
    if next.column == indent && next.peek != '\x00' then
      let joined := fold && last == ['\n'] && leading && next.peek != ' ' && next.peek != '\t'
      let between := if joined then (if empties.isEmpty then [' '] else []) else last
      blockLines fold indent (between ++ read) empties fuel next
    else (read, last, empties, next)

/-- A block of lines, from behind its first character on. -/
def block? (fold : Bool) (indent : Int) (fuel : Nat) (c : Cursor) : Option (String × Cursor) :=
  match blockHeader? c with
  | none => none
  | some (chomping, extra, start) =>
    let least := (max (indent + 1) 1).toNat
    let (depth, breaks, first) := match extra with
      | some n =>
        let depth := least + n - 1
        let (breaks, first) := blockBreaks depth [] fuel start
        (depth, breaks, first)
      | none =>
        let (breaks, deepest, first) := blockStart [] 0 fuel start
        (max least deepest, breaks, first)
    let (read, last, empties, after) :=
      if first.column == depth && first.peek != '\x00' then
        blockLines fold depth [] breaks fuel first
      else ([], [], breaks, first)
    let tail := match chomping with
      | .strip => []
      | .clip => last
      | .keep => last ++ empties
    some (String.ofList (read.reverse ++ tail), after)

end Scaffold.Data.Yaml
