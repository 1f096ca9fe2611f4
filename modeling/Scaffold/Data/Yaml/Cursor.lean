/-!
A place in a YAML text: what is still to be read, and the line and the column. The end of the text
reads as the null character, which no text holds.
-/
namespace Scaffold.Data.Yaml

/-- A character that ends a line. -/
def isBreak (c : Char) : Bool :=
  c == '\n' || c == '\r' || c == '\x85' || c == '\u2028' || c == '\u2029'

/-- The end of a line or of the text. -/
def isLineEnd (c : Char) : Bool :=
  c == '\x00' || isBreak c

/-- A space, a tab, or the end of a line or of the text. -/
def isGap (c : Char) : Bool :=
  c == ' ' || c == '\t' || isLineEnd c

/-- A character that a text may hold. -/
def isPrintable (c : Char) : Bool :=
  c == '\t' || c == '\n' || c == '\r' || (' ' ≤ c && c ≤ '~') || c == '\x85' ||
    (0xA0 ≤ c.toNat && c.toNat != 0xFFFE && c.toNat != 0xFFFF)

structure Cursor where
  rest : List Char
  index : Nat := 0
  line : Nat := 0
  column : Nat := 0

namespace Cursor

/-- The character some places on. -/
def peekAt (c : Cursor) (n : Nat) : Char :=
  c.rest.getD n '\x00'

/-- The next character. -/
def peek (c : Cursor) : Char :=
  c.peekAt 0

/-- Goes on by one character. -/
def next (c : Cursor) : Cursor :=
  match c.rest with
  | [] => c
  | ch :: rest =>
    if isBreak ch && !(ch == '\r' && rest.head? == some '\n') then
      ⟨rest, c.index + 1, c.line + 1, 0⟩
    else if ch == '\uFEFF' then ⟨rest, c.index + 1, c.line, c.column⟩
    else ⟨rest, c.index + 1, c.line, c.column + 1⟩

/-- Goes on by some characters. -/
def skip (c : Cursor) : Nat → Cursor
  | 0 => c
  | n + 1 => c.next.skip n

/-- The characters from here on that all have a property, and the place behind them. -/
def span (c : Cursor) (accept : Char → Bool) : List Char × Cursor :=
  let run := c.rest.takeWhile accept
  (run, c.skip run.length)

/-- The line end at this place and the place behind it. Only the two separators of lines and
paragraphs stay what they are; every other line end reads as a line feed. -/
def lineBreak? (c : Cursor) : Option (Char × Cursor) :=
  let ch := c.peek
  if ch == '\r' && c.peekAt 1 == '\n' then some ('\n', c.skip 2)
  else if ch == '\r' || ch == '\n' || ch == '\x85' then some ('\n', c.next)
  else if isBreak ch then some (ch, c.next)
  else none

/-- Whether the three characters that begin or end a document are next. -/
def atMarker (c : Cursor) (mark : Char) : Bool :=
  c.peek == mark && c.peekAt 1 == mark && c.peekAt 2 == mark && isGap (c.peekAt 3)

/-- Whether a document begins or ends here. -/
def atBoundary (c : Cursor) : Bool :=
  c.atMarker '-' || c.atMarker '.'

/-- The place behind spaces and a comment. -/
def skipComment (c : Cursor) : Cursor :=
  let c := (c.span (· == ' ')).2
  if c.peek == '#' then (c.span fun ch => !isLineEnd ch).2 else c

end Cursor

end Scaffold.Data.Yaml
