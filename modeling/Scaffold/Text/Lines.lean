/-!
Lines of text. A line ends with a line feed; a text read from a file has every other way of ending
a line turned into that one.
-/
namespace Scaffold.Text

/-- How many lines a text has. A last line need not be ended. -/
def lineCountChars (cs : List Char) : Nat :=
  cs.count '\n' + (if cs.isEmpty || cs.getLast? == some '\n' then 0 else 1)

/-- How many lines a text has. -/
def lineCount (s : String) : Nat :=
  lineCountChars s.toList

/-- Turns a carriage return, alone or before a line feed, into a line feed. -/
def unifyLineEnds : List Char → List Char
  | [] => []
  | '\r' :: '\n' :: rest => '\n' :: unifyLineEnds rest
  | c :: rest => (if c == '\r' then '\n' else c) :: unifyLineEnds rest

/-- The lines of an input, each without its end. The part after the last line feed is a line of
its own when it holds anything. -/
def inputLines : List Char → List (List Char)
  | [] => []
  | '\n' :: rest => [] :: inputLines rest
  | c :: rest =>
    match rest with
    | [] => [[c]]
    | '\n' :: more => [c] :: inputLines more
    | next :: more =>
      match inputLines (next :: more) with
      | [] => [[c]]
      | line :: lines => (c :: line) :: lines

end Scaffold.Text
