import Scaffold.Text.HiddenSpans
import Scaffold.Text.Pieces

/-!
How a text is shown inside a message: in quotes, with every character that has no visible shape
written as an escape. Single quotes are used unless the text holds one and no double quote.
-/
namespace Scaffold.Text

/-- A number in hexadecimal, filled with zeros up to a width. -/
def hexDigits (width value : Nat) : List Char :=
  let digits := Nat.toDigits 16 value
  List.replicate (width - digits.length) '0' ++ digits

/-- One character of a shown text. -/
def shownChar (quote c : Char) : List Char :=
  if c == quote || c == '\\' then ['\\', c]
  else if c == '\t' then ['\\', 't']
  else if c == '\n' then ['\\', 'n']
  else if c == '\r' then ['\\', 'r']
  else if inSpans hiddenSpans c then
    if c.toNat < 0x100 then '\\' :: 'x' :: hexDigits 2 c.toNat
    else if c.toNat < 0x10000 then '\\' :: 'u' :: hexDigits 4 c.toNat
    else '\\' :: 'U' :: hexDigits 8 c.toNat
  else [c]

/-- A text in quotes. -/
def shown (s : String) : String :=
  let cs := s.toList
  let quote := if cs.contains '\'' && !cs.contains '"' then '"' else '\''
  String.ofList (quote :: (cs.flatMap (shownChar quote) ++ [quote]))

/-- A list of texts in square brackets, each in quotes. -/
def shownList (texts : List String) : String :=
  "[" ++ join ", " (texts.map shown) ++ "]"

/-- A truth value as a word. -/
def truthWord (b : Bool) : String :=
  if b then "True" else "False"

end Scaffold.Text
