import Scaffold.Text.WordSpans

/-!
Word characters: letters, digits and numerals of every script, and the underscore.
-/
namespace Scaffold.Text

/-- The capital letters `A` to `Z`. -/
def isCapital (c : Char) : Bool :=
  'A' ≤ c && c ≤ 'Z'

/-- The small letters `a` to `z`. -/
def isSmall (c : Char) : Bool :=
  'a' ≤ c && c ≤ 'z'

/-- The digits `0` to `9`. -/
def isDigit (c : Char) : Bool :=
  '0' ≤ c && c ≤ '9'

/-- A character that may stand inside a word. -/
def isWord (c : Char) : Bool :=
  isCapital c || isSmall c || isDigit c || c == '_' || inSpans wordSpans c

end Scaffold.Text
