import Scaffold.Text.Word

/-!
Placeholders: names between double braces that stand for text to be filled in. A name begins with a
letter or an underscore and goes on with letters, digits, underscores and hyphens, all of them
ASCII; anything else between double braces is no placeholder.
-/
namespace Scaffold.Template

open Text

/-- A character that a placeholder's name can begin with. -/
def isNameStart (c : Char) : Bool :=
  isCapital c || isSmall c || c == '_'

/-- A character that a placeholder's name can go on with. -/
def isNamePart (c : Char) : Bool :=
  isNameStart c || isDigit c || c == '-'

/-- The placeholder at the start of a text, braces included. -/
def placeholderAt? : List Char → Option (List Char)
  | '\x7b' :: '\x7b' :: c :: rest =>
    if isNameStart c then
      match rest.dropWhile isNamePart with
      | '\x7d' :: '\x7d' :: _ =>
        some ('\x7b' :: '\x7b' :: c :: rest.takeWhile isNamePart ++ ['\x7d', '\x7d'])
      | _ => none
    else none
  | _ => none

/-- All placeholders of a text from left to right. Two of them never overlap. -/
def placeholderList : List Char → List (List Char)
  | [] => []
  | c :: rest =>
    match placeholderAt? (c :: rest) with
    | some found => found :: placeholderList rest
    | none => placeholderList rest

/-- The placeholders of a text in the order in which they first come, each once. -/
def placeholders (body : String) : List String :=
  ((placeholderList body.toList).eraseDups).map String.ofList

end Scaffold.Template
