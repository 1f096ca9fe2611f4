import Scaffold.Text.Pieces

/-!
Lists and maps of texts, written out as they stand in generated code. Quoting puts double quotes
around a text and changes nothing in it.
-/
namespace Scaffold.Template

open Text

/-- A text between double quotes, when quoting is asked for. -/
def quotedIf (quote : Bool) (s : String) : String :=
  if quote then "\"" ++ s ++ "\"" else s

/-- A list of texts in square brackets. -/
def listLiteral (quote : Bool) (items : List String) : String :=
  "[" ++ join ", " (items.map (quotedIf quote)) ++ "]"

/-- One key and its value. -/
def entryLiteral (quoteKeys quoteValues : Bool) (entry : String × String) : String :=
  quotedIf quoteKeys entry.1 ++ ": " ++ quotedIf quoteValues entry.2

/-- A map of texts in braces. -/
def mapLiteral (quoteKeys quoteValues : Bool) (entries : List (String × String)) : String :=
  "\x7b" ++ join ", " (entries.map (entryLiteral quoteKeys quoteValues)) ++ "\x7d"

end Scaffold.Template
