/-!
The kinds of form field that a table column can get.
-/
namespace Scaffold.Schema

inductive FieldKind where
  | text
  | textarea
  | number
  | boolean
  | date
  | datetime
  | time
  | file
  deriving DecidableEq, Repr

namespace FieldKind

def all : List FieldKind :=
  [.text, .textarea, .number, .boolean, .date, .datetime, .time, .file]

/-- The word for a kind in settings, template names and answers. -/
def name : FieldKind → String
  | .text => "text"
  | .textarea => "textarea"
  | .number => "number"
  | .boolean => "boolean"
  | .date => "date"
  | .datetime => "datetime"
  | .time => "time"
  | .file => "file"

/-- The kind that a word names. -/
def ofName? (word : String) : Option FieldKind :=
  all.find? (·.name == word)

/-- Every kind is found again under its own name. -/
theorem ofName?_name (kind : FieldKind) : ofName? kind.name = some kind := by
  cases kind <;> decide

end FieldKind

end Scaffold.Schema
