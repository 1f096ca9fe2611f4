/-!
What can become of a generated file. Declining to overwrite is an outcome like the others.
-/
namespace Scaffold.Emission

inductive Outcome where
  | created
  | overwritten
  | skipped
  deriving DecidableEq, Repr

namespace Outcome

def all : List Outcome :=
  [.created, .overwritten, .skipped]

/-- The word for an outcome. -/
def name : Outcome → String
  | .created => "created"
  | .overwritten => "overwritten"
  | .skipped => "skipped"

/-- The outcome that a word names. -/
def ofName? (word : String) : Option Outcome :=
  all.find? (·.name == word)

/-- The mark for an outcome in a summary. -/
def mark : Outcome → String
  | .created => "+"
  | .overwritten => "~"
  | .skipped => "⊘"

end Outcome

end Scaffold.Emission
