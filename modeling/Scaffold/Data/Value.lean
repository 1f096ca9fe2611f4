import Scaffold.Data.Double

/-!
Values as settings files and callers hand them in, before anything is known about what they mean.
A map keeps its entries in the order in which their keys first came.
-/
namespace Scaffold.Data

inductive Value where
  | null
  | bool (b : Bool)
  | int (i : Int)
  | float (x : Double)
  | text (s : String)
  /-- A day, in the form `2024-01-31`. -/
  | date (iso : String)
  /-- A day and a time. -/
  | dateTime (iso : String)
  | list (items : List Value)
  | map (entries : List (Value × Value))
  deriving Inhabited, Repr

def Value.text? : Value → Option String
  | .text s => some s
  | _ => none

/-- The entries of a map in order. -/
abbrev Entries := List (Value × Value)

/-- The value of a text key. -/
def Entries.get? (entries : Entries) (key : String) : Option Value :=
  entries.findSome? fun
    | (.text k, value) => if k == key then some value else none
    | _ => none

/-- Sets a text key. A key that is there keeps its place. -/
def Entries.put (entries : Entries) (key : String) (value : Value) : Entries :=
  let isKey : Value × Value → Bool := fun
    | (.text k, _) => k == key
    | _ => false
  if entries.any isKey then
    entries.map fun entry => if isKey entry then (entry.1, value) else entry
  else entries ++ [(.text key, value)]

/-- Whether a value counts as true: all do but null, false, zero and whatever is empty. -/
def Value.truth : Value → Bool
  | .null => false
  | .bool b => b
  | .int i => i != 0
  | .float (.finite _ mantissa _) => mantissa != 0
  | .float _ => true
  | .text s => !s.isEmpty
  | .date _ => true
  | .dateTime _ => true
  | .list items => !items.isEmpty
  | .map entries => !entries.isEmpty

end Scaffold.Data
