/-!
Lists of pairs that work as maps with an order: a key stands at the place where it first came and
has the value that came last.
-/
namespace Scaffold.Data

/-- Gives a key a value. A key that is there keeps its place; a new one goes to the end. -/
def put [BEq α] (key : α) (value : β) : List (α × β) → List (α × β)
  | [] => [(key, value)]
  | entry :: rest =>
    if entry.1 == key then (entry.1, value) :: rest else entry :: put key value rest

/-- Gives keys their values one after another. -/
def putAll [BEq α] (base : List (α × β)) (entries : List (α × β)) : List (α × β) :=
  entries.foldl (fun map entry => put entry.1 entry.2 map) base

end Scaffold.Data
