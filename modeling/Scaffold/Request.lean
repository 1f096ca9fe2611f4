import Scaffold.Validation.Reading

/-!
Requests: which table to scaffold, and the names and the language to use instead of the derived
ones. A request never changes once it is made.
-/
namespace Scaffold

open Data Validation

structure Request where
  tableName : String
  routeOverride : Option String
  classNameOverride : Option String
  language : Option String
  deriving DecidableEq, Repr

namespace Request

/-- The names of the fields, in order. -/
def fieldNames : List String :=
  ["table_name", "route_override", "class_name_override", "language"]

/-- The request that some entries describe, or everything that is wrong with them: the fields in
order and then the entries that are no field. -/
def ofEntries (entries : Entries) : Except (List Issue) Request :=
  let table := readField entries "table_name" (.error .absent) readTableName
  let route := readField entries "route_override" (.ok none) readOptionalName
  let className := readField entries "class_name_override" (.ok none) readOptionalName
  let language := readField entries "language" (.ok none) readOptionalName
  match table, route, className, language, unknownEntries fieldNames entries with
  | .ok t, .ok r, .ok c, .ok l, [] => .ok ⟨t, r, c, l⟩
  | _, _, _, _, unknown =>
    .error (issuesOf table ++ issuesOf route ++ issuesOf className ++ issuesOf language ++ unknown)

/-- No field of a request can be assigned. -/
def assign (_ : Request) (name : String) : Except (List Issue) Request :=
  .error [⟨some name, none, .frozen⟩]

end Request

end Scaffold
