import Scaffold.Validation.Reading

/-!
Columns of a table, in the form in which the rest of the library uses them.
-/
namespace Scaffold.Schema

open Data Validation

structure Column where
  name : String
  declaredType : String
  nullable : Bool
  primaryKey : Bool
  autoincrement : Bool
  deriving DecidableEq, Repr

namespace Column

/-- The names of the fields, in order. -/
def fieldNames : List String :=
  ["name", "declared_type", "nullable", "primary_key", "autoincrement"]

/-- The column that some entries describe, or everything that is wrong with them. -/
def ofEntries (entries : Entries) : Except (List Issue) Column :=
  let name := readField entries "name" (.error .absent) readFilledText
  let declared := readField entries "declared_type" (.error .absent) readText
  let nullable := readField entries "nullable" (.ok true) readBoolean
  let key := readField entries "primary_key" (.ok false) readBoolean
  let counted := readField entries "autoincrement" (.ok false) readBoolean
  match name, declared, nullable, key, counted, unknownEntries fieldNames entries with
  | .ok n, .ok d, .ok u, .ok k, .ok c, [] => .ok ⟨n, d, u, k, c⟩
  | _, _, _, _, _, unknown =>
    .error (issuesOf name ++ issuesOf declared ++ issuesOf nullable ++ issuesOf key ++
      issuesOf counted ++ unknown)

/-- A column in one line, for messages. -/
def display (column : Column) : String :=
  "<Column " ++ column.name ++ " " ++ column.declaredType ++
    (if column.primaryKey then " PK" else "") ++
    (if column.nullable then " NULL" else " NOT NULL") ++ ">"

end Column

/-- The name of the first key column, `id` when there is none. -/
def primaryKeyName (columns : List Column) : String :=
  ((columns.find? (·.primaryKey)).map (·.name)).getD "id"

end Scaffold.Schema
