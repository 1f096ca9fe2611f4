import Scaffold.Schema.Database
import Scaffold.Session
import Scaffold.Text.Display

/-!
Reading the schema of a database: whether a table is there, and what its columns are. The database
is asked anew each time, so the answers are always those of the database as it is.
-/
namespace Scaffold.Schema

/-- Where the columns of a table come from. -/
structure Source where
  database : Database
  schema : Option String
  /-- The name of the dialect that the database speaks. -/
  dialect : String

namespace Source

/-- A source over the database at an address. -/
def openAt (url : String) (schema : Option String) (db : Database) : Except SchemaFault Source :=
  match db.opening url with
  | .ok dialect => .ok ⟨db, schema, dialect⟩
  | .error reason => .error (.engine reason)

/-- Whether a table is there. -/
def tableExists (source : Source) (table : String) : Action Bool := do
  if let some reason := source.database.refusals.lookup then
    throw (.schema (.lookup table reason))
  let found := (source.database.table? source.schema table).isSome
  Action.say .debug .introspection ("Table '" ++ table ++ "' exists: " ++ Text.truthWord found)
  return found

/-- The type of a column as text. A type without a spelling goes by the name of its class. -/
def declaredType (source : Source) (type : RawType) : Action String :=
  match type with
  | .spelled text => pure text
  | .unspelled className => do
    Action.say .debug .introspection
      ("Type " ++ className ++ "() does not compile for " ++ source.dialect ++ "; using its class name.")
    return Text.upper className

/-- A column as the rest of the library uses it. -/
def column (source : Source) (key : List String) (raw : RawColumn) : Action Column := do
  let declared ← source.declaredType raw.type
  match Column.ofEntries [(.text "name", .text raw.name), (.text "declared_type", .text declared),
      (.text "nullable", .bool raw.nullable), (.text "primary_key", .bool (key.contains raw.name)),
      (.text "autoincrement", .bool raw.autoincrement)] with
  | .ok column => return column
  | .error issues => throw (.invalid issues)

/-- The table that columns are asked for, or why it cannot be read. -/
def readTable (source : Source) (name : String) : Except SchemaFault Table :=
  match source.database.refusals.columns, source.database.table? source.schema name,
      source.database.refusals.key with
  | some reason, _, _ => .error (.columns name reason)
  | none, none, _ => .error (.missing name)
  | none, some _, some reason => .error (.columns name reason)
  | none, some table, none => if table.columns.isEmpty then .error (.noColumns name) else .ok table

/-- The columns of a table in order. -/
def columns (source : Source) (name : String) : Action (List Column) := do
  match source.readTable name with
  | .error fault => throw (.schema fault)
  | .ok table =>
    let columns ← table.columns.mapM (source.column table.key)
    Action.say .info .introspection
      ("Introspected " ++ toString columns.length ++ " column(s) of '" ++ name ++ "': " ++
        Text.join ", " (columns.map (·.name)))
    return columns

end Source

end Scaffold.Schema
