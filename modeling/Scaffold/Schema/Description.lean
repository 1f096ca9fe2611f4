import Scaffold.Data.Value
import Scaffold.Schema.Database
import Scaffold.Text.Word

/-!
Descriptions of databases: maps that say which tables there are, what their columns and keys are,
and which questions are refused. Whatever a description leaves out is empty. A described database is
opened at the addresses of one dialect.
-/
namespace Scaffold.Schema

open Data

/-- The value of a part of a description. -/
def partOf (value : Value) (name : String) : Value :=
  match value with
  | .map entries => (Entries.get? entries name).getD .null
  | _ => .null

/-- The parts of a description that are called by texts. -/
def namedParts : Value → List (String × Value)
  | .map entries => entries.filterMap fun
    | (.text name, value) => some (name, value)
    | _ => none
  | _ => []

def listOf : Value → List Value
  | .list items => items
  | _ => []

/-- The type of a column: its spelling, or the class of a type that has none. -/
def RawType.ofValue : Value → RawType
  | .text spelling => .spelled spelling
  | other => .unspelled ((partOf other "class").text?.getD "")

/-- A column. Without a word on it a column is nullable; only the value true makes it number
itself. -/
def RawColumn.ofValue (value : Value) : RawColumn where
  name := (partOf value "name").text?.getD ""
  type := RawType.ofValue (partOf value "type")
  nullable :=
    match value with
    | .map entries => (Entries.get? entries "nullable").elim true Value.truth
    | _ => true
  autoincrement :=
    match partOf value "autoincrement" with
    | .bool b => b
    | _ => false

def Table.ofValue (value : Value) : Table where
  columns := (listOf (partOf value "columns")).map RawColumn.ofValue
  key := (listOf (partOf value "pk")).filterMap Value.text?

/-- Tables by name. -/
def tablesOf (value : Value) : List (String × Table) :=
  (namedParts value).map fun (name, table) => (name, Table.ofValue table)

/-! ## Addresses -/

/-- The parts of a database address that stand before the two slashes: the dialect, and after a
plus sign the driver. -/
def dialectOf? (url : List Char) : Option (List Char) :=
  let name := url.takeWhile fun c => Text.isWord c || c == '+'
  match url.drop name.length with
  | ':' :: '/' :: '/' :: _ => if name.isEmpty then none else some name
  | _ => none

/-- The dialect of described databases. -/
def dialect : String :=
  "sqlite"

/-- The dialects, with their drivers, that there is a plugin for. -/
def knownDialects : List String :=
  [dialect, "sqlite+pysqlite"]

/-- What opening a described database at an address gives. -/
def opened (url : String) : Except String String :=
  match dialectOf? url.toList with
  | none => .error "Could not parse SQLAlchemy URL from given URL string"
  | some name =>
    if knownDialects.contains (String.ofList name) then .ok dialect
    else
      let plugin := name.map fun c => if c == '+' then '.' else c
      .error ("Can't load plugin: sqlalchemy.dialects:" ++ String.ofList plugin)

/-- The database that a value describes. -/
def Database.ofValue (value : Value) : Database where
  tables := tablesOf (partOf value "tables")
  schemas := (namedParts (partOf value "schemas")).map fun (name, tables) => (name, tablesOf tables)
  refusals :=
    let reason (question : String) := (partOf (partOf value "fail") question).text?
    ⟨reason "has_table", reason "get_columns", reason "get_pk_constraint"⟩
  opening := opened

end Scaffold.Schema
