import Scaffold.Schema.Column

/-!
Databases as they describe themselves: tables by name, in the default schema and in named ones, and
the columns of each table with its key. A database may refuse any of the questions it is asked, and
it is known what comes of opening it at an address.
-/
namespace Scaffold.Schema

/-- The type of a column as a database knows it: in its own spelling, or as a class of types that
has no spelling. -/
inductive RawType where
  | spelled (text : String)
  | unspelled (className : String)
  deriving DecidableEq, Repr

structure RawColumn where
  name : String
  type : RawType
  nullable : Bool
  autoincrement : Bool
  deriving DecidableEq, Repr

structure Table where
  columns : List RawColumn
  key : List String
  deriving DecidableEq, Repr

/-- The questions that a database can refuse, each with its reason. -/
structure Refusals where
  lookup : Option String := none
  columns : Option String := none
  key : Option String := none
  deriving DecidableEq, Repr

structure Database where
  tables : List (String × Table) := []
  schemas : List (String × List (String × Table)) := []
  refusals : Refusals := {}
  /-- What opening an address gives: the name of the dialect that is spoken there, or why it cannot
  be opened. -/
  opening : String → Except String String := fun _ => .ok "sqlite"

/-- A table of a database. No schema and the empty name stand for the default schema. -/
def Database.table? (db : Database) (schema : Option String) (name : String) : Option Table :=
  match schema with
  | none => db.tables.lookup name
  | some s =>
    if s.isEmpty then db.tables.lookup name
    else (db.schemas.lookup s).bind (·.lookup name)

end Scaffold.Schema
