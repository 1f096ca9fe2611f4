import Scaffold.Schema.Column
import Scaffold.Schema.DeclaredType

/-!
The fields of forms and views. A policy says which columns of a table become fields: all but key
columns, columns that the database counts up itself, and columns with an unwanted name. Fields
keep the order of their columns.
-/
namespace Scaffold.Schema

open Text

structure Field where
  label : String
  column : Column
  kind : FieldKind
  deriving DecidableEq, Repr

/-- The name of a field is the name of its column. -/
def Field.name (field : Field) : String :=
  field.column.name

/-- Writes a column name as a label: each word capitalised, with a space for each underscore. -/
def labelFor (columnName : String) : String :=
  let pieces := split (fun c => c == ' ' || c == '_') columnName.toList
  String.ofList (List.intercalate [' '] (pieces.map capitalizeChars))

/-- Which columns become fields, and of which kind. Unwanted names are in lower case. -/
structure FieldPolicy where
  unwanted : List String
  types : TypeMap

namespace FieldPolicy

/-- The policy for some unwanted names, in any case. -/
def make (unwanted : List String) (types : TypeMap) : FieldPolicy :=
  ⟨unwanted.map lower, types⟩

/-- Whether a column becomes a field. -/
def isEligible (policy : FieldPolicy) (column : Column) : Bool :=
  !column.primaryKey && !column.autoincrement && !policy.unwanted.contains (lower column.name)

/-- The field for a column. -/
def field (policy : FieldPolicy) (column : Column) : Field :=
  ⟨labelFor column.name, column, fieldKind policy.types column.declaredType⟩

/-- The fields of a table. -/
def fields (policy : FieldPolicy) (columns : List Column) : List Field :=
  (columns.filter policy.isEligible).map policy.field

/-- The columns that become no field. -/
def dropped (policy : FieldPolicy) (columns : List Column) : List Column :=
  columns.filter fun column => !policy.isEligible column

/-- The unwanted names in order, each once. -/
def sortedUnwanted (policy : FieldPolicy) : List String :=
  (policy.unwanted.eraseDups).mergeSort fun a b => a ≤ b

end FieldPolicy

end Scaffold.Schema
