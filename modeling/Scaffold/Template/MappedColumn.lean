import Scaffold.Schema.Field
import Scaffold.Text.Pieces

/-!
The line that declares a column in a generated model. It holds the type of the attribute, the type
of the column, and whether the column is a key or may be null.
-/
namespace Scaffold.Template

open Schema Text

/-- The attribute type and the column type of a kind of field. -/
def kindTypes : FieldKind → String × String
  | .text => ("str", "String")
  | .textarea => ("str", "Text")
  | .number => ("Decimal", "Numeric")
  | .boolean => ("bool", "Boolean")
  | .date => ("date", "Date")
  | .datetime => ("datetime", "DateTime")
  | .time => ("time", "Time")
  | .file => ("bytes", "LargeBinary")

/-- Whether a type in normal form, or its first word, is one of some types. -/
def belongsTo (types : List String) (normal : String) : Bool :=
  types.contains normal || types.contains (firstWord normal)

/-- The attribute type and the column type of a column. Numbers are told apart by their declared
type. -/
def columnTypes (column : Column) (kind : FieldKind) : String × String :=
  let normal := normalType column.declaredType
  if kind = .number ∧ belongsTo integerTypes normal then ("int", "Integer")
  else if kind = .number ∧ belongsTo floatTypes normal then ("float", "Float")
  else kindTypes kind

/-- What a column's declaration says about keys and null. -/
def columnOptions (column : Column) : List String :=
  if column.primaryKey then
    "primary_key=True" :: (if column.autoincrement then ["autoincrement=True"] else [])
  else if column.nullable then ["nullable=True"]
  else ["nullable=False"]

/-- The line that declares a column. -/
def columnLine (column : Column) (kind : FieldKind) : String :=
  let (held, stored) := columnTypes column kind
  let shown := if column.nullable && !column.primaryKey then "Optional[" ++ held ++ "]"
    else held
  "    " ++ column.name ++ ": Mapped[" ++ shown ++ "] = mapped_column(" ++
    join ", " (stored :: columnOptions column) ++ ")"

/-- Whether rows are marked as deleted instead of being removed: a column says when. -/
def hasSoftDeletes (columns : List Column) : Bool :=
  columns.any fun column => lower column.name == "deleted_at"

end Scaffold.Template
