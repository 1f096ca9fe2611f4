/-!
What can be wrong with an input. An issue names the place and the defect; its code and wording
depend on the defect alone.
-/
namespace Scaffold.Validation

/-- What is wrong with one value. -/
inductive Defect where
  | absent
  | notText
  | emptyText
  | notList
  | notBoolean
  | unclearBoolean
  | blankTableName
  | unknownField
  | frozen
  | noSuchAttribute (name : String)
  deriving DecidableEq, Repr

/-- The short code of a defect. -/
def Defect.code : Defect → String
  | .absent => "missing"
  | .notText => "string_type"
  | .emptyText => "string_too_short"
  | .notList => "list_type"
  | .notBoolean => "bool_type"
  | .unclearBoolean => "bool_parsing"
  | .blankTableName => "value_error"
  | .unknownField => "extra_forbidden"
  | .frozen => "frozen_instance"
  | .noSuchAttribute _ => "no_such_attribute"

/-- The wording of a defect. -/
def Defect.message : Defect → String
  | .absent => "Field required"
  | .notText => "Input should be a valid string"
  | .emptyText => "String should have at least 1 character"
  | .notList => "Input should be a valid list"
  | .notBoolean => "Input should be a valid boolean"
  | .unclearBoolean => "Input should be a valid boolean, unable to interpret input"
  | .blankTableName => "Value error, Table name must not be blank."
  | .unknownField => "Extra inputs are not permitted"
  | .frozen => "Instance is frozen"
  | .noSuchAttribute name => "Object has no attribute '" ++ name ++ "'"

/-- A defect and where it is: a field and, inside a list, the index of the item. An entry whose
key is not text has no field name. -/
structure Issue where
  field : Option String
  index : Option Nat := none
  defect : Defect
  deriving DecidableEq, Repr

/-- The first line of a report about issues with an input called `subject`. -/
def headline (subject : String) (issues : List Issue) : String :=
  toString issues.length ++ (if issues.length == 1 then " validation error for "
    else " validation errors for ") ++ subject

end Scaffold.Validation
