import Scaffold.Config

/-!
Configurations as objects with attributes. A setting is an attribute that is checked whenever it is
assigned, in the same way as when the configuration is made. What is assigned to a private name is
kept unchecked beside the settings, and some private names are those of parts of the object itself.
-/
namespace Scaffold.Config

open Data Validation

/-- Why an assignment is rejected. -/
inductive Rejection where
  | invalid (issues : List Issue)
  /-- An attribute that cannot be assigned. -/
  | readOnly (name : String)
  /-- A part of the object that is of another kind than the value. -/
  | wrongKind (name : String)
  deriving DecidableEq, Repr

/-- Whether a name begins with an underscore. Such a name is never that of a setting. -/
def isPrivate (name : String) : Bool :=
  name.toList.head? == some '_'

/-- Private names that an object has a use for itself, and what assigning a value to one of them
makes of all its attributes. Which names these are is up to the class of the object. -/
structure OwnNames where
  has : String → Bool
  assign : Entries → String → Value → Except Rejection Entries

/-- Whether a name begins and ends with two underscores, as those of the parts of any object do. -/
def isReserved (name : String) : Bool :=
  ['_', '_'].isPrefixOf name.toList && ['_', '_'].isSuffixOf name.toList

/-- The names that any object has: that of all its attributes, which a map takes the place of, those
of its class and of what refers to it, which no value can be, and others that are kept for uses like
these. -/
def OwnNames.standard : OwnNames where
  has := isReserved
  assign attributes name value :=
    match name, value with
    | "__dict__", .map entries => .ok entries
    | "__dict__", _ | "__class__", _ => .error (.wrongKind name)
    | "__weakref__", _ => .error (.readOnly name)
    | _, _ => .ok (attributes.put name value)

/-- The names of attributes that are worked out from others. -/
def workedOut : List String :=
  ["root", "is_default_layout", "model_extra", "model_fields_set"]

/-- What a setting holds when it is given a value, as the standard configuration shows. -/
def held (setting : Setting) (value : Value) : Except (List Issue) Value :=
  (standard.set setting value).map (·.get setting)

/-- Whether a value is of the sort that a setting holds. -/
def isOfSort : Setting → Value → Bool
  | .databaseUrl, .null | .dbSchema, .null | .stubPath, .null => true
  | .unwantedColumns, .list items => items.all (·.text?.isSome)
  | .unwantedColumns, _ => false
  | _, .text _ => true
  | _, _ => false

/-- A configuration as an object, by all that its attributes hold. -/
structure Object where
  attributes : Entries

namespace Object

def ofConfig (config : Config) : Object :=
  ⟨config.entries⟩

/-- What the attribute of a setting holds. -/
def get? (object : Object) (setting : Setting) : Option Value :=
  object.attributes.get? setting.name

def text? (object : Object) (setting : Setting) : Option String :=
  (object.get? setting).bind Value.text?

def texts (object : Object) (setting : Setting) : List String :=
  match object.get? setting with
  | some (.list items) => items.filterMap Value.text?
  | _ => []

/-- The texts that the settings hold. -/
def settings (object : Object) : Config where
  projectRoot := (object.text? .projectRoot).getD ""
  databaseUrl := object.text? .databaseUrl
  dbSchema := object.text? .dbSchema
  stubPath := object.text? .stubPath
  layout := (object.text? .layout).getD ""
  controllerDir := (object.text? .controllerDir).getD ""
  modelDir := (object.text? .modelDir).getD ""
  viewsDir := (object.text? .viewsDir).getD ""
  routesFile := (object.text? .routesFile).getD ""
  controllerNamespace := (object.text? .controllerNamespace).getD ""
  modelNamespace := (object.text? .modelNamespace).getD ""
  viewExtension := (object.text? .viewExtension).getD ""
  routeTemplate := (object.text? .routeTemplate).getD ""
  unwantedColumns := object.texts .unwantedColumns

/-- The configuration that an object is, when each of its settings holds something of the right
sort. Nothing else is checked. -/
def config? (object : Object) : Option Config :=
  if Setting.all.all fun setting => (object.get? setting).any (isOfSort setting) then
    some object.settings
  else none

/-- Assigns a value to an attribute by its name. Nothing changes when that is rejected. -/
def assign (own : OwnNames) (object : Object) (name : String) (value : Value) :
    Except Rejection Object :=
  match Setting.ofName? name with
  | some setting =>
    match held setting value with
    | .ok kept => .ok ⟨object.attributes.put name kept⟩
    | .error issues => .error (.invalid issues)
  | none =>
    if isPrivate name then
      if own.has name then (own.assign object.attributes name value).map Object.mk
      else .ok ⟨object.attributes.put name value⟩
    else if workedOut.contains name then .error (.readOnly name)
    else .error (.invalid [⟨some name, none, .noSuchAttribute name⟩])

/-- What an object is after an assignment, which changes nothing when it is rejected. -/
def attempt (own : OwnNames) (object : Object) (assignment : String × Value) : Object :=
  match object.assign own assignment.1 assignment.2 with
  | .ok changed => changed
  | .error _ => object

/-- What an object is after some assignments, one after another. -/
def attemptAll (own : OwnNames) (object : Object) (assignments : List (String × Value)) : Object :=
  assignments.foldl (attempt own) object

end Object

end Scaffold.Config
