import Scaffold.Config
import Scaffold.Template.Library
import Scaffold.Template.Literal
import Scaffold.Template.MappedColumn
import Scaffold.Template.Render
import Scaffold.Text.Display

/-!
What fills the holes of each template. All artifacts of a run share what follows from its names and
its configuration; a model adds its columns, and the views add what is made of each field.
-/
namespace Scaffold.Template

open Schema Text

/-- What every artifact of a run shares. -/
def baseFilling (naming : Naming) (config : Config) (columns : List Column) : Filling :=
  [(.modelName, naming.className),
   (.tableName, naming.tableName),
   (.routeName, naming.routeName),
   (.modelNamePlural, naming.pluralClassName),
   (.modelNameLowerCase, naming.snakeName),
   (.modelNamePluralLowerCase, naming.pluralSnakeName),
   (.modelTitle, naming.title),
   (.modelTitlePlural, naming.titlePlural),
   (.modelView, naming.viewFolder),
   (.modelModule, naming.snakeName),
   (.modelNamespace, config.modelNamespace),
   (.controllerNamespace, config.controllerNamespace),
   (.layout, config.layout),
   (.primaryKey, primaryKeyName columns),
   (.viewExtension, config.viewExtension),
   (.viewsDir, config.viewsDir)]

/-- The kinds of columns by name. -/
abbrev KindMap := List (String × FieldKind)

/-- The kind of every column of a table. Of two columns with one name the later one counts. -/
def kindsOf (policy : FieldPolicy) (columns : List Column) : KindMap :=
  Data.putAll [] (columns.map fun column =>
    (column.name, fieldKind policy.types column.declaredType))

/-- The lines that declare the columns of a model. -/
def columnLines (columns : List Column) (kinds : KindMap) : List String :=
  columns.map fun column => columnLine column ((kinds.lookup column.name).getD .text)

/-- The rules for the fields of a model: those that may not be null are required. -/
def ruleEntries (fields : List Field) : List (String × String) :=
  Data.putAll [] ((fields.filter fun field => !field.column.nullable).map fun field =>
    (field.name, "required"))

/-- What fills a model. -/
def modelFilling (naming : Naming) (config : Config) (columns : List Column) (fields : List Field)
    (kinds : KindMap) : Filling :=
  let soft := hasSoftDeletes columns
  baseFilling naming config columns ++
    [(.columns, join "\n" (columnLines columns kinds)),
     (.fillable, listLiteral true (fields.map (·.name))),
     (.rules, mapLiteral true true (ruleEntries fields)),
     (.softDeletesImport, if soft then ", SoftDeletes" else ""),
     (.softDeletes, if soft then "SoftDeletes, " else "")]

/-- What is said about the filling of a model. -/
def modelNote (naming : Naming) (columns : List Column) (fields : List Field) : String :=
  "Model bindings for " ++ naming.className ++ ": " ++ toString columns.length ++
    " column(s), fillable=" ++ shownList (fields.map (·.name)) ++ ", soft deletes=" ++
    truthWord (hasSoftDeletes columns)

/-- A template of a field, filled for one field. -/
def fragment (body : String) (base : Filling) (field : Field) : String :=
  let filling : Filling := base ++ [(.title, field.label), (.column, field.name)]
  render body filling.bindings

/-- The inputs of fields. Their templates are looked up one after another. -/
def inputs (library : Library) (base : Filling) : List Field → Action (List String)
  | [] => return []
  | field :: rest => do
    let body ← library.get (inputName field.kind)
    return fragment body base field :: (← inputs library base rest)

/-- What fills the views. -/
def viewFilling (naming : Naming) (config : Config) (columns : List Column) (fields : List Field)
    (library : Library) : Action Filling := do
  let base := baseFilling naming config columns
  let head ← library.get "fields/head"
  let cell ← library.get "fields/cell"
  let view ← library.get "fields/view"
  let form ← inputs library base fields
  return base ++
    [(.tableHeader, join "\n" (fields.map (fragment head base))),
     (.tableBody, join "\n" (fields.map (fragment cell base))),
     (.viewRows, join "\n" (fields.map (fragment view base))),
     (.form, join "\n" form)]

/-- What fills the statement that registers a route. -/
def routeFilling (routeName controller : String) : Filling :=
  [(.routeName, routeName), (.controllerQualifiedName, controller)]

end Scaffold.Template
