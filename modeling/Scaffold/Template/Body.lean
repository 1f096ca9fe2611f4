/-!
Template bodies as text with holes. Every hole has a name; in the text of a template it is written
as its name between double braces.
-/
namespace Scaffold.Template

/-- The holes that templates of the standard kind have. -/
inductive Hole where
  | modelName
  | tableName
  | routeName
  | modelNamePlural
  | modelNameLowerCase
  | modelNamePluralLowerCase
  | modelTitle
  | modelTitlePlural
  | modelView
  | modelModule
  | modelNamespace
  | controllerNamespace
  | layout
  | primaryKey
  | viewExtension
  | viewsDir
  | columns
  | fillable
  | rules
  | softDeletesImport
  | softDeletes
  | tableHeader
  | tableBody
  | viewRows
  | form
  | title
  | column
  | controllerQualifiedName
  deriving DecidableEq, Repr

/-- The name of a hole. -/
def Hole.name : Hole → String
  | .modelName => "modelName"
  | .tableName => "tableName"
  | .routeName => "routeName"
  | .modelNamePlural => "modelNamePlural"
  | .modelNameLowerCase => "modelNameLowerCase"
  | .modelNamePluralLowerCase => "modelNamePluralLowerCase"
  | .modelTitle => "modelTitle"
  | .modelTitlePlural => "modelTitlePlural"
  | .modelView => "modelView"
  | .modelModule => "modelModule"
  | .modelNamespace => "modelNamespace"
  | .controllerNamespace => "controllerNamespace"
  | .layout => "layout"
  | .primaryKey => "primaryKey"
  | .viewExtension => "viewExtension"
  | .viewsDir => "viewsDir"
  | .columns => "columns"
  | .fillable => "fillable"
  | .rules => "rules"
  | .softDeletesImport => "softDeletesImport"
  | .softDeletes => "softDeletes"
  | .tableHeader => "tableHeader"
  | .tableBody => "tableBody"
  | .viewRows => "viewRows"
  | .form => "form"
  | .title => "title"
  | .column => "column"
  | .controllerQualifiedName => "controllerQualifiedName"

/-- A name as it is written where text is to be filled in. -/
def token (name : String) : String :=
  "\x7b\x7b" ++ name ++ "\x7d\x7d"

/-- A hole as it is written in a template. -/
def Hole.token (hole : Hole) : String :=
  Template.token hole.name

/-- A part of a template body. -/
inductive Piece where
  | text (s : String)
  | hole (h : Hole)
  deriving DecidableEq, Repr

instance : Coe String Piece := ⟨.text⟩

instance : Coe Hole Piece := ⟨.hole⟩

/-- A template body, piece by piece. -/
abbrev Body := List Piece

/-- A piece as it is written in a template. -/
def Piece.written : Piece → String
  | .text s => s
  | .hole h => h.token

/-- The text of a body. -/
def Body.written (body : Body) : String :=
  String.join (body.map Piece.written)

/-- Lines with a line end after each. -/
def endedLines (lines : List Body) : Body :=
  lines.flatMap fun line => line ++ [.text "\n"]

/-- Lines with a line end between each two. -/
def joinedLines (lines : List Body) : Body :=
  List.intercalate [.text "\n"] lines

end Scaffold.Template
