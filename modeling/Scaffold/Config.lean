import Scaffold.Files.Path
import Scaffold.Naming
import Scaffold.Validation.Reading

/-!
The settings of a project: where its parts are and how they are named. A configuration is made of
entries, each of which is checked.
-/
namespace Scaffold

open Data Files Validation

structure Config where
  projectRoot : String
  databaseUrl : Option String
  dbSchema : Option String
  stubPath : Option String
  layout : String
  controllerDir : String
  modelDir : String
  viewsDir : String
  routesFile : String
  controllerNamespace : String
  modelNamespace : String
  viewExtension : String
  routeTemplate : String
  unwantedColumns : List String
  deriving DecidableEq, Repr

/-- The fields of a configuration. -/
inductive Setting where
  | projectRoot
  | databaseUrl
  | dbSchema
  | stubPath
  | layout
  | controllerDir
  | modelDir
  | viewsDir
  | routesFile
  | controllerNamespace
  | modelNamespace
  | viewExtension
  | routeTemplate
  | unwantedColumns
  deriving DecidableEq, Repr

namespace Setting

/-- All settings, in order. -/
def all : List Setting :=
  [.projectRoot, .databaseUrl, .dbSchema, .stubPath, .layout, .controllerDir, .modelDir, .viewsDir,
   .routesFile, .controllerNamespace, .modelNamespace, .viewExtension, .routeTemplate,
   .unwantedColumns]

/-- The name of a setting in settings files. -/
def name : Setting → String
  | .projectRoot => "project_root"
  | .databaseUrl => "database_url"
  | .dbSchema => "db_schema"
  | .stubPath => "stub_path"
  | .layout => "layout"
  | .controllerDir => "controller_dir"
  | .modelDir => "model_dir"
  | .viewsDir => "views_dir"
  | .routesFile => "routes_file"
  | .controllerNamespace => "controller_namespace"
  | .modelNamespace => "model_namespace"
  | .viewExtension => "view_extension"
  | .routeTemplate => "route_template"
  | .unwantedColumns => "unwanted_columns"

/-- The setting that a name stands for. -/
def ofName? (name : String) : Option Setting :=
  all.find? (·.name == name)

/-- Every setting is found again under its own name. -/
theorem ofName?_name (setting : Setting) : ofName? setting.name = some setting := by
  cases setting <;> decide

end Setting

namespace Config

/-- The layout that the views of a project extend unless another is set. -/
def defaultLayout : String :=
  "layouts/app.html"

/-- The statement that registers a route unless another is set. -/
def defaultRouteTemplate : String :=
  "resource(\"\x7b\x7brouteName\x7d\x7d\", \"\x7b\x7bcontrollerQualifiedName\x7d\x7d\")"

/-- The columns that are left out of views and forms unless others are set. -/
def defaultUnwanted : List String :=
  ["id", "uuid", "ulid", "password", "email_verified_at", "remember_token", "created_at",
   "updated_at", "deleted_at"]

/-- The configuration in which nothing is set. -/
def standard : Config where
  projectRoot := "."
  databaseUrl := none
  dbSchema := none
  stubPath := none
  layout := defaultLayout
  controllerDir := "app/controllers"
  modelDir := "app/models"
  viewsDir := "app/templates"
  routesFile := "app/routes.py"
  controllerNamespace := "app.controllers"
  modelNamespace := "app.models"
  viewExtension := ".html"
  routeTemplate := defaultRouteTemplate
  unwantedColumns := defaultUnwanted

/-- Puts a dot in front of an extension that is not empty and has none. -/
def dotted (extension : String) : String :=
  match extension.toList with
  | [] => ""
  | '.' :: rest => String.ofList ('.' :: rest)
  | cs => String.ofList ('.' :: cs)

/-- Turns the defect of a setting's value into an issue with that setting. -/
def located (setting : Setting) : Except Defect α → Except (List Issue) α
  | .ok a => .ok a
  | .error defect => .error [⟨some setting.name, none, defect⟩]

/-- Sets one setting to a value, if the value is of the right sort. -/
def set (config : Config) (setting : Setting) (value : Value) : Except (List Issue) Config :=
  let text := located setting (readText value)
  let filled := located setting (readFilledText value)
  let optional := located setting (readOptionalText value)
  match setting with
  | .projectRoot => text.map fun s => { config with projectRoot := s }
  | .databaseUrl => optional.map fun s => { config with databaseUrl := s }
  | .dbSchema => optional.map fun s => { config with dbSchema := s }
  | .stubPath => optional.map fun s => { config with stubPath := s }
  | .layout => filled.map fun s => { config with layout := s }
  | .controllerDir => text.map fun s => { config with controllerDir := s }
  | .modelDir => text.map fun s => { config with modelDir := s }
  | .viewsDir => text.map fun s => { config with viewsDir := s }
  | .routesFile => text.map fun s => { config with routesFile := s }
  | .controllerNamespace => text.map fun s => { config with controllerNamespace := s }
  | .modelNamespace => text.map fun s => { config with modelNamespace := s }
  | .viewExtension => text.map fun s => { config with viewExtension := dotted s }
  | .routeTemplate => filled.map fun s => { config with routeTemplate := s }
  | .unwantedColumns =>
    (readTextList setting.name value).map fun names => { config with unwantedColumns := names }

/-- The value of a setting. -/
def get (config : Config) : Setting → Value
  | .projectRoot => .text config.projectRoot
  | .databaseUrl => config.databaseUrl.elim .null .text
  | .dbSchema => config.dbSchema.elim .null .text
  | .stubPath => config.stubPath.elim .null .text
  | .layout => .text config.layout
  | .controllerDir => .text config.controllerDir
  | .modelDir => .text config.modelDir
  | .viewsDir => .text config.viewsDir
  | .routesFile => .text config.routesFile
  | .controllerNamespace => .text config.controllerNamespace
  | .modelNamespace => .text config.modelNamespace
  | .viewExtension => .text config.viewExtension
  | .routeTemplate => .text config.routeTemplate
  | .unwantedColumns => .list (config.unwantedColumns.map .text)

/-- All settings with their values, as entries that `ofEntries` reads. -/
def entries (config : Config) : Entries :=
  Setting.all.map fun setting => (.text setting.name, config.get setting)

/-- Sets each of some settings that has an entry and collects the issues of all of them. -/
def setAll (entries : Entries) : List Setting → Config → Config × List Issue
  | [], config => (config, [])
  | setting :: rest, config =>
    match entries.get? setting.name with
    | none => setAll entries rest config
    | some value =>
      match config.set setting value with
      | .ok changed => setAll entries rest changed
      | .error issues =>
        let (last, more) := setAll entries rest config
        (last, issues ++ more)

/-- The configuration that some entries describe, or everything that is wrong with them. Settings
without an entry keep their standard values. -/
def ofEntries (entries : Entries) : Except (List Issue) Config :=
  let (config, issues) := setAll entries Setting.all standard
  match issues ++ unknownEntries (Setting.all.map (·.name)) entries with
  | [] => .ok config
  | found => .error found

/-! ## Places -/

/-- The root of the project. -/
def root (config : Config) : Path :=
  Path.ofString config.projectRoot

/-- A path that is read from the project root, unless it is absolute. -/
def resolved (config : Config) (path : String) : Path :=
  config.root ++ Path.ofString path

def usesDefaultLayout (config : Config) : Bool :=
  config.layout == defaultLayout

def controllerPath (config : Config) (naming : Naming) : Path :=
  (config.resolved config.controllerDir).child (naming.snakeName ++ "_controller.py")

def modelPath (config : Config) (naming : Naming) : Path :=
  (config.resolved config.modelDir).child (naming.snakeName ++ ".py")

def viewPath (config : Config) (naming : Naming) (view : String) : Path :=
  ((config.resolved config.viewsDir).child naming.viewFolder).child (view ++ config.viewExtension)

def layoutPath (config : Config) : Path :=
  (config.resolved config.viewsDir).child config.layout

def routesPath (config : Config) : Path :=
  config.resolved config.routesFile

/-- The dotted name under which the controller class is imported. -/
def qualifiedName (config : Config) (naming : Naming) : String :=
  config.controllerNamespace ++ "." ++ naming.snakeName ++ "_controller." ++ naming.className ++
    "Controller"

/-- The directory of the project's own templates, if it has one. -/
def templateDir (config : Config) : Option Path :=
  match config.stubPath with
  | none => none
  | some path => if path.isEmpty then none else some (config.resolved path)

end Config

end Scaffold
