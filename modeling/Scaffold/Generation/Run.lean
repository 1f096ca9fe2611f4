import Scaffold.Emission.Artifact
import Scaffold.Emission.Route
import Scaffold.Schema.Introspection
import Scaffold.Text.Lines

/-!
Runs of the generator. A run looks at one table, finds its names, and writes a controller, a model,
the views and a route, in this order. All that can be checked without writing is checked before the
first file is touched. A missing table ends a run with a report; other failures end it without one,
and the files that were written by then stay.
-/
namespace Scaffold.Generation

open Emission Files Inflection Schema Template

/-- What a generator works with. -/
structure Generator where
  config : Config
  source : Source
  library : Library
  policy : FieldPolicy
  routes : RouteStyle

namespace Generator

/-- The generator of a configuration over a source. -/
def ofConfig (config : Config) (source : Source) : Generator where
  config := config
  source := source
  library := ⟨config.templateDir, Library.standard⟩
  policy := FieldPolicy.make config.unwantedColumns commonTypes
  routes := RouteStyle.make config.routeTemplate none

/-- The generator of a configuration over the database that the configuration names. -/
def open? (config : Config) (db : Database) : Except Failure Generator :=
  match config.databaseUrl with
  | none => .error .noDatabase
  | some url =>
    if url.isEmpty then .error .noDatabase
    else
      match Source.openAt url config.dbSchema db with
      | .ok source => .ok (ofConfig config source)
      | .error fault => .error (.schema fault)

end Generator

/-- The views of a model, in the order in which they are written. -/
def viewNames : List String :=
  ["index", "create", "edit", "form", "show"]

/-- Goes on to another stage, if the stage of the run allows that. -/
def advance (target : Stage) : Action Unit := do
  let session ← get
  let stage := session.report.stage
  if stage.next.contains target then
    set { session with report := { session.report with stage := target } }
    Action.say .debug .generator ("State " ++ stage.name ++ " → " ++ target.name)
    Action.note [.entered target]
  else throw (.illegalStep stage target)

/-- Changes the report of the run. -/
def record (change : Report → Report) : Action Unit :=
  modify fun session => { session with report := change session.report }

/-- Adds a step to the report. -/
def recordStep (name : String) (success : Bool) (detail : String) : Action Unit :=
  record fun report => { report with steps := report.steps ++ [⟨name, success, .zero, detail⟩] }

/-- Adds what became of an artifact to the report. -/
def recordArtifact (label : String) (path : Path) (outcome : Outcome) : Action Unit :=
  record fun report => { report with artifacts := report.artifacts ++ [⟨label, path, outcome⟩] }

/-- The rule set of a language. -/
def rulesOf (language : Option String) : Action RuleSet := do
  match rulesFor? language with
  | none => throw (.unsupportedLanguage (language.getD ""))
  | some rules =>
    if let some name := language then
      if !name.isEmpty then
        Action.say .debug .inflection
          ("Selected " ++ rules.language ++ " pluralization rules for '" ++ name ++ "'.")
    return rules

/-- The names of a run. -/
def resolveNames (rules : RuleSet) (request : Request) : Action Naming := do
  let naming := Naming.resolve rules request
  Action.say .debug .naming
    ("Resolved names for '" ++ request.tableName ++ "' (" ++ rules.language ++ " rules): class=" ++
      naming.className ++ " route=" ++ naming.routeName)
  return naming

/-- The fields of a table. -/
def fieldsOf (policy : FieldPolicy) (columns : List Column) : Action (List Field) := do
  let dropped := policy.dropped columns
  if !dropped.isEmpty then
    Action.say .debug .classifier
      ("Excluded column(s) from views/forms: " ++ Text.join ", " (dropped.map (·.name)))
  return policy.fields columns

/-- What a run knows of its table: its columns and their fields, or nothing when there is no such
table. -/
def inspect (g : Generator) (table : String) : Action (Option (List Column × List Field)) := do
  if ← g.source.tableExists table then
    let columns ← g.source.columns table
    let fields ← fieldsOf g.policy columns
    return some (columns, fields)
  else return none

/-- The text of a template with its holes filled. Placeholders that nothing fills stay. -/
def renderTemplate (g : Generator) (name : String) (filling : Filling) : Action String := do
  let body ← g.library.get name
  let bindings := filling.bindings
  let left := unbound body bindings
  if !left.isEmpty then
    Action.say .debug .renderer ("Unbound placeholder(s): " ++ Text.join ", " left)
    Action.say .warning .generator
      ("Template '" ++ name ++ "' leaves " ++ toString left.length ++
        " placeholder(s) unbound: " ++ Text.join ", " left)
  let content := render body bindings
  Action.say .debug .generator
    ("Rendered '" ++ name ++ "' (" ++ toString (Text.lineCount content) ++ " lines)")
  return content

/-- Makes an artifact from a template and writes it. -/
def emit (g : Generator) (label : String) (path : Path) (template : String) (filling : Filling) :
    Action Unit := do
  let content ← renderTemplate g template filling
  let outcome ← write path content
  recordArtifact label path outcome

/-- Writes the controller. -/
def buildController (g : Generator) (naming : Naming) (columns : List Column) : Action Unit := do
  Action.say .info .generator "Creating Controller ..."
  emit g "Controller" (g.config.controllerPath naming) "controller"
    (baseFilling naming g.config columns)

/-- Writes the model. -/
def buildModel (g : Generator) (naming : Naming) (columns : List Column) (fields : List Field) :
    Action Unit := do
  Action.say .info .generator "Creating Model ..."
  let filling := modelFilling naming g.config columns fields (kindsOf g.policy columns)
  Action.say .debug .bindings (modelNote naming columns fields)
  emit g "Model" (g.config.modelPath naming) "model" filling

/-- Sees to it that the layout is there. Only the default layout is written when it is not. -/
def buildLayout (g : Generator) : Action Unit := do
  let path := g.config.layoutPath
  if !(← Action.workspace).isThere path then
    if g.config.usesDefaultLayout then
      let body ← g.library.get "layouts/app"
      let outcome ← writeIfMissing path body
      recordArtifact "Layout" path outcome
    else throw (.layoutMissing g.config.layout path)

/-- Writes one view. -/
def buildView (g : Generator) (naming : Naming) (filling : Filling) (view : String) :
    Action Unit :=
  emit g ("View " ++ view) (g.config.viewPath naming view) ("views/" ++ view) filling

/-- Writes the layout, if need be, and the views. -/
def buildViews (g : Generator) (naming : Naming) (columns : List Column) (fields : List Field) :
    Action Unit := do
  Action.say .info .generator "Creating Views ..."
  let filling ← viewFilling naming g.config columns fields g.library
  buildLayout g
  viewNames.forM (buildView g naming filling)

/-- Registers the route. -/
def buildRoute (g : Generator) (naming : Naming) : Action Unit := do
  Action.say .info .generator "Creating Route ..."
  let path := g.config.routesPath
  let line ← appendRoute g.routes path naming.routeName (g.config.qualifiedName naming)
  record fun report => { report with routeLine := some line, routesFile := some path }

/-- Ends a run whose table does not exist. -/
def abort (table : String) : Action Unit := do
  let reason := "`" ++ table ++ "` table does not exist"
  Action.say .error .generator reason
  advance .aborted
  recordStep "validate" false reason
  record fun report => { report with errors := report.errors ++ [reason] }

/-- Does everything that follows once the table is known. -/
def build (g : Generator) (rules : RuleSet) (request : Request) (columns : List Column)
    (fields : List Field) : Action Unit := do
  advance .validated
  recordStep "validate" true
    (toString columns.length ++ " columns, " ++ toString fields.length ++ " fields")
  let naming ← Action.timed "naming" (resolveNames rules request)
  record fun report => { report with naming := some naming }
  advance .namingResolved
  recordStep "naming" true (naming.className ++ " / " ++ naming.routeName)
  Action.timed "controller" (buildController g naming columns)
  advance .controllerBuilt
  recordStep "controller" true ""
  Action.timed "model" (buildModel g naming columns fields)
  advance .modelBuilt
  recordStep "model" true ""
  Action.timed "views" (buildViews g naming columns fields)
  advance .viewsBuilt
  recordStep "views" true (toString viewNames.length ++ " views")
  Action.timed "route" (buildRoute g naming)
  advance .routeAppended
  recordStep "route" true ""
  advance .done
  record fun report => { report with success := true }
  Action.say .info .generator "Created successfully."

/-- One run of the generator. -/
def generate (g : Generator) (request : Request) : Action Report := do
  record fun _ => { tableName := request.tableName }
  Action.say .info .generator
    ("Running CRUD generator for table '" ++ request.tableName ++ "' ...")
  let rules ← rulesOf request.language
  match ← Action.timed "validate" (inspect g request.tableName) with
  | none => abort request.tableName
  | some (columns, fields) => build g rules request columns fields
  return (← get).report

/-- One run of a generator that is made for it. -/
def generateOnce (config : Config) (db : Database) (request : Request) : Action Report := do
  match Generator.open? config db with
  | .ok g => generate g request
  | .error failure => throw failure

end Scaffold.Generation
