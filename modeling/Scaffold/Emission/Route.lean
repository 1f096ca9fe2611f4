import Scaffold.Config
import Scaffold.Emission.File
import Scaffold.Template.Binding

/-!
The routes file of a project. Each run adds one statement on a line of its own at the end; nothing
in the file ever changes. A file that is missing or empty gets a header first.
-/
namespace Scaffold.Emission

open Files Template

/-- The statement that registers a route, and what a new routes file begins with. -/
structure RouteStyle where
  template : String
  header : String
  deriving DecidableEq, Repr

/-- What a routes file begins with so that the standard statement means something in it. -/
def standardHeader : String :=
  String.join (List.map (· ++ "\n") [
    "\"\"\"Resource routes registered by crudgen.\"\"\"",
    "",
    "from importlib import import_module",
    "",
    "from fastapi import APIRouter",
    "",
    "router = APIRouter()",
    "",
    "",
    "def resource(name: str, controller: str) -> None:",
    "    module_name, _, class_name = controller.rpartition(\".\")",
    "    controller_class = getattr(import_module(module_name), class_name)",
    "    router.include_router(controller_class.router, tags=[name])",
    "",
    ""])

/-- The style of a statement. Only the standard one comes with a header of its own accord. -/
def RouteStyle.make (template : String) (header : Option String) : RouteStyle where
  template := template
  header := header.getD (if template == Config.defaultRouteTemplate then standardHeader else "")

/-- The statement that registers a route. -/
def RouteStyle.line (style : RouteStyle) (routeName controller : String) : String :=
  render style.template (routeFilling routeName controller).bindings

/-- Whether a file has nothing in it yet: it is missing, or it is there and empty. -/
def isFresh (w : Workspace) (path : Path) : Bool :=
  match w.find? .follow path with
  | .ok (_, .file _ bytes) => bytes.isEmpty
  | .ok _ => false
  | .error _ => true

/-- Adds a line to the routes file, after the header when the file has nothing in it yet. -/
def addLine (style : RouteStyle) (path : Path) (line : String) : Action Unit := do
  ensureDirectory path.parent
  let headed := isFresh (← Action.workspace) path && !style.header.isEmpty
  let added := (if headed then style.header else "") ++ line ++ "\n"
  Action.change (Change.append path (Text.encode added))
  if headed then
    Action.say .debug .routes ("Wrote routes header to " ++ path.text)

/-- Registers a route in the routes file and gives the statement. -/
def appendRoute (style : RouteStyle) (path : Path) (routeName controller : String) :
    Action String := do
  let line := style.line routeName controller
  Action.refusedAs (.route path) (addLine style path line)
  Action.say .info .routes ("Appended route to " ++ path.text ++ ": " ++ line)
  return line

end Scaffold.Emission
