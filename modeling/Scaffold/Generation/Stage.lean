/-!
The stages of a run. A run goes forward from the first to the last stage, or ends at once when the
table does not exist.
-/
namespace Scaffold.Generation

inductive Stage where
  | start
  | validated
  | namingResolved
  | controllerBuilt
  | modelBuilt
  | viewsBuilt
  | routeAppended
  | done
  | aborted
  deriving DecidableEq, Repr

namespace Stage

def all : List Stage :=
  [.start, .validated, .namingResolved, .controllerBuilt, .modelBuilt, .viewsBuilt, .routeAppended,
   .done, .aborted]

/-- The word for a stage. -/
def name : Stage → String
  | .start => "start"
  | .validated => "validated"
  | .namingResolved => "naming_resolved"
  | .controllerBuilt => "controller_built"
  | .modelBuilt => "model_built"
  | .viewsBuilt => "views_built"
  | .routeAppended => "route_appended"
  | .done => "done"
  | .aborted => "aborted"

/-- The stage that a word names. -/
def ofName? (word : String) : Option Stage :=
  all.find? (·.name == word)

/-- The stages that may follow a stage. -/
def next : Stage → List Stage
  | .start => [.validated, .aborted]
  | .validated => [.namingResolved]
  | .namingResolved => [.controllerBuilt]
  | .controllerBuilt => [.modelBuilt]
  | .modelBuilt => [.viewsBuilt]
  | .viewsBuilt => [.routeAppended]
  | .routeAppended => [.done]
  | .done => []
  | .aborted => []

end Stage

end Scaffold.Generation
