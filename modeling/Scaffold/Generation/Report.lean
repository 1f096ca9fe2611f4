import Scaffold.Data.Double
import Scaffold.Emission.Outcome
import Scaffold.Files.Path
import Scaffold.Generation.Stage
import Scaffold.Naming

/-!
Reports: what a run did, in the order in which it did it. The summary of a report is text for
people to read.
-/
namespace Scaffold.Generation

open Data Emission Files Text

/-- What became of one generated file. -/
structure Artifact where
  label : String
  path : Path
  outcome : Outcome
  deriving DecidableEq, Repr

/-- One step of a run. -/
structure Step where
  name : String
  success : Bool
  seconds : Double
  detail : String
  deriving DecidableEq, Repr

structure Report where
  success : Bool := false
  stage : Stage := .start
  tableName : String := ""
  naming : Option Naming := none
  artifacts : List Artifact := []
  routeLine : Option String := none
  routesFile : Option Path := none
  steps : List Step := []
  errors : List String := []
  seconds : Double := .zero
  deriving DecidableEq, Repr

namespace Report

/-- The artifacts with an outcome. -/
def withOutcome (report : Report) (outcome : Outcome) : List Artifact :=
  report.artifacts.filter (·.outcome == outcome)

/-- How many artifacts have an outcome. -/
def count (report : Report) (outcome : Outcome) : Nat :=
  (report.withOutcome outcome).length

/-- The paths of all artifacts. -/
def paths (report : Report) : List Path :=
  report.artifacts.map (·.path)

/-- A line of one character over the width of a summary. -/
def rule (c : Char) : String :=
  String.ofList (List.replicate 60 c)

/-- The number of artifacts with each outcome. -/
def countLine (report : Report) : String :=
  "  Files:       " ++ toString (report.count .created) ++ " created, " ++
    toString (report.count .overwritten) ++ " overwritten, " ++
    toString (report.count .skipped) ++ " skipped"

def artifactLine (artifact : Artifact) : String :=
  "    " ++ artifact.outcome.mark ++ " " ++ padRight 18 artifact.label ++ " " ++
    padRight 12 artifact.outcome.name ++ " " ++ artifact.path.text

def stepLine (step : Step) : String :=
  "    " ++ (if step.success then "✓" else "✗") ++ " " ++ padRight 20 step.name ++ " " ++
    padLeft 7 step.seconds.fixed3 ++ "s  " ++ step.detail

/-- A part of a summary below a line, left out when it has nothing to say. -/
def ruled (present : Bool) (lines : List String) : List String :=
  if present then rule '─' :: lines else []

/-- The summary of a report, line by line. -/
def summaryLines (report : Report) : List String :=
  [rule '=', "  crudgen — Generation Report", rule '=',
   "  Status:      " ++ (if report.success then "✅ SUCCESS" else "❌ FAILED"),
   "  Table:       " ++ report.tableName,
   "  Final state: " ++ report.stage.name] ++
  (match report.naming with
   | some naming => ["  Class:       " ++ naming.className, "  Route:       " ++ naming.routeName]
   | none => []) ++
  [report.countLine, "  Total time:  " ++ report.seconds.fixed3 ++ "s"] ++
  ruled (!report.artifacts.isEmpty) ("  Artifacts:" :: report.artifacts.map artifactLine) ++
  (match report.routeLine with
   | some line =>
     ruled true
       ["  Route appended to " ++ (report.routesFile.elim "None" Path.text) ++ ":", "    " ++ line]
   | none => []) ++
  ruled (!report.steps.isEmpty) ("  Pipeline Steps:" :: report.steps.map stepLine) ++
  ruled (!report.errors.isEmpty)
    (("  Errors (" ++ toString report.errors.length ++ "):") ::
      report.errors.map fun error => "    ✗ " ++ error) ++
  [rule '=']

/-- The summary of a report. -/
def summary (report : Report) : String :=
  join "\n" report.summaryLines

end Report

end Scaffold.Generation
