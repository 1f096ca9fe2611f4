import Scaffold.CommandLine.ExitCode
import Scaffold.CommandLine.Invocation
import Scaffold.Generation.Run
import Scaffold.Settings

/-!
The program: from the words of a command line to what is printed, what becomes of the workspace and
how it ends. How loud it is decides only which of the events of a session are printed, and never
what happens in it.
-/
namespace Scaffold.CommandLine

open Data Files Generation Schema Validation

/-! ## What is done -/

/-- An optional text as a value. -/
def optional (s : Option String) : Value :=
  s.elim .null .text

/-- The request of an invocation, if it is one. -/
def Invocation.request (call : Invocation) : Except (List Issue) Request :=
  Request.ofEntries
    [(.text "table_name", .text call.table),
     (.text "route_override", optional call.options.route),
     (.text "class_name_override", optional call.options.className),
     (.text "language", optional call.options.language)]

/-- The settings that are given on the command line. -/
def Options.settings (options : Options) : Entries :=
  [(.text Setting.databaseUrl.name, optional options.databaseUrl),
   (.text Setting.projectRoot.name, optional options.projectRoot),
   (.text Setting.stubPath.name, optional options.stubPath)]

/-- The settings file that is given on the command line. An empty name gives none. -/
def Options.settingsFile (options : Options) : Option Path :=
  match options.config with
  | none => none
  | some path => if path.isEmpty then none else some (Path.ofString path)

/-- Who gives consent: nobody needs to when an option says it for all files, else whoever types
the replies. -/
def Options.consent (options : Options) (replies : List (Option String)) : Consent :=
  if options.force then .always true
  else if options.noOverwrite then .always false
  else .console replies

/-- Ends a run with a message. -/
def endWith (code : ExitCode) (text : String) : Action ExitCode := do
  Action.say .error .program text
  return code

/-- Generates for a request and shows the summary. -/
def runRequest (config : Config) (db : Database) (request : Request) : Action ExitCode := do
  match ← Action.attempt (generateOnce config db request) with
  | .ok report =>
    Action.note [.shown (report.summary ++ "\n")]
    return if report.success then .success else .validation
  | .error failure =>
    match ExitCode.ofFailure? failure with
    | some (code, words) => endWith code (words ++ failure.message)
    | none => throw failure

/-- Does what an invocation asks for, when its request and its settings are right. -/
def work (call : Invocation) (db : Database) : Action ExitCode := do
  match call.request with
  | .error issues =>
    endWith .input ("Invalid request: " ++ headline "GenerationRequest" issues)
  | .ok request =>
    match ← Action.attempt
        (Settings.configure call.options.settingsFile call.options.settings) with
    | .ok config => runRequest config db request
    | .error failure =>
      if ExitCode.spoilsSettings failure then
        endWith .input ("Failed to load configuration: " ++ failure.message)
      else throw failure

/-- A whole run, with what is said before and after the work. -/
def perform (call : Invocation) (db : Database) : Action ExitCode := do
  Action.say .info .program "Running Crud Generator ..."
  let code ← work call db
  if code ≠ .success then
    Action.say .error .program
      ("Generation failed with exit code " ++ toString code.number ++ ".")
  return code

/-! ## What is printed -/

inductive Stream where
  | output
  | errors
  deriving DecidableEq, Repr

/-- The least level of the messages that are printed. -/
def Loudness.threshold (loudness : Loudness) : Level :=
  if loudness.quiet then .error
  else
    match loudness.verbosity with
    | 0 => .warning
    | 1 => .info
    | _ => .debug

/-- A message as it is printed. The clock stands still. -/
def messageLine (level : Level) (channel : Channel) (text : String) : String :=
  "00:00:00 │ " ++ Text.padRight 8 level.name ++ " │ " ++ channel.name ++ " │ " ++ text ++ "\n"

/-- A piece of what is printed. -/
structure Output where
  stream : Stream
  text : String
  /-- A reply is awaited behind it. -/
  awaits : Bool := false
  deriving DecidableEq, Repr

/-- What is printed of an event. -/
def printed (loudness : Loudness) : Event → Option Output
  | .message level channel text =>
    if loudness.threshold.number ≤ level.number then
      some { stream := .errors, text := messageLine level channel text }
    else none
  | .prompted text => some { stream := .output, text := text, awaits := true }
  | .inputEnded => some { stream := .errors, text := "\n" }
  | .shown text => if loudness.quiet then none else some { stream := .output, text := text }
  | .asked _ | .entered _ => none

/-- What came of a call: how it ended, what was printed, and the workspace after it. -/
structure Transcript where
  status : Except Failure Nat
  output : List Output
  workspace : Workspace

/-- Everything that was printed to a stream. -/
def Transcript.textOn (transcript : Transcript) (stream : Stream) : String :=
  String.join ((transcript.output.filter (·.stream = stream)).map (·.text))

/-- What is printed up to the question that comes after `answered` others, if there is one. -/
def untilQuestion : Nat → List Output → Option (List Output)
  | _, [] => none
  | answered, piece :: rest =>
    if piece.awaits then
      match answered with
      | 0 => some [piece]
      | more + 1 => (untilQuestion more rest).map (piece :: ·)
    else (untilQuestion answered rest).map (piece :: ·)

/-- The session in which an invocation is carried out. -/
def Invocation.session (call : Invocation) (replies : List (Option String)) (w : Workspace) :
    Session where
  workspace := w
  consent := call.options.consent replies

/-- Carries out an invocation. -/
def Invocation.run (call : Invocation) (replies : List (Option String)) (db : Database)
    (w : Workspace) : Transcript :=
  let (result, last) := (perform call db).runIn (call.session replies w)
  { status := result.map (·.number)
    output := last.events.filterMap (printed call.loudness)
    workspace := last.workspace }

/-! ## Calls that lead to no work -/

def versionLine : String :=
  "crudgen v1.0.0"

/-- The line about an option in the help text. -/
def helpLine (flag : Flag) : String :=
  "  " ++ Text.padRight 24 (Text.join ", " flag.names ++ flag.valueWord) ++ flag.description

def helpText : String :=
  Text.join "\n"
    (["usage: crudgen [options] TABLE", "",
      "Generate a CRUD controller, model, views and route for an existing database table.", "",
      "options:"] ++ Flag.all.map helpLine) ++ "\n"

/-- The answer to a command line that leads to no work. -/
def Ending.answer : Ending → Nat × Stream × String
  | .help => (0, .output, helpText)
  | .version => (0, .output, versionLine ++ "\n")
  | .misuse fault => (2, .errors, "crudgen: error: " ++ fault.message ++ "\n")

/-- Answers a command line. -/
def run (arguments : List String) (replies : List (Option String)) (db : Database)
    (w : Workspace) : Transcript :=
  match Invocation.parse arguments with
  | .ok call => call.run replies db w
  | .error ending =>
    let (code, stream, text) := ending.answer
    { status := .ok code, output := [{ stream := stream, text := text }], workspace := w }

end Scaffold.CommandLine
