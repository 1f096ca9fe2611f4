import Scaffold.Failure
import Scaffold.Files.Change
import Scaffold.Generation.Report
import Scaffold.Text.Blank
import Scaffold.Text.Case

/-!
Sessions: everything that work on a project can see and change apart from its inputs. A session
has a workspace, someone who gives consent to overwriting, a trace of what was said and asked, and
the report of the run that is going on. Actions run in a session; what an action did before it
failed stays done.
-/
namespace Scaffold

open Files Generation

/-- How much a message matters. -/
inductive Level where
  | debug
  | info
  | warning
  | error
  deriving DecidableEq, Repr

/-- The number of a level. A higher one matters more. -/
def Level.number : Level → Nat
  | .debug => 10
  | .info => 20
  | .warning => 30
  | .error => 40

def Level.name : Level → String
  | .debug => "DEBUG"
  | .info => "INFO"
  | .warning => "WARNING"
  | .error => "ERROR"

/-- The part of the program that a message comes from. -/
inductive Channel where
  | program
  | generator
  | introspection
  | classifier
  | files
  | naming
  | inflection
  | templates
  | bindings
  | emitter
  | routes
  | renderer
  deriving DecidableEq, Repr

def Channel.name : Channel → String
  | .program => "crudgen"
  | .generator => "crudgen.generator"
  | .introspection => "crudgen.introspection"
  | .classifier => "crudgen.classifier"
  | .files => "crudgen.utils"
  | .naming => "crudgen.naming"
  | .inflection => "crudgen.inflector"
  | .templates => "crudgen.templates"
  | .bindings => "crudgen.bindings"
  | .emitter => "crudgen.emitter"
  | .routes => "crudgen.routes"
  | .renderer => "crudgen.renderer"

/-- What can be seen of a session from outside its workspace. -/
inductive Event where
  | message (level : Level) (channel : Channel) (text : String)
  /-- A question that was answered from a script. -/
  | asked (question : String)
  /-- A question as it was put on the console. -/
  | prompted (text : String)
  /-- The console had no more input. -/
  | inputEnded
  /-- A result was shown on the console. -/
  | shown (text : String)
  /-- A run came to a stage. -/
  | entered (stage : Stage)
  deriving DecidableEq, Repr

/-- Who says whether something may be overwritten. -/
inductive Consent where
  /-- The same answer to every question. -/
  | always (answer : Bool)
  /-- Prepared answers, and the default after the last one. -/
  | script (answers : List Bool)
  /-- Someone who types replies. A reply that is none, like no reply at all, ends the input. -/
  | console (replies : List (Option String))
  deriving DecidableEq, Repr

namespace Consent

/-- What a typed reply means: nothing is the default, and all that does not begin with an n is
yes. -/
def meaning (reply : String) (default : Bool) : Bool :=
  match Text.lowerChars (Text.stripBy Text.isBlank reply.toList) with
  | [] => default
  | c :: _ => c != 'n'

/-- A question as it is put on the console, with the choice that is the default in capitals. -/
def prompt (question : String) (default : Bool) : String :=
  question ++ (if default then " [Y/n] " else " [y/N] ")

/-- The answer to a question, who answers the next one, and what was seen. -/
def answer (consent : Consent) (question : String) (default : Bool) :
    Bool × Consent × List Event :=
  match consent with
  | .always b =>
    (b, .always b,
      [.message .debug .emitter (question ++ " → " ++ (if b then "yes" else "no") ++ " (static)")])
  | .script [] => (default, .script [], [.asked question])
  | .script (b :: rest) => (b, .script rest, [.asked question])
  | .console (some reply :: rest) =>
    (meaning reply default, .console rest, [.prompted (prompt question default)])
  | .console (none :: rest) =>
    (default, .console rest, [.prompted (prompt question default), .inputEnded])
  | .console [] => (default, .console [], [.prompted (prompt question default), .inputEnded])

end Consent

/-- A session. The trace has the last event first; the report is that of the last run, as far as
the run came. -/
structure Session where
  workspace : Workspace
  consent : Consent
  trace : List Event := []
  report : Report := {}
  deriving Repr

/-- The events of a session in order. -/
def Session.events (session : Session) : List Event :=
  session.trace.reverse

/-- Work in a session that may fail. -/
abbrev Action := ExceptT Failure (StateM Session)

namespace Action

/-- Adds to the trace. -/
def note (events : List Event) : Action Unit :=
  modify fun session => { session with trace := events.reverse ++ session.trace }

/-- Says something. -/
def say (level : Level) (channel : Channel) (text : String) : Action Unit :=
  note [.message level channel text]

/-- The workspace as it is. -/
def workspace : Action Workspace := do
  return (← get).workspace

/-- Asks for consent. -/
def confirm (question : String) (default : Bool) : Action Bool := do
  let session ← get
  let (answer, consent, events) := session.consent.answer question default
  set { session with consent := consent, trace := events.reverse ++ session.trace }
  return answer

/-- Changes the workspace. -/
def change (c : Change α) : Action α := do
  let session ← get
  let (result, w) := c.run session.workspace
  set { session with workspace := w }
  match result with
  | .ok a => return a
  | .error fault => throw (.file fault)

/-- Does something and gives its failure as a value. -/
def attempt (action : Action α) : Action (Except Failure α) :=
  tryCatch (Except.ok <$> action) fun failure => return .error failure

/-- Gives another failure for a refusal by the system. -/
def refusedAs (failure : Fault → Failure) (action : Action α) : Action α :=
  tryCatch action fun
    | .file fault => throw (if fault.isSystem then failure fault else .file fault)
    | other => throw other

/-- Does something and says how long it took, also when it fails. The clock stands still. -/
def timed (label : String) (action : Action α) : Action α := do
  let report := say .debug .files ("Timer [" ++ label ++ "]: 0.0000 seconds")
  let result ← tryCatch action fun failure => do
    report
    throw failure
  report
  return result

/-- Runs an action in a session. -/
def runIn (action : Action α) (session : Session) : Except Failure α × Session :=
  action.run session

end Action

end Scaffold
