import Scaffold.CommandLine.Word

/-!
Invocations: what a command line asks for. The words are taken in order, the last value of an
option counts, and the first word that is neither an option nor its value is the table. Two hyphens
end the options. Help and version are answered as soon as they are met.
-/
namespace Scaffold.CommandLine

/-- What is asked for about the work itself. -/
structure Options where
  route : Option String := none
  className : Option String := none
  language : Option String := none
  config : Option String := none
  databaseUrl : Option String := none
  projectRoot : Option String := none
  stubPath : Option String := none
  force : Bool := false
  noOverwrite : Bool := false
  deriving DecidableEq, Repr

/-- How much is said about the work. -/
structure Loudness where
  verbosity : Nat := 0
  quiet : Bool := false
  deriving DecidableEq, Repr

structure Invocation where
  table : String
  options : Options
  loudness : Loudness
  deriving DecidableEq, Repr

/-- Why a command line leads to no work. -/
inductive Ending where
  | help
  | version
  | misuse (fault : Misuse)
  deriving DecidableEq, Repr

/-- An option with its value. -/
def Options.set (options : Options) (value : String) : Parameter → Options
  | .route => { options with route := some value }
  | .className => { options with className := some value }
  | .language => { options with language := some value }
  | .config => { options with config := some value }
  | .databaseUrl => { options with databaseUrl := some value }
  | .projectRoot => { options with projectRoot := some value }
  | .stubPath => { options with stubPath := some value }

/-- What is known of an invocation after some of its words: the words that had no use so far, and
whether the last word was the table. -/
structure Draft where
  table : Option String := none
  options : Options := {}
  loudness : Loudness := {}
  spare : List String := []
  atTable : Bool := false
  deriving DecidableEq, Repr

namespace Draft

/-- A word that is no option: the table, if that is still open. -/
def plain (draft : Draft) (text : String) : Draft :=
  match draft.table with
  | none => { draft with table := some text, atTable := true }
  | some _ => { draft with spare := draft.spare ++ [text], atTable := false }

/-- Words that have no use. -/
def leave (draft : Draft) (words : List String) : Draft :=
  { draft with spare := draft.spare ++ words, atTable := false }

def set (draft : Draft) (p : Parameter) (value : String) : Draft :=
  { draft with options := draft.options.set value p, atTable := false }

/-- Turns a switch on. -/
def turn (draft : Draft) : Switch → Except Ending Draft
  | .help => .error .help
  | .version => .error .version
  | .force =>
    if draft.options.noOverwrite then .error (.misuse (.conflict .force .noOverwrite))
    else .ok { draft with options := { draft.options with force := true } }
  | .noOverwrite =>
    if draft.options.force then .error (.misuse (.conflict .noOverwrite .force))
    else .ok { draft with options := { draft.options with noOverwrite := true } }
  | .verbose =>
    .ok { draft with
      loudness := { draft.loudness with verbosity := draft.loudness.verbosity + 1 } }
  | .quiet => .ok { draft with loudness := { draft.loudness with quiet := true } }

/-- Turns switches on in order. -/
def turnAll (draft : Draft) : List Switch → Except Ending Draft
  | [] => .ok draft
  | s :: rest =>
    match draft.turn s with
    | .ok next => next.turnAll rest
    | .error ending => .error ending

/-- Takes the words before the two hyphens. -/
def take (draft : Draft) : List Word → Except Ending Draft
  | [] => .ok draft
  | .plain text :: rest => take (draft.plain text) rest
  | .unknown text :: rest => take (draft.leave [text]) rest
  | .switch s joined :: rest =>
    match joined.switches s with
    | .error fault => .error (.misuse fault)
    | .ok (switches, left) =>
      match draft.turnAll switches with
      | .error ending => .error ending
      | .ok next => take (next.leave left) rest
  | .parameter p (some value) :: rest => take (draft.set p value) rest
  | .parameter p none :: .plain value :: rest => take (draft.set p value) rest
  | .parameter p none :: _ => .error (.misuse (.valueMissing p))

/-- Takes the two hyphens and the words behind them. Next to the table the hyphens themselves go
unseen. -/
def close (draft : Draft) : List String → Draft
  | [] => draft
  | hyphens :: rest =>
    match draft.table, rest with
    | none, table :: more => { draft.leave more with table := some table }
    | _, _ => draft.leave (if draft.atTable then rest else hyphens :: rest)

/-- The invocation, if there is a table and no word without use. -/
def finish (draft : Draft) : Except Ending Invocation :=
  match draft.table with
  | none => .error (.misuse .tableMissing)
  | some table =>
    if draft.spare.isEmpty then .ok ⟨table, draft.options, draft.loudness⟩
    else .error (.misuse (.unrecognized draft.spare))

end Draft

/-- Reads words up to the first one that cannot be read. -/
def readWords : List String → Except Ending (List Word)
  | [] => .ok []
  | text :: rest =>
    match Word.read text, readWords rest with
    | .ok word, .ok words => .ok (word :: words)
    | .ok _, .error ending => .error ending
    | .error fault, _ => .error (.misuse fault)

/-- The invocation that a command line stands for. -/
def Invocation.parse (arguments : List String) : Except Ending Invocation := do
  let (front, back) := arguments.span (· != "--")
  let words ← readWords front
  let draft ← ({} : Draft).take words
  (draft.close back).finish

end Scaffold.CommandLine
