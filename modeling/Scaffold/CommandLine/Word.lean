import Scaffold.CommandLine.Misuse
import Scaffold.Text.Decimal

/-!
The words of a command line, each read by itself. A word that begins with a hyphen names an option:
by a whole name, by the beginning of exactly one long name, or by a letter that others may follow.
Negative numbers and words with a space in them name none and are taken as they stand.
-/
namespace Scaffold.CommandLine

/-- What follows the name of a switch in the same word. -/
inductive Joined where
  | nothing
  /-- Something after an equals sign. -/
  | value (text : String)
  /-- More letters. -/
  | letters (rest : List Char)
  deriving DecidableEq, Repr

inductive Word where
  | plain (text : String)
  | switch (s : Switch) (joined : Joined)
  | parameter (p : Parameter) (value : Option String)
  /-- A word that looks like an option and is none. -/
  | unknown (text : String)
  deriving DecidableEq, Repr

/-- The end of a word. A line feed may stand there. -/
def atEnd : List Char → Bool
  | [] => true
  | ['\n'] => true
  | _ => false

/-- Digits up to the end of a word. At least one. -/
def onlyDigits (cs : List Char) : Bool :=
  cs.head?.any Text.isDecimal && atEnd (cs.dropWhile Text.isDecimal)

/-- A negative number, with or without a fraction. -/
def isNegativeNumber : List Char → Bool
  | '-' :: rest =>
    onlyDigits rest ||
      match rest.dropWhile Text.isDecimal with
      | '.' :: fraction => onlyDigits fraction
      | _ => false
  | _ => false

/-- The switch that a letter stands for. -/
def Switch.ofLetter? (c : Char) : Option Switch :=
  [.help, .verbose, .quiet].find? fun s : Switch => s.names.contains (String.ofList ['-', c])

namespace Word

/-- The part of a word before its first equals sign, and the part after it. -/
def splitValue (text : String) : String × Option String :=
  match text.toList.span (· != '=') with
  | (name, _ :: value) => (String.ofList name, some (String.ofList value))
  | (name, []) => (String.ofList name, none)

/-- An option named by a word, with the value after an equals sign. -/
def ofFlag (flag : Flag) (value : Option String) : Word :=
  match flag with
  | .switch s => .switch s (value.elim .nothing .value)
  | .parameter p => .parameter p value

/-- A word that names no option. -/
def nameless (text : String) : Word :=
  if isNegativeNumber text.toList || text.contains ' ' then .plain text else .unknown text

/-- Reads a word. -/
def read (text : String) : Except Misuse Word :=
  match text.toList with
  | '-' :: second :: more =>
    let (name, value) := splitValue text
    match Flag.named.lookup name with
    | some flag => .ok (ofFlag flag value)
    | none =>
      if second == '-' then
        match Flag.named.filter fun known => name.isPrefixOf known.1 with
        | [] => .ok (nameless text)
        | [(_, flag)] => .ok (ofFlag flag value)
        | several => .error (.ambiguous text (several.map (·.1)))
      else
        match Switch.ofLetter? second with
        | some s => .ok (.switch s (.letters more))
        | none => .ok (nameless text)
  | _ => .ok (.plain text)

end Word

/-- The switches that a switch and the letters after it stand for. From the first letter that
stands for none, the rest of the word is left over. -/
def lettered (s : Switch) : List Char → Except Misuse (List Switch × List String)
  | [] => .ok ([s], [])
  | c :: rest =>
    if c == '-' then .error (.valueRefused s (String.ofList (c :: rest)))
    else
      match Switch.ofLetter? c with
      | none => .ok ([s], [String.ofList ('-' :: c :: rest)])
      | some next =>
        match rest with
        | '=' :: value => .error (.valueRefused next (String.ofList value))
        | _ =>
          match lettered next rest with
          | .ok (switches, left) => .ok (s :: switches, left)
          | .error misuse => .error misuse

/-- The switches that a word stands for, and what is left of it. -/
def Joined.switches (s : Switch) : Joined → Except Misuse (List Switch × List String)
  | .nothing => .ok ([s], [])
  | .value text => .error (.valueRefused s text)
  | .letters rest => lettered s rest

end Scaffold.CommandLine
