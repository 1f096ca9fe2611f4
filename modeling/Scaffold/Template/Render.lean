import Scaffold.Template.Body
import Scaffold.Template.Placeholder

/-!
Filling in text for tokens. A body is read once from left to right; where bound tokens begin, the
longest of them is replaced, and reading goes on behind it. The text that takes the place of a token
is never read again. Any text can be a token; the empty one never occurs.
-/
namespace Scaffold.Template

/-- Tokens with the texts that take their place. No token comes twice. -/
abbrev Bindings := List (String × String)

/-- Holes with the texts that fill them. -/
abbrev Filling := List (Hole × String)

/-- The bindings that fill holes as they are written in templates. -/
def Filling.bindings (filling : Filling) : Bindings :=
  filling.map fun (hole, text) => (hole.token, text)

/-- A token and the text that takes its place, character by character. -/
abbrev Substitution := List Char × List Char

/-- The longer token of two, the first one when they are equally long. -/
def longer (found : Option Substitution) (next : Substitution) : Option Substitution :=
  match found with
  | none => some next
  | some known => if known.1.length < next.1.length then some next else some known

/-- The longest token at the start of a text. -/
def longestAt? (bound : List Substitution) (cs : List Char) : Option Substitution :=
  (bound.filter fun b => !b.1.isEmpty && b.1.isPrefixOf cs).foldl longer none

/-- Replaces the tokens of a text after leaving out some characters of it. -/
def renderAfter (bound : List Substitution) : Nat → List Char → List Char
  | _, [] => []
  | skip + 1, _ :: rest => renderAfter bound skip rest
  | 0, c :: rest =>
    match longestAt? bound (c :: rest) with
    | some (found, text) => text ++ renderAfter bound (found.length - 1) rest
    | none => c :: renderAfter bound 0 rest

/-- Bindings as substitutions of characters. -/
def Bindings.substitutions (bindings : Bindings) : List Substitution :=
  bindings.map fun (name, text) => (name.toList, text.toList)

/-- The text of a body with every bound token replaced. -/
def render (body : String) (bindings : Bindings) : String :=
  String.ofList (renderAfter bindings.substitutions 0 body.toList)

/-- Whether a token is bound. -/
def Bindings.binds (bindings : Bindings) (name : String) : Bool :=
  bindings.any (·.1 == name)

/-- The placeholders of a body that no binding fills. -/
def unbound (body : String) (bindings : Bindings) : List String :=
  (placeholders body).filter fun name => !bindings.binds name

end Scaffold.Template
