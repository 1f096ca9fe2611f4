import Scaffold.Inflection.Pattern
import Scaffold.Text.Identifier

/-!
Rule sets that turn singular words into plural ones and back. Words without a plural and words
that are already in the wanted form stay; irregular pairs come next, and then the first rule whose
pattern is found. In a compound name only the part after the last separator changes.
-/
namespace Scaffold.Inflection

open Text

/-- A part of the text that takes the place of a match. -/
inductive Part where
  | text (s : String)
  | kept

/-- A pattern and the text that takes the place of its first match. -/
structure Rule where
  pattern : Pattern
  replacement : List Part

/-- The text that takes the place of a match. -/
def Rule.fill (rule : Rule) (kept : List Char) : List Char :=
  rule.replacement.flatMap fun
    | .text s => s.toList
    | .kept => kept

/-- Replaces the leftmost match, if there is one. -/
def Rule.inflect? (rule : Rule) (word : List Char) : Option (List Char) :=
  (rule.pattern.searchFrom [] word).map fun (before, last) =>
    before.reverse ++ rule.fill last.kept ++ last.after

/-- The inflection of one language. `irregular` holds pairs of a singular and its plural. -/
structure RuleSet where
  language : String
  plural : List Rule
  singular : List Rule
  irregular : List (String × String) := []
  uninflected : List String := []

/-- The irregular plural of a lower-cased word. Of two pairs with the same singular the later
one counts. -/
def RuleSet.pluralOf? (rules : RuleSet) (word : List Char) : Option (List Char) :=
  (rules.irregular.reverse.find? fun pair => lowerChars pair.1.toList == word).map (·.2.toList)

/-- The irregular singular of a lower-cased word. Of two pairs with the same plural the later one
counts. -/
def RuleSet.singularOf? (rules : RuleSet) (word : List Char) : Option (List Char) :=
  (rules.irregular.reverse.find? fun pair => lowerChars pair.2.toList == word).map (·.1.toList)

/-- Whether a lower-cased word has one form only. -/
def RuleSet.isUninflected (rules : RuleSet) (word : List Char) : Bool :=
  rules.uninflected.any fun form => form.toList == word

/-- The part of a name up to its last separator and the part after it. A line break at the end is
left out when the name has two parts; a name without two parts is taken whole. -/
def lastSegment (name : List Char) : List Char × List Char :=
  let body := if name.getLast? == some '\n' then name.dropLast else name
  let segment := (body.reverse.takeWhile fun c => !Identifier.isSeparator c).reverse
  let lead := body.take (body.length - segment.length)
  if lead.isEmpty || segment.isEmpty then ([], name) else (lead, segment)

/-- What the first rule that finds its pattern makes of a word. -/
def changeOf (regular : List Rule) (segment : List Char) : Option (List Char) :=
  regular.findSome? (·.inflect? segment)

/-- Inflects the last segment of a name: `known` gives the irregular forms, the words of `already`
are in the wanted form, and `change` is the way of changing all others. -/
def RuleSet.inflectBy (rules : RuleSet) (known already change : List Char → Option (List Char))
    (name : List Char) : List Char :=
  if name.isEmpty then name
  else
    let (lead, segment) := lastSegment name
    let key := lowerChars segment
    if rules.isUninflected key || (already key).isSome then name
    else
      match known key with
      | some form => lead ++ (if segment.head?.any isUpper then upperFirstChars form else form)
      | none =>
        match change segment with
        | some form => lead ++ form
        | none => name

/-- Inflects the last segment of a name, in general by rules. -/
def RuleSet.inflect (rules : RuleSet) (known already : List Char → Option (List Char))
    (regular : List Rule) (name : List Char) : List Char :=
  rules.inflectBy known already (changeOf regular) name

/-- The plural of a name. -/
def RuleSet.pluralize (rules : RuleSet) (name : String) : String :=
  String.ofList (rules.inflect rules.pluralOf? rules.singularOf? rules.plural name.toList)

/-- The singular of a name. -/
def RuleSet.singularize (rules : RuleSet) (name : String) : String :=
  String.ofList (rules.inflect rules.singularOf? rules.pluralOf? rules.singular name.toList)

end Scaffold.Inflection
