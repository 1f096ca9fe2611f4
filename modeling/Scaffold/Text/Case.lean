import Scaffold.Text.CaseSpans

/-!
Letter case for every script. Lower-casing is letter by letter but for two letters: a dotted
capital I keeps its dot as a mark of its own, and a capital sigma takes its final form at the end
of a word. Upper-casing and capitalising may make one letter into several.
-/
namespace Scaffold.Text

/-- The lower-case form of one letter. -/
def lowerLetter (c : Char) : Char :=
  shifted lowerShifts c

/-- A letter that counts as upper case. -/
def isUpper (c : Char) : Bool :=
  inSpans upperSpans c

/-- What a letter becomes at the start of an upper-cased text. -/
def upperForm (c : Char) : List Char :=
  match upperExpansions.lookup c.toNat with
  | some codes => codes.map Char.ofNat
  | none => [shifted upperShifts c]

/-- What a letter becomes at the start of a capitalised text. -/
def titleForm (c : Char) : List Char :=
  match titleForms.lookup c.toNat with
  | some codes => codes.map Char.ofNat
  | none => upperForm c

/-- Whether the nearest character that is not looked through has a case. -/
def nextIsCased (cs : List Char) : Bool :=
  ((cs.dropWhile (inSpans caseIgnorableSpans)).head?).any (inSpans casedSpans)

/-- The lower-case form of a character between the text before it, nearest first, and the text
after it. -/
def lowerForm (before : List Char) (c : Char) (after : List Char) : List Char :=
  if c = 'Σ' then
    if nextIsCased before && !nextIsCased after then ['ς'] else ['σ']
  else if c = 'İ' then ['i', Char.ofNat 0x307]
  else [lowerLetter c]

/-- Lower-cases a text that follows `before`, which is given nearest first. -/
def lowerAfter (before : List Char) : List Char → List Char
  | [] => []
  | c :: rest => lowerForm before c rest ++ lowerAfter (c :: before) rest

/-- Lower-cases a text. -/
def lowerChars (cs : List Char) : List Char :=
  lowerAfter [] cs

/-- Lower-cases a text. -/
def lower (s : String) : String :=
  String.ofList (lowerChars s.toList)

/-- Upper-cases the first letter and keeps the rest as it is. -/
def upperFirstChars : List Char → List Char
  | [] => []
  | c :: rest => upperForm c ++ rest

/-- Upper-cases the first letter and keeps the rest as it is. -/
def upperFirst (s : String) : String :=
  String.ofList (upperFirstChars s.toList)

/-- Capitalises the first letter and lower-cases the rest. -/
def capitalizeChars : List Char → List Char
  | [] => []
  | c :: rest => titleForm c ++ lowerAfter [c] rest

/-- Upper-cases every letter. -/
def upper (s : String) : String :=
  String.ofList (s.toList.flatMap upperForm)

end Scaffold.Text
