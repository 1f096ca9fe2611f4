import Scaffold.Text.Case

/-!
Patterns over the letters of a word. A pattern reads on from a place in the word and gives every
place it can end at, the preferred one first; a search takes the leftmost place from which it ends
anywhere. Letters are compared without regard to case.
-/
namespace Scaffold.Inflection

open Text

/-- Letters that count as the same although lower-casing keeps them apart. -/
def twins : List (Char × Char) :=
  [('i', 'ı'), ('ı', 'i'), ('s', 'ſ'), ('ſ', 's')]

/-- Whether a letter of a word is the letter `c` of a pattern, in any case. -/
def sameLetter (c x : Char) : Bool :=
  let y := lowerLetter x
  c == y || twins.contains (c, y)

inductive Pattern where
  /-- Reads nothing. -/
  | empty
  /-- One given letter. -/
  | letter (c : Char)
  /-- One of the given letters. -/
  | oneOf (cs : List Char)
  /-- Any one character but the given letters. -/
  | noneOf (cs : List Char)
  /-- Only at the start of the word. -/
  | start
  /-- Only at the end of the word, or before a line break that ends it. -/
  | finish
  /-- Only where the given letter does not stand before. -/
  | notAfter (c : Char)
  /-- One pattern and then another. -/
  | both (first second : Pattern)
  /-- One pattern or else another. -/
  | either (first second : Pattern)
  /-- As many repetitions as possible up to a bound. -/
  | upTo (bound : Nat) (item : Pattern)
  /-- Keeps the text that the pattern reads. -/
  | keep (item : Pattern)

/-- A place in a word: what has been read, nearest first, what is still to come, and the text
that was kept. -/
structure Place where
  before : List Char
  after : List Char
  kept : List Char

/-- Reads one character that `accepts`. -/
def Place.step (accepts : Char → Bool) (place : Place) : List Place :=
  match place.after with
  | [] => []
  | c :: rest =>
    if accepts c then [{ place with before := c :: place.before, after := rest }] else []

/-- Stays in place where `holds`. -/
def Place.check (holds : Bool) (place : Place) : List Place :=
  if holds then [place] else []

/-- Repeats a step as often as possible up to a bound, preferring more repetitions. -/
def repeatUpTo (step : Place → List Place) : Nat → Place → List Place
  | 0, place => [place]
  | bound + 1, place => (step place).flatMap (repeatUpTo step bound) ++ [place]

/-- The text read between two places. -/
def Place.textSince (place start : Place) : List Char :=
  (place.before.take (place.before.length - start.before.length)).reverse

/-- The places at which a pattern can end, the preferred one first. -/
def Pattern.ends : Pattern → Place → List Place
  | .empty, place => [place]
  | .letter c, place => place.step (sameLetter c)
  | .oneOf cs, place => place.step (fun x => cs.any (sameLetter · x))
  | .noneOf cs, place => place.step (fun x => !cs.any (sameLetter · x))
  | .start, place => place.check place.before.isEmpty
  | .finish, place => place.check (place.after == [] || place.after == ['\n'])
  | .notAfter c, place => place.check (!place.before.head?.any (sameLetter c))
  | .both first second, place => (first.ends place).flatMap second.ends
  | .either first second, place => first.ends place ++ second.ends place
  | .upTo bound item, place => repeatUpTo item.ends bound place
  | .keep item, place =>
    (item.ends place).map fun last => { last with kept := last.textSince place }

/-- The leftmost match after `before`: what stands before it, nearest first, and its end. -/
def Pattern.searchFrom (pattern : Pattern) (before : List Char) :
    List Char → Option (List Char × Place)
  | [] => ((pattern.ends ⟨before, [], []⟩).head?).map (before, ·)
  | c :: rest =>
    match (pattern.ends ⟨before, c :: rest, []⟩).head? with
    | some last => some (before, last)
    | none => pattern.searchFrom (c :: before) rest

/-- The letters of a text one after another. -/
def Pattern.spelled (text : String) : Pattern :=
  text.toList.foldr (fun c rest => .both (.letter c) rest) .empty

/-- One of several texts, the first that fits. -/
def Pattern.anyOf : List String → Pattern
  | [] => .oneOf []
  | [text] => .spelled text
  | text :: texts => .either (.spelled text) (.anyOf texts)

/-- Patterns one after another. -/
def Pattern.sequence (patterns : List Pattern) : Pattern :=
  patterns.foldr .both .empty

end Scaffold.Inflection
