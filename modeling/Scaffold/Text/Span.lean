/-!
Sets of code points given by runs. A property of characters is one list of runs, and a change of
case is a list of runs that all move by the same distance.
-/
namespace Scaffold.Text

/-- The code points `first`, `first + stride`, … up to `last`. -/
structure Span where
  first : Nat
  last : Nat
  stride : Nat

/-- A code point lies in a run when the strides from its first member reach it. -/
def Span.contains (span : Span) (code : Nat) : Bool :=
  span.first ≤ code && code ≤ span.last && (code - span.first) % span.stride == 0

/-- A character has a property when one of the property's runs holds its code point. -/
def inSpans (spans : List Span) (c : Char) : Bool :=
  spans.any (·.contains c.toNat)

/-- A run of letters that all change by the same distance. -/
structure CaseSpan where
  first : Nat
  last : Nat
  stride : Nat
  shift : Int

/-- The letters that a shift applies to. -/
def CaseSpan.span (run : CaseSpan) : Span :=
  ⟨run.first, run.last, run.stride⟩

/-- Moves a letter by the first run that holds it and leaves every other character alone. -/
def shifted (runs : List CaseSpan) (c : Char) : Char :=
  match runs.find? (·.span.contains c.toNat) with
  | some run => Char.ofNat (c.toNat + run.shift).toNat
  | none => c

end Scaffold.Text
