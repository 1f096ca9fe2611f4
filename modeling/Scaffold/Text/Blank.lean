import Scaffold.Text.Span

/-!
White space in the sense of every script: the ASCII blanks and separators, the next-line control,
and the space and separator characters beyond ASCII. Stripping removes it from both ends.
-/
namespace Scaffold.Text

def blankSpans : List Span :=
  [⟨9, 13, 1⟩, ⟨28, 32, 1⟩, ⟨133, 133, 1⟩, ⟨160, 160, 1⟩, ⟨5760, 5760, 1⟩, ⟨8192, 8202, 1⟩,
   ⟨8232, 8233, 1⟩, ⟨8239, 8239, 1⟩, ⟨8287, 8287, 1⟩, ⟨12288, 12288, 1⟩]

/-- White space. -/
def isBlank (c : Char) : Bool :=
  inSpans blankSpans c

/-- Removes from both ends every character that `drop` accepts. -/
def stripBy (drop : Char → Bool) (cs : List Char) : List Char :=
  ((cs.dropWhile drop).reverse.dropWhile drop).reverse

/-- Removes white space from both ends. -/
def strip (s : String) : String :=
  String.ofList (stripBy isBlank s.toList)

end Scaffold.Text
