import Scaffold.Text.Blank
import Scaffold.Text.Case
import Scaffold.Text.Pieces
import Scaffold.Text.Word

/-!
The spellings of a name. `snake` finds the word boundaries of a name in any spelling and joins its
lower-cased words with single underscores; `kebab` and `title` are read off it, and `studly` joins
words with their first letters upper-cased.
-/
namespace Scaffold.Identifier

open Text

/-- Puts an underscore before the last capital of a run of capitals that a small letter follows,
so that `HTTPServer` parts into `HTTP` and `Server`. -/
def splitAcronyms : List Char → List Char
  | x :: y :: z :: rest =>
    if isCapital x && isCapital y && isSmall z then x :: '_' :: splitAcronyms (y :: z :: rest)
    else x :: splitAcronyms (y :: z :: rest)
  | cs => cs

/-- Puts an underscore between a small letter or digit and the capital after it. -/
def splitHumps : List Char → List Char
  | x :: y :: rest =>
    if (isSmall x || isDigit x) && isCapital y then x :: '_' :: splitHumps (y :: rest)
    else x :: splitHumps (y :: rest)
  | cs => cs

/-- The words of a name with single underscores between them, in the case they came in. -/
def underscored (cs : List Char) : List Char :=
  let parted := splitHumps (splitAcronyms cs)
  let joined := collapse (fun c => !isWord c) '_' parted
  stripBy (· == '_') (collapse (· == '_') '_' joined)

/-- The lower-cased words of a name with single underscores between them. -/
def snakeChars (cs : List Char) : List Char :=
  lowerChars (underscored cs)

/-- Writes a name as `blog_post`. -/
def snake (name : String) : String :=
  String.ofList (snakeChars name.toList)

/-- The characters at which `studly` parts a name. -/
def isSeparator (c : Char) : Bool :=
  isBlank c || c == '_' || c == '-'

/-- Writes a name as `BlogPost`. Only the first letter of each part changes. -/
def studly (name : String) : String :=
  String.ofList ((words isSeparator name.toList).flatMap upperFirstChars)

/-- Writes a name as `blog-post`. -/
def kebab (name : String) : String :=
  String.ofList ((snakeChars name.toList).map fun c => if c == '_' then '-' else c)

/-- Writes a name as `Blog Post`. -/
def title (name : String) : String :=
  String.ofList
    (List.intercalate [' '] ((words (· == '_') (snakeChars name.toList)).map capitalizeChars))

end Scaffold.Identifier
