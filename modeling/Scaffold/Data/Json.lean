import Scaffold.Data.Value
import Scaffold.Text.Word

/-!
Reading JSON. A text holds one value with white space around it. The words for infinity and for no
number are read too; a key that comes again keeps its first place and gets its last value.
-/
namespace Scaffold.Data.Json

open Text

/-- The white space between values. -/
def isSpace (c : Char) : Bool :=
  c == ' ' || c == '\t' || c == '\n' || c == '\r'

/-- The value of a hexadecimal digit. -/
def hexValue? (c : Char) : Option Nat :=
  if isDigit c then some (c.toNat - '0'.toNat)
  else if 'a' ≤ c && c ≤ 'f' then some (c.toNat - 'a'.toNat + 10)
  else if 'A' ≤ c && c ≤ 'F' then some (c.toNat - 'A'.toNat + 10)
  else none

/-- The number that some hexadecimal digits write. -/
def hexNumber? (digits : List Char) : Option Nat :=
  digits.foldlM (fun n c => (hexValue? c).map (n * 16 + ·)) 0

/-- Four hexadecimal digits and what follows them. -/
def codeUnit? : List Char → Option (Nat × List Char)
  | a :: b :: c :: d :: rest => (hexNumber? [a, b, c, d]).map (·, rest)
  | _ => none

/-- The character of a code unit, or of a pair of code units when the first one needs another. -/
def escapedChar? (rest : List Char) : Option (Char × List Char) :=
  match codeUnit? rest with
  | none => none
  | some (unit, after) =>
    if 0xD800 ≤ unit && unit < 0xDC00 then
      match after with
      | '\\' :: 'u' :: more =>
        match codeUnit? more with
        | some (low, last) =>
          if 0xDC00 ≤ low && low < 0xE000 then
            some (Char.ofNat (0x10000 + (unit - 0xD800) * 0x400 + (low - 0xDC00)), last)
          else some (Char.ofNat 0xFFFD, after)
        | none => none
      | _ => some (Char.ofNat 0xFFFD, after)
    else if 0xDC00 ≤ unit && unit < 0xE000 then some (Char.ofNat 0xFFFD, after)
    else some (Char.ofNat unit, after)

/-- The characters that a backslash and one letter stand for. -/
def shortEscapes : List (Char × Char) :=
  [('"', '"'), ('\\', '\\'), ('/', '/'), ('b', '\x08'), ('f', '\x0c'), ('n', '\n'), ('r', '\r'),
   ('t', '\t')]

/-- The rest of a text up to its closing quote, last character first in `read`. -/
def readText (read : List Char) : Nat → List Char → Option (String × List Char)
  | 0, _ => none
  | fuel + 1, cs =>
    match cs with
    | '"' :: rest => some (String.ofList read.reverse, rest)
    | '\\' :: 'u' :: rest =>
      match escapedChar? rest with
      | some (c, after) => readText (c :: read) fuel after
      | none => none
    | '\\' :: e :: rest =>
      match shortEscapes.lookup e with
      | some c => readText (c :: read) fuel rest
      | none => none
    | c :: rest => if c.toNat < 0x20 || c == '\\' then none else readText (c :: read) fuel rest
    | [] => none

/-- The number that decimal digits write. -/
def decimal (digits : List Char) : Nat :=
  digits.foldl (fun n c => n * 10 + (c.toNat - '0'.toNat)) 0

/-- The digits after a point, if a point with digits is next. -/
def fraction (cs : List Char) : List Char × List Char :=
  match cs with
  | '.' :: rest =>
    let digits := rest.takeWhile isDigit
    if digits.isEmpty then ([], cs) else (digits, rest.dropWhile isDigit)
  | _ => ([], cs)

/-- The power of ten after an `e`, if one with digits is next. -/
def power? (cs : List Char) : Option (Int × List Char) :=
  match cs with
  | e :: rest =>
    if e == 'e' || e == 'E' then
      let (negative, unsigned) := match rest with
        | '-' :: more => (true, more)
        | '+' :: more => (false, more)
        | _ => (false, rest)
      let digits := unsigned.takeWhile isDigit
      if digits.isEmpty then none
      else
        let size : Int := decimal digits
        some (if negative then -size else size, unsigned.dropWhile isDigit)
    else none
  | [] => none

/-- A number without its sign. With a point or a power of ten it is a floating-point number. -/
def readNumber (negative : Bool) (cs : List Char) : Option (Value × List Char) :=
  let digits := cs.takeWhile isDigit
  let whole := match digits with
    | '0' :: _ => ['0']
    | _ => digits
  if whole.isEmpty then none
  else
    let (places, after) := fraction (cs.drop whole.length)
    let size := decimal (whole ++ places)
    match power? after with
    | some (power, rest) =>
      some (.float (.ofDecimal negative size (power - (places.length : Int))), rest)
    | none =>
      if places.isEmpty then some (.int (if negative then -(size : Int) else size), after)
      else some (.float (.ofDecimal negative size (-(places.length : Int))), after)

/-- The words that are values. -/
def wordValues : List (List Char × Value) :=
  [("null".toList, .null), ("true".toList, .bool true), ("false".toList, .bool false),
   ("NaN".toList, .float .notANumber), ("Infinity".toList, .float (.infinite false)),
   ("-Infinity".toList, .float (.infinite true))]

/-- A word, or a number. -/
def readWord (cs : List Char) : Option (Value × List Char) :=
  match wordValues.find? fun (word, _) => word.isPrefixOf cs with
  | some (word, value) => some (value, cs.drop word.length)
  | none =>
    match cs with
    | '-' :: rest => readNumber true rest
    | _ => readNumber false cs

mutual

/-- A value at the start of a text. -/
def readValue : Nat → List Char → Option (Value × List Char)
  | 0, _ => none
  | fuel + 1, cs =>
    match cs with
    | '"' :: rest => (readText [] fuel rest).map fun (s, after) => (.text s, after)
    | '[' :: rest =>
      match rest.dropWhile isSpace with
      | ']' :: after => some (.list [], after)
      | items => readItems [] fuel items
    | '\x7b' :: rest =>
      match rest.dropWhile isSpace with
      | '\x7d' :: after => some (.map [], after)
      | entries => readEntries [] fuel entries
    | _ => readWord cs

/-- The items of a list from one of them on. -/
def readItems (read : List Value) : Nat → List Char → Option (Value × List Char)
  | 0, _ => none
  | fuel + 1, cs =>
    match readValue fuel cs with
    | none => none
    | some (value, after) =>
      match after.dropWhile isSpace with
      | ',' :: rest => readItems (value :: read) fuel (rest.dropWhile isSpace)
      | ']' :: rest => some (.list (value :: read).reverse, rest)
      | _ => none

/-- The entries of a map from one of them on. -/
def readEntries (read : Entries) : Nat → List Char → Option (Value × List Char)
  | 0, _ => none
  | fuel + 1, cs =>
    match cs with
    | '"' :: rest =>
      match readText [] fuel rest with
      | none => none
      | some (key, afterKey) =>
        match afterKey.dropWhile isSpace with
        | ':' :: more =>
          match readValue fuel (more.dropWhile isSpace) with
          | none => none
          | some (value, after) =>
            match after.dropWhile isSpace with
            | ',' :: next => readEntries (read.put key value) fuel (next.dropWhile isSpace)
            | '\x7d' :: next => some (.map (read.put key value), next)
            | _ => none
        | _ => none
    | _ => none

end

/-- The value that a text holds. -/
def read? (s : String) : Option Value :=
  let cs := s.toList
  match readValue (2 * cs.length + 2) (cs.dropWhile isSpace) with
  | some (value, rest) => if (rest.dropWhile isSpace).isEmpty then some value else none
  | none => none

end Scaffold.Data.Json
