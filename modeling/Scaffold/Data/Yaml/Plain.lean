import Scaffold.Data.Json
import Scaffold.Data.Value
import Scaffold.Text.Pieces

/-!
What plain scalars mean: null, a truth value, a number, a day or a moment, or else the text itself.
Whole numbers are written to base two, eight, ten or sixteen, or in parts of sixty; underscores
between digits say nothing.
-/
namespace Scaffold.Data.Yaml

open Text

/-- The sorts of scalars. -/
inductive ScalarSort where
  | text
  | null
  | bool
  | int
  | float
  | time
  /-- The key whose value is merged into its map. -/
  | merge
  /-- The key of a map's own value. -/
  | default
  deriving DecidableEq, Repr

/-- The text behind a sign, and whether the sign is a minus. -/
def unsigned (cs : List Char) : Bool × List Char :=
  match cs with
  | '-' :: rest => (true, rest)
  | '+' :: rest => (false, rest)
  | _ => (false, cs)

def isBinary (c : Char) : Bool :=
  c == '0' || c == '1' || c == '_'

def isOctal (c : Char) : Bool :=
  ('0' ≤ c && c ≤ '7') || c == '_'

def isDecimal (c : Char) : Bool :=
  isDigit c || c == '_'

def isHex (c : Char) : Bool :=
  (Json.hexValue? c).isSome || c == '_'

/-- Whether a text is not empty and has only characters of one kind. -/
def allOf (accept : Char → Bool) (cs : List Char) : Bool :=
  !cs.isEmpty && cs.all accept

/-- The pieces of a text between colons. -/
def sixties (cs : List Char) : List (List Char) :=
  split (· == ':') cs

/-- A part of a number in sixties, behind the first one. -/
def isSixty : List Char → Bool
  | [d] => isDigit d
  | [d, e] => '0' ≤ d && d ≤ '5' && isDigit e
  | _ => false

/-- Whether a text begins with a digit and goes on with digits and underscores. -/
def isCount (cs : List Char) : Bool :=
  match cs with
  | d :: rest => isDigit d && rest.all isDecimal
  | [] => false

/-- A text that writes a whole number. -/
def isInt (cs : List Char) : Bool :=
  let (_, number) := unsigned cs
  match number with
  | '0' :: 'b' :: digits => allOf isBinary digits
  | '0' :: 'x' :: digits => allOf isHex digits
  | ['0'] => true
  | '0' :: digits => allOf isOctal digits
  | _ =>
    match sixties number with
    | first :: rest => isCount first && rest.all isSixty
    | [] => false

/-- A power of ten with its sign, or nothing. -/
def isSignedPower (cs : List Char) : Bool :=
  match cs with
  | [] => true
  | e :: sign :: digits =>
    (e == 'e' || e == 'E') && (sign == '-' || sign == '+') && allOf isDigit digits
  | _ => false

/-- The words for infinity behind their point. -/
def infinityWords : List (List Char) :=
  ["inf".toList, "Inf".toList, "INF".toList]

/-- The words for no number, with their point. -/
def nanWords : List (List Char) :=
  [".nan".toList, ".NaN".toList, ".NAN".toList]

/-- A text that writes a floating-point number. It has a point. -/
def isFloat (cs : List Char) : Bool :=
  let (_, number) := unsigned cs
  let whole := number.takeWhile (· != '.')
  match number.dropWhile (· != '.') with
  | [] => false
  | _ :: places =>
    let power := places.dropWhile isDecimal
    if whole.isEmpty then
      nanWords.contains cs || infinityWords.contains places ||
        (number == cs && (places.head?).any isDigit && isSignedPower power)
    else if isCount whole then isSignedPower power
    else
      match sixties whole with
      | first :: second :: rest =>
        isCount first && (second :: rest).all isSixty && power.isEmpty
      | _ => false

/-- The words for null. -/
def nullWords : List String :=
  ["", "~", "null", "Null", "NULL"]

/-- The words for truth values. -/
def truthWords : List (String × Bool) :=
  [("yes", true), ("Yes", true), ("YES", true), ("no", false), ("No", false), ("NO", false),
   ("true", true), ("True", true), ("TRUE", true), ("false", false), ("False", false),
   ("FALSE", false), ("on", true), ("On", true), ("ON", true), ("off", false), ("Off", false),
   ("OFF", false)]

/-! ## Days and moments -/

/-- The parts of a day or a moment as they are written. -/
structure TimeParts where
  year : Nat
  month : Nat
  day : Nat
  clock : Option (Nat × Nat × Nat) := none
  /-- Digits of a second. -/
  places : List Char := []
  /-- The distance from the standard time, with its sign. -/
  zone : Option (Bool × Nat × Nat) := none

/-- Between `least` and `most` digits, and what follows them. -/
def digits? (least most : Nat) (cs : List Char) : Option (List Char × List Char) :=
  let run := (cs.take most).takeWhile isDigit
  if run.length < least then none else some (run, cs.drop run.length)

/-- A character that is expected next. -/
def expect? (c : Char) : List Char → Option (List Char)
  | d :: rest => if c == d then some rest else none
  | [] => none

/-- The distance from the standard time at the end of a moment. -/
def zone? (cs : List Char) : Option (Option (Bool × Nat × Nat)) :=
  match cs.dropWhile fun c => c == ' ' || c == '\t' with
  | [] => if cs.isEmpty then some none else none
  | ['Z'] => some (some (false, 0, 0))
  | sign :: rest =>
    if sign == '-' || sign == '+' then do
      let (hours, after) ← digits? 1 2 rest
      match after with
      | [] => return some (sign == '-', Json.decimal hours, 0)
      | _ =>
        let (minutes, last) ← digits? 2 2 (← expect? ':' after)
        if last.isEmpty then return some (sign == '-', Json.decimal hours, Json.decimal minutes)
        else none
    else none

/-- The clock time at the end of a moment. -/
def clock? (parts : TimeParts) (cs : List Char) : Option TimeParts := do
  let (hours, rest) ← digits? 1 2 cs
  let (minutes, rest) ← digits? 2 2 (← expect? ':' rest)
  let (seconds, rest) ← digits? 2 2 (← expect? ':' rest)
  let (places, rest) := match rest with
    | '.' :: more => (more.takeWhile isDigit, more.dropWhile isDigit)
    | _ => ([], rest)
  let zone ← zone? rest
  return { parts with
    clock := some (Json.decimal hours, Json.decimal minutes, Json.decimal seconds)
    places := places
    zone := zone }

/-- The day or moment that a text writes. A day alone has two digits for the month and the day; a
moment may have one. -/
def time? (cs : List Char) : Option TimeParts := do
  let (year, rest) ← digits? 4 4 cs
  let (month, rest) ← digits? 1 2 (← expect? '-' rest)
  let (day, rest) ← digits? 1 2 (← expect? '-' rest)
  let parts : TimeParts :=
    { year := Json.decimal year, month := Json.decimal month, day := Json.decimal day }
  match rest with
  | [] => if month.length == 2 && day.length == 2 then some parts else none
  | 'T' :: more => clock? parts more
  | 't' :: more => clock? parts more
  | c :: more =>
    if c == ' ' || c == '\t' then clock? parts (more.dropWhile fun c => c == ' ' || c == '\t')
    else none

/-- How many days a month has. -/
def daysIn (year month : Nat) : Nat :=
  if month == 2 then
    if year % 4 == 0 && (year % 100 != 0 || year % 400 == 0) then 29 else 28
  else if [4, 6, 9, 11].contains month then 30
  else 31

/-- A number with at least `width` digits. -/
def wide (width n : Nat) : String :=
  let digits := Nat.toDigits 10 n
  String.ofList (List.replicate (width - digits.length) '0' ++ digits)

/-- The hours and minutes of a distance from the standard time. -/
def zoneText (zone : Bool × Nat × Nat) : String :=
  let (negative, hours, minutes) := zone
  let total := hours * 60 + minutes
  (if negative && total != 0 then "-" else "+") ++ wide 2 (total / 60) ++ ":" ++ wide 2 (total % 60)

/-- Why a distance from the standard time is none: it spans a day or more. -/
def zoneTrouble? (zone : Bool × Nat × Nat) : Option String :=
  let (negative, hours, minutes) := zone
  let seconds : Int := (hours * 60 + minutes) * 60
  let span := if negative then -seconds else seconds
  let days := span / 86400
  let rest := span % 86400
  if seconds < 86400 then none
  else
    some ("offset must be a timedelta strictly between -timedelta(hours=24) and " ++
      "timedelta(hours=24), not datetime.timedelta(days=" ++ toString days ++
      (if rest == 0 then "" else ", seconds=" ++ toString rest) ++ ").")

/-- The digits of a second as millionths, when they are not all zeros. -/
def placesText (places : List Char) : String :=
  let six := (places ++ List.replicate 6 '0').take 6
  if six.all (· == '0') then "" else "." ++ String.ofList six

/-- The day or moment of some parts, or what is wrong with them. -/
def TimeParts.value (parts : TimeParts) : Except String Value :=
  let date := wide 4 parts.year ++ "-" ++ wide 2 parts.month ++ "-" ++ wide 2 parts.day
  if let some trouble := parts.zone.bind zoneTrouble? then .error trouble
  else if parts.year == 0 then .error "year 0 is out of range"
  else if parts.month == 0 || 12 < parts.month then .error "month must be in 1..12"
  else if parts.day == 0 || daysIn parts.year parts.month < parts.day then
    .error "day is out of range for month"
  else
    match parts.clock with
    | none => .ok (.date date)
    | some (hour, minute, second) =>
      if 23 < hour then .error "hour must be in 0..23"
      else if 59 < minute then .error "minute must be in 0..59"
      else if 59 < second then .error "second must be in 0..59"
      else
        .ok (.dateTime (date ++ "T" ++ wide 2 hour ++ ":" ++ wide 2 minute ++ ":" ++
          wide 2 second ++ placesText parts.places ++ (parts.zone.elim "" zoneText)))

/-! ## Meaning -/

/-- The sort of a plain scalar. -/
def sortOf (s : String) : ScalarSort :=
  let cs := s.toList
  if nullWords.contains s then .null
  else if (truthWords.lookup s).isSome then .bool
  else if isFloat cs then .float
  else if isInt cs then .int
  else if s == "<<" then .merge
  else if s == "=" then .default
  else if (time? cs).isSome then .time
  else .text

/-- The number that digits to some base write. -/
def numberTo (base : Nat) (digits : List Char) : Nat :=
  digits.foldl (fun n c => n * base + (Json.hexValue? c).getD 0) 0

/-- Why a text that has the form of a whole number writes none: there are no digits behind the
letter of its base. -/
def intTrouble? (cs : List Char) : Option String :=
  match (unsigned (cs.filter (· != '_'))).2 with
  | ['0', 'b'] => some "invalid literal for int() with base 2: ''"
  | ['0', 'x'] => some "invalid literal for int() with base 16: ''"
  | _ => none

/-- The whole number that a text writes. -/
def intOf (cs : List Char) : Int :=
  let (negative, number) := unsigned (cs.filter (· != '_'))
  let size : Nat := match number with
    | '0' :: 'b' :: digits => numberTo 2 digits
    | '0' :: 'x' :: digits => numberTo 16 digits
    | '0' :: digits => numberTo 8 digits
    | _ => (sixties number).foldl (fun n part => n * 60 + numberTo 10 part) 0
  if negative then -(size : Int) else size

/-- The floating-point number that a text writes. -/
def floatOf (cs : List Char) : Double :=
  let (negative, number) := unsigned (cs.filter (· != '_'))
  let whole := number.takeWhile (· != '.')
  let places := (number.dropWhile (· != '.')).drop 1
  if whole.isEmpty && infinityWords.contains places then .infinite negative
  else if nanWords.contains number then .notANumber
  else
    let digits := places.takeWhile isDigit
    let power := match Json.power? (places.dropWhile isDigit) with
      | some (power, _) => power
      | none => 0
    let size := (sixties whole).foldl (fun n part => n * 60 + numberTo 10 part) 0
    .ofDecimal negative (numberTo 10 digits + size * Nat.pow 10 digits.length)
      (power - (digits.length : Int))

end Scaffold.Data.Yaml
