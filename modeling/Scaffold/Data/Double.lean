/-!
Binary floating-point numbers as exact fractions. A finite number is a mantissa of at most 53 bits
times a power of two; reading a fraction takes the nearest number, the even mantissa on a tie.
Printing gives the fewest decimal digits that read back, or a fixed number of places.
-/
namespace Scaffold.Data

inductive Double where
  /-- The number `mantissa * 2 ^ exponent`, with its sign. -/
  | finite (negative : Bool) (mantissa : Nat) (exponent : Int)
  | infinite (negative : Bool)
  | notANumber
  deriving DecidableEq, Repr, Inhabited

/-- The quotient rounded to the nearest whole number, to the even one on a tie. -/
def roundDiv (num den : Nat) : Nat :=
  let quotient := num / den
  let rest := 2 * (num % den)
  if rest < den then quotient
  else if den < rest then quotient + 1
  else if quotient % 2 == 0 then quotient
  else quotient + 1

/-- The fraction `num / den` divided by `2 ^ exponent`, as a fraction. -/
def scaled (num den : Nat) (exponent : Int) : Nat × Nat :=
  if exponent < 0 then (num * Nat.pow 2 exponent.natAbs, den)
  else (num, den * Nat.pow 2 exponent.natAbs)

namespace Double

/-- The lowest power of two that a mantissa is counted in. -/
def lowestExponent : Int :=
  -1074

/-- The highest power of two that a mantissa is counted in. -/
def highestExponent : Int :=
  971

def zero : Double :=
  .finite false 0 lowestExponent

/-- The number nearest to `num / den`. -/
def ofRatio (negative : Bool) (num den : Nat) : Double :=
  if num == 0 then .finite negative 0 lowestExponent
  else
    let guess : Int := (num.log2 : Int) - (den.log2 : Int) - 53
    let low := if guess < lowestExponent then lowestExponent else guess
    let parts := scaled num den low
    let exponent := if parts.1 / parts.2 < Nat.pow 2 53 then low else low + 1
    let exact := scaled num den exponent
    let mantissa := roundDiv exact.1 exact.2
    let carried :=
      if mantissa == Nat.pow 2 53 then (Nat.pow 2 52, exponent + 1) else (mantissa, exponent)
    if highestExponent < carried.2 then .infinite negative
    else .finite negative carried.1 carried.2

/-- The number nearest to `digits * 10 ^ exponent`. Exponents far outside the range of the format
are cut short before the power is taken. -/
def ofDecimal (negative : Bool) (digits : Nat) (exponent : Int) : Double :=
  let size : Int := (Nat.toDigits 10 digits).length
  if digits == 0 || exponent + size < -400 then .finite negative 0 lowestExponent
  else if 400 < exponent + size then .infinite negative
  else if exponent < 0 then ofRatio negative digits (Nat.pow 10 exponent.natAbs)
  else ofRatio negative (digits * Nat.pow 10 exponent.natAbs) 1

/-- The size of a finite number as a fraction. -/
def ratio (mantissa : Nat) (exponent : Int) : Nat × Nat :=
  if exponent < 0 then (mantissa, Nat.pow 2 exponent.natAbs)
  else (mantissa * Nat.pow 2 exponent.natAbs, 1)

/-- The whole number that a number is equal to. -/
def toInt? : Double → Option Int
  | .finite negative mantissa exponent =>
    let (num, den) := ratio mantissa exponent
    if num % den == 0 then
      some (if negative then -((num / den : Nat) : Int) else ((num / den : Nat) : Int))
    else none
  | _ => none

/-- How many zeros follow the point before the first digit of a fraction below one, plus one. -/
def leadingPlaces (num den : Nat) : Nat → Nat
  | 0 => 0
  | fuel + 1 => if den ≤ num then 0 else leadingPlaces (num * 10) den fuel + 1

/-- The power of ten just above a positive fraction: its point stands after so many digits. -/
def pointPlace (num den : Nat) : Int :=
  if den ≤ num then (Nat.toDigits 10 (num / den)).length
  else 1 - (leadingPlaces num den 400 : Int)

/-- Of the two neighbours of a fraction on the grid of `10 ^ unit`, those that read back as
`target`, the nearer one first. -/
def neighbours (num den : Nat) (unit : Int) (target : Double) : List Nat :=
  let (n, d) :=
    if unit < 0 then (num * Nat.pow 10 unit.natAbs, den) else (num, den * Nat.pow 10 unit.natAbs)
  let below := n / d
  let nearest := roundDiv n d
  let other := if nearest == below then below + 1 else below
  [nearest, other].filter fun digits => ofDecimal false digits unit == target

/-- The fewest digits that read back as a number, with the power of ten of their last place. -/
def shortestDigits (num den : Nat) (place : Int) (target : Double) : Nat → Nat → Nat × Int
  | _, 0 => (0, 0)
  | count, fuel + 1 =>
    let unit := place - (count : Int)
    match neighbours num den unit target with
    | digits :: _ => (digits, unit)
    | [] => shortestDigits num den place target (count + 1) fuel

/-- Writes digits in positional notation, with the point after `place` of them. -/
def positional (digits : List Char) (place : Int) : List Char :=
  if place ≤ 0 then '0' :: '.' :: List.replicate place.natAbs '0' ++ digits
  else
    let whole := digits.take place.toNat
    let rest := digits.drop place.toNat
    whole ++ List.replicate (place.toNat - digits.length) '0' ++
      ('.' :: if rest.isEmpty then ['0'] else rest)

/-- Writes digits with one digit before the point and a power of ten of at least two digits. -/
def exponential (digits : List Char) (place : Int) : List Char :=
  let power := place - 1
  let written := Nat.toDigits 10 power.natAbs
  let wide := if written.length < 2 then '0' :: written else written
  let head := digits.take 1
  let rest := digits.drop 1
  (if rest.isEmpty then head else head ++ '.' :: rest) ++
    'e' :: (if power < 0 then '-' else '+') :: wide

/-- The text of a number: the fewest digits that read back, positional from `1e-4` up to below
`1e16` and with an exponent elsewhere. -/
def text : Double → String
  | .notANumber => "nan"
  | .infinite negative => if negative then "-inf" else "inf"
  | .finite negative mantissa exponent =>
    let sign := if negative then ['-'] else []
    if mantissa == 0 then String.ofList (sign ++ "0.0".toList)
    else
      let (num, den) := ratio mantissa exponent
      let place := pointPlace num den
      let (value, unit) := shortestDigits num den place (.finite false mantissa exponent) 1 17
      let written := Nat.toDigits 10 value
      let digits := (written.reverse.dropWhile (· == '0')).reverse
      let point := unit + (written.length : Int)
      String.ofList (sign ++
        if -3 ≤ point && point ≤ 16 then positional digits point else exponential digits point)

/-- The text of a number with three places, the exact value rounded to the nearest. -/
def fixed3 : Double → String
  | .notANumber => "nan"
  | .infinite negative => if negative then "-inf" else "inf"
  | .finite negative mantissa exponent =>
    let (num, den) := ratio mantissa exponent
    let thousandths := roundDiv (num * 1000) den
    let places := Nat.toDigits 10 (thousandths % 1000)
    String.ofList ((if negative then ['-'] else []) ++ Nat.toDigits 10 (thousandths / 1000) ++
      '.' :: List.replicate (3 - places.length) '0' ++ places)

end Double

end Scaffold.Data
