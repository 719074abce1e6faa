/-
Floating-point numbers as text. A number is written with the fewest decimal digits that lie in the
interval of reals which round to it, the nearest to it among those, found by exact arithmetic on its
binary significand and exponent.
-/
import ImportPlanning.Number.Integer

namespace ImportPlanning.Number

open ImportPlanning.Text

/-! ### Binary form -/

/-- What the bits of a floating-point number say. A finite one is significand times a power of
two. -/
inductive FloatForm where
  | notANumber
  | infinite (negative : Bool)
  | finite (negative : Bool) (significand : Nat) (exponent : Int)
  deriving DecidableEq, Repr

def floatForm (number : Float) : FloatForm :=
  let bits := number.toBits.toNat
  let negative := bits / Nat.pow 2 63 = 1
  let exponent : Nat := bits / Nat.pow 2 52 % 2048
  let fraction := bits % Nat.pow 2 52
  if exponent = 2047 then if fraction = 0 then .infinite negative else .notANumber
  else if exponent = 0 then .finite negative fraction (-1074)
  else .finite negative (Nat.pow 2 52 + fraction) ((exponent : Int) - 1075)

/-! ### The shortest digits -/

/-- The reals that round to a number, and the number itself, over one denominator. The ends belong
to the interval exactly when the significand is even. -/
structure RoundingInterval where
  low : Nat
  value : Nat
  high : Nat
  denominator : Nat
  closed : Bool

/-- Half a unit of the significand on both sides; below a power of two the neighbour is nearer. -/
def roundingInterval (significand : Nat) (exponent : Int) : RoundingInterval :=
  let unit := Nat.pow 2 exponent.toNat
  let nearerBelow := significand = Nat.pow 2 52 && exponent ≠ -1074
  { low := 4 * significand * unit - (if nearerBelow then unit else 2 * unit)
    value := 4 * significand * unit
    high := 4 * significand * unit + 2 * unit
    denominator := 4 * Nat.pow 2 (-exponent).toNat
    closed := significand % 2 = 0 }

def RoundingInterval.inUnits (interval : RoundingInterval) (scale : Int) : RoundingInterval :=
  let up := Nat.pow 10 (-scale).toNat
  { low := interval.low * up
    value := interval.value * up
    high := interval.high * up
    denominator := interval.denominator * Nat.pow 10 scale.toNat
    closed := interval.closed }

def RoundingInterval.holds (interval : RoundingInterval) (point : Nat) : Bool :=
  let scaled := point * interval.denominator
  if interval.closed then interval.low ≤ scaled && scaled ≤ interval.high
  else interval.low < scaled && scaled < interval.high

/-- The whole number of the interval next to its value; of two equally near ones the even one. -/
def RoundingInterval.nearest? (interval : RoundingInterval) : Option Nat :=
  let below := interval.value / interval.denominator
  match interval.holds below, interval.holds (below + 1) with
  | false, false => none
  | true, false => some below
  | false, true => some (below + 1)
  | true, true =>
    let remainder := 2 * (interval.value % interval.denominator)
    if remainder < interval.denominator then some below
    else if remainder > interval.denominator then some (below + 1)
    else if below % 2 = 0 then some below else some (below + 1)

def digitCount (number : Nat) : Nat :=
  if number = 0 then 0 else (Nat.toDigits 10 number).length

/-- The place of the first decimal digit: the number is below ten to this power and not below the
power before. Fractions are shifted by four hundred places first. -/
def leadingPlace (interval : RoundingInterval) : Int :=
  let whole := interval.value / interval.denominator
  if whole = 0 then
    (digitCount (interval.value * Nat.pow 10 400 / interval.denominator) : Int) - 400
  else digitCount whole

/-- Tries grids of more and more digits, at most `grids` of them. -/
def shortestFrom (interval : RoundingInterval) (place : Int) :
    (grids : Nat) → (digits : Nat) → Nat × Int
  | 0, digits => (interval.value / interval.denominator, digits)
  | grids + 1, digits =>
    let scale := place - digits
    match (interval.inUnits scale).nearest? with
    | some point => (point, scale)
    | none => shortestFrom interval place grids (digits + 1)

def shortestDecimal (significand : Nat) (exponent : Int) : Nat × Int :=
  let interval := roundingInterval significand exponent
  shortestFrom interval (leadingPlace interval) 17 1

/-! ### Layout -/

def dropTrailingZeros (digits : List Char) : List Char :=
  match (digits.reverse.dropWhile (· = '0')).reverse with
  | [] => ['0']
  | kept => kept

def exponentText (exponent : Int) : List Char :=
  let digits := Nat.toDigits 10 exponent.natAbs
  (if exponent < 0 then '-' else '+') :: (if digits.length < 2 then '0' :: digits else digits)

/-- Lays out digits whose point stands after `place` of them: positionally from four zeros after
the point up to sixteen digits before it, with at least one digit on either side of the point, and
with an exponent otherwise. -/
def layoutDigits (digits : List Char) (place : Int) : List Char :=
  if -4 < place && place ≤ 16 then
    if place ≤ 0 then '0' :: '.' :: (List.replicate (-place).toNat '0' ++ digits)
    else
      let whole := digits.take place.toNat
      let padded := whole ++ List.replicate (place.toNat - whole.length) '0'
      match digits.drop place.toNat with
      | [] => padded ++ ['.', '0']
      | fraction => padded ++ '.' :: fraction
  else
    match digits with
    | [] => []
    | [digit] => digit :: 'e' :: exponentText (place - 1)
    | digit :: fraction => digit :: '.' :: (fraction ++ 'e' :: exponentText (place - 1))

def magnitudeText (significand : Nat) (exponent : Int) : List Char :=
  if significand = 0 then ['0', '.', '0']
  else
    let (point, scale) := shortestDecimal significand exponent
    let digits := Nat.toDigits 10 point
    layoutDigits (dropTrailingZeros digits) (digits.length + scale)

def floatText (number : Float) : String :=
  match floatForm number with
  | .notANumber => "nan"
  | .infinite negative => if negative then "-inf" else "inf"
  | .finite negative significand exponent =>
    let body := magnitudeText significand exponent
    String.ofList (if negative then '-' :: body else body)

/-! ### Reading -/

/-- The floating-point number next to `digits` times ten to the power `exponent`. Magnitudes out of
range are decided by their first digit's place, so the power of ten stays small. -/
def floatOfDecimal (negative : Bool) (digits : List Nat) (exponent : Int) : Float :=
  let significand := ofDigits digits
  let place := (digits.dropWhile (· = 0)).length + exponent
  let magnitude :=
    if significand = 0 || place < -400 then 0.0
    else if place > 400 then Float.ofBits 0x7FF0000000000000
    else if exponent < 0 then Float.ofScientific significand true exponent.natAbs
    else Float.ofScientific significand false exponent.natAbs
  if negative then -magnitude else magnitude

def infinity : Float := Float.ofBits 0x7FF0000000000000

def notANumber : Float := Float.ofBits 0x7FF8000000000000

/-- The exponent part of a number: none is zero, and it must reach the end. -/
def readExponent : List Char → Option Int
  | [] => some 0
  | marker :: rest =>
    if marker = 'e' || marker = 'E' then
      let (negative, body) := takeSign rest
      match takeDigits .start body with
      | some (digit :: digits, []) => some (signed negative (ofDigits (digit :: digits)))
      | _ => none
    else none

def readDecimalParts (characters : List Char) : Option (List Nat × Int) := do
  let (whole, afterWhole) ← takeDigits .start characters
  let (fraction, afterFraction) ←
    match afterWhole with
    | '.' :: rest => takeDigits .start rest
    | _ => some ([], afterWhole)
  if whole.isEmpty && fraction.isEmpty then none
  else
    let exponent ← readExponent afterFraction
    some (whole ++ fraction, exponent - fraction.length)

def lowerAscii (characters : List Char) : List Char :=
  characters.map Char.toLower

def readFloat? (text : String) : Option Float :=
  let (negative, body) := takeSign (trimWhere isNumberBlank text.toList)
  let word := String.ofList (lowerAscii body)
  if word = "inf" || word = "infinity" then some (if negative then -infinity else infinity)
  else if word = "nan" then some notANumber
  else (readDecimalParts body).map fun parts => floatOfDecimal negative parts.1 parts.2

def truncated (negative : Bool) (significand : Nat) (exponent : Int) : Int :=
  signed negative (significand * Nat.pow 2 exponent.toNat / Nat.pow 2 (-exponent).toNat)

end ImportPlanning.Number
