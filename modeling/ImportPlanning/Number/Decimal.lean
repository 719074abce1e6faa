/-
Decimal numbers that keep the digits they were written with: a coefficient and a power of ten, so
that `1.50` and `1.5` are equal but not the same text.
-/
import ImportPlanning.Number.Floating

namespace ImportPlanning.Number

open ImportPlanning.Text

/-- A decimal number. The digits of an undefined value are a diagnostic and have no numeric
meaning. -/
inductive Decimal where
  | finite (negative : Bool) (coefficient : Nat) (exponent : Int)
  | infinite (negative : Bool)
  | undefined (negative signalling : Bool) (diagnostic : Nat)
  deriving DecidableEq, Repr

namespace Decimal

/-- Lays out a coefficient: positionally when the exponent is not positive and at most five zeros
follow the point, and with one digit before the point and an exponent otherwise. -/
def layout (digits : List Char) (exponent : Int) : List Char :=
  let place : Int := digits.length + exponent
  let point := if exponent ≤ 0 && place > -6 then place else 1
  let body :=
    if point ≤ 0 then '0' :: '.' :: (List.replicate (-point).toNat '0' ++ digits)
    else if digits.length ≤ point.toNat then
      digits ++ List.replicate (point.toNat - digits.length) '0'
    else digits.take point.toNat ++ '.' :: digits.drop point.toNat
  if place = point then body
  else
    body ++ 'E' :: (if place < point then '-' else '+') :: Nat.toDigits 10 (place - point).natAbs

def withSign (negative : Bool) (body : List Char) : String :=
  String.ofList (if negative then '-' :: body else body)

def text : Decimal → String
  | finite negative coefficient exponent =>
    withSign negative (layout (Nat.toDigits 10 coefficient) exponent)
  | infinite negative => withSign negative "Infinity".toList
  | undefined negative signalling diagnostic =>
    withSign negative ((if signalling then "sNaN" else "NaN").toList ++
      (if diagnostic = 0 then [] else Nat.toDigits 10 diagnostic))

def readDiagnostic? (characters : List Char) : Option Nat :=
  match takeDigits .start characters with
  | some (digits, []) => some (ofDigits digits)
  | _ => none

def read? (source : String) : Option Decimal :=
  let kept := (trimWhere isBlank source.toList).filter (· ≠ '_')
  let (negative, body) := takeSign kept
  let word := String.ofList (lowerAscii body)
  if word = "inf" || word = "infinity" then some (.infinite negative)
  else if word.startsWith "nan" then
    (readDiagnostic? (body.drop 3)).map (.undefined negative false)
  else if word.startsWith "snan" then
    (readDiagnostic? (body.drop 4)).map (.undefined negative true)
  else
    (readDecimalParts body).map fun parts => .finite negative (ofDigits parts.1) parts.2

def truncate (negative : Bool) (coefficient : Nat) (exponent : Int) : Int :=
  signed negative (coefficient * Nat.pow 10 exponent.toNat / Nat.pow 10 (-exponent).toNat)

end Decimal
end ImportPlanning.Number
