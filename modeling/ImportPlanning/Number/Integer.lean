/-
Integers read from text: blanks around, an optional sign, and decimal digits of any script with
single underscores between them. Texts of more than 4300 digits are refused both ways.

Powers are written `Nat.pow` in all modules: `^` stands for another instance beside Mathlib.
-/
import ImportPlanning.Text.Blank
import ImportPlanning.Text.Digit

namespace ImportPlanning.Number

open ImportPlanning.Text

def digitLimit : Nat := 4300

inductive DigitPosition where
  | start
  | afterDigit
  | afterUnderscore
  deriving DecidableEq, Repr

/-- Takes the digits at the front of a text. Fails on an underscore that is not between digits. -/
def takeDigits : DigitPosition → List Char → Option (List Nat × List Char)
  | .afterUnderscore, [] => none
  | _, [] => some ([], [])
  | position, character :: rest =>
    if character = '_' then
      if position = .afterDigit then takeDigits .afterUnderscore rest else none
    else
      match digitValue? character with
      | some value => (takeDigits .afterDigit rest).map fun taken => (value :: taken.1, taken.2)
      | none => if position = .afterUnderscore then none else some ([], character :: rest)

def ofDigits (digits : List Nat) : Nat :=
  digits.foldl (fun total digit => 10 * total + digit) 0

def takeSign : List Char → Bool × List Char
  | '-' :: rest => (true, rest)
  | '+' :: rest => (false, rest)
  | characters => (false, characters)

/-- A blank that may stand around a number: the information separators may not. -/
def isNumberBlank (character : Char) : Bool :=
  isBlank character && !(0x1C ≤ character.toNat && character.toNat ≤ 0x1F)

inductive IntegerFlaw where
  | notANumber
  | tooManyDigits (count : Nat)
  deriving DecidableEq, Repr

def signed (negative : Bool) (magnitude : Nat) : Int :=
  if negative then -magnitude else magnitude

/-- Reads an integer. The digit limit is checked before what follows the digits. -/
def readInteger (text : String) : Except IntegerFlaw Int :=
  let (negative, body) := takeSign (trimWhere isNumberBlank text.toList)
  match takeDigits .start body with
  | none => .error .notANumber
  | some (digits, rest) =>
    if digits.isEmpty then .error .notANumber
    else if digits.length > digitLimit then .error (.tooManyDigits digits.length)
    else if rest.isEmpty then .ok (signed negative (ofDigits digits))
    else .error .notANumber

def exceedsDigitLimit (value : Int) : Bool :=
  Nat.pow 10 digitLimit ≤ value.natAbs

end ImportPlanning.Number
