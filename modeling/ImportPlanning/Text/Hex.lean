/-
Hexadecimal digits: the value of a digit in either case, and numbers written with a least width.
-/

namespace ImportPlanning.Text

def hexValue? (digit : Char) : Option Nat :=
  if '0' ≤ digit && digit ≤ '9' then some (digit.toNat - 48)
  else if 'a' ≤ digit && digit ≤ 'f' then some (digit.toNat - 87)
  else if 'A' ≤ digit && digit ≤ 'F' then some (digit.toNat - 55)
  else none

def hexDigit (value : Nat) : Char :=
  Char.ofNat (if value < 10 then 48 + value else 87 + value)

def hexDigitUpper (value : Nat) : Char :=
  Char.ofNat (if value < 10 then 48 + value else 55 + value)

/-- The last `width` hexadecimal digits of a number, in lower case. -/
def hexDigits : Nat → Nat → List Char
  | 0, _ => []
  | width + 1, value => hexDigits width (value / 16) ++ [hexDigit (value % 16)]

def hexNumber? (digits : List Char) : Option Nat :=
  digits.foldl (fun total digit =>
    total.bind fun sum => (hexValue? digit).map fun value => 16 * sum + value) (some 0)

def hexBytes? : List Char → Option (List UInt8)
  | [] => some []
  | [_] => none
  | high :: low :: rest =>
    match hexValue? high, hexValue? low, hexBytes? rest with
    | some left, some right, some bytes => some (UInt8.ofNat (16 * left + right) :: bytes)
    | _, _, _ => none

end ImportPlanning.Text
