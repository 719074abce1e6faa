/-
The integer of a value: texts and bytes are read, numbers lose their fraction, and an identifier
gives its number.
-/
import ImportPlanning.Value.Display

namespace ImportPlanning

open ImportPlanning.Text

inductive IntegerObstacle where
  | unreadable (written : String) (flaw : Number.IntegerFlaw)
  | infiniteFloat
  | undefinedFloat
  | infiniteDecimal
  | undefinedDecimal
  | wrongKind (kind : String)
  deriving DecidableEq, Repr

namespace Value

/-- Reads an integer from bytes, which must be ASCII. -/
def integerOfBytes (bytes : List UInt8) : Except Number.IntegerFlaw Int :=
  if bytes.all fun byte => byte < 0x80 then
    Number.readInteger (String.ofList (bytes.map fun byte => Char.ofNat byte.toNat))
  else .error .notANumber

def toInteger : Value → Except IntegerObstacle Int
  | boolean value => .ok (if value then 1 else 0)
  | integer value => .ok value
  | float value =>
    match Number.floatForm value with
    | .notANumber => .error .undefinedFloat
    | .infinite _ => .error .infiniteFloat
    | .finite negative significand exponent =>
      .ok (Number.truncated negative significand exponent)
  | decimal (.finite negative coefficient exponent) =>
    .ok (Number.Decimal.truncate negative coefficient exponent)
  | decimal (.infinite _) => .error .infiniteDecimal
  | decimal (.undefined _ _ _) => .error .undefinedDecimal
  | text value =>
    match Number.readInteger value with
    | .ok number => .ok number
    | .error flaw => .error (.unreadable (quoted value) flaw)
  | binary _ bytes =>
    match integerOfBytes bytes with
    | .ok number => .ok number
    | .error flaw => .error (.unreadable (quotedBytes bytes) flaw)
  | uuid value => .ok value.number
  | value => .error (.wrongKind value.fullKindName)

end Value
end ImportPlanning
