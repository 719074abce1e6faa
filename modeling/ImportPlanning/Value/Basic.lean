/-
Dynamic values: what configuration files, explicit settings and result cells hold. Mappings keep
the order of their entries.
-/
import ImportPlanning.Calendar
import ImportPlanning.Number.Decimal
import ImportPlanning.Uuid

namespace ImportPlanning

inductive BinaryForm where
  | bytes
  | byteArray
  | view
  deriving DecidableEq, Repr

/-- A value whose kind is only known when it is met. -/
inductive Value where
  | null
  | boolean (value : Bool)
  | integer (value : Int)
  | float (value : Float)
  | decimal (value : Number.Decimal)
  | text (value : String)
  | binary (form : BinaryForm) (bytes : List UInt8)
  | date (value : Date)
  | time (value : TimeOfDay)
  | moment (value : Moment)
  | duration (value : Duration)
  | uuid (value : Uuid)
  | list (items : List Value)
  | tuple (items : List Value)
  | set (items : List Value)
  | mapping (entries : List (Value × Value))
  deriving Repr, Inhabited

abbrev Entries := List (Value × Value)

namespace Value

def isNull : Value → Bool
  | null => true
  | _ => false

theorem isNull_iff {value : Value} : value.isNull = true ↔ value = null := by
  cases value <;> simp [isNull]

def isMapping : Value → Bool
  | mapping _ => true
  | _ => false

theorem isMapping_iff {value : Value} :
    value.isMapping = true ↔ ∃ entries, value = mapping entries := by
  cases value <;> simp [isMapping]

/-- A value counts as present unless it is null, false, zero or empty. -/
def isTruthy : Value → Bool
  | null => false
  | boolean value => value
  | integer value => value ≠ 0
  | float value => value != 0.0
  | decimal (.finite _ coefficient _) => coefficient ≠ 0
  | decimal _ => true
  | text value => !value.isEmpty
  | binary _ bytes => !bytes.isEmpty
  | date _ => true
  | time _ => true
  | moment _ => true
  | duration value => value.microseconds ≠ 0
  | uuid _ => true
  | list items => !items.isEmpty
  | tuple items => !items.isEmpty
  | set items => !items.isEmpty
  | mapping entries => !entries.isEmpty

end Value
end ImportPlanning
