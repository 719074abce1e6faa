/-
Equality of dynamic values. Numbers are equal when they have the same exact value, whatever their
kind; bytes compare by content; moments and times that know their zone compare as instants; sets
and mappings compare without regard to order.
-/
import ImportPlanning.Value.Basic

namespace ImportPlanning

/-! ### Calendar values -/

def Date.dayNumber (date : Date) : Int :=
  let year : Int := if date.month ≤ 2 then (date.year : Int) - 1 else date.year
  let month : Int := (date.month + 9) % 12
  365 * year + year.fdiv 4 - year.fdiv 100 + year.fdiv 400 + (153 * month + 2) / 5 +
    (date.day - 1)

/-- Microseconds since midnight, of universal time if the offset is known. -/
def TimeOfDay.instant (time : TimeOfDay) : Int :=
  ((time.hour * 60 + time.minute) * 60 + time.second) * 1000000 + time.microsecond -
    (time.offset.map Duration.microseconds).getD 0

/-- Times are equal as instants if both know their offset, and as written if neither does. -/
def TimeOfDay.sameAs (left right : TimeOfDay) : Bool :=
  left.offset.isSome == right.offset.isSome && left.instant == right.instant

def Moment.sameAs (left right : Moment) : Bool :=
  left.time.offset.isSome == right.time.offset.isSome &&
    left.date.dayNumber * Duration.dayLength + left.time.instant ==
      right.date.dayNumber * Duration.dayLength + right.time.instant

namespace Value

/-! ### Numbers -/

open ImportPlanning.Number

/-- The exact value of a number as a fraction; undefined and infinite numbers have none. -/
def fraction? : Value → Option (Int × Nat)
  | boolean value => some (if value then 1 else 0, 1)
  | integer value => some (value, 1)
  | float value =>
    match floatForm value with
    | .finite negative significand exponent =>
      some (signed negative (significand * Nat.pow 2 exponent.toNat), Nat.pow 2 (-exponent).toNat)
    | _ => none
  | decimal (.finite negative coefficient exponent) =>
    some (signed negative (coefficient * Nat.pow 10 exponent.toNat), Nat.pow 10 (-exponent).toNat)
  | _ => none

def infiniteSign? : Value → Option Bool
  | float value =>
    match floatForm value with
    | .infinite negative => some negative
    | _ => none
  | decimal (.infinite negative) => some negative
  | _ => none

def sameNumber (left right : Value) : Bool :=
  match left.fraction?, right.fraction? with
  | some (leftTop, leftBottom), some (rightTop, rightBottom) =>
    leftTop * rightBottom == rightTop * leftBottom
  | none, none =>
    match left.infiniteSign?, right.infiniteSign? with
    | some leftSign, some rightSign => leftSign == rightSign
    | _, _ => false
  | _, _ => false

/-! ### All kinds -/

mutual

def sameAs : Value → Value → Bool
  | null, null => true
  | text left, text right => left == right
  | binary _ left, binary _ right => left == right
  | date left, date right => left == right
  | time left, time right => left.sameAs right
  | moment left, moment right => left.sameAs right
  | duration left, duration right => left == right
  | uuid left, uuid right => left == right
  | list left, list right => allSame left right
  | tuple left, tuple right => allSame left right
  | set left, set right => left.length == right.length && allAmong left right
  | mapping left, mapping right => left.length == right.length && allEntriesAmong left right
  | left, right => sameNumber left right

def allSame : List Value → List Value → Bool
  | [], [] => true
  | left :: lefts, right :: rights => left.sameAs right && allSame lefts rights
  | _, _ => false

def allAmong : List Value → List Value → Bool
  | [], _ => true
  | item :: items, candidates => candidates.any item.sameAs && allAmong items candidates

def allEntriesAmong : List (Value × Value) → List (Value × Value) → Bool
  | [], _ => true
  | (key, value) :: entries, candidates =>
    candidates.any (fun candidate => key.sameAs candidate.1 && value.sameAs candidate.2) &&
      allEntriesAmong entries candidates

end

@[simp] theorem sameAs_text (left right : String) :
    (text left).sameAs (text right) = (left == right) := by
  simp [sameAs]

end Value
end ImportPlanning
