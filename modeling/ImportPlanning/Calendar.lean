/-
Calendar values: dates, times of day with an optional distance from universal time, moments, and
lengths of time. Each has a plain text and a constructor form.
-/

namespace ImportPlanning

/-! ### Number fields -/

def padded (width number : Nat) : String :=
  let digits := Nat.toDigits 10 number
  String.ofList (List.replicate (width - digits.length) '0' ++ digits)

def commaSeparated (parts : List String) : String :=
  ", ".intercalate parts

/-! ### Lengths of time -/

structure Duration where
  microseconds : Int
  deriving DecidableEq, Repr

namespace Duration

def dayLength : Int := 86400000000

/-- Whole days, rounded down, so that the rest is never negative. -/
def days (duration : Duration) : Int := duration.microseconds.fdiv dayLength

def seconds (duration : Duration) : Nat :=
  (duration.microseconds.fmod dayLength / 1000000).toNat

def fraction (duration : Duration) : Nat :=
  (duration.microseconds.fmod 1000000).toNat

def ofParts (days seconds microseconds : Int) : Duration :=
  ⟨days * dayLength + seconds * 1000000 + microseconds⟩

/-- Six digits after a point, unless they are all zero. -/
def fractionText (microseconds : Nat) : String :=
  if microseconds = 0 then "" else "." ++ padded 6 microseconds

def text (duration : Duration) : String :=
  let seconds := duration.seconds
  let dayPart :=
    if duration.days = 0 then ""
    else toString duration.days ++ (if duration.days.natAbs = 1 then " day, " else " days, ")
  dayPart ++ toString (seconds / 3600) ++ ":" ++ padded 2 (seconds / 60 % 60) ++ ":" ++
    padded 2 (seconds % 60) ++ fractionText duration.fraction

def constructorText (duration : Duration) : String :=
  let parts :=
    (if duration.days = 0 then [] else ["days=" ++ toString duration.days]) ++
    (if duration.seconds = 0 then [] else ["seconds=" ++ toString duration.seconds]) ++
    (if duration.fraction = 0 then [] else ["microseconds=" ++ toString duration.fraction])
  "datetime.timedelta(" ++ (if parts.isEmpty then "0" else commaSeparated parts) ++ ")"

def offsetText (duration : Duration) : String :=
  let size : Duration := ⟨duration.microseconds.natAbs⟩
  let seconds := size.days.toNat * 86400 + size.seconds
  (if duration.microseconds < 0 then "-" else "+") ++ padded 2 (seconds / 3600) ++ ":" ++
    padded 2 (seconds / 60 % 60) ++
    (if seconds % 60 = 0 && size.fraction = 0 then "" else ":" ++ padded 2 (seconds % 60)) ++
    fractionText size.fraction

def zoneConstructorText (duration : Duration) : String :=
  if duration.microseconds = 0 then "datetime.timezone.utc"
  else "datetime.timezone(" ++ duration.constructorText ++ ")"

end Duration

/-! ### Dates -/

structure Date where
  year : Nat
  month : Nat
  day : Nat
  deriving DecidableEq, Repr

namespace Date

def isLeapYear (year : Nat) : Bool :=
  year % 4 = 0 && (year % 100 ≠ 0 || year % 400 = 0)

def monthLength (year month : Nat) : Nat :=
  if month = 2 then if isLeapYear year then 29 else 28
  else if month = 4 || month = 6 || month = 9 || month = 11 then 30
  else 31

def text (date : Date) : String :=
  padded 4 date.year ++ "-" ++ padded 2 date.month ++ "-" ++ padded 2 date.day

def parts (date : Date) : List String :=
  [toString date.year, toString date.month, toString date.day]

def constructorText (date : Date) : String :=
  "datetime.date(" ++ commaSeparated date.parts ++ ")"

end Date

/-! ### Times of day -/

structure TimeOfDay where
  hour : Nat
  minute : Nat
  second : Nat
  microsecond : Nat
  offset : Option Duration
  deriving DecidableEq, Repr

namespace TimeOfDay

def text (time : TimeOfDay) : String :=
  padded 2 time.hour ++ ":" ++ padded 2 time.minute ++ ":" ++ padded 2 time.second ++
    Duration.fractionText time.microsecond ++ (time.offset.map Duration.offsetText).getD ""

/-- The numbers of a time: seconds and microseconds only up to the last that is not zero. -/
def parts (time : TimeOfDay) : List String :=
  [toString time.hour, toString time.minute] ++
    (if time.second = 0 && time.microsecond = 0 then [] else [toString time.second]) ++
    (if time.microsecond = 0 then [] else [toString time.microsecond]) ++
    (time.offset.map fun offset => "tzinfo=" ++ offset.zoneConstructorText).toList

def constructorText (time : TimeOfDay) : String :=
  "datetime.time(" ++ commaSeparated time.parts ++ ")"

end TimeOfDay

/-! ### Moments -/

structure Moment where
  date : Date
  time : TimeOfDay
  deriving DecidableEq, Repr

namespace Moment

def textWith (separator : String) (moment : Moment) : String :=
  moment.date.text ++ separator ++ moment.time.text

def text (moment : Moment) : String :=
  moment.textWith " "

def constructorText (moment : Moment) : String :=
  "datetime.datetime(" ++ commaSeparated (moment.date.parts ++ moment.time.parts) ++ ")"

end Moment
end ImportPlanning
