/-
The core tags of YAML 1.1, and the tag that the text of a plain scalar implies.
-/
import ImportPlanning.Text.Pieces
import ImportPlanning.Yaml.Token

namespace ImportPlanning.Yaml

open ImportPlanning.Text

/-! ### Tags -/

inductive CoreTag where
  | null
  | bool
  | int
  | float
  | binary
  | timestamp
  | orderedMap
  | pairs
  | set
  | str
  | seq
  | map
  | merge
  | value
  deriving DecidableEq, Repr

def coreTags : List (String × CoreTag) :=
  [("null", .null), ("bool", .bool), ("int", .int), ("float", .float), ("binary", .binary),
   ("timestamp", .timestamp), ("omap", .orderedMap), ("pairs", .pairs), ("set", .set),
   ("str", .str), ("seq", .seq), ("map", .map), ("merge", .merge), ("value", .value)].map
    fun (name, tag) => ("tag:yaml.org,2002:" ++ name, tag)

def CoreTag.ofName? (name : String) : Option CoreTag :=
  coreTags.lookup name

/-! ### Forms of numbers -/

def isDigitOrGap (character : Char) : Bool :=
  character.isDigit || character = '_'

def dropSign : List Char → List Char
  | '-' :: rest => rest
  | '+' :: rest => rest
  | characters => characters

def isDigitRun : List Char → Bool
  | [] => false
  | first :: rest => first.isDigit && rest.all isDigitOrGap

/-- One digit, or two of which the first is below six. -/
def isSixtieth : List Char → Bool
  | [digit] => digit.isDigit
  | [tens, ones] => '0' ≤ tens && tens ≤ '5' && ones.isDigit
  | _ => false

/-- An exponent: mark, sign and digits, or nothing at all. -/
def isExponent : List Char → Bool
  | [] => true
  | marker :: sign :: digits =>
    (marker = 'e' || marker = 'E') && (sign = '-' || sign = '+') && !digits.isEmpty &&
      digits.all Char.isDigit
  | _ => false

def isFractionTail (characters : List Char) : Bool :=
  isExponent (characters.dropWhile isDigitOrGap)

def cutPoint (characters : List Char) : Option (List Char × List Char) :=
  match characters.dropWhile (· ≠ '.') with
  | _ :: after => some (characters.takeWhile (· ≠ '.'), after)
  | [] => none

/-- A whole part, a point and a fraction. The whole part may be missing if there is no sign and the
fraction begins with a digit. -/
def isPointed (characters : List Char) : Bool :=
  match characters with
  | '.' :: first :: rest => first.isDigit && isFractionTail rest
  | _ =>
    match cutPoint (dropSign characters) with
    | some (whole, fraction) => isDigitRun whole && isFractionTail fraction
    | none => false

/-- Parts between colons, each but the first below sixty, and a point in the last. -/
def isSexagesimalFraction (characters : List Char) : Bool :=
  match fields ':' (dropSign characters) with
  | first :: second :: others =>
    let later := second :: others
    match cutPoint (later.getLast?.getD []) with
    | some (last, fraction) =>
      isDigitRun first && later.dropLast.all isSixtieth && isSixtieth last &&
        fraction.all isDigitOrGap
    | none => false
  | _ => false

def isNumberWord (characters : List Char) : Bool :=
  let text := String.ofList characters
  let unsigned := String.ofList (dropSign characters)
  unsigned = ".inf" || unsigned = ".Inf" || unsigned = ".INF" ||
    text = ".nan" || text = ".NaN" || text = ".NAN"

def isFloatForm (characters : List Char) : Bool :=
  isPointed characters || isSexagesimalFraction characters || isNumberWord characters

def isHexOrGap (character : Char) : Bool :=
  isDigitOrGap character || ('a' ≤ character && character ≤ 'f') ||
    ('A' ≤ character && character ≤ 'F')

/-- Digits of base ten that do not begin with zero, and parts below sixty after them. -/
def isDecimalForm (characters : List Char) : Bool :=
  match fields ':' characters with
  | first :: later => isDigitRun first && first.head? ≠ some '0' && later.all isSixtieth
  | [] => false

def isIntegerForm (characters : List Char) : Bool :=
  match dropSign characters with
  | ['0'] => true
  | '0' :: 'b' :: digit :: digits =>
    (digit :: digits).all fun other => other = '0' || other = '1' || other = '_'
  | '0' :: 'x' :: digit :: digits => (digit :: digits).all isHexOrGap
  | '0' :: digit :: digits =>
    (digit :: digits).all fun other => ('0' ≤ other && other ≤ '7') || other = '_'
  | others => isDecimalForm others

/-! ### Forms of times -/

structure WrittenTime where
  hour : List Char
  minute : List Char
  second : List Char
  fraction : List Char
  zone : Option (Option (Char × List Char × List Char))
  deriving Repr

/-- The written parts of a date with an optional time. A zone without numbers is universal time. -/
structure WrittenStamp where
  year : List Char
  month : List Char
  day : List Char
  time : Option WrittenTime
  deriving Repr

def takeTwo? : List Char → Option (List Char × List Char)
  | first :: second :: rest =>
    if first.isDigit && second.isDigit then some ([first, second], rest) else none
  | _ => none

def takeOneOrTwo? : List Char → Option (List Char × List Char)
  | first :: rest =>
    if !first.isDigit then none
    else
      match rest with
      | second :: others =>
        if second.isDigit then some ([first, second], others) else some ([first], rest)
      | [] => some ([first], [])
  | [] => none

def takeMark? (mark : Char) : List Char → Option (List Char)
  | first :: rest => if first = mark then some rest else none
  | [] => none

def takeZone? (characters : List Char) : Option (Option (Option (Char × List Char × List Char))) :=
  match characters with
  | [] => some none
  | _ =>
    match characters.dropWhile fun other => other = ' ' || other = '\t' with
    | ['Z'] => some (some none)
    | sign :: rest =>
      if sign = '+' || sign = '-' then do
        let (hour, afterHour) ← takeOneOrTwo? rest
        match afterHour with
        | [] => some (some (some (sign, hour, [])))
        | _ => do
          let (minute, final) ← takeTwo? (← takeMark? ':' afterHour)
          if final.isEmpty then some (some (some (sign, hour, minute))) else none
      else none
    | [] => none

def takeFraction (characters : List Char) : List Char × List Char :=
  match characters with
  | '.' :: rest => (rest.takeWhile Char.isDigit, rest.dropWhile Char.isDigit)
  | _ => ([], characters)

def takeTime? (characters : List Char) : Option WrittenTime := do
  let (hour, afterHour) ← takeOneOrTwo? characters
  let (minute, afterMinute) ← takeTwo? (← takeMark? ':' afterHour)
  let (second, afterSecond) ← takeTwo? (← takeMark? ':' afterMinute)
  let (fraction, afterFraction) := takeFraction afterSecond
  let zone ← takeZone? afterFraction
  some { hour, minute, second, fraction, zone }

def WrittenStamp.read? (characters : List Char) : Option WrittenStamp := do
  let (century, afterCentury) ← takeTwo? characters
  let (rest, afterYear) ← takeTwo? afterCentury
  let (month, afterMonth) ← takeOneOrTwo? (← takeMark? '-' afterYear)
  let (day, afterDay) ← takeOneOrTwo? (← takeMark? '-' afterMonth)
  let year := century ++ rest
  match afterDay with
  | [] => some { year, month, day, time := none }
  | mark :: others =>
    if mark = 'T' || mark = 't' then do
      let time ← takeTime? others
      some { year, month, day, time }
    else if mark = ' ' || mark = '\t' then do
      let time ← takeTime? (others.dropWhile fun other => other = ' ' || other = '\t')
      some { year, month, day, time }
    else none

/-- The forms of time stamps: without a time, month and day have two digits. -/
def isStampForm (characters : List Char) : Bool :=
  match WrittenStamp.read? characters with
  | none => false
  | some stamp => stamp.time.isSome || (stamp.month.length = 2 && stamp.day.length = 2)

/-! ### Implied tags -/

def booleanWords : List (String × Bool) :=
  [("yes", true), ("no", false), ("true", true), ("false", false), ("on", true), ("off", false)]

/-- Is the text one of some words, written small, large, or with a large first letter? -/
def isCasedWord (words : List String) (text : String) : Bool :=
  words.any fun word =>
    text = word || text = word.capitalize || text = word.map Char.toUpper

/-- The characters without one line feed at their end: the end of a form may stand before it. -/
def dropLineEnd (characters : List Char) : List Char :=
  if characters.getLast? = some '\n' then characters.dropLast else characters

def formTag (characters : List Char) : CoreTag :=
  let text := String.ofList characters
  if isCasedWord (booleanWords.map Prod.fst) text then .bool
  else if isFloatForm characters then .float
  else if isIntegerForm characters then .int
  else if text = "<<" then .merge
  else if text = "~" || isCasedWord ["null"] text then .null
  else if isStampForm characters then .timestamp
  else if text = "=" then .value
  else .str

def impliedTag (text : String) : CoreTag :=
  if text.isEmpty then .null else formTag (dropLineEnd text.toList)

end ImportPlanning.Yaml
