/-
Reading JSON documents. Besides the standard grammar the words `NaN`, `Infinity` and `-Infinity` are
numbers. A number with a point or an exponent is a floating-point number. A key that occurs again
keeps its place and takes the later value. A flaw is reported with its position.

A text holds no lone halves of surrogate pairs: an escape for one reads as the replacement character.
-/
import ImportPlanning.Text.Hex
import ImportPlanning.Value.Entries

namespace ImportPlanning.Json

open ImportPlanning.Text

/-! ### Flaws -/

inductive Problem where
  | byteOrderMark
  | value
  | propertyName
  | colon
  | comma
  | extraData
  | unterminatedString
  | controlCharacter
  | escape
  | unicodeEscape
  deriving DecidableEq, Repr

def Problem.message : Problem → String
  | byteOrderMark => "Unexpected UTF-8 BOM (decode using utf-8-sig)"
  | value => "Expecting value"
  | propertyName => "Expecting property name enclosed in double quotes"
  | colon => "Expecting ':' delimiter"
  | comma => "Expecting ',' delimiter"
  | extraData => "Extra data"
  | unterminatedString => "Unterminated string starting at"
  | controlCharacter => "Invalid control character at"
  | escape => "Invalid \\escape"
  | unicodeEscape => "Invalid \\uXXXX escape"

inductive Flaw where
  | malformed (problem : Problem) (line column offset : Nat)
  | integerTooLong (digits : Nat)
  deriving DecidableEq, Repr

/-- A flaw met while reading, placed by the number of characters from it to the end. -/
inductive Stop where
  | problem (found : Problem) (remaining : Nat)
  | integerTooLong (digits : Nat)
  deriving DecidableEq, Repr

def stopAt {α : Type} (found : Problem) (rest : List Char) : Except Stop α :=
  .error (.problem found rest.length)

/-! ### Blanks, strings and numbers -/

def isBlank (character : Char) : Bool :=
  character = ' ' || character = '\t' || character = '\n' || character = '\r'

def skipBlanks (characters : List Char) : List Char :=
  characters.dropWhile isBlank

def simpleEscape? : Char → Option Char
  | '"' => some '"'
  | '\\' => some '\\'
  | '/' => some '/'
  | 'b' => some (Char.ofNat 8)
  | 'f' => some (Char.ofNat 12)
  | 'n' => some '\n'
  | 'r' => some '\r'
  | 't' => some '\t'
  | _ => none

/-- The unit that four hexadecimal digits write; one more character must follow them. -/
def escapedUnit? : List Char → Option (Nat × List Char)
  | first :: second :: third :: fourth :: next :: rest =>
    (hexNumber? [first, second, third, fourth]).map fun unit => (unit, next :: rest)
  | _ => none

def characterOf (unit : Nat) : Char :=
  if 0xD800 ≤ unit && unit ≤ 0xDFFF then Char.ofNat 0xFFFD else Char.ofNat unit

def pairedCharacter? (high low : Nat) : Option Char :=
  if 0xD800 ≤ high && high ≤ 0xDBFF && 0xDC00 ≤ low && low ≤ 0xDFFF then
    some (Char.ofNat (0x10000 + (high - 0xD800) * 0x400 + (low - 0xDC00)))
  else none

/-- Reads what follows the marks of a unit escape. A second escape right after it that is malformed
is a flaw only if the first is the first half of a pair. -/
def readUnitEscape (characters : List Char) : Except Stop (Char × List Char) :=
  match escapedUnit? characters with
  | none => .error (.problem .unicodeEscape (characters.length + 1))
  | some (unit, rest) =>
    match rest with
    | '\\' :: 'u' :: others =>
      if 0xD800 ≤ unit && unit ≤ 0xDBFF && 5 ≤ others.length then
        match escapedUnit? others with
        | none => .error (.problem .unicodeEscape (others.length + 1))
        | some (second, final) =>
          match pairedCharacter? unit second with
          | some character => .ok (character, final)
          | none => .ok (characterOf unit, rest)
      else .ok (characterOf unit, rest)
    | _ => .ok (characterOf unit, rest)

/-- Reads a string up to its closing quote. `opened` is the number of characters from its opening
quote to the end of the document; the fuel bounds the number of characters read. -/
def readString (opened : Nat) : (fuel : Nat) → List Char → Except Stop (List Char × List Char)
  | 0, _ => .error (.problem .unterminatedString opened)
  | _ + 1, [] => .error (.problem .unterminatedString opened)
  | fuel + 1, character :: rest =>
    if character = '"' then .ok ([], rest)
    else if character = '\\' then
      match rest with
      | [] => .error (.problem .unterminatedString opened)
      | 'u' :: digits => do
        let (escaped, others) ← readUnitEscape digits
        let (tail, final) ← readString opened fuel others
        .ok (escaped :: tail, final)
      | mark :: others =>
        match simpleEscape? mark with
        | none => stopAt .escape (character :: rest)
        | some escaped => do
          let (tail, final) ← readString opened fuel others
          .ok (escaped :: tail, final)
    else if character.toNat < 0x20 then stopAt .controlCharacter (character :: rest)
    else do
      let (tail, final) ← readString opened fuel rest
      .ok (character :: tail, final)

def readQuoted (characters : List Char) : Except Stop (String × List Char) :=
  (readString (characters.length + 1) (characters.length + 1) characters).map fun read =>
    (String.ofList read.1, read.2)

def cutDigits (characters : List Char) : List Char × List Char :=
  (characters.takeWhile Char.isDigit, characters.dropWhile Char.isDigit)

def takeFraction (characters : List Char) : List Char × List Char :=
  match characters with
  | '.' :: rest =>
    let (digits, others) := cutDigits rest
    if digits.isEmpty then ([], characters) else (digits, others)
  | _ => ([], characters)

def takeExponent (characters : List Char) : Option Int × List Char :=
  match characters with
  | marker :: rest =>
    if marker = 'e' || marker = 'E' then
      let (negative, body) := Number.takeSign rest
      let (digits, others) := cutDigits body
      if digits.isEmpty then (none, characters)
      else
        let size := Number.ofDigits (digits.map fun digit => digit.toNat - 48)
        (some (Number.signed negative size), others)
    else (none, characters)
  | [] => (none, [])

/-- Takes the whole digits of a number: a zero alone, or digits that do not begin with zero. -/
def takeWhole (characters : List Char) : List Char × List Char :=
  match characters with
  | '0' :: rest => (['0'], rest)
  | _ => cutDigits characters

/-- Reads a number whose sign has been taken. `start` is the text from its sign on. -/
def readNumber (start : List Char) (negative : Bool) (characters : List Char) :
    Except Stop (Value × List Char) :=
  let (whole, afterWhole) := takeWhole characters
  if whole.isEmpty then stopAt .value start
  else
    let (fraction, afterFraction) := takeFraction afterWhole
    let (exponent, rest) := takeExponent afterFraction
    let digits := (whole ++ fraction).map fun digit => digit.toNat - 48
    if fraction.isEmpty && exponent.isNone then
      if whole.length > Number.digitLimit then .error (.integerTooLong whole.length)
      else .ok (.integer (Number.signed negative (Number.ofDigits digits)), rest)
    else
      .ok (.float (Number.floatOfDecimal negative digits (exponent.getD 0 - fraction.length)), rest)

def afterWord? : (word characters : List Char) → Option (List Char)
  | [], characters => some characters
  | _ :: _, [] => none
  | letter :: letters, character :: rest =>
    if letter = character then afterWord? letters rest else none

def words : List (List Char × Value) :=
  [("null".toList, .null), ("true".toList, .boolean true), ("false".toList, .boolean false),
   ("NaN".toList, .float Number.notANumber), ("Infinity".toList, .float Number.infinity),
   ("-Infinity".toList, .float (-Number.infinity))]

def readWord? (characters : List Char) : Option (Value × List Char) :=
  words.findSome? fun (word, value) => (afterWord? word characters).map fun rest => (value, rest)

def readPlain (characters : List Char) : Except Stop (Value × List Char) :=
  match readWord? characters with
  | some read => .ok read
  | none =>
    match characters with
    | '-' :: rest => readNumber characters true rest
    | _ => readNumber characters false characters

/-! ### Arrays and objects -/

mutual

/-- Reads a value. The fuel bounds the nesting and the number of members together. -/
def readValue : (fuel : Nat) → List Char → Except Stop (Value × List Char)
  | 0, characters => stopAt .value characters
  | _ + 1, [] => stopAt .value []
  | fuel + 1, character :: rest =>
    match character with
    | '"' => (readQuoted rest).map fun read => (.text read.1, read.2)
    | '[' =>
      match skipBlanks rest with
      | ']' :: others => .ok (.list [], others)
      | others => (readItems fuel others).map fun read => (.list read.1, read.2)
    | '\x7b' =>
      match skipBlanks rest with
      | '\x7d' :: others => .ok (.mapping [], others)
      | others =>
        (readMembers fuel others).map fun read => (.mapping (Entries.ofList read.1), read.2)
    | _ => readPlain (character :: rest)

def readItems : (fuel : Nat) → List Char → Except Stop (List Value × List Char)
  | 0, characters => stopAt .value characters
  | fuel + 1, characters => do
    let (item, afterItem) ← readValue fuel characters
    match skipBlanks afterItem with
    | ']' :: rest => .ok ([item], rest)
    | ',' :: rest => do
      let (items, final) ← readItems fuel (skipBlanks rest)
      .ok (item :: items, final)
    | rest => stopAt .comma rest

def readMembers : (fuel : Nat) → List Char → Except Stop (Entries × List Char)
  | 0, characters => stopAt .propertyName characters
  | fuel + 1, characters =>
    match characters with
    | '"' :: afterQuote => do
      let (key, afterKey) ← readQuoted afterQuote
      match skipBlanks afterKey with
      | ':' :: afterColon => do
        let (value, afterValue) ← readValue fuel (skipBlanks afterColon)
        match skipBlanks afterValue with
        | '\x7d' :: rest => .ok ([(.text key, value)], rest)
        | ',' :: rest => do
          let (members, final) ← readMembers fuel (skipBlanks rest)
          .ok ((.text key, value) :: members, final)
        | rest => stopAt .comma rest
      | rest => stopAt .colon rest
    | rest => stopAt .propertyName rest

end

/-! ### Documents -/

def readDocument (characters : List Char) : Except Stop Value := do
  match characters with
  | '\uFEFF' :: _ => .error (.problem .byteOrderMark characters.length)
  | _ =>
    let (value, rest) ← readValue (2 * characters.length + 2) (skipBlanks characters)
    match skipBlanks rest with
    | [] => .ok value
    | others => .error (.problem .extraData others.length)

def placeAfter (passed : List Char) : Nat × Nat :=
  (passed.count '\n' + 1, (passed.reverse.takeWhile (· ≠ '\n')).length + 1)

def read (document : String) : Except Flaw Value :=
  let characters := document.toList
  match readDocument characters with
  | .ok value => .ok value
  | .error (.integerTooLong digits) => .error (.integerTooLong digits)
  | .error (.problem found remaining) =>
    let offset := characters.length - remaining
    let (line, column) := placeAfter (characters.take offset)
    .error (.malformed found line column offset)

end ImportPlanning.Json
