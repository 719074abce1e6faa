/-
Writing values as JSON on one line: a blank after commas and colons, and every character outside
visible ASCII as an escape. Kinds of values that the format lacks are written as strings in their
plain form.
-/
import ImportPlanning.Value.Display

namespace ImportPlanning.Json

open ImportPlanning.Text

def unitEscape (unit : Nat) : List Char :=
  '\\' :: 'u' :: hexDigits 4 unit

/-- A character as it stands in a string; one beyond the basic plane is a pair of units. -/
def stringCharacter (character : Char) : List Char :=
  let code := character.toNat
  match character with
  | '"' => ['\\', '"']
  | '\\' => ['\\', '\\']
  | '\n' => ['\\', 'n']
  | '\r' => ['\\', 'r']
  | '\t' => ['\\', 't']
  | _ =>
    if code = 8 then ['\\', 'b']
    else if code = 12 then ['\\', 'f']
    else if 0x20 ≤ code && code ≤ 0x7E then [character]
    else if code < 0x10000 then unitEscape code
    else
      unitEscape (0xD800 + (code - 0x10000) / 0x400) ++
        unitEscape (0xDC00 + (code - 0x10000) % 0x400)

def stringText (value : String) : String :=
  String.ofList (['"'] ++ value.toList.flatMap stringCharacter ++ ['"'])

def floatWord (value : Float) : String :=
  match Number.floatForm value with
  | .notANumber => "NaN"
  | .infinite negative => if negative then "-Infinity" else "Infinity"
  | .finite _ _ _ => Number.floatText value

/-- The text of a key, which is always a string. -/
def keyText : Value → String
  | .null => "null"
  | .boolean value => if value then "true" else "false"
  | .float value => floatWord value
  | value => value.plain

mutual

def text : Value → String
  | .null => "null"
  | .boolean value => if value then "true" else "false"
  | .integer value => toString value
  | .float value => floatWord value
  | .text value => stringText value
  | .list items => "[" ++ ", ".intercalate (itemTexts items) ++ "]"
  | .tuple items => "[" ++ ", ".intercalate (itemTexts items) ++ "]"
  | .mapping entries => "\x7b" ++ ", ".intercalate (memberTexts entries) ++ "\x7d"
  | value => stringText value.plain

def itemTexts : List Value → List String
  | [] => []
  | item :: items => text item :: itemTexts items

def memberTexts : List (Value × Value) → List String
  | [] => []
  | (key, value) :: entries =>
    (stringText (keyText key) ++ ": " ++ text value) :: memberTexts entries

end

end ImportPlanning.Json
