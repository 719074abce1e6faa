/-
Values as text. The shown form tells values of different kinds apart (texts in quotes, constructor
forms); the plain form drops that for a value that stands alone. Also the names of the kinds of
values, as messages use them.
-/
import ImportPlanning.Text.Quoted
import ImportPlanning.Value.Basic

namespace ImportPlanning.Value

open ImportPlanning.Text
open ImportPlanning.Number

/-! ### Names of kinds -/

def kindName : Value → String
  | null => "NoneType"
  | boolean _ => "bool"
  | integer _ => "int"
  | float _ => "float"
  | decimal _ => "Decimal"
  | text _ => "str"
  | binary .bytes _ => "bytes"
  | binary .byteArray _ => "bytearray"
  | binary .view _ => "memoryview"
  | date _ => "date"
  | time _ => "time"
  | moment _ => "datetime"
  | duration _ => "timedelta"
  | uuid _ => "UUID"
  | list _ => "list"
  | tuple _ => "tuple"
  | set _ => "set"
  | mapping _ => "dict"

/-- The name of a value's kind with the family of kinds it belongs to, if it names one. -/
def fullKindName (value : Value) : String :=
  match value with
  | decimal _ => "decimal." ++ value.kindName
  | date _ | time _ | moment _ | duration _ => "datetime." ++ value.kindName
  | _ => value.kindName

/-! ### Text forms -/

mutual

def shown : Value → String
  | null => "None"
  | boolean value => if value then "True" else "False"
  | integer value => toString value
  | float value => floatText value
  | decimal value => "Decimal('" ++ value.text ++ "')"
  | text value => quoted value
  | binary .bytes bytes => quotedBytes bytes
  | binary .byteArray bytes => "bytearray(" ++ quotedByteArray bytes ++ ")"
  | binary .view _ => "<memory>"
  | date value => value.constructorText
  | time value => value.constructorText
  | moment value => value.constructorText
  | duration value => value.constructorText
  | uuid value => "UUID('" ++ value.text ++ "')"
  | list items => "[" ++ ", ".intercalate (shownItems items) ++ "]"
  | tuple items =>
    match shownItems items with
    | [item] => "(" ++ item ++ ",)"
    | forms => "(" ++ ", ".intercalate forms ++ ")"
  | set items =>
    match shownItems items with
    | [] => "set()"
    | forms => "\x7b" ++ ", ".intercalate forms ++ "\x7d"
  | mapping entries => "\x7b" ++ ", ".intercalate (shownEntries entries) ++ "\x7d"

def shownItems : List Value → List String
  | [] => []
  | item :: items => shown item :: shownItems items

def shownEntries : List (Value × Value) → List String
  | [] => []
  | (key, value) :: entries => (shown key ++ ": " ++ shown value) :: shownEntries entries

end

def plain : Value → String
  | text value => value
  | decimal value => value.text
  | date value => value.text
  | time value => value.text
  | moment value => value.text
  | duration value => value.text
  | uuid value => value.text
  | value => value.shown

/-! ### Integers too long for text -/

mutual

def isOverlong : Value → Bool
  | integer value => exceedsDigitLimit value
  | list items => anyOverlong items
  | tuple items => anyOverlong items
  | set items => anyOverlong items
  | mapping entries => anyEntryOverlong entries
  | _ => false

def anyOverlong : List Value → Bool
  | [] => false
  | item :: items => item.isOverlong || anyOverlong items

def anyEntryOverlong : List (Value × Value) → Bool
  | [] => false
  | (key, value) :: entries => key.isOverlong || value.isOverlong || anyEntryOverlong entries

end

/-! ### Keys of mappings -/

mutual

/-- May the value be a key of a mapping? Containers that can change may not. -/
def isHashable : Value → Bool
  | binary .byteArray _ => false
  | list _ => false
  | set _ => false
  | mapping _ => false
  | tuple items => allHashable items
  | _ => true

def allHashable : List Value → Bool
  | [] => true
  | item :: items => item.isHashable && allHashable items

end

end ImportPlanning.Value
