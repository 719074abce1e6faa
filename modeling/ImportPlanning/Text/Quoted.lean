/-
Quoted texts and bytes. Single quotes are preferred; double quotes are used for a text that holds a
single quote and no double one. The quote in use, the backslash and characters without a printed
form are escaped.
-/
import ImportPlanning.Text.Hex
import ImportPlanning.Text.Printable

namespace ImportPlanning.Text

/-- The quote for a text: double only if that saves escaping. -/
def quoteFor (characters : List Char) : Char :=
  if characters.contains '\'' && !characters.contains '"' then '"' else '\''

def codeEscape (character : Char) : List Char :=
  if character.toNat < 0x100 then '\\' :: 'x' :: hexDigits 2 character.toNat
  else if character.toNat < 0x10000 then '\\' :: 'u' :: hexDigits 4 character.toNat
  else '\\' :: 'U' :: hexDigits 8 character.toNat

def quotedCharacter (quote character : Char) : List Char :=
  if character = quote || character = '\\' then ['\\', character]
  else if character = '\n' then ['\\', 'n']
  else if character = '\r' then ['\\', 'r']
  else if character = '\t' then ['\\', 't']
  else if isPrintable character then [character]
  else codeEscape character

def quoted (text : String) : String :=
  let quote := quoteFor text.toList
  String.ofList ([quote] ++ text.toList.flatMap (quotedCharacter quote) ++ [quote])

def quotedByte (quote : Char) (byte : UInt8) : List Char :=
  let character := Char.ofNat byte.toNat
  if byte < 0x7F then quotedCharacter quote character else codeEscape character

def quotedBytesBy (form : Char → UInt8 → List Char) (bytes : List UInt8) : String :=
  let quote := quoteFor (bytes.map fun byte => Char.ofNat byte.toNat)
  String.ofList (['b', quote] ++ bytes.flatMap (form quote) ++ [quote])

def quotedBytes (bytes : List UInt8) : String :=
  quotedBytesBy quotedByte bytes

/-- Bytes of an array that can change between quotes. A single quote is escaped between double
quotes, too. -/
def quotedByteArray (bytes : List UInt8) : String :=
  quotedBytesBy (fun quote byte => if byte = 0x27 then ['\\', '\''] else quotedByte quote byte)
    bytes

end ImportPlanning.Text
