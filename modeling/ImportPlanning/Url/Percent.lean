/-
Percent coding of URL parts. A character outside a part's safe set is written as the bytes of its
UTF-8 form, each as a percent sign and two hexadecimal digits. Decoding leaves a percent sign alone
that two such digits do not follow.
-/
import ImportPlanning.Text.Hex
import ImportPlanning.Text.Utf8

namespace ImportPlanning.Url

open ImportPlanning.Text

/-! ### Encoding -/

def isUnreserved (character : Char) : Bool :=
  character.isAlphanum || character = '_' || character = '.' || character = '-' || character = '~'

def safeInCredentials (character : Char) : Bool :=
  isUnreserved character || character = ' ' || character = '+'

/-- Safe in database names, where the slash separates nothing. -/
def safeInDatabase (character : Char) : Bool :=
  safeInCredentials character || character = '/'

def percentByte (byte : UInt8) : List Char :=
  ['%', hexDigitUpper (byte.toNat / 16), hexDigitUpper (byte.toNat % 16)]

def encodeCharacter (safe : Char → Bool) (character : Char) : List Char :=
  if safe character then [character]
  else (String.utf8EncodeChar character).flatMap percentByte

def encode (safe : Char → Bool) (text : String) : String :=
  String.ofList (text.toList.flatMap (encodeCharacter safe))

/-- Codes a key or value of a query, where a plus sign stands for a blank. -/
def encodeQueryPart (text : String) : String :=
  String.ofList (text.toList.flatMap fun character =>
    if character = ' ' then ['+'] else encodeCharacter isUnreserved character)

/-! ### Decoding -/

def decodedBytes : List Char → List UInt8
  | [] => []
  | '%' :: high :: low :: rest =>
    match hexValue? high, hexValue? low with
    | some left, some right => UInt8.ofNat (16 * left + right) :: decodedBytes rest
    | _, _ => String.utf8EncodeChar '%' ++ decodedBytes (high :: low :: rest)
  | character :: rest => String.utf8EncodeChar character ++ decodedBytes rest

/-- Decodes a text; bytes that are not UTF-8 become replacement characters. -/
def decode (characters : List Char) : String :=
  Utf8.decodeLenient (decodedBytes characters)

def decodeQueryPart (characters : List Char) : String :=
  decode (characters.map fun character => if character = '+' then ' ' else character)

end ImportPlanning.Url
