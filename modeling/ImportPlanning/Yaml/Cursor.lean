/-
A place in a YAML document: the text that is left, with the line and column reached. Past the end
the text reads as NUL characters, which a document cannot hold.
-/
import ImportPlanning.Yaml.Token

namespace ImportPlanning.Yaml

/-! ### Character classes -/

def endMark : Char := Char.ofNat 0

def isBreak (character : Char) : Bool :=
  character = '\n' || character = '\r' || character.toNat = 0x85 ||
    character.toNat = 0x2028 || character.toNat = 0x2029

def endsLine (character : Char) : Bool :=
  character = endMark || isBreak character

def isSpaceOrEnd (character : Char) : Bool :=
  character = ' ' || character = '\t' || endsLine character

def isBlankOrEnd (character : Char) : Bool :=
  character = ' ' || endsLine character

def isNameCharacter (character : Char) : Bool :=
  character.isAlphanum || character = '-' || character = '_'

def isAllowed (character : Char) : Bool :=
  let code := character.toNat
  code = 0x9 || code = 0xA || code = 0xD || (0x20 ≤ code && code ≤ 0x7E) || code = 0x85 ||
    (0xA0 ≤ code && code ≤ 0xD7FF) || (0xE000 ≤ code && code ≤ 0xFFFD) || 0x10000 ≤ code

/-! ### Moving through a document -/

structure Cursor where
  rest : List Char
  index : Nat
  line : Nat
  column : Nat
  deriving Repr

namespace Cursor

def start (characters : List Char) : Cursor := ⟨characters, 0, 0, 0⟩

def peek (cursor : Cursor) (offset : Nat) : Char :=
  cursor.rest[offset]?.getD endMark

def here (cursor : Cursor) : Char := cursor.peek 0

/-- The place after one character. A byte order mark takes no column. -/
def step (cursor : Cursor) : Cursor :=
  match cursor.rest with
  | [] => cursor
  | character :: rest =>
    if isBreak character && !(character = '\r' && rest.head? = some '\n') then
      ⟨rest, cursor.index + 1, cursor.line + 1, 0⟩
    else if character.toNat = 0xFEFF then ⟨rest, cursor.index + 1, cursor.line, cursor.column⟩
    else ⟨rest, cursor.index + 1, cursor.line, cursor.column + 1⟩

def advance : (count : Nat) → Cursor → Cursor
  | 0, cursor => cursor
  | count + 1, cursor => advance count cursor.step

def takeWhile (test : Char → Bool) (cursor : Cursor) : List Char × Cursor :=
  let taken := cursor.rest.takeWhile test
  (taken, cursor.advance taken.length)

def skipWhile (test : Char → Bool) (cursor : Cursor) : Cursor :=
  (cursor.takeWhile test).2

def skipSpaces (cursor : Cursor) : Cursor :=
  cursor.skipWhile (· = ' ')

/-- Passes blanks, but not beyond a column. -/
def skipIndent (indent : Nat) (cursor : Cursor) : Cursor :=
  cursor.advance
    (min (indent - cursor.column) (cursor.rest.takeWhile (· = ' ')).length)

def skipComment (cursor : Cursor) : Cursor :=
  if cursor.here = '#' then cursor.skipWhile fun character => !endsLine character else cursor

/-- Takes the end of a line, if it is here. All ends but the two separators read as a line feed. -/
def takeBreak (cursor : Cursor) : List Char × Cursor :=
  let character := cursor.here
  if !isBreak character then ([], cursor)
  else if character.toNat = 0x2028 || character.toNat = 0x2029 then ([character], cursor.step)
  else if character = '\r' && cursor.peek 1 = '\n' then (['\n'], cursor.advance 2)
  else (['\n'], cursor.step)

def standsMark (mark : Char) (cursor : Cursor) : Bool :=
  cursor.peek 0 = mark && cursor.peek 1 = mark && cursor.peek 2 = mark &&
    isSpaceOrEnd (cursor.peek 3)

def standsSeparator (cursor : Cursor) : Bool :=
  cursor.standsMark '-' || cursor.standsMark '.'

end Cursor
end ImportPlanning.Yaml
