/-
Cutting a YAML document into tokens. Indentation opens and closes block collections. A key without a
mark of its own is known only when its colon is met, so the places where one may begin are kept, one
for each level of flow collections, and the mark is put in later.
-/
import ImportPlanning.Yaml.Scalar

namespace ImportPlanning.Yaml

/-! ### State -/

structure KeyPlace where
  level : Nat
  position : Nat
  isRequired : Bool
  index : Nat
  line : Nat
  column : Nat
  deriving Repr

/-- What the lexer knows: the place reached, the columns of the open block collections (minus one
outside any), the depth of flow collections, whether a key may begin here, the places where one
may have begun, and the tokens so far. -/
structure Lexer where
  cursor : Cursor
  indent : Int
  indents : List Int
  flowLevel : Nat
  allowsKey : Bool
  places : List KeyPlace
  tokens : Array Token
  deriving Repr

namespace Lexer

def start (characters : List Char) : Lexer :=
  ⟨.start characters, -1, [], 0, true, [], #[]⟩

def inFlow (lexer : Lexer) : Bool := lexer.flowLevel ≠ 0

def push (token : Token) (lexer : Lexer) : Lexer :=
  { lexer with tokens := lexer.tokens.push token }

def pushMark (token : Token) (lexer : Lexer) : Lexer :=
  { lexer with tokens := lexer.tokens.push token, cursor := lexer.cursor.step }

def pushRead (token : Token) (cursor : Cursor) (lexer : Lexer) : Lexer :=
  { lexer with tokens := lexer.tokens.push token, cursor }

/-! ### Keys -/

def place? (lexer : Lexer) : Option KeyPlace :=
  lexer.places.find? fun place => place.level = lexer.flowLevel

/-- Forgets that a key may have begun on the current level; a required key is missed. -/
def forgetPlace (lexer : Lexer) : Except Flaw Lexer :=
  match lexer.place? with
  | none => .ok lexer
  | some place =>
    if place.isRequired then .error .malformed
    else
      .ok { lexer with places := lexer.places.filter fun other => other.level ≠ lexer.flowLevel }

/-- Notes that a key may begin here. It is required if it stands at the column of the block. -/
def notePlace (lexer : Lexer) : Except Flaw Lexer :=
  if lexer.allowsKey then do
    let cleared ← lexer.forgetPlace
    let cursor := lexer.cursor
    let place : KeyPlace :=
      { level := lexer.flowLevel
        position := lexer.tokens.size
        isRequired := !lexer.inFlow && lexer.indent = cursor.column
        index := cursor.index
        line := cursor.line
        column := cursor.column }
    .ok { cleared with places := place :: cleared.places }
  else .ok lexer

/-- Can a key that began at a place still be met? It must end on its line and be short. -/
def isStale (lexer : Lexer) (place : KeyPlace) : Bool :=
  place.line ≠ lexer.cursor.line || lexer.cursor.index - place.index > 1024

def forgetStale (lexer : Lexer) : Except Flaw Lexer :=
  if lexer.places.any fun place => lexer.isStale place && place.isRequired then .error .malformed
  else .ok { lexer with places := lexer.places.filter fun place => !lexer.isStale place }

def allowKey (allows : Bool) (lexer : Lexer) : Lexer :=
  { lexer with allowsKey := allows }

/-! ### Indentation -/

def closeBlocks (column : Int) : (outers : List Int) → Lexer → Lexer
  | [], lexer => lexer
  | outer :: others, lexer =>
    if lexer.indent > column then
      closeBlocks column others
        { lexer with indent := outer, indents := others, tokens := lexer.tokens.push .blockEnd }
    else lexer

def unwind (column : Int) (lexer : Lexer) : Lexer :=
  if lexer.inFlow then lexer else closeBlocks column lexer.indents lexer

def openBlock? (column : Nat) (lexer : Lexer) : Option Lexer :=
  if lexer.indent < column then
    some { lexer with indent := column, indents := lexer.indent :: lexer.indents }
  else none

def openBlock (token : Token) (lexer : Lexer) : Lexer :=
  match lexer.openBlock? lexer.cursor.column with
  | some opened => opened.push token
  | none => lexer

/-! ### One token -/

/-- Passes blanks, comments and line ends before a token. Outside flow collections a key may begin
after a line end. -/
def skipToToken : (fuel : Nat) → Lexer → Lexer
  | 0, lexer => lexer
  | fuel + 1, lexer =>
    let inside := lexer.cursor.skipSpaces.skipComment
    if isBreak inside.here then
      skipToToken fuel
        { lexer with
          cursor := inside.takeBreak.2
          allowsKey := lexer.allowsKey || !lexer.inFlow }
    else { lexer with cursor := inside }

def skipByteOrderMark (lexer : Lexer) : Lexer :=
  if lexer.cursor.index = 0 && lexer.cursor.here.toNat = 0xFEFF then
    { lexer with cursor := lexer.cursor.step }
  else lexer

def readEnd (lexer : Lexer) : Except Flaw Lexer := do
  let cleared ← (lexer.unwind (-1)).forgetPlace
  .ok { (cleared.push .streamEnd) with allowsKey := false, places := [] }

def readDirective (lexer : Lexer) : Except Flaw Lexer := do
  let cleared ← (lexer.unwind (-1)).forgetPlace
  let (token, next) ← takeDirective cleared.cursor
  .ok ((cleared.allowKey false).pushRead token next)

def readSeparator (token : Token) (lexer : Lexer) : Except Flaw Lexer := do
  let cleared ← (lexer.unwind (-1)).forgetPlace
  .ok ((cleared.allowKey false).pushRead token (cleared.cursor.advance 3))

def readFlowStart (token : Token) (lexer : Lexer) : Except Flaw Lexer := do
  let noted ← lexer.notePlace
  .ok (({ noted with flowLevel := noted.flowLevel + 1 }.allowKey true).pushMark token)

def readFlowEnd (token : Token) (lexer : Lexer) : Except Flaw Lexer := do
  let cleared ← lexer.forgetPlace
  .ok (({ cleared with flowLevel := cleared.flowLevel - 1 }.allowKey false).pushMark token)

def readFlowEntry (lexer : Lexer) : Except Flaw Lexer := do
  let cleared ← (lexer.allowKey true).forgetPlace
  .ok (cleared.pushMark .flowEntry)

def readBlockEntry (lexer : Lexer) : Except Flaw Lexer := do
  if !lexer.inFlow && !lexer.allowsKey then .error .malformed
  else do
    let opened := if lexer.inFlow then lexer else lexer.openBlock .blockSequenceStart
    let cleared ← (opened.allowKey true).forgetPlace
    .ok (cleared.pushMark .blockEntry)

def readKey (lexer : Lexer) : Except Flaw Lexer := do
  if !lexer.inFlow && !lexer.allowsKey then .error .malformed
  else do
    let opened := if lexer.inFlow then lexer else lexer.openBlock .blockMappingStart
    let cleared ← (opened.allowKey (!lexer.inFlow)).forgetPlace
    .ok (cleared.pushMark .key)

def insertTokens (position : Nat) (inserted : List Token) (tokens : Array Token) : Array Token :=
  tokens.extract 0 position ++ inserted.toArray ++ tokens.extract position tokens.size

/-- Marks the key that began at a place, and the mapping that it opens. -/
def markKey (place : KeyPlace) (lexer : Lexer) : Lexer :=
  let cleared :=
    { lexer with places := lexer.places.filter fun other => other.level ≠ lexer.flowLevel }
  match if lexer.inFlow then none else cleared.openBlock? place.column with
  | some opened =>
    { opened with
      tokens := insertTokens place.position [.blockMappingStart, .key] cleared.tokens }
  | none => { cleared with tokens := insertTokens place.position [.key] cleared.tokens }

def readValue (lexer : Lexer) : Except Flaw Lexer :=
  match lexer.place? with
  | some place => .ok (((lexer.markKey place).allowKey false).pushMark .value)
  | none =>
    if !lexer.inFlow && !lexer.allowsKey then .error .malformed
    else do
      let opened := if lexer.inFlow then lexer else lexer.openBlock .blockMappingStart
      let cleared ← (opened.allowKey (!lexer.inFlow)).forgetPlace
      .ok (cleared.pushMark .value)

def readName (token : String → Token) (lexer : Lexer) : Except Flaw Lexer := do
  let noted ← lexer.notePlace
  let (name, next) ← takeAnchorName noted.cursor
  .ok ((noted.allowKey false).pushRead (token name) next)

def readTag (lexer : Lexer) : Except Flaw Lexer := do
  let noted ← lexer.notePlace
  let (token, next) ← takeTag noted.cursor
  .ok ((noted.allowKey false).pushRead token next)

def readBlockScalar (lexer : Lexer) : Except Flaw Lexer := do
  let cleared ← (lexer.allowKey true).forgetPlace
  let (text, next) ← takeBlockScalar cleared.indent cleared.cursor
  .ok (cleared.pushRead (.scalar text false) next)

def readQuoted (lexer : Lexer) : Except Flaw Lexer := do
  let noted ← lexer.notePlace
  let (text, next) ← takeQuotedScalar noted.cursor
  .ok ((noted.allowKey false).pushRead (.scalar text false) next)

def readPlain (lexer : Lexer) : Except Flaw Lexer := do
  let noted ← lexer.notePlace
  let (text, ended, next) :=
    takePlain noted.inFlow (noted.indent + 1) (noted.cursor.rest.length + 1) [] [] false
      noted.cursor
  .ok ((noted.allowKey ended).pushRead (.scalar (String.ofList text) true) next)

def startsPlain (lexer : Lexer) : Bool :=
  let character := lexer.cursor.here
  let following := lexer.cursor.peek 1
  !(isSpaceOrEnd character || "-?:,[]\x7b\x7d#&*!|>'\"%@`".toList.contains character) ||
    (!isSpaceOrEnd following &&
      (character = '-' || (!lexer.inFlow && (character = '?' || character = ':'))))

def readHere (lexer : Lexer) : Except Flaw Lexer :=
  let cursor := lexer.cursor
  let character := cursor.here
  let standsAlone := lexer.inFlow || isSpaceOrEnd (cursor.peek 1)
  if character = endMark then lexer.readEnd
  else if character = '%' && cursor.column = 0 then lexer.readDirective
  else if cursor.column = 0 && cursor.standsMark '-' then lexer.readSeparator .documentStart
  else if cursor.column = 0 && cursor.standsMark '.' then lexer.readSeparator .documentEnd
  else if character = '[' then lexer.readFlowStart .flowSequenceStart
  else if character = '\x7b' then lexer.readFlowStart .flowMappingStart
  else if character = ']' then lexer.readFlowEnd .flowSequenceEnd
  else if character = '\x7d' then lexer.readFlowEnd .flowMappingEnd
  else if character = ',' then lexer.readFlowEntry
  else if character = '-' && isSpaceOrEnd (cursor.peek 1) then lexer.readBlockEntry
  else if character = '?' && standsAlone then lexer.readKey
  else if character = ':' && standsAlone then lexer.readValue
  else if character = '*' then lexer.readName .reference
  else if character = '&' then lexer.readName .anchor
  else if character = '!' then lexer.readTag
  else if (character = '|' || character = '>') && !lexer.inFlow then lexer.readBlockScalar
  else if character = '\'' || character = '"' then lexer.readQuoted
  else if lexer.startsPlain then lexer.readPlain
  else .error .malformed

def readToken (lexer : Lexer) : Except Flaw Lexer := do
  let placed := skipToToken (lexer.cursor.rest.length + 1) lexer.skipByteOrderMark
  let fresh ← placed.forgetStale
  (fresh.unwind fresh.cursor.column).readHere

/-- The number of tokens that can be looked at before another one is read: a token where a key may
have begun is not known to be followed by that key's mark. -/
def settled (lexer : Lexer) : Nat :=
  (lexer.places.filter fun place => !lexer.isStale place).foldl
    (fun least place => min least place.position) lexer.tokens.size

/-- The tokens of the document from here on. Each one takes a character, so the fuel suffices. Where
one cannot be read, those before it that are settled are followed by its flaw. -/
def readAll : (fuel : Nat) → Lexer → List Token
  | 0, lexer => lexer.tokens.toList ++ [.flawed .malformed]
  | fuel + 1, lexer =>
    match lexer.readToken with
    | .error flaw => lexer.tokens.toList.take lexer.settled ++ [.flawed flaw]
    | .ok next =>
      if next.tokens.back? = some .streamEnd then next.tokens.toList else readAll fuel next

end Lexer

/-- Cuts a text into tokens. A character that is not allowed is met before any of them. -/
def Token.ofText (text : String) : List Token :=
  let characters := text.toList
  if characters.all isAllowed then Lexer.readAll (characters.length + 2) (.start characters)
  else [.flawed .malformed]

end ImportPlanning.Yaml
