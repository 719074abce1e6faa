/-
The scalars, names and tags of a YAML document, read at a cursor. Line ends inside a scalar are
folded by its style.

A text holds no lone halves of surrogate pairs: an escape for one reads as the replacement character.
-/
import ImportPlanning.Number.Integer
import ImportPlanning.Text.Hex
import ImportPlanning.Text.Utf8
import ImportPlanning.Yaml.Cursor

namespace ImportPlanning.Yaml

open ImportPlanning.Text

/-! ### Block scalars -/

/-- What a block scalar keeps of the line ends after its last line. -/
inductive Chomping where
  | strip
  | clip
  | keep
  deriving DecidableEq, Repr

def takeChomping (cursor : Cursor) : Option Chomping × Cursor :=
  if cursor.here = '+' then (some .keep, cursor.step)
  else if cursor.here = '-' then (some .strip, cursor.step)
  else (none, cursor)

/-- Reads a digit for the indentation, if one is here. Zero is refused. -/
def takeIncrement (cursor : Cursor) : Except Flaw (Option Nat × Cursor) :=
  if cursor.here.isDigit then
    if cursor.here = '0' then .error .malformed
    else .ok (some (cursor.here.toNat - 48), cursor.step)
  else .ok (none, cursor)

def takeBlockHeader (cursor : Cursor) : Except Flaw (Chomping × Option Nat × Cursor) := do
  let (before, afterFirst) := takeChomping cursor
  let (increment, afterDigit) ← takeIncrement afterFirst
  let (chomping, final) :=
    if before.isNone && increment.isSome then takeChomping afterDigit else (before, afterDigit)
  if isBlankOrEnd final.here then .ok (chomping.getD .clip, increment, final)
  else .error .malformed

def skipRestOfLine (cursor : Cursor) : Except Flaw Cursor :=
  let final := cursor.skipSpaces.skipComment
  if endsLine final.here then .ok final.takeBreak.2 else .error .malformed

/-- Passes empty lines and finds the deepest column of blanks before the first line with text. -/
def findIndent : (fuel : Nat) → (breaks : List Char) → (deepest : Nat) → Cursor →
    List Char × Nat × Cursor
  | 0, breaks, deepest, cursor => (breaks, deepest, cursor)
  | fuel + 1, breaks, deepest, cursor =>
    if cursor.here = ' ' then findIndent fuel breaks (max deepest cursor.step.column) cursor.step
    else if isBreak cursor.here then
      let (lineEnd, next) := cursor.takeBreak
      findIndent fuel (breaks ++ lineEnd) deepest next
    else (breaks, deepest, cursor)

def takeEmptyLines (indent : Nat) : (fuel : Nat) → (breaks : List Char) → Cursor →
    List Char × Cursor
  | 0, breaks, cursor => (breaks, cursor)
  | fuel + 1, breaks, cursor =>
    let inside := cursor.skipIndent indent
    if isBreak inside.here then
      let (lineEnd, next) := inside.takeBreak
      takeEmptyLines indent fuel (breaks ++ lineEnd) next
    else (breaks, inside)

def isSpace (character : Char) : Bool :=
  character = ' ' || character = '\t'

/-- The lines read of a block scalar, the last line end, and the empty lines after it. -/
structure BlockLines where
  text : List Char
  lineEnd : List Char
  breaks : List Char
  cursor : Cursor

/-- Reads the lines of a block scalar. A folded one joins lines that begin with text. -/
def takeBlockLines (folded : Bool) (indent : Nat) :
    (fuel : Nat) → BlockLines → BlockLines
  | 0, lines => lines
  | fuel + 1, lines =>
    if lines.cursor.column = indent && lines.cursor.here ≠ endMark then
      let beginsWithText := !isSpace lines.cursor.here
      let (line, afterLine) := lines.cursor.takeWhile fun character => !endsLine character
      let (lineEnd, afterBreak) := afterLine.takeBreak
      let (breaks, next) := takeEmptyLines indent (afterBreak.rest.length + 1) [] afterBreak
      let text := lines.text ++ lines.breaks ++ line
      if next.column = indent && next.here ≠ endMark then
        let joint :=
          if folded && lineEnd = ['\n'] && beginsWithText && !isSpace next.here then
            if breaks.isEmpty then [' '] else []
          else lineEnd
        takeBlockLines folded indent fuel ⟨text ++ joint, lineEnd, breaks, next⟩
      else ⟨text, lineEnd, breaks, next⟩
    else lines

/-- Reads a block scalar whose parent stands at column `parent`, minus one for none. -/
def takeBlockScalar (parent : Int) (cursor : Cursor) : Except Flaw (String × Cursor) := do
  let folded := cursor.here = '>'
  let (chomping, increment, afterHeader) ← takeBlockHeader cursor.step
  let afterLine ← skipRestOfLine afterHeader
  let least := max 1 (parent + 1).toNat
  let fuel := afterLine.rest.length + 1
  let (indent, breaks, first) :=
    match increment with
    | none =>
      let (breaks, deepest, first) := findIndent fuel [] 0 afterLine
      (max least deepest, breaks, first)
    | some number =>
      let indent := least + number - 1
      let (breaks, first) := takeEmptyLines indent fuel [] afterLine
      (indent, breaks, first)
  let lines := takeBlockLines folded indent fuel ⟨[], [], breaks, first⟩
  let tail :=
    match chomping with
    | .strip => []
    | .clip => lines.lineEnd
    | .keep => lines.lineEnd ++ lines.breaks
  .ok (String.ofList (lines.text ++ tail), lines.cursor)

/-! ### Quoted scalars -/

def shortEscape? : Char → Option Nat
  | '0' => some 0x0
  | 'a' => some 0x7
  | 'b' => some 0x8
  | 't' => some 0x9
  | '\t' => some 0x9
  | 'n' => some 0xA
  | 'v' => some 0xB
  | 'f' => some 0xC
  | 'r' => some 0xD
  | 'e' => some 0x1B
  | ' ' => some 0x20
  | '"' => some 0x22
  | '\\' => some 0x5C
  | '/' => some 0x2F
  | 'N' => some 0x85
  | '_' => some 0xA0
  | 'L' => some 0x2028
  | 'P' => some 0x2029
  | _ => none

def codeEscapeWidth? : Char → Option Nat
  | 'x' => some 2
  | 'u' => some 4
  | 'U' => some 8
  | _ => none

/-- Passes line ends and the blanks around them; a separator of documents is refused. -/
def takeFlowBreaks : (fuel : Nat) → (breaks : List Char) → Cursor →
    Except Flaw (List Char × Cursor)
  | 0, _, _ => .error .malformed
  | fuel + 1, breaks, cursor =>
    if cursor.standsSeparator then .error .malformed
    else
      let inside := cursor.skipWhile isSpace
      if isBreak inside.here then
        let (lineEnd, next) := inside.takeBreak
        takeFlowBreaks fuel (breaks ++ lineEnd) next
      else .ok (breaks, inside)

/-- Reads the code of a character. One that is no code is told from one too large to be looked at. -/
def takeCode (width : Nat) (cursor : Cursor) : Except Flaw (Char × Cursor) :=
  let digits := cursor.rest.take width
  match hexNumber? digits with
  | some code =>
    if digits.length < width then .error .malformed
    else if 0xD800 ≤ code && code ≤ 0xDFFF then .ok (Char.ofNat 0xFFFD, cursor.advance width)
    else if code < 0x110000 then .ok (Char.ofNat code, cursor.advance width)
    else if code ≤ 0x7FFFFFFF then .error .characterCode
    else .error .overlongCode
  | none => .error .malformed

def takeEscape (cursor : Cursor) : Except Flaw (List Char × Cursor) :=
  match shortEscape? cursor.here, codeEscapeWidth? cursor.here with
  | some code, _ => .ok ([Char.ofNat code], cursor.step)
  | none, some width => (takeCode width cursor.step).map fun read => ([read.1], read.2)
  | none, none =>
    if isBreak cursor.here then takeFlowBreaks (cursor.rest.length + 1) [] cursor.takeBreak.2
    else .error .malformed

/-- Reads the blanks of a quoted scalar. One line end is folded to a blank. -/
def takeQuotedSpaces (cursor : Cursor) : Except Flaw (List Char × Cursor) :=
  let (spaces, afterSpaces) := cursor.takeWhile isSpace
  if afterSpaces.here = endMark then .error .malformed
  else if isBreak afterSpaces.here then do
    let (lineEnd, next) := afterSpaces.takeBreak
    let (breaks, final) ← takeFlowBreaks (next.rest.length + 1) [] next
    let joint := if lineEnd ≠ ['\n'] then lineEnd else if breaks.isEmpty then [' '] else []
    .ok (joint ++ breaks, final)
  else .ok (spaces, afterSpaces)

def takeQuoted (quote : Char) : (fuel : Nat) → (text : List Char) → Cursor →
    Except Flaw (List Char × Cursor)
  | 0, _, _ => .error .malformed
  | fuel + 1, text, cursor =>
    let character := cursor.here
    if character = quote then
      if quote = '\'' && cursor.peek 1 = '\'' then
        takeQuoted quote fuel (text ++ ['\'']) (cursor.advance 2)
      else .ok (text, cursor.step)
    else if quote = '"' && character = '\\' then do
      let (escaped, next) ← takeEscape cursor.step
      takeQuoted quote fuel (text ++ escaped) next
    else if isSpaceOrEnd character then do
      let (spaces, next) ← takeQuotedSpaces cursor
      takeQuoted quote fuel (text ++ spaces) next
    else takeQuoted quote fuel (text ++ [character]) cursor.step

def takeQuotedScalar (cursor : Cursor) : Except Flaw (String × Cursor) :=
  (takeQuoted cursor.here (cursor.rest.length + 1) [] cursor.step).map fun read =>
    (String.ofList read.1, read.2)

/-! ### Plain scalars -/

def isFlowMark (character : Char) : Bool :=
  character = ',' || character = '[' || character = ']' || character = '\x7b' ||
    character = '\x7d'

/-- Does a colon end a plain scalar, given the character after it? -/
def endsKey (inFlow : Bool) (following : Char) : Bool :=
  isSpaceOrEnd following || (inFlow && isFlowMark following)

/-- The characters at the front of a text that belong to one run of a plain scalar. -/
def plainRun (inFlow : Bool) : List Char → List Char
  | [] => []
  | character :: rest =>
    if isSpaceOrEnd character || (character = ':' && endsKey inFlow (rest.head?.getD endMark)) ||
        (inFlow && (isFlowMark character || character = '?')) then []
    else character :: plainRun inFlow rest

/-- Passes empty lines between the lines of a plain scalar; nothing if a separator follows. -/
def takePlainBreaks : (fuel : Nat) → (breaks : List Char) → Cursor → Option (List Char) × Cursor
  | 0, breaks, cursor => (some breaks, cursor)
  | fuel + 1, breaks, cursor =>
    if cursor.here = ' ' then takePlainBreaks fuel breaks cursor.step
    else if isBreak cursor.here then
      let (lineEnd, next) := cursor.takeBreak
      if next.standsSeparator then (none, next)
      else takePlainBreaks fuel (breaks ++ lineEnd) next
    else (some breaks, cursor)

/-- Reads what stands between two runs of a plain scalar. Also tells whether a line ended. -/
def takePlainSpaces (cursor : Cursor) : List Char × Bool × Cursor :=
  let (spaces, afterSpaces) := cursor.takeWhile (· = ' ')
  if isBreak afterSpaces.here then
    let (lineEnd, next) := afterSpaces.takeBreak
    if next.standsSeparator then ([], true, next)
    else
      match takePlainBreaks (next.rest.length + 1) [] next with
      | (none, final) => ([], true, final)
      | (some breaks, final) =>
        let joint := if lineEnd ≠ ['\n'] then lineEnd else if breaks.isEmpty then [' '] else []
        (joint ++ breaks, true, final)
  else (spaces, false, afterSpaces)

/-- Reads a plain scalar: its runs at column `indent` or further, joined by what stands between.
Also tells whether a line ended last. -/
def takePlain (inFlow : Bool) (indent : Int) :
    (fuel : Nat) → (text spaces : List Char) → (ended : Bool) → Cursor → List Char × Bool × Cursor
  | 0, text, _, ended, cursor => (text, ended, cursor)
  | fuel + 1, text, spaces, ended, cursor =>
    let run := plainRun inFlow cursor.rest
    if cursor.here = '#' || run.isEmpty then (text, ended, cursor)
    else
      let joined := text ++ spaces ++ run
      let (next, lineEnded, final) := takePlainSpaces (cursor.advance run.length)
      if next.isEmpty || final.here = '#' || (!inFlow && (final.column : Int) < indent) then
        (joined, lineEnded, final)
      else takePlain inFlow indent fuel joined next lineEnded final

/-! ### Names and tags -/

def takeAnchorName (cursor : Cursor) : Except Flaw (String × Cursor) :=
  let (name, next) := cursor.step.takeWhile isNameCharacter
  let following := next.here
  if name.isEmpty then .error .malformed
  else if isSpaceOrEnd following || "?:,]\x7d%@`".toList.contains following then
    .ok (String.ofList name, next)
  else .error .malformed

def takeEscapedBytes : (fuel : Nat) → Cursor → Except Flaw (List UInt8 × Cursor)
  | 0, cursor => .ok ([], cursor)
  | fuel + 1, cursor =>
    if cursor.here ≠ '%' then .ok ([], cursor)
    else
      match hexValue? (cursor.peek 1), hexValue? (cursor.peek 2) with
      | some high, some low =>
        (takeEscapedBytes fuel (cursor.advance 3)).map fun read =>
          (UInt8.ofNat (16 * high + low) :: read.1, read.2)
      | _, _ => .error .malformed

def isTagCharacter (character : Char) : Bool :=
  character.isAlphanum || "-;/?:@&=+$,_.!~*'()[]%".toList.contains character

def takeTagText : (fuel : Nat) → (text : List Char) → Cursor → Except Flaw (List Char × Cursor)
  | 0, text, cursor => .ok (text, cursor)
  | fuel + 1, text, cursor =>
    if cursor.here = '%' then do
      let (bytes, next) ← takeEscapedBytes (cursor.rest.length + 1) cursor
      match Utf8.decode bytes with
      | .ok decoded => takeTagText fuel (text ++ decoded.toList) next
      | .error _ => .error .malformed
    else if isTagCharacter cursor.here then takeTagText fuel (text ++ [cursor.here]) cursor.step
    else .ok (text, cursor)

def takeTagSuffix (cursor : Cursor) : Except Flaw (String × Cursor) := do
  let (text, next) ← takeTagText (cursor.rest.length + 1) [] cursor
  if text.isEmpty then .error .malformed else .ok (String.ofList text, next)

def takeTagHandle (cursor : Cursor) : Except Flaw (String × Cursor) :=
  if cursor.here ≠ '!' then .error .malformed
  else if cursor.peek 1 = ' ' then .ok ("!", cursor.step)
  else
    let (name, next) := cursor.step.takeWhile isNameCharacter
    if next.here = '!' then .ok (String.ofList ('!' :: name ++ ['!']), next.step)
    else .error .malformed

def takeTag (cursor : Cursor) : Except Flaw (Token × Cursor) := do
  let following := cursor.peek 1
  let (token, next) ←
    if following = '<' then do
      let (suffix, next) ← takeTagSuffix (cursor.advance 2)
      if next.here = '>' then .ok (Token.tag none suffix, next.step) else .error .malformed
    else if isSpaceOrEnd following then .ok (Token.tag none "!", cursor.step)
    else if (cursor.step.rest.takeWhile fun other => !isBlankOrEnd other).contains '!' then do
      let (handle, afterHandle) ← takeTagHandle cursor
      let (suffix, next) ← takeTagSuffix afterHandle
      .ok (Token.tag (some handle) suffix, next)
    else do
      let (suffix, next) ← takeTagSuffix cursor.step
      .ok (Token.tag (some "!") suffix, next)
  if isBlankOrEnd next.here then .ok (token, next) else .error .malformed

/-! ### Directives -/

def smallNumber (digits : List Char) : Nat :=
  digits.foldl (fun total digit => 10 * total + (digit.toNat - 48)) 0

def takeNumber (cursor : Cursor) : Except Flaw (Nat × Cursor) :=
  let (digits, next) := cursor.takeWhile Char.isDigit
  if digits.isEmpty then .error .malformed
  else if digits.length > Number.digitLimit then .error (.integerTooLong digits.length)
  else .ok (smallNumber digits, next)

def takeVersion (cursor : Cursor) : Except Flaw (Token × Cursor) := do
  let (major, afterMajor) ← takeNumber cursor.skipSpaces
  if afterMajor.here ≠ '.' then .error .malformed
  else do
    let (_, final) ← takeNumber afterMajor.step
    if isBlankOrEnd final.here then .ok (.version major, final) else .error .malformed

def takeTagDirective (cursor : Cursor) : Except Flaw (Token × Cursor) := do
  let (handle, afterHandle) ← takeTagHandle cursor.skipSpaces
  if afterHandle.here ≠ ' ' then .error .malformed
  else do
    let (stem, final) ← takeTagSuffix afterHandle.skipSpaces
    if isBlankOrEnd final.here then .ok (.tagDirective handle stem, final) else .error .malformed

def takeDirective (cursor : Cursor) : Except Flaw (Token × Cursor) := do
  let (name, afterName) := cursor.step.takeWhile isNameCharacter
  if name.isEmpty || !isBlankOrEnd afterName.here then .error .malformed
  else do
    let (token, afterValue) ←
      if String.ofList name = "YAML" then takeVersion afterName
      else if String.ofList name = "TAG" then takeTagDirective afterName
      else .ok (.otherDirective, afterName.skipWhile fun character => !endsLine character)
    let final ← skipRestOfLine afterValue
    .ok (token, final)

end ImportPlanning.Yaml
