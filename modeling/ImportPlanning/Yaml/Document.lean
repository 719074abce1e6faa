/-
The values of YAML documents. Collections are built level by level: a scalar is read where it is met,
and what stands in a collection only after everything that stands beside it. So the flaw that a
document is refused for is the first one in this order. Merge keys bring in the entries of other
mappings, which those written directly override. A document without content is null.
-/
import ImportPlanning.Text.Casing
import ImportPlanning.Text.Hex
import ImportPlanning.Text.Quoted
import ImportPlanning.Value.Display
import ImportPlanning.Value.Entries
import ImportPlanning.Yaml.Lexer
import ImportPlanning.Yaml.Node
import ImportPlanning.Yaml.Tag

namespace ImportPlanning.Yaml

open ImportPlanning.Text

/-! ### Numbers -/

def digitOf? (character : Char) : Option Nat :=
  match digitValue? character with
  | some value => some value
  | none => hexValue? character

def baseLetter? : Nat → Option Char
  | 2 => some 'b'
  | 8 => some 'o'
  | 16 => some 'x'
  | _ => none

def dropBaseMark (base : Nat) (characters : List Char) : List Char :=
  match characters with
  | '0' :: letter :: rest => if baseLetter? base = some letter.toLower then rest else characters
  | _ => characters

def basedNumber? (base : Nat) (digits : List Char) : Option Nat :=
  if digits.isEmpty then none
  else
    digits.foldl (fun total character =>
      total.bind fun sum =>
        (digitOf? character).bind fun digit =>
          if digit < base then some (base * sum + digit) else none) (some 0)

def readBased (base : Nat) (characters : List Char) : Except Flaw Int :=
  let (negative, body) := Number.takeSign (trimWhere Number.isNumberBlank characters)
  match basedNumber? base (dropBaseMark base body) with
  | some number => .ok (Number.signed negative number)
  | none => .error (.badInteger base (String.ofList characters))

def readDecimal (characters : List Char) : Except Flaw Int :=
  match Number.readInteger (String.ofList characters) with
  | .ok number => .ok number
  | .error .notANumber => .error (.badInteger 10 (String.ofList characters))
  | .error (.tooManyDigits count) => .error (.integerTooLong count)

def takeNumberSign (characters : List Char) : Except Flaw (Bool × List Char) :=
  if characters.isEmpty then .error .emptyNumber else .ok (Number.takeSign characters)

def readInteger (text : String) : Except Flaw Int := do
  let (negative, body) ← takeNumberSign (text.toList.filter (· ≠ '_'))
  let magnitude ←
    match body with
    | [] => .error .emptyNumber
    | ['0'] => .ok 0
    | '0' :: 'b' :: digits => readBased 2 digits
    | '0' :: 'x' :: digits => readBased 16 digits
    | '0' :: _ => readBased 8 body
    | _ =>
      if body.contains ':' then do
        let parts ← (fields ':' body).mapM readDecimal
        .ok (parts.foldl (fun total part => 60 * total + part) 0)
      else readDecimal body
  .ok (if negative then -magnitude else magnitude)

def readFloatPart (characters : List Char) : Except Flaw Float :=
  match Number.readFloat? (String.ofList characters) with
  | some number => .ok number
  | none => .error (.badFloat (String.ofList characters))

/-- The number of places in base sixty whose weights are floating-point numbers. -/
def sexagesimalPlaces : Nat := 174

def sexagesimalSum (parts : List Float) : Except Flaw Float :=
  if parts.length ≤ sexagesimalPlaces then
    .ok (parts.foldr (fun part (sum, place) =>
      (sum + part * Float.ofNat (Nat.pow 60 place), place + 1)) (0.0, 0)).1
  else .error .overlongBase

def readFloat (text : String) : Except Flaw Float := do
  let kept := (lower (String.ofList (text.toList.filter (· ≠ '_')))).toList
  let (negative, body) ← takeNumberSign kept
  let magnitude ←
    if String.ofList body = ".inf" then .ok Number.infinity
    else if String.ofList body = ".nan" then .ok Number.notANumber
    else if body.contains ':' then do
      let parts ← (fields ':' body).mapM readFloatPart
      sexagesimalSum parts
    else readFloatPart body
  .ok (if negative then -magnitude else magnitude)

/-! ### Times -/

def checkDate (date : Date) : Except Flaw Date :=
  if date.year = 0 then .error (.yearOutOfRange date.year)
  else if date.month = 0 || 12 < date.month then .error .monthOutOfRange
  else if date.day = 0 || Date.monthLength date.year date.month < date.day then
    .error .dayOutOfRange
  else .ok date

def checkTime (time : TimeOfDay) : Except Flaw TimeOfDay :=
  if 23 < time.hour then .error .hourOutOfRange
  else if 59 < time.minute then .error .minuteOutOfRange
  else if 59 < time.second then .error .secondOutOfRange
  else .ok time

/-- The offset of a written zone; it must be shorter than a day. -/
def offsetOf (zone : Option (Option (Char × List Char × List Char))) :
    Except Flaw (Option Duration) :=
  match zone with
  | none => .ok none
  | some none => .ok (some ⟨0⟩)
  | some (some (sign, hour, minute)) =>
    let size := Duration.ofParts 0 (smallNumber hour * 3600 + smallNumber minute * 60) 0
    let offset : Duration := if sign = '-' then ⟨-size.microseconds⟩ else size
    if size.microseconds < Duration.dayLength then .ok (some offset)
    else .error (.offsetOutOfRange offset)

/-- The microseconds that the digits of a fraction write, six of which count. -/
def microsecondsOf (fraction : List Char) : Nat :=
  let digits := fraction.take 6
  smallNumber (digits ++ List.replicate (6 - digits.length) '0')

def readStamp (text : String) : Except Flaw Value :=
  match WrittenStamp.read? (dropLineEnd text.toList) with
  | none => .error .badTimestamp
  | some stamp =>
    let date : Date := ⟨smallNumber stamp.year, smallNumber stamp.month, smallNumber stamp.day⟩
    match stamp.time with
    | none => (checkDate date).map .date
    | some written => do
      let offset ← offsetOf written.zone
      let checked ← checkDate date
      let time ← checkTime
        { hour := smallNumber written.hour
          minute := smallNumber written.minute
          second := smallNumber written.second
          microsecond := microsecondsOf written.fraction
          offset }
      .ok (.moment ⟨checked, time⟩)

/-! ### Binary data -/

def sixBits? (character : Char) : Option Nat :=
  if 'A' ≤ character && character ≤ 'Z' then some (character.toNat - 65)
  else if 'a' ≤ character && character ≤ 'z' then some (character.toNat - 71)
  else if '0' ≤ character && character ≤ '9' then some (character.toNat + 4)
  else if character = '+' then some 62
  else if character = '/' then some 63
  else none

/-- Reads groups of four characters. `held` are the bits of the group so far, `count` its characters
and `pads` the equals signs met. Other characters are passed over. A group that is cut short by
equals signs ends the data. -/
def readGroups : (held count pads : Nat) → List Char → Option (List UInt8)
  | _, count, _, [] => if count = 0 then some [] else none
  | held, count, pads, character :: rest =>
    if character = '=' then
      if 2 ≤ count && 4 ≤ count + (pads + 1) then some []
      else readGroups held count (if 2 ≤ count then pads + 1 else pads) rest
    else
      match sixBits? character with
      | none => readGroups held count pads rest
      | some bits =>
        let sum := 64 * held + bits
        match count with
        | 0 => readGroups bits 1 0 rest
        | 1 => (readGroups (sum % 16) 2 0 rest).map (UInt8.ofNat (sum / 16) :: ·)
        | 2 => (readGroups (sum % 4) 3 0 rest).map (UInt8.ofNat (sum / 4) :: ·)
        | _ => (readGroups 0 0 0 rest).map (UInt8.ofNat sum :: ·)

def readBinary (text : String) : Except Flaw Value :=
  if text.toList.all fun character => character.toNat < 0x80 then
    match readGroups 0 0 0 text.toList with
    | some bytes => .ok (.binary .bytes bytes)
    | none => .error .malformed
  else .error .malformed

/-! ### Scalars -/

def valueOfText (tag : CoreTag) (text : String) : Except Flaw Value :=
  match tag with
  | .null => .ok .null
  | .bool =>
    match booleanWords.lookup (lower text) with
    | some value => .ok (.boolean value)
    | none => .error (.badBoolean (lower text))
  | .int => (readInteger text).map .integer
  | .float => (readFloat text).map .float
  | .binary => readBinary text
  | .timestamp => readStamp text
  | .str => .ok (.text text)
  | _ => .error .malformed

def nodeAt (nodes : Array Node) (number : Nat) : Node :=
  nodes[number]?.getD .absent

/-- The text of a node that is asked for a scalar: of a mapping, that of its value entry. -/
def scalarText? (nodes : Array Node) : (fuel number : Nat) → Option String
  | 0, _ => none
  | fuel + 1, number =>
    match (nodeAt nodes number).content with
    | .scalar text => some text
    | .sequence _ => none
    | .mapping entries =>
      (entries.find? fun entry => (nodeAt nodes entry.1).tag = some .value).bind fun entry =>
        scalarText? nodes fuel entry.2

/-- The value of a node that is no collection under its tag. A time is looked for in the node itself,
so that a mapping has none even if it has a text. -/
def scalarValue (nodes : Array Node) (number : Nat) (tag : CoreTag) : Except Flaw Value :=
  match scalarText? nodes nodes.size number, (nodeAt nodes number).content with
  | none, _ => .error .malformed
  | some text, .scalar _ => valueOfText tag text
  | some text, _ => if tag = .timestamp then .error .timestampOfMapping else valueOfText tag text

/-! ### Building -/

/-- What is built of a node. What stands in a collection is given by its numbers. -/
inductive Built where
  | scalar (value : Value)
  | list (items : List Nat)
  | pairs (entries : List (Nat × Nat))
  | mapping (entries : List (Nat × Nat))
  | set (entries : List (Nat × Nat))
  deriving Repr

/-- The nodes of a document, those met so far, what is built of them, and the collections among them
that wait for their content to be met. An alias stands for the very node, so what is changed in a node
is changed wherever it stands. -/
structure Building where
  nodes : Array Node
  met : List Nat
  built : List (Nat × Built)
  waiting : List Nat
  deriving Repr

abbrev BuildingM := StateT Building (Except Flaw)

namespace BuildingM

def node (number : Nat) : BuildingM Node :=
  return nodeAt (← get).nodes number

def change (number : Nat) (changed : Node → Node) : BuildingM Unit :=
  modify fun building => { building with nodes := building.nodes.modify number changed }

def finish (number : Nat) (built : Built) : BuildingM Unit :=
  modify fun building => { building with built := (number, built) :: building.built }

def mergeSources (number : Nat) : BuildingM (List Nat) := do
  match (← node number).content with
  | .mapping _ => return [number]
  | .sequence items => return items
  | .scalar _ => throw .malformed

/-- Takes the merge keys out of a mapping and puts the entries that they bring in before the others,
those of a sequence's last mapping first. A key that marks a value entry reads as text from here on. -/
def resolveMerges : (fuel number : Nat) → BuildingM (List (Nat × Nat))
  | 0, _ => throw .malformed
  | fuel + 1, number => do
    match (← node number).content with
    | .mapping entries =>
      let sorted ← entries.mapM fun entry => do
        match (← node entry.1).tag with
        | some .merge =>
          let sources ← mergeSources entry.2
          let groups ← sources.mapM (resolveMerges fuel)
          return (groups.reverse.flatten, [])
        | some .value =>
          change entry.1 fun key => { key with tag := some .str }
          return ([], [entry])
        | _ => return ([], [entry])
      let resolved := sorted.flatMap Prod.fst ++ sorted.flatMap Prod.snd
      change number fun mapping => { mapping with content := .mapping resolved }
      return resolved
    | _ => throw .malformed

end BuildingM

open BuildingM

def CoreTag.isCollection : CoreTag → Bool
  | seq => true
  | map => true
  | set => true
  | orderedMap => true
  | pairs => true
  | _ => false

/-- Meets a node: a scalar is read, and a collection waits for its turn. -/
def meet (number : Nat) : BuildingM Unit := do
  if (← get).met.contains number then return ()
  match (← node number).tag with
  | none => throw .malformed
  | some tag =>
    modify fun building => { building with met := number :: building.met }
    if tag.isCollection then
      modify fun building => { building with waiting := building.waiting ++ [number] }
    else
      finish number (.scalar (← scalarValue (← get).nodes number tag))

/-- Meets the key of an entry. A collection is not fit for one. -/
def meetKey (number : Nat) : BuildingM Unit := do
  meet number
  match (← get).built.lookup number with
  | some (.scalar _) => return ()
  | _ => throw .malformed

def meetEntries (number : Nat) : BuildingM (List (Nat × Nat)) := do
  let entries ← resolveMerges (number + 1) number
  for (key, content) in entries do
    meetKey key
    meet content
  return entries

def meetPairs (items : List Nat) : BuildingM (List (Nat × Nat)) :=
  items.mapM fun item => do
    match (← node item).content with
    | .mapping [(key, content)] =>
      meet key
      meet content
      return (key, content)
    | _ => throw .malformed

def meetContent (number : Nat) : BuildingM Unit := do
  let collection ← node number
  match collection.tag, collection.content with
  | some .seq, .sequence items =>
    items.forM meet
    finish number (.list items)
  | some .orderedMap, .sequence items => finish number (.pairs (← meetPairs items))
  | some .pairs, .sequence items => finish number (.pairs (← meetPairs items))
  | some .map, .mapping _ => finish number (.mapping (← meetEntries number))
  | some .set, .mapping _ => finish number (.set (← meetEntries number))
  | _, _ => throw .malformed

/-- Meets what stands in the collections that wait. Each waits once, so the fuel is their number. -/
def meetWaiting : (fuel : Nat) → BuildingM Unit
  | 0 => return ()
  | fuel + 1 => do
    match (← get).waiting with
    | [] => return ()
    | number :: others =>
      modify fun building => { building with waiting := others }
      meetContent number
      meetWaiting fuel

/-! ### Values -/

/-- The value of a node that is built. The numbers in a collection are below its own. -/
def valueAt (built : List (Nat × Built)) : (fuel number : Nat) → Value
  | 0, _ => .null
  | fuel + 1, number =>
    match built.lookup number with
    | none => .null
    | some (.scalar value) => value
    | some (.list items) => .list (items.map (valueAt built fuel))
    | some (.pairs entries) =>
      .list (entries.map fun (key, content) =>
        .tuple [valueAt built fuel key, valueAt built fuel content])
    | some (.mapping entries) =>
      .mapping (Entries.ofList (entries.map fun (key, content) =>
        (valueAt built fuel key, valueAt built fuel content)))
    | some (.set entries) =>
      .set ((Entries.ofList (entries.map fun (key, _) =>
        (valueAt built fuel key, .null))).map Prod.fst)

def Document.value (document : Document) : Except Flaw Value := do
  let ((), final) ← (meet document.root *> meetWaiting document.nodes.size).run
    ⟨document.nodes, [], [], []⟩
  .ok (valueAt final.built final.nodes.size document.root)

def read (text : String) : Except Flaw Value := do
  match ← Document.ofTokens (Token.ofText text) with
  | none => .ok .null
  | some document => document.value

end ImportPlanning.Yaml
