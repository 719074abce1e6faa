/-
The nodes of a YAML document: scalars, sequences and mappings, each with its tag. They are read from
tokens and numbered in the order in which they are complete, and a node gives those in it by their
numbers. An alias gives the node with its anchor, which must be complete: a document that holds itself
is left open.
-/
import ImportPlanning.Yaml.Tag

namespace ImportPlanning.Yaml

/-! ### Nodes -/

inductive Content where
  | scalar (text : String)
  | sequence (items : List Nat)
  | mapping (entries : List (Nat × Nat))
  deriving Repr, Inhabited

/-- A node. It has no core tag if another tag is written. -/
structure Node where
  tag : Option CoreTag
  content : Content
  deriving Repr, Inhabited

/-- The core tag of a node with a written tag. A tag of one mark leaves the choice open. -/
def chosenTag (written : Option String) (implied : CoreTag) : Option CoreTag :=
  match written with
  | none => some implied
  | some name => if name = "!" then some implied else CoreTag.ofName? name

namespace Node

/-- A scalar. It may take its tag from its text if it is plain, or if the choice is left open. -/
def ofScalar (written : Option String) (isPlain : Bool) (text : String) : Node :=
  ⟨chosenTag written (if isPlain || written = some "!" then impliedTag text else .str), .scalar text⟩

def ofSequence (written : Option String) (items : List Nat) : Node :=
  ⟨chosenTag written .seq, .sequence items⟩

def ofMapping (written : Option String) (entries : List (Nat × Nat)) : Node :=
  ⟨chosenTag written .map, .mapping entries⟩

def absent : Node := ofScalar none true ""

end Node

structure Document where
  nodes : Array Node
  root : Nat
  deriving Repr

/-! ### Reading from tokens -/

/-- The tokens that are left, the handles of tags, the nodes that are complete, and the anchors met
with the numbers of their nodes once these are complete. -/
structure Reading where
  tokens : List Token
  handles : List (String × String)
  nodes : Array Node
  anchors : List (String × Option Nat)
  deriving Repr

def nextToken (tokens : List Token) : Except Flaw Token :=
  match tokens.head? with
  | some (.flawed flaw) => .error flaw
  | some token => .ok token
  | none => .ok .streamEnd

abbrev ReadingM := StateT Reading (Except Flaw)

namespace ReadingM

def next : ReadingM Token := do
  nextToken (← get).tokens

def pass : ReadingM Unit :=
  modify fun reading => { reading with tokens := reading.tokens.tail }

def add (node : Node) : ReadingM Nat := do
  let reading ← get
  set { reading with nodes := reading.nodes.push node }
  return reading.nodes.size

def declare (anchor : Option String) : ReadingM Unit := do
  match anchor with
  | none => return ()
  | some name =>
    if ((← get).anchors.lookup name).isSome then throw .malformed
    modify fun reading => { reading with anchors := (name, none) :: reading.anchors }

def define (anchor : Option String) (node : Nat) : ReadingM Unit :=
  match anchor with
  | none => return ()
  | some name =>
    modify fun reading =>
      { reading with
        anchors := (name, some node) :: reading.anchors.filter fun other => other.1 ≠ name }

def referenced (name : String) : ReadingM Nat := do
  match (← get).anchors.lookup name with
  | some (some node) => return node
  | some none => throw .holdsItself
  | none => throw .malformed

def fullTag (handle : Option String) (suffix : String) : ReadingM String := do
  match handle with
  | none => return suffix
  | some name =>
    match (← get).handles.lookup name with
    | some stem => return stem ++ suffix
    | none => throw .malformed

def takeAnchor : ReadingM (Option String) := do
  match ← next with
  | .anchor name =>
    pass
    return some name
  | _ => return none

def takeTag : ReadingM (Option (Option String × String)) := do
  match ← next with
  | .tag handle suffix =>
    pass
    return some (handle, suffix)
  | _ => return none

/-- Takes an anchor and a tag, in either order. The handle of the tag must be known. -/
def takeProperties : ReadingM (Option String × Option String) := do
  let before ← takeAnchor
  let written ← takeTag
  let anchor ← if before.isNone && written.isSome then takeAnchor else pure before
  match written with
  | none => return (anchor, none)
  | some (handle, suffix) => return (anchor, some (← fullTag handle suffix))

end ReadingM

open ReadingM

/-- What may stand where a node is read: flow collections always, block collections if `allowsBlock`
holds, and a sequence without indentation of its own if `allowsBare` holds. -/
structure NodePlace where
  allowsBlock : Bool
  allowsBare : Bool

def NodePlace.flow : NodePlace := ⟨false, false⟩

def NodePlace.block : NodePlace := ⟨true, false⟩

def NodePlace.member : NodePlace := ⟨true, true⟩

/-- Is the token one that follows an omitted key or value of a block mapping? -/
def endsMember : Token → Bool
  | .key => true
  | .value => true
  | .blockEnd => true
  | _ => false

def endsEntry : Token → Bool
  | .blockEntry => true
  | .blockEnd => true
  | _ => false

/-- Is the token one that follows an omitted key of a flow collection closed by `close`? -/
def endsFlowKey (close : Token) (token : Token) : Bool :=
  token = .value || token = .flowEntry || token = close

def endsFlowValue (close : Token) (token : Token) : Bool :=
  token = .flowEntry || token = close

/-- A node of which only anchor or tag is written. -/
def emptyNode (anchor tag : Option String) : ReadingM Node :=
  if anchor.isNone && tag.isNone then throw .malformed else return .ofScalar tag tag.isNone ""

def passFlowEntry (isFirst : Bool) : ReadingM Unit := do
  if isFirst then return ()
  if (← next) = .flowEntry then pass else throw .malformed

mutual

/-- Reads a node and gives its number. The fuel bounds the number of tokens read and of nodes left
out. -/
def readNode : (fuel : Nat) → NodePlace → ReadingM Nat
  | 0, _ => throw .malformed
  | fuel + 1, place => do
    match ← next with
    | .reference name =>
      pass
      referenced name
    | _ =>
      let (anchor, tag) ← takeProperties
      let first ← next
      -- an alias to the anchor leads back until the node is complete
      declare anchor
      let node ← readContent fuel place anchor tag first
      let number ← add node
      define anchor number
      return number

def readContent : (fuel : Nat) → NodePlace → (anchor tag : Option String) → Token → ReadingM Node
  | 0, _, _, _, _ => throw .malformed
  | fuel + 1, place, anchor, tag, first =>
    match first with
    | .scalar text isPlain => do
      pass
      return .ofScalar tag (isPlain && tag.isNone) text
    | .flowSequenceStart => do
      pass
      return .ofSequence tag (← readFlowItems fuel true)
    | .flowMappingStart => do
      pass
      return .ofMapping tag (← readFlowEntries fuel true)
    | .blockSequenceStart =>
      if place.allowsBlock then do
        pass
        return .ofSequence tag (← readBlockItems fuel)
      else emptyNode anchor tag
    | .blockMappingStart =>
      if place.allowsBlock then do
        pass
        return .ofMapping tag (← readBlockMembers fuel)
      else emptyNode anchor tag
    | .blockEntry =>
      if place.allowsBare then do
        return .ofSequence tag (← readBareItems fuel)
      else emptyNode anchor tag
    | _ => emptyNode anchor tag

def readBlockItems : (fuel : Nat) → ReadingM (List Nat)
  | 0 => throw .malformed
  | fuel + 1 => do
    match ← next with
    | .blockEntry =>
      pass
      let item ← readUnless fuel endsEntry .block
      return item :: (← readBlockItems fuel)
    | .blockEnd =>
      pass
      return []
    | _ => throw .malformed

/-- Reads the entries of a sequence that has no indentation of its own. -/
def readBareItems : (fuel : Nat) → ReadingM (List Nat)
  | 0 => throw .malformed
  | fuel + 1 => do
    match ← next with
    | .blockEntry =>
      pass
      let item ← readUnless fuel (fun token => token = .blockEntry || endsMember token) .block
      return item :: (← readBareItems fuel)
    | _ => return []

def readBlockMembers : (fuel : Nat) → ReadingM (List (Nat × Nat))
  | 0 => throw .malformed
  | fuel + 1 => do
    match ← next with
    | .blockEnd =>
      pass
      return []
    | .key =>
      pass
      let key ← readUnless fuel endsMember .member
      let value ← readValueAfter fuel endsMember .member
      return (key, value) :: (← readBlockMembers fuel)
    | _ => throw .malformed

/-- Reads a node, unless the next token shows that it was left out. -/
def readUnless : (fuel : Nat) → (Token → Bool) → NodePlace → ReadingM Nat
  | 0, _, _ => throw .malformed
  | fuel + 1, isOmitted, place => do
    if isOmitted (← next) then add .absent else readNode fuel place

def readValueAfter : (fuel : Nat) → (Token → Bool) → NodePlace → ReadingM Nat
  | 0, _, _ => throw .malformed
  | fuel + 1, isOmitted, place => do
    if (← next) = .value then
      pass
      readUnless fuel isOmitted place
    else add .absent

/-- Reads the items of a flow sequence up to its end. An item with the mark of a key is a mapping of
one entry. -/
def readFlowItems : (fuel : Nat) → (isFirst : Bool) → ReadingM (List Nat)
  | 0, _ => throw .malformed
  | fuel + 1, isFirst => do
    if (← next) = .flowSequenceEnd then
      pass
      return []
    passFlowEntry isFirst
    match ← next with
    | .flowSequenceEnd =>
      pass
      return []
    | .key =>
      pass
      let key ← readUnless fuel (endsFlowKey .flowSequenceEnd) .flow
      let value ← readValueAfter fuel (endsFlowValue .flowSequenceEnd) .flow
      let item ← add (.ofMapping none [(key, value)])
      return item :: (← readFlowItems fuel false)
    | _ =>
      let item ← readNode fuel .flow
      return item :: (← readFlowItems fuel false)

/-- Reads the entries of a flow mapping up to its end. An entry without the mark of a key is a key
without a value. -/
def readFlowEntries : (fuel : Nat) → (isFirst : Bool) → ReadingM (List (Nat × Nat))
  | 0, _ => throw .malformed
  | fuel + 1, isFirst => do
    if (← next) = .flowMappingEnd then
      pass
      return []
    passFlowEntry isFirst
    match ← next with
    | .flowMappingEnd =>
      pass
      return []
    | .key =>
      pass
      let key ← readUnless fuel (endsFlowKey .flowMappingEnd) .flow
      let value ← readValueAfter fuel (endsFlowValue .flowMappingEnd) .flow
      return (key, value) :: (← readFlowEntries fuel false)
    | _ =>
      let key ← readNode fuel .flow
      let value ← add .absent
      return (key, value) :: (← readFlowEntries fuel false)

end

/-! ### Documents -/

def defaultHandles : List (String × String) :=
  [("!", "!"), ("!!", "tag:yaml.org,2002:")]

/-- Reads the directives before a document: at most one version, which must be of the first
edition, and handles that differ. -/
def readDirectives (hasVersion : Bool) (handles : List (String × String)) :
    List Token → Except Flaw (List (String × String) × List Token)
  | .version major :: rest =>
    if hasVersion || major ≠ 1 then .error .malformed else readDirectives true handles rest
  | .tagDirective handle stem :: rest =>
    if (handles.lookup handle).isSome then .error .malformed
    else readDirectives hasVersion ((handle, stem) :: handles) rest
  | .otherDirective :: rest => readDirectives hasVersion handles rest
  | tokens => .ok (handles, tokens)

def readDocumentStart (tokens : List Token) :
    Except Flaw (List (String × String) × List Token) := do
  let (handles, rest) ← readDirectives false [] tokens
  if (← nextToken rest) = .documentStart then .ok (handles ++ defaultHandles, rest.tail)
  else .error .malformed

def Token.isDirective : Token → Bool
  | .version _ => true
  | .tagDirective _ _ => true
  | .otherDirective => true
  | _ => false

def Token.endsDocument (token : Token) : Bool :=
  token.isDirective || token = .documentStart || token = .documentEnd || token = .streamEnd

/-- Checks that nothing but marks of an end is left. Otherwise another document must start. -/
def checkEnd (tokens : List Token) : Except Flaw Unit := do
  let rest := tokens.dropWhile (· = .documentEnd)
  if (← nextToken rest) = .streamEnd then .ok ()
  else do
    let _ ← readDocumentStart rest
    .error .malformed

def readDocument (handles : List (String × String)) (tokens : List Token) :
    Except Flaw Document := do
  let (root, final) ← (readNode (8 * tokens.length + 8) .block).run ⟨tokens, handles, #[], []⟩
  checkEnd final.tokens
  .ok ⟨final.nodes, root⟩

def Document.ofTokens (tokens : List Token) : Except Flaw (Option Document) := do
  let first ← nextToken tokens
  if first.isDirective || first = .documentStart || first = .streamEnd then
    if first = .streamEnd then .ok none
    else do
      let (handles, content) ← readDocumentStart tokens
      if (← nextToken content).endsDocument then do
        checkEnd content
        .ok (some ⟨#[.absent], 0⟩)
      else (readDocument handles content).map some
  else (readDocument defaultHandles tokens).map some

end ImportPlanning.Yaml
