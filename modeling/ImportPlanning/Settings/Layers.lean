/-
Layers of settings: a section of a file, the variables of the environment under a common name, the
entries given by the caller, and overrides. A later layer wins over an earlier one, key by key.
-/
import ImportPlanning.Redaction
import ImportPlanning.Settings.Files

namespace ImportPlanning

open ImportPlanning.Text

namespace Layers

open LoadingM

/-! ### The environment -/

/-- What the names of a group of variables begin with: the name of the group in upper case, and a
low line. -/
def variableStem (group : String) : String :=
  upper group ++ "_"

def keyOfVariable? (stem name : String) : Option String :=
  if stem.toList.isPrefixOf name.toList then
    some (lower (String.ofList (name.toList.drop stem.length)))
  else none

def entryOfVariable? (stem : String) (setting : String × String) : Option (Value × Value) :=
  (keyOfVariable? stem setting.1).map fun key => (.text key, .text setting.2)

def ofEnvironment (group : String) (environment : Environment) : Entries :=
  Entries.ofList (environment.filterMap (entryOfVariable? (variableStem group)))

def readEnvironment (surroundings : Surroundings) (group : Option String) : LoadingM Entries :=
  match group.filter fun name => !name.isEmpty with
  | none => pure []
  | some name => do
    let entries := ofEnvironment name surroundings.environment
    note .info ConfigFile.logger
      ("Loaded " ++ toString entries.length ++ " config keys from environment prefix " ++
        variableStem name)
    return entries

/-! ### Sections of a file -/

/-- The section of a file's entries. A section that is missing or counts as empty has no entries. -/
def sectionOf (name : Option String) (entries : Entries) : Except FileObstacle Entries :=
  match name with
  | none => .ok entries
  | some key =>
    let value := Entries.get key entries
    if value.isTruthy then ConfigFile.rootEntries value else .ok []

def readSection (surroundings : Surroundings) (path name : Option String) : LoadingM Entries := do
  let entries ← ConfigFile.read surroundings path
  ConfigFile.ofFile (sectionOf name entries)

/-! ### Entries given by the caller -/

mutual

def unhashableKind? : Value → Option String
  | .tuple items => firstUnhashableKind? items
  | value => if value.isHashable then none else some value.fullKindName

def firstUnhashableKind? : List Value → Option String
  | [] => none
  | item :: items => (unhashableKind? item).or (firstUnhashableKind? items)

end

def itemsOf? : Value → Option (List Value)
  | .text value => some (value.toList.map fun character => .text (String.singleton character))
  | .binary _ bytes => some (bytes.map fun byte => .integer byte.toNat)
  | .list items => some items
  | .tuple items => some items
  | .set items => some items
  | .mapping entries => some (entries.map Prod.fst)
  | _ => none

/-- The entry that an item stands for: its two items are key and value. -/
def entryOfItem (index : Nat) (item : Value) : Except OverlayObstacle (Value × Value) :=
  match itemsOf? item with
  | none => .error (.itemNotIterable index)
  | some [key, value] =>
    match unhashableKind? key with
    | none => .ok (key, value)
    | some kind => .error (.unhashableKey kind)
  | some items => .error (.itemLength index items.length)

def entriesOfItems (index : Nat) : List Value → Except OverlayObstacle Entries
  | [] => .ok []
  | item :: items => do
    let entry ← entryOfItem index item
    let entries ← entriesOfItems (index + 1) items
    .ok (entry :: entries)

/-- The entries that a value stands for: those of a mapping, or the pairs that it holds. -/
def entriesOf : Value → Except OverlayObstacle Entries
  | .mapping entries => .ok entries
  | value =>
    match itemsOf? value with
    | some items => entriesOfItems 0 items
    | none => .error (.notIterable value.fullKindName)

def givenEntries (value : Value) : Except OverlayObstacle Entries :=
  if value.isTruthy then entriesOf value else .ok []

/-- The entries of a mapping that may be missing; `operation` is what is asked of it. -/
def optionalMapping (operation : String) (value : Value) : Except Failure Entries :=
  if value.isTruthy then
    match value with
    | .mapping entries => .ok entries
    | other => .error (.noEntries other.fullKindName operation)
  else .ok []

def withoutNulls (entries : Entries) : Entries :=
  entries.filter fun entry => !entry.2.isNull

/-- The overrides: null entries override nothing. -/
def overrideEntries (value : Value) : Except Failure Entries :=
  (optionalMapping "items" value).map withoutNulls

/-! ### Merging -/

def merge (layers : List Entries) : Entries :=
  layers.foldl Entries.overlay []

def ofOverlay {α : Type} (result : Except OverlayObstacle α) : Except Failure α :=
  result.mapError .overlay

def shownOption (setting : Option String) : String :=
  setting.getD "None"

structure ConnectionRequest where
  explicit : Value
  path : Option String
  part : Option String
  group : Option String
  overrides : Value
  deriving Repr

def ConnectionRequest.announcement (request : ConnectionRequest) : String :=
  "Loading connection config with env_prefix=" ++ shownOption request.group ++ ", file_path=" ++
    shownOption request.path ++ ", section=" ++ shownOption request.part

/-- Resolves the settings of a connection from their layers: file, environment, the caller's
entries, and overrides. The environment is read before the file. -/
def loadConnection (surroundings : Surroundings) (request : ConnectionRequest) :
    LoadingM Entries := do
  note .info ConfigFile.logger request.announcement
  let fromEnvironment ← readEnvironment surroundings request.group
  let fromFile ← readSection surroundings request.path request.part
  let overrides ← ofExcept (overrideEntries request.overrides)
  let explicit ← ofExcept (ofOverlay (givenEntries request.explicit))
  let layers := [fromFile, fromEnvironment, explicit, overrides]
  let merged := merge layers
  note .debug ConfigFile.logger ("Merged " ++ toString layers.length ++ " config layers")
  let redacted ← ofExcept (redact merged)
  note .info ConfigFile.logger
    ("Connection config resolved: " ++ (Value.mapping redacted).shown)
  return merged

end Layers
end ImportPlanning
