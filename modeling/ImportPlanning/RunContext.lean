/-
The run context: a store from which later stages read what planning found out. A key is written once
and keeps its value; values are texts, null included, and integers.
-/
import ImportPlanning.Redaction

namespace ImportPlanning

structure RunContext where
  entries : Entries
  deriving Repr

namespace RunContext

def empty : RunContext := ⟨[]⟩

def ofEntries (entries : Entries) : RunContext := ⟨Entries.ofList entries⟩

def size (context : RunContext) : Nat := context.entries.length

/-- Is the key set? A key that is set to null is set. -/
def contains (key : String) (context : RunContext) : Bool :=
  Entries.holds (.text key) context.entries

/-- Sets a key that is not set yet; its entry is added at the end. -/
def set (key : String) (value : Value) (context : RunContext) : Except Failure RunContext :=
  if context.contains key then .error (.keyTaken key)
  else .ok ⟨context.entries ++ [(.text key, value)]⟩

/-- Sets a key to a text or to null. The kind of the value is checked before the key. -/
def setText (key : String) (value : Value) (context : RunContext) : Except Failure RunContext :=
  match value with
  | .null => context.set key value
  | .text _ => context.set key value
  | other => .error (.notText key other.kindName)

def setInteger (key : String) (value : Value) (context : RunContext) : Except Failure RunContext :=
  match value with
  | .integer _ => context.set key value
  | other => .error (.notInteger key other.kindName)

def get (key : String) (fallback : Value) (context : RunContext) : Value :=
  (Entries.find? (.text key) context.entries).getD fallback

/-- The plain text of a value, unless an integer in it is too long. -/
def plainText (value : Value) : Except Failure String :=
  if value.isOverlong then .error .overlongInteger else .ok value.plain

def getText (key : String) (fallback : Value) (context : RunContext) :
    Except Failure (Option String) :=
  match context.get key fallback with
  | .null => .ok none
  | value => (plainText value).map some

def getInteger (key : String) (fallback : Value) (context : RunContext) :
    Except Failure (Option Int) :=
  match context.get key fallback with
  | .null => .ok none
  | value =>
    match value.toInteger with
    | .ok number => .ok (some number)
    | .error obstacle => .error (.noInteger obstacle)

def redacted (context : RunContext) : Except Failure Entries :=
  redact context.entries

def shown (context : RunContext) : Except Failure String := do
  let entries ← context.redacted
  let body ← plainText (.mapping entries)
  .ok ("RunContext(" ++ body ++ ")")

end RunContext
end ImportPlanning
