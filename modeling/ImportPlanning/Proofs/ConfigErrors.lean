/-
What loading a job from a file that exists fails with. A document that cannot be read, a root or a
connection that is no mapping, and values that do not fit the models are refused as it is documented
of a configuration file. Some documents get past that: they have a scalar whose form promises a value
that it does not have, a key that cannot be shown, or a table that is no mapping.

What a document comes to that holds itself, by an alias to a node that the alias stands in, is left
open. The stack is taken to be deep enough for every document, and no text holds a lone half of a
surrogate pair.
-/
import ImportPlanning.Proofs.Layers.Ports

namespace ImportPlanning

/-! ### Documented failures -/

/-- The flaws with which reading a document breaks off, beside those that it is refused for: something
is looked up in a scalar, or for it, that is not there, a time is looked for in a mapping, or a number
of a scalar is too large for what is done with it. -/
def Yaml.Flaw.breaksOff : Yaml.Flaw → Bool
  | .overlongCode => true
  | .emptyNumber => true
  | .overlongBase => true
  | .badBoolean _ => true
  | .badTimestamp => true
  | .timestampOfMapping => true
  | _ => false

/-- The flaws that a document is refused for. One that holds itself may be read all the same. -/
def Yaml.Flaw.isConfigError (flaw : Yaml.Flaw) : Bool :=
  !flaw.breaksOff && flaw ≠ .holdsItself

def FileObstacle.isConfigError : FileObstacle → Bool
  | .missing _ => false
  | .isDirectory _ => false
  | .yaml flaw => flaw.isConfigError
  | _ => true

/-- The failures that are documented for a configuration file: a value is refused, or a document cannot
be read. A value of the wrong kind that something is asked of is not among them. -/
def Failure.isConfigError : Failure → Bool
  | .invalid _ => true
  | .url flaw => flaw ≠ .unreadable
  | .overlay (.itemLength _ _) => true
  | .file obstacle => obstacle.isConfigError
  | _ => false

/-! ### Sections -/

namespace ConfigFile

end ConfigFile

/-! ### Layers -/

/-- The caller's entries are a mapping, or none are given. -/
inductive CallerEntries : Value → Entries → Prop
  | nothing : CallerEntries .null []
  | mapping (entries : Entries) : CallerEntries (.mapping entries) entries

theorem CallerEntries.optionalMapping {value : Value} {entries : Entries}
    (caller : CallerEntries value entries) :
    Layers.optionalMapping "get" value = .ok entries := by
  cases caller with
  | nothing => rfl
  | mapping =>
      rw [Layers.optionalMapping]
      cases entries <;> rfl

section

variable (surroundings : Surroundings) (request : JobRequest) (explicit : Entries)

end

section

variable {surroundings : Surroundings} {request : JobRequest} {explicit : Entries}

end

/-! ### Loading -/

end ImportPlanning
