/-
Tokens of YAML 1.1 documents, and the ways in which a document can be flawed.
-/
import ImportPlanning.Calendar

namespace ImportPlanning.Yaml

/-- Why a text is not read as a document. Most flaws are not told apart. A document that holds itself,
by an alias to a node that is still being read, is left open. The other flaws concern a scalar whose
form promises a value that it does not have. -/
inductive Flaw where
  | malformed
  | holdsItself
  | characterCode
  | overlongCode
  | emptyNumber
  | badInteger (base : Nat) (written : String)
  | integerTooLong (digits : Nat)
  | badFloat (written : String)
  | overlongBase
  | badBoolean (written : String)
  | badTimestamp
  | timestampOfMapping
  | yearOutOfRange (year : Nat)
  | monthOutOfRange
  | dayOutOfRange
  | hourOutOfRange
  | minuteOutOfRange
  | secondOutOfRange
  | offsetOutOfRange (offset : Duration)
  deriving DecidableEq, Repr

/-- The tokens of a document. Keys are marked where they begin, also those without a mark of their
own; the start and end of block collections follow from indentation. The last token tells that the
text could not be cut further. -/
inductive Token where
  | version (major : Nat)
  | tagDirective (handle stem : String)
  | otherDirective
  | documentStart
  | documentEnd
  | streamEnd
  | blockSequenceStart
  | blockMappingStart
  | blockEnd
  | flowSequenceStart
  | flowSequenceEnd
  | flowMappingStart
  | flowMappingEnd
  | blockEntry
  | flowEntry
  | key
  | value
  | reference (name : String)
  | anchor (name : String)
  | tag (handle : Option String) (suffix : String)
  | scalar (text : String) (isPlain : Bool)
  | flawed (flaw : Flaw)
  deriving DecidableEq, Repr

end ImportPlanning.Yaml
