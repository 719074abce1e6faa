/-
Every way in which an operation of this library can fail, and the text that describes it.
-/
import ImportPlanning.Json.Reader
import ImportPlanning.PlannerError
import ImportPlanning.Settings.Validation
import ImportPlanning.Url.Basic
import ImportPlanning.Value.Integer
import ImportPlanning.Yaml.Token

namespace ImportPlanning

open ImportPlanning.Text

inductive OverlayObstacle where
  | notIterable (kind : String)
  | itemNotIterable (index : Nat)
  | itemLength (index length : Nat)
  | unhashableKey (kind : String)
  | notMapping (kind : String)
  deriving DecidableEq, Repr

inductive FileObstacle where
  | missing (path : String)
  | isDirectory (path : String)
  | undecodable (failure : Utf8.Failure)
  | unsupportedFormat
  | json (flaw : Json.Flaw)
  | yaml (flaw : Yaml.Flaw)
  | rootNotMapping
  deriving DecidableEq, Repr

inductive Failure where
  /-- Planning failed for a reason of its own. -/
  | planner (error : PlannerError)
  /-- A value does not fit its model. -/
  | invalid (report : ValidationReport)
  /-- A fault of the data source that is no planning error. -/
  | fault (fault : Fault)
  /-- A closed executor was asked for something that needs its engine. -/
  | executorClosed
  /-- A row does not have the two cells asked for. -/
  | rowTooShort (found : Nat)
  | rowTooLong
  /-- A text is no database URL. -/
  | url (flaw : UrlFlaw)
  /-- A key of a run context is already set. -/
  | keyTaken (key : String)
  | keysTaken (keys : List String)
  /-- A value of a run context has the wrong kind. -/
  | notText (key kind : String)
  | notInteger (key kind : String)
  /-- A value has no integer, or its integer is too long for text. -/
  | noInteger (obstacle : IntegerObstacle)
  | overlongInteger
  /-- A key of a mapping to be redacted is no text. -/
  | keyWithoutCase (kind : String)
  | keyOfBytes
  /-- A value that is asked for an entry is no mapping. -/
  | noEntries (kind operation : String)
  /-- Layers of settings do not fit together. -/
  | overlay (obstacle : OverlayObstacle)
  /-- A configuration file gives no settings. -/
  | file (obstacle : FileObstacle)
  /-- There is no planning error of that name. -/
  | unknownErrorCode (name : String)
  deriving Repr

/-! ### Wording -/

/-- The text for an integer in base ten or another that cannot be read. What was written is cut off
after two hundred characters. -/
def badIntegerText (base : Nat) (written : String) : String :=
  "invalid literal for int() with base " ++ toString base ++ ": " ++
    String.ofList (written.toList.take 200)

def longIntegerText (digits : Nat) : String :=
  "Exceeds the limit (4300 digits) for integer string conversion: value has " ++ toString digits ++
    " digits; use sys.set_int_max_str_digits() to increase the limit"

def overlongIntegerText : String :=
  "Exceeds the limit (4300 digits) for integer string conversion; " ++
    "use sys.set_int_max_str_digits() to increase the limit"

def integerFlawText (written : String) : Number.IntegerFlaw → String
  | .notANumber => badIntegerText 10 written
  | .tooManyDigits count => longIntegerText count

namespace IntegerObstacle

def text : IntegerObstacle → String
  | unreadable written flaw => integerFlawText written flaw
  | infiniteFloat => "cannot convert float infinity to integer"
  | undefinedFloat => "cannot convert float NaN to integer"
  | infiniteDecimal => "cannot convert Infinity to integer"
  | undefinedDecimal => "cannot convert NaN to integer"
  | wrongKind kind =>
    "int() argument must be a string, a bytes-like object or a real number, not '" ++ kind ++ "'"

end IntegerObstacle

namespace OverlayObstacle

def text : OverlayObstacle → String
  | notIterable kind => "'" ++ kind ++ "' object is not iterable"
  | itemNotIterable index =>
    "cannot convert dictionary update sequence element #" ++ toString index ++ " to a sequence"
  | itemLength index length =>
    "dictionary update sequence element #" ++ toString index ++ " has length " ++ toString length ++
      "; 2 is required"
  | unhashableKey kind => "unhashable type: '" ++ kind ++ "'"
  | notMapping kind => "'" ++ kind ++ "' object is not a mapping"

end OverlayObstacle

def UrlFlaw.text : UrlFlaw → String
  | unreadable => Cause.unreadableAddress.text
  | badPort port flaw => integerFlawText (quoted port) flaw

/-- The text for a place where decoding stopped: the bytes by their positions, and a reason. -/
def utf8FailureText (failure : Utf8.Failure) : String :=
  let reason :=
    match failure.kind with
    | .badStart => "invalid start byte"
    | .badContinuation => "invalid continuation byte"
    | .endOfData => "unexpected end of data"
  let place :=
    match failure.bytes with
    | [byte] =>
      "byte 0x" ++ String.ofList (hexDigits 2 byte.toNat) ++ " in position " ++
        toString failure.position
    | bytes =>
      "bytes in position " ++ toString failure.position ++ "-" ++
        toString (failure.position + bytes.length - 1)
  "'utf-8' codec can't decode " ++ place ++ ": " ++ reason

def Json.Flaw.text : Json.Flaw → String
  | malformed problem line column offset =>
    problem.message ++ ": line " ++ toString line ++ " column " ++ toString column ++ " (char " ++
      toString offset ++ ")"
  | integerTooLong digits => longIntegerText digits

def Yaml.Flaw.text : Yaml.Flaw → String
  | malformed => "malformed document"
  | holdsItself => "document holds itself"
  | characterCode => "chr() arg not in range(0x110000)"
  | overlongCode => "Python int too large to convert to C int"
  | emptyNumber => "string index out of range"
  | badInteger base written => badIntegerText base (quoted written)
  | integerTooLong digits => longIntegerText digits
  | badFloat written => "could not convert string to float: " ++ quoted written
  | overlongBase => "int too large to convert to float"
  | badBoolean written => quoted written
  | badTimestamp => "'NoneType' object has no attribute 'groupdict'"
  | timestampOfMapping => "expected string or bytes-like object, got 'list'"
  | yearOutOfRange year => "year " ++ toString year ++ " is out of range"
  | monthOutOfRange => "month must be in 1..12"
  | dayOutOfRange => "day is out of range for month"
  | hourOutOfRange => "hour must be in 0..23"
  | minuteOutOfRange => "minute must be in 0..59"
  | secondOutOfRange => "second must be in 0..59"
  | offsetOutOfRange offset =>
    "offset must be a timedelta strictly between -timedelta(hours=24) and timedelta(hours=24), " ++
      "not " ++ offset.constructorText ++ "."

def FileObstacle.text : FileObstacle → String
  | missing path => "Config file not found: " ++ path
  | isDirectory path => "[Errno 21] Is a directory: " ++ quoted path
  | undecodable failure => utf8FailureText failure
  | unsupportedFormat =>
    "Unsupported config format. Use JSON (.json) or YAML (.yaml/.yml)."
  | json flaw => flaw.text
  | yaml flaw => flaw.text
  | rootNotMapping => "Config file must contain a key-value object at the root"

def Failure.text : Failure → String
  | planner error => error.text
  | invalid report => report.text
  | fault raised => raised.message
  | executorClosed => "QueryExecutor is closed"
  | rowTooShort found =>
    "not enough values to unpack (expected 2, got " ++ toString found ++ ")"
  | rowTooLong => "too many values to unpack (expected 2)"
  | url flaw => flaw.text
  | keyTaken key => "Context key '" ++ key ++ "' is already set"
  | keysTaken keys => "Context keys already set: " ++ ", ".intercalate keys
  | notText key kind => "Context key '" ++ key ++ "' expects a string, got " ++ kind
  | notInteger key kind => "Context key '" ++ key ++ "' expects an integer, got " ++ kind
  | noInteger obstacle => obstacle.text
  | overlongInteger => overlongIntegerText
  | keyWithoutCase kind => "'" ++ kind ++ "' object has no attribute 'lower'"
  | keyOfBytes => "endswith first arg must be bytes or a tuple of bytes, not str"
  | noEntries kind operation =>
    "'" ++ kind ++ "' object has no attribute '" ++ operation ++ "'"
  | overlay obstacle => obstacle.text
  | file obstacle => obstacle.text
  | unknownErrorCode name => name

end ImportPlanning
