/-
Import plans: what later stages need to extract the rows of each partition, and how a plan is
published into a run context.
-/
import ImportPlanning.Columns
import ImportPlanning.ContextKeys
import ImportPlanning.RunContext
import ImportPlanning.Settings.Models

namespace ImportPlanning

/-! ### Plans -/

structure Boundary where
  columnType : Int
  minValue : Option String
  maxValue : Option String
  deriving DecidableEq, Repr

structure Extraction where
  dataSql : String
  fieldNames : String
  deriving DecidableEq, Repr

def Extraction.fieldNameList (extraction : Extraction) : List String :=
  splitColumns extraction.fieldNames

structure ImportPlan where
  driver : String
  connectionString : String
  username : Option String
  password : Option String
  partitionColumn : String
  boundaryQuery : String
  boundary : Boundary
  extraction : Extraction
  deriving DecidableEq, Repr

namespace ImportPlan

/-! ### Publication -/

def optionalEntry (key : String) : Option String → List (String × Value)
  | none => []
  | some value => [(key, .text value)]

/-- What a plan publishes, in order. User name and password are left out where the plan has none; a
missing bound is published as null. -/
def contextValues (plan : ImportPlan) : List (String × Value) :=
  [(ContextKey.driver, .text plan.driver), (ContextKey.url, .text plan.connectionString)] ++
    optionalEntry ContextKey.username plan.username ++
    optionalEntry ContextKey.password plan.password ++
    [(ContextKey.partitionColumn, .text plan.partitionColumn),
     (ContextKey.partitionType, .integer plan.boundary.columnType),
     (ContextKey.minValue, Value.ofOption plan.boundary.minValue),
     (ContextKey.maxValue, Value.ofOption plan.boundary.maxValue),
     (ContextKey.dataSql, .text plan.extraction.dataSql),
     (ContextKey.fieldNames, .text plan.extraction.fieldNames)]

def conflicts (plan : ImportPlan) (context : RunContext) : List String :=
  ((plan.contextValues.map Prod.fst).filter context.contains).mergeSort (· ≤ ·)

/-- Writes one value. The code of the column type is an integer, everything else text. -/
def writeValue (key : String) (value : Value) (context : RunContext) : Except Failure RunContext :=
  if key = ContextKey.partitionType then context.setInteger key value
  else context.setText key value

/-- Writes values one after the other and stops at the first that fails. Gives the context as it is
then. -/
def writeAll : List (String × Value) → RunContext → Except Failure Unit × RunContext
  | [], context => (.ok (), context)
  | (key, value) :: rest, context =>
    match writeValue key value context with
    | .ok next => writeAll rest next
    | .error failure => (.error failure, context)

def publish (plan : ImportPlan) (context : RunContext) : Except Failure Unit × RunContext :=
  let taken := plan.conflicts context
  if taken.isEmpty then writeAll plan.contextValues context
  else (.error (.keysTaken taken), context)

end ImportPlan

/-! ### Checking values that stand for plans -/

/-- Digits with single underscores between them, and zeros after a point, which say nothing. -/
def readWholeText? (text : String) : Option Int :=
  let (negative, body) := Number.takeSign (Text.trimWhere Number.isNumberBlank text.toList)
  let whole := body.takeWhile (· ≠ '.')
  let fraction := (body.dropWhile (· ≠ '.')).drop 1
  let isAscii := whole.all fun character => character.isDigit || character = '_'
  match Number.takeDigits .start whole with
  | some (digit :: digits, []) =>
    if isAscii && fraction.all (· = '0') then
      some (Number.signed negative (Number.ofDigits (digit :: digits)))
    else none
  | _ => none

/-- Accepts an integer, and what is one without loss: a truth value, a whole number, and digits. -/
def checkInteger : Value → Checked Int
  | .integer value => .ok value
  | .boolean value => .ok (if value then 1 else 0)
  | .text value =>
    match readWholeText? value with
    | some number => .ok number
    | none => .problem .unreadableInteger
  | .binary .view _ => .problem .notInteger
  | .binary _ bytes =>
    match (Text.Utf8.decode bytes).toOption.bind readWholeText? with
    | some number => .ok number
    | none => .problem .unreadableInteger
  | .float value =>
    match Number.floatForm value with
    | .finite negative significand exponent =>
      if significand * Nat.pow 2 exponent.toNat % Nat.pow 2 (-exponent).toNat = 0 then
        .ok (Number.truncated negative significand exponent)
      else .problem .fractionalInteger
    | _ => .problem .infiniteInteger
  | .decimal (.finite negative coefficient exponent) =>
    if coefficient * Nat.pow 10 exponent.toNat % Nat.pow 10 (-exponent).toNat = 0 then
      .ok (Number.Decimal.truncate negative coefficient exponent)
    else .problem .fractionalInteger
  | .decimal _ => .problem .infiniteInteger
  | _ => .problem .notInteger

def Boundary.ofValue (value : Value) : Checked Boundary :=
  (checkMapping .boundary value).bind fun entries =>
    ((Checked.apply (.ok Boundary.mk) (required "column_type" checkInteger entries)).apply
      (optionalText "min_value" entries)).apply
      (optionalText "max_value" entries)

def Extraction.ofValue (value : Value) : Checked Extraction :=
  (checkMapping .extraction value).bind fun entries =>
    (Checked.apply (.ok Extraction.mk) (required "data_sql" checkText entries)).apply
      (required "field_names" checkText entries)

def ImportPlan.ofValue (value : Value) : Checked ImportPlan :=
  (checkMapping .plan value).bind fun entries =>
    (((((((Checked.apply (.ok ImportPlan.mk) (required "driver" checkText entries)).apply
      (required "connection_string" checkText entries)).apply
      (optionalText "username" entries)).apply
      (optionalText "password" entries)).apply
      (required "partition_column" checkText entries)).apply
      (required "boundary_query" checkText entries)).apply
      (required "boundary" Boundary.ofValue entries)).apply
      (required "extraction" Extraction.ofValue entries)

end ImportPlanning
