/-
Planning errors. Each has a stable code, a message, details in a fixed order, and the cause if a
data source or driver was at fault.
-/
import ImportPlanning.DataSource.Fault
import ImportPlanning.Value.Display

namespace ImportPlanning

inductive ErrorCode where
  | missingConnectionParameter
  | ambiguousSource
  | unspecifiedSource
  | unresolvablePartitionColumn
  | missingConditionsToken
  | malformedBoundaryResult
  | dataSourceFailure
  deriving DecidableEq, Repr

namespace ErrorCode

def all : List ErrorCode :=
  [missingConnectionParameter, ambiguousSource, unspecifiedSource, unresolvablePartitionColumn,
   missingConditionsToken, malformedBoundaryResult, dataSourceFailure]

def code : ErrorCode → String
  | missingConnectionParameter => "PLANNER_0001"
  | ambiguousSource => "PLANNER_0002"
  | unspecifiedSource => "PLANNER_0003"
  | unresolvablePartitionColumn => "PLANNER_0004"
  | missingConditionsToken => "PLANNER_0005"
  | malformedBoundaryResult => "PLANNER_0006"
  | dataSourceFailure => "PLANNER_0007"

def name : ErrorCode → String
  | missingConnectionParameter => "MISSING_CONNECTION_PARAMETER"
  | ambiguousSource => "AMBIGUOUS_SOURCE"
  | unspecifiedSource => "UNSPECIFIED_SOURCE"
  | unresolvablePartitionColumn => "UNRESOLVABLE_PARTITION_COLUMN"
  | missingConditionsToken => "MISSING_CONDITIONS_TOKEN"
  | malformedBoundaryResult => "MALFORMED_BOUNDARY_RESULT"
  | dataSourceFailure => "DATA_SOURCE_FAILURE"

def defaultMessage : ErrorCode → String
  | missingConnectionParameter => "Required connection parameter is missing"
  | ambiguousSource => "Table name and SQL statement cannot be specified together"
  | unspecifiedSource => "Either a table name or an SQL statement must be specified"
  | unresolvablePartitionColumn => "Unable to determine the partition column"
  | missingConditionsToken => "SQL statement must contain the conditions substitution token"
  | malformedBoundaryResult => "Boundary query must return exactly two columns"
  | dataSourceFailure => "Query against the data source failed"

def ofName? (name : String) : Option ErrorCode :=
  all.find? fun candidate => candidate.name == name

end ErrorCode

structure PlannerError where
  code : ErrorCode
  message : String
  details : Entries
  cause : Option Cause
  deriving Repr

namespace PlannerError

/-- An error whose message falls back to that of its code when it is missing or empty. -/
def create (code : ErrorCode) (message : Option String) (details : Entries)
    (cause : Option Cause) : PlannerError :=
  { code
    message :=
      match message with
      | none => code.defaultMessage
      | some given => if given.isEmpty then code.defaultMessage else given
    details
    cause }

def plain (code : ErrorCode) (message : String) (details : List (String × Value)) :
    PlannerError :=
  create code (some message) (details.map fun detail => (.text detail.1, detail.2)) none

def detailsText (details : Entries) : String :=
  ", ".intercalate (details.map fun detail => detail.1.plain ++ "=" ++ detail.2.plain)

def text (error : PlannerError) : String :=
  " | ".intercalate
    ([error.code.code ++ ": " ++ error.message] ++
     (if error.details.isEmpty then [] else [detailsText error.details]) ++
     (error.cause.map fun cause => "Caused by: " ++ cause.text).toList)

def summary (error : PlannerError) : Entries :=
  [(.text "error_code", .text error.code.code),
   (.text "error_kind", .text error.code.name),
   (.text "message", .text error.message),
   (.text "details", .mapping error.details),
   (.text "original_error",
     match error.cause with
     | none => .null
     | some cause => .text cause.text)]

end PlannerError
end ImportPlanning
