/-
Faults of a data source. A fault comes from the database driver, from the access layer that stands
between program and driver, or from the program that hosts them. The access layer reports a driver's
fault with the statement that caused it and a reference to its manual; it raises faults of its own
for unbound parameters, for statements without rows and for unreadable addresses.
-/

namespace ImportPlanning

inductive DriverErrorKind where
  | error
  | interface
  | database
  | operational
  | programming
  | integrity
  | data
  | internal
  | notSupported
  deriving DecidableEq, Repr

namespace DriverErrorKind

def name : DriverErrorKind → String
  | error => "Error"
  | interface => "InterfaceError"
  | database => "DatabaseError"
  | operational => "OperationalError"
  | programming => "ProgrammingError"
  | integrity => "IntegrityError"
  | data => "DataError"
  | internal => "InternalError"
  | notSupported => "NotSupportedError"

def manualCode : DriverErrorKind → String
  | error => "dbapi"
  | interface => "rvf5"
  | database => "4xp6"
  | operational => "e3q8"
  | programming => "f405"
  | integrity => "gkpj"
  | data => "9h9h"
  | internal => "2j85"
  | notSupported => "tw8g"

end DriverErrorKind

/-- The classes of errors that the access layer raises by itself. -/
inductive AccessErrorKind where
  | noSuchTable
  | noSuchModule
  | badArgument
  deriving DecidableEq, Repr

/-- The classes of errors of the hosting program. -/
inductive HostErrorKind where
  | badValue
  | runtime
  | badType
  | missingImport
  | missingModule
  deriving DecidableEq, Repr

namespace HostErrorKind

def isImportError : HostErrorKind → Bool
  | missingImport => true
  | missingModule => true
  | _ => false

end HostErrorKind

inductive FaultKind where
  | driver (kind : DriverErrorKind)
  | access (kind : AccessErrorKind)
  | host (kind : HostErrorKind)
  deriving DecidableEq, Repr

structure Fault where
  kind : FaultKind
  message : String
  deriving DecidableEq, Repr

inductive Cause where
  /-- A fault that reached the program as it was raised. -/
  | raised (fault : Fault)
  /-- A driver's fault as the access layer reports it, with the statement if one was running. -/
  | reported (kind : DriverErrorKind) (message : String) (statement : Option String)
  /-- A statement names a parameter, and no value was given for it. -/
  | unboundParameter (name statement : String)
  /-- A statement gave no rows where rows were asked for. -/
  | noRows
  /-- A database address does not have the form of one. -/
  | unreadableAddress
  deriving DecidableEq, Repr

namespace Cause

def manualLine (code : String) : String :=
  "\n(Background on this error at: https://sqlalche.me/e/21/" ++ code ++ ")"

def statementLine : Option String → String
  | none => ""
  | some statement => if statement.isEmpty then "" else "\n[SQL: " ++ statement ++ "]"

def text : Cause → String
  | raised fault => fault.message
  | reported kind message statement =>
    "(scripted." ++ kind.name ++ ") " ++ message ++ statementLine statement ++
      manualLine kind.manualCode
  | unboundParameter name statement =>
    "(sqlalchemy.exc.InvalidRequestError) A value is required for bind parameter '" ++
      name ++ "'" ++ statementLine (some statement) ++ manualLine "cd3x"
  | noRows =>
    "This result object does not return rows. It has been closed automatically."
  | unreadableAddress => "Could not parse SQLAlchemy URL from given URL string"

end Cause
end ImportPlanning
