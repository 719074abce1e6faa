/-
Sessions: an executor at work on a data source, with the trace of what it did and the journal of
what it reported. A step of a session may fail; trace and journal keep what was done before.
-/
import ImportPlanning.DataSource.Basic
import ImportPlanning.Failure
import ImportPlanning.Journal

namespace ImportPlanning

/-- An executor of statements. It creates its engine when it first needs one, unless it borrows the
engine of someone else, and disposes only of an engine of its own. -/
structure Executor where
  driver : String
  connectionString : String
  username : Option String
  password : Option String
  isBorrowed : Bool
  hasEngine : Bool
  isClosed : Bool
  deriving DecidableEq, Repr

structure Session where
  executor : Executor
  trace : Trace
  journal : List LogRecord
  deriving Repr

abbrev SessionM := ExceptT Failure (StateM Session)

namespace SessionM

def note (severity : Severity) (logger message : String) : SessionM Unit :=
  modify fun session =>
    { session with
      journal := session.journal ++ [⟨severity, loggerName logger, message⟩] }

def record (change : Trace → Trace) : SessionM Unit :=
  modify fun session => { session with trace := change session.trace }

def update (change : Executor → Executor) : SessionM Unit :=
  modify fun session => { session with executor := change session.executor }

def executor : SessionM Executor := do
  return (← get).executor

end SessionM
end ImportPlanning
