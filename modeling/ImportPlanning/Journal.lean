/-
Log records, and the levels below which they are not kept.
-/
import ImportPlanning.Text.Casing

namespace ImportPlanning

/-! ### Records -/

inductive Severity where
  | debug
  | info
  | warning
  | error
  deriving DecidableEq, Repr

namespace Severity

def level : Severity → Int
  | debug => 10
  | info => 20
  | warning => 30
  | error => 40

def name : Severity → String
  | debug => "DEBUG"
  | info => "INFO"
  | warning => "WARNING"
  | error => "ERROR"

end Severity

structure LogRecord where
  severity : Severity
  logger : String
  message : String
  deriving DecidableEq, Repr

def rootLogger : String := "sql_import"

def loggerName (name : String) : String :=
  rootLogger ++ "." ++ name

/-! ### Levels -/

def defaultLevel : Int := 20

def levelNames : List (String × Int) :=
  [("CRITICAL", 50), ("FATAL", 50), ("ERROR", 40), ("WARN", 30), ("WARNING", 30), ("INFO", 20),
   ("DEBUG", 10), ("NOTSET", 0)]

/-- The level with a name in any letter case; an unknown or empty name means the default. -/
def levelOfName (name : String) : Int :=
  (levelNames.lookup (Text.upper name)).getD defaultLevel

/-- The level that a logger goes by: one that is not set takes that of the loggers above it, which
is warning. -/
def effectiveLevel (level : Int) : Int :=
  if level = 0 then Severity.warning.level else level

def recordsAt (level : Int) (records : List LogRecord) : List LogRecord :=
  records.filter fun record => effectiveLevel level ≤ record.severity.level

end ImportPlanning
