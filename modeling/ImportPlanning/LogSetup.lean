/-
Setting up the loggers. The first configuration attaches a handler, unless there are handlers
already; every configuration sets the level. Asking for a logger configures only if nothing was
configured before.
-/
import ImportPlanning.Journal

namespace ImportPlanning

def levelVariable : String := "SQL_IMPORT_LOG_LEVEL"

def recordFormat : String := "%(asctime)s %(levelname)-8s [%(name)s] %(message)s"

inductive LevelSetting where
  | number (level : Int)
  | name (text : String)
  deriving DecidableEq, Repr

def LevelSetting.level : LevelSetting → Int
  | number level => level
  | name text => levelOfName text

/-- The loggers: the formats of their handlers (`none` for one that was there before), the level,
and whether they were configured. -/
structure LogSetup where
  handlers : List (Option String)
  level : Int
  isConfigured : Bool
  deriving DecidableEq, Repr

abbrev Environment := List (String × String)

namespace LogSetup

def fresh (handlers : Nat) : LogSetup :=
  ⟨List.replicate handlers none, 0, false⟩

/-- The level for a request: the one asked for, or that of the environment, or the default. -/
def requestedLevel (setting : Option LevelSetting) (environment : Environment) : Int :=
  match setting with
  | some asked => asked.level
  | none => ((environment.lookup levelVariable).map levelOfName).getD defaultLevel

/-- Attaches a handler, if none is attached and nothing was configured before. -/
def attach (setup : LogSetup) : LogSetup :=
  if setup.isConfigured then setup
  else
    { setup with
      handlers := if setup.handlers.isEmpty then [some recordFormat] else setup.handlers
      isConfigured := true }

def configure (setting : Option LevelSetting) (environment : Environment) (setup : LogSetup) :
    LogSetup :=
  { setup.attach with level := requestedLevel setting environment }

def askLogger (environment : Environment) (setup : LogSetup) : LogSetup :=
  if setup.isConfigured then setup else setup.configure none environment

end LogSetup
end ImportPlanning
