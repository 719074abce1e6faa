/-
The command line as it is documented: the program and its commands, the options of each, the texts
that explain them, and the problems that arguments can have.
-/
import ImportPlanning.Text.Quoted

namespace ImportPlanning.CommandLine

open ImportPlanning.Text

/-! ### Commands -/

inductive Command where
  | plan
  | testConnection
  deriving DecidableEq, Repr

namespace Command

def name : Command → String
  | plan => "plan"
  | testConnection => "test-connection"

def all : List Command :=
  [plan, testConnection]

def ofName? (name : String) : Option Command :=
  all.find? fun command => command.name == name

end Command

inductive Scope where
  | program
  | command (command : Command)
  deriving DecidableEq, Repr

/-! ### Options -/

inductive CommandOption where
  | help
  | logLevel
  | config
  | driver
  | connectionString
  deriving DecidableEq, Repr

namespace CommandOption

/-- The names of an option, the short one first. -/
def names : CommandOption → List String
  | help => ["-h", "--help"]
  | logLevel => ["--log-level"]
  | config => ["--config"]
  | driver => ["--driver"]
  | connectionString => ["--connection-string"]

def takesValue : CommandOption → Bool
  | help => false
  | _ => true

def isRequired : CommandOption → Bool
  | config => true
  | _ => false

def label (option : CommandOption) : String :=
  "/".intercalate option.names

end CommandOption

namespace Scope

def options : Scope → List CommandOption
  | program => [.help, .logLevel]
  | command _ => [.help, .config, .driver, .connectionString]

def optionNames (scope : Scope) : List (String × CommandOption) :=
  scope.options.flatMap fun option => option.names.map fun name => (name, option)

def title : Scope → String
  | program => "sql-import"
  | command chosen => "sql-import " ++ chosen.name

/-! ### Explanations -/

def commandChoice : String :=
  "\x7b" ++ ",".intercalate (Command.all.map Command.name) ++ "\x7d"

/-- The lines that show how a scope is used. A second line stands under the first option. -/
def usage (scope : Scope) : String :=
  let start := "usage: " ++ scope.title ++ " "
  match scope with
  | program => start ++ "[-h] [--log-level LOG_LEVEL] " ++ commandChoice ++ " ...\n"
  | command _ =>
    start ++ "[-h] --config CONFIG [--driver DRIVER]\n" ++
      String.ofList (List.replicate start.length ' ') ++
      "[--connection-string CONNECTION_STRING]\n"

def explanation : Scope → String
  | program =>
    "\nSQL import planning CLI\n\npositional arguments:\n  " ++ commandChoice ++ "\n" ++
    "                        Subcommand to run\n" ++
    "    plan                Plan an import run and print the run context\n" ++
    "    test-connection     Test the source connection\n\noptions:\n" ++
    "  -h, --help            show this help message and exit\n" ++
    "  --log-level LOG_LEVEL\n" ++
    "                        Log level (default: SQL_IMPORT_LOG_LEVEL or INFO)\n"
  | command _ =>
    "\noptions:\n  -h, --help            show this help message and exit\n" ++
    "  --config CONFIG       Path to import job JSON/YAML config\n" ++
    "  --driver DRIVER       SQLAlchemy dialect+driver, overrides the config file\n" ++
    "  --connection-string CONNECTION_STRING\n" ++
    "                        Database URL, overrides the config file\n"

def helpText (scope : Scope) : String :=
  scope.usage ++ scope.explanation

end Scope

/-! ### Problems -/

inductive UsageProblem where
  | ambiguous (word : String) (candidates : List String)
  | valueExpected (option : CommandOption)
  | valueIgnored (option : CommandOption) (value : String)
  | unknownCommand (word : String)
  | optionsMissing (options : List CommandOption)
  | unrecognized (words : List String)
  deriving DecidableEq, Repr

namespace UsageProblem

def message : UsageProblem → String
  | ambiguous word candidates =>
    "ambiguous option: " ++ word ++ " could match " ++ ", ".intercalate candidates
  | valueExpected option => "argument " ++ option.label ++ ": expected one argument"
  | valueIgnored option value =>
    "argument " ++ option.label ++ ": ignored explicit argument " ++ quoted value
  | unknownCommand word =>
    "argument command: invalid choice: " ++ quoted word ++ " (choose from " ++
      ", ".intercalate (Command.all.map fun command => quoted command.name) ++ ")"
  | optionsMissing options =>
    "the following arguments are required: " ++
      ", ".intercalate (options.map CommandOption.label)
  | unrecognized words => "unrecognized arguments: " ++ " ".intercalate words

end UsageProblem

/-- How the reading of arguments ends early: with the help of a scope, or with a problem in it. -/
inductive Interruption where
  | help (scope : Scope)
  | problem (scope : Scope) (problem : UsageProblem)
  deriving DecidableEq, Repr

def problemReport (scope : Scope) (problem : UsageProblem) : String :=
  scope.usage ++ scope.title ++ ": error: " ++ problem.message ++ "\n"

end ImportPlanning.CommandLine
