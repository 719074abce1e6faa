/-
The program itself. It reads the arguments, the environment and the configuration file that is asked
for, and writes what the run comes to. No database driver is linked in, so every attempt to create
an engine reports a missing module.
-/
import ImportPlanning.CommandLine.Run

namespace ImportPlanning.Main

open ImportPlanning.CommandLine

/-- The data source where no driver is available. -/
def unavailable : DataSource :=
  { dialect := .sqlite
    typeObjects := .none
    queries := []
    primaryKeys := []
    connectFault := none
    createFault := some ⟨.host .missingModule, "no database driver is available"⟩ }

def variableOf (entry : List Char) : String × String :=
  match Text.cutAt? '=' entry with
  | some (name, value) => (String.ofList name, String.ofList value)
  | none => (String.ofList entry, "")

/-- The variables of an environment block, whose entries end in a null character. -/
def variablesOf (block : List UInt8) : Environment :=
  let entries := Text.fields (Char.ofNat 0) (Text.Utf8.decodeLenient block).toList
  (entries.filter fun entry => !entry.isEmpty).map variableOf

def configPath? (arguments : List String) : Option String :=
  match CommandLine.read arguments with
  | .ok invocation => invocation.job.map JobInvocation.config
  | .error _ => none

def readBytes? (path : String) : IO (Option (List UInt8)) := do
  try
    return some (← IO.FS.readBinFile path).toList
  catch _ => return none

/-- The surroundings that a run with the arguments can see. -/
def readSurroundings (arguments : List String) : IO Surroundings := do
  let environment := ((← readBytes? "/proc/self/environ").map variablesOf).getD []
  match configPath? arguments with
  | none => return ⟨[], environment⟩
  | some path =>
    let files := (← readBytes? path).toList.map fun bytes => (path, bytes)
    return ⟨files, environment⟩

def recordLine (record : LogRecord) : String :=
  let level := record.severity.name
  level ++ String.ofList (List.replicate (8 - level.length) ' ') ++ " [" ++ record.logger ++ "] " ++
    record.message

def report (outcome : Outcome) (setup : LogSetup) : IO UInt32 := do
  for record in recordsAt setup.level outcome.journal do
    IO.eprintln (recordLine record)
  IO.print outcome.output
  IO.eprint outcome.errorOutput
  match outcome.exit with
  | .ok code => return code.toUInt32
  | .error failure =>
    IO.eprintln failure.text
    return 1

end ImportPlanning.Main

def main (arguments : List String) : IO UInt32 := do
  let surroundings ← ImportPlanning.Main.readSurroundings arguments
  let setup := (ImportPlanning.LogSetup.fresh 0).askLogger surroundings.environment
  let (outcome, final) :=
    ImportPlanning.CommandLine.run surroundings ImportPlanning.Main.unavailable setup arguments
  ImportPlanning.Main.report outcome final
