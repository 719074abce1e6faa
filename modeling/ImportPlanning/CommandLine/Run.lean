/-
Running the program: what it writes, the number it exits with, and what it leaves behind. Help and
results go to the output; problems and closing remarks go to the error output.
-/
import ImportPlanning.CommandLine.Arguments
import ImportPlanning.Json.Printer
import ImportPlanning.Planner
import ImportPlanning.Settings.Loading

namespace ImportPlanning.CommandLine

/-- What a run comes to. It exits with a number, or a failure escapes from it. -/
structure Outcome where
  exit : Except Failure Nat
  output : String
  errorOutput : String
  trace : Trace
  journal : List LogRecord

namespace Outcome

def ofTexts (exit : Nat) (output errorOutput : String) : Outcome :=
  { exit := .ok exit, output, errorOutput, trace := .empty, journal := [] }

def after (trace : Trace) (journal : List LogRecord) (outcome : Outcome) : Outcome :=
  { outcome with trace, journal }

def ofFailure (failure : Failure) : Outcome :=
  { ofTexts 0 "" "" with exit := .error failure }

end Outcome

/-- The run for an interruption: help is no failure, a problem with the arguments is one. -/
def Interruption.outcome : Interruption → Outcome
  | .help scope => .ofTexts 0 scope.helpText ""
  | .problem scope found => .ofTexts 2 "" (problemReport scope found)

/-! ### Jobs -/

def JobInvocation.request (invocation : JobInvocation) : JobRequest :=
  { JobRequest.empty with
    path := some invocation.config
    driver := Value.ofOption invocation.driver
    connectionString := Value.ofOption invocation.connectionString }

def loadFailureReport (failure : Failure) : String :=
  "Error loading job config: " ++ failure.text ++ "\n"

/-! ### Planning -/

/-- The run for a job that was planned. Only planning errors are reported; other failures escape. -/
def planningOutcome (result : Except Failure RunContext) : Outcome :=
  match result.bind RunContext.redacted with
  | .ok entries => .ofTexts 0 (Json.text (.mapping entries) ++ "\n") "Import plan created.\n"
  | .error (.planner error) => .ofTexts 1 "" (Json.text (.mapping error.summary) ++ "\n")
  | .error failure => .ofFailure failure

def runPlan (source : DataSource) (journal : List LogRecord) (job : JobSettings) : Outcome :=
  let (result, workspace) :=
    Planner.planJob source job { Planner.Workspace.ofContext .empty with journal }
  (planningOutcome result).after workspace.trace workspace.journal

/-! ### Testing the connection -/

def testReport (job : JobSettings) (isSuccess : Bool) : String :=
  Json.text
    (.mapping
      [(.text "success", .boolean isSuccess),
       (.text "driver", Value.ofOption job.connection.driver)]) ++ "\n"

def testOutcome (job : JobSettings) (isSuccess : Bool) : Outcome :=
  if isSuccess then .ofTexts 0 (testReport job true) "Connection successful.\n"
  else .ofTexts 1 (testReport job false) "Connection failed.\n"

def runTest (source : DataSource) (journal : List LogRecord) (job : JobSettings) : Outcome :=
  let (result, session) :=
    Executor.testConnection source false
      ⟨.ofConnection job.connection false, .empty, journal⟩
  let outcome :=
    match result with
    | .ok isSuccess => testOutcome job isSuccess
    | .error failure => .ofFailure failure
  outcome.after session.trace session.journal

/-! ### The program -/

/-- Runs a command. A job that cannot be loaded is reported, whatever the failure. -/
def runJob (surroundings : Surroundings) (source : DataSource) (invocation : JobInvocation) :
    Outcome :=
  match JobSettings.load surroundings invocation.request [] with
  | (.error failure, journal) =>
    (Outcome.ofTexts 1 "" (loadFailureReport failure)).after .empty journal
  | (.ok job, journal) =>
    match invocation.command with
    | .plan => runPlan source journal job
    | .testConnection => runTest source journal job

/-- The loggers after an invocation: a level that is given and not empty is set. -/
def configureLoggers (surroundings : Surroundings) (invocation : Invocation) (setup : LogSetup) :
    LogSetup :=
  match invocation.logLevel.filter fun name => !name.isEmpty with
  | some name => setup.configure (some (.name name)) surroundings.environment
  | none => setup

/-- Runs an invocation. Without a command the help is shown, and the run counts as failed. -/
def runInvocation (surroundings : Surroundings) (source : DataSource) (invocation : Invocation) :
    Outcome :=
  match invocation.job with
  | none => .ofTexts 1 Scope.program.helpText ""
  | some job => runJob surroundings source job

def run (surroundings : Surroundings) (source : DataSource) (setup : LogSetup)
    (arguments : List String) : Outcome × LogSetup :=
  match read arguments with
  | .error interruption => (interruption.outcome, setup)
  | .ok invocation =>
    (runInvocation surroundings source invocation,
      configureLoggers surroundings invocation setup)

end ImportPlanning.CommandLine
