/-
The plan command as a front of the library. It exits with zero just if the job is loaded and planned
into an empty context, and then writes one line that is read back as this context, redacted. A job
that cannot be loaded, and a planning error, end with one and an empty output; every other failure
escapes. The options for driver and address decide their own fields of the job and nothing else, and
the log level decides nothing.

What the file and the environment hold, and what the data source answers, is left open.
-/
import ImportPlanning.Proofs.CommandLines
import ImportPlanning.Proofs.Layers.Overrides
import ImportPlanning.Proofs.PrintedContexts
import ImportPlanning.Proofs.Secrecy.Runs

namespace ImportPlanning.CommandLine

open ImportPlanning.Text

/-! ### Answers -/

/-- One line is written, which is read back as the value. -/
def WritesLine (written : String) (value : Value) : Prop :=
  ∃ line, written = line ++ "\n" ∧ '\n' ∉ line.toList ∧ Json.read line = .ok value

theorem writesLine_text {value : Value} (document : Json.IsDocument value) :
    WritesLine (Json.text value ++ "\n") value :=
  ⟨Json.text value, rfl, Json.newline_not_mem_text document, Json.read_text document⟩

/-- How a command ends that stands for loading a job and planning it. -/
inductive StandsFor (planned : JobSettings → Except Failure RunContext) :
    (loaded : Except Failure JobSettings) → (ended : Outcome) → Prop where
  | notLoaded {failure : Failure} {ended : Outcome} (exit : ended.exit = .ok 1)
      (output : ended.output = "") (noEngine : ended.trace.created = []) :
      StandsFor planned (.error failure) ended
  | planned {job : JobSettings} {context : RunContext} {entries : Entries} {ended : Outcome}
      (isPlanned : planned job = .ok context) (isShown : context.redacted = .ok entries)
      (exit : ended.exit = .ok 0) (output : WritesLine ended.output (.mapping entries)) :
      StandsFor planned (.ok job) ended
  | refused {job : JobSettings} {error : PlannerError} {ended : Outcome}
      (isRefused : planned job = .error (.planner error)) (exit : ended.exit = .ok 1)
      (output : ended.output = "")
      (errorOutput : WritesLine ended.errorOutput (.mapping error.summary)) :
      StandsFor planned (.ok job) ended
  | escaped {job : JobSettings} {failure : Failure} {ended : Outcome}
      (escapes : planned job = .error failure) (noError : ∀ error, failure ≠ .planner error)
      (exit : ended.exit = .error failure) (output : ended.output = "") :
      StandsFor planned (.ok job) ended

section

variable {loaded : Except Failure JobSettings} {planned : JobSettings → Except Failure RunContext}
  {ended : Outcome}

theorem StandsFor.exit_eq_zero_iff (stands : StandsFor planned loaded ended) :
    ended.exit = .ok 0 ↔ ∃ job context, loaded = .ok job ∧ planned job = .ok context := by
  have other : ∀ {failure : Failure} {job : JobSettings}, planned job = .error failure →
      ¬ ∃ found context, (.ok job : Except Failure JobSettings) = .ok found ∧
        planned found = .ok context := by
    rintro failure job failed ⟨found, context, same, succeeded⟩
    cases same
    rw [failed] at succeeded
    cases succeeded
  cases stands with
  | notLoaded exit _ _ =>
      rw [exit]
      refine iff_of_false (by rintro ⟨⟩) ?_
      rintro ⟨job, context, impossible, _⟩
      cases impossible
  | @planned job context _ _ isPlanned _ exit _ =>
      exact iff_of_true exit ⟨job, context, rfl, isPlanned⟩
  | refused isRefused exit _ _ =>
      rw [exit]
      exact iff_of_false (by rintro ⟨⟩) (other isRefused)
  | escaped escapes _ exit _ =>
      rw [exit]
      exact iff_of_false (by rintro ⟨⟩) (other escapes)

theorem StandsFor.writesContext (stands : StandsFor planned loaded ended) {job : JobSettings}
    {context : RunContext} (isLoaded : loaded = .ok job) (isPlanned : planned job = .ok context) :
    ∃ entries, context.redacted = .ok entries ∧ WritesLine ended.output (.mapping entries) := by
  cases stands with
  | notLoaded _ _ _ => cases isLoaded
  | planned succeeded isShown _ output =>
      cases isLoaded
      cases Except.ok.inj (succeeded.symm.trans isPlanned)
      exact ⟨_, isShown, output⟩
  | refused failed _ _ _ =>
      cases isLoaded
      cases failed.symm.trans isPlanned
  | escaped failed _ _ _ =>
      cases isLoaded
      cases failed.symm.trans isPlanned

/-- A job that was loaded, and is planned or not: planning errors are legible, and the context that
planning gives can be shown. -/
theorem standsFor_planningOutcome {job : JobSettings}
    (legible : ∀ error, planned job = .error (.planner error) → error.IsLegible)
    (showable : ∀ context, planned job = .ok context →
      ∃ entries, context.redacted = .ok entries ∧ Json.IsDocument (.mapping entries))
    (trace : Trace) (journal : List LogRecord) :
    StandsFor planned (.ok job) ((planningOutcome (planned job)).after trace journal) := by
  cases result : planned job with
  | ok context =>
      obtain ⟨entries, redacted, document⟩ := showable context result
      have bound : (Except.ok context).bind RunContext.redacted = .ok entries := redacted
      rw [planningOutcome, bound]
      exact .planned result redacted rfl (writesLine_text document)
  | error failure =>
      cases failure with
      | planner error =>
          exact .refused result rfl rfl (writesLine_text (isDocument_summary (legible error result)))
      | _ => exact .escaped result (fun _ impossible => by cases impossible) rfl rfl

end

/-! ### Options -/

/-- A given setting, of which a blank one counts as none. -/
def nonBlank (given : String) : Option String :=
  if isBlankText given then none else some given

theorem checkOptionalText_blankToNull (given : String) :
    checkOptionalText (blankToNull (.text given)) = .ok (nonBlank given) := by
  rw [blankToNull, nonBlank]
  split
  · rfl
  · rfl

section

variable {option decided : Option String}

theorem eq_nonBlank_of_override
    (overrides : Value.ofOption option ≠ .null →
      checkOptionalText (blankToNull (.ofOption option)) = .ok decided)
    {given : String} (isGiven : option = some given) : decided = nonBlank given := by
  rw [isGiven, Value.ofOption] at overrides
  have checked := overrides (by rintro ⟨⟩)
  rw [checkOptionalText_blankToNull] at checked
  exact (Except.ok.inj checked).symm

theorem eq_getD_of_given {kept : Option String}
    (given : ∀ text, option = some text → decided = nonBlank text)
    (absent : Value.ofOption option = .null → decided = kept) :
    decided = (option.map nonBlank).getD kept := by
  cases option with
  | none => exact absent rfl
  | some text => exact given text rfl

end

namespace JobInvocation

/-- The invocation without the options for driver and address. -/
def bare (job : JobInvocation) : JobInvocation :=
  { job with driver := none, connectionString := none }

/-- The settings with the fields for which an option is given. -/
def laidOver (job : JobInvocation) (settings : JobSettings) : JobSettings :=
  { connection :=
      { driver := (job.driver.map nonBlank).getD settings.connection.driver
        connectionString :=
          (job.connectionString.map nonBlank).getD settings.connection.connectionString
        username := settings.connection.username
        password := settings.connection.password }
    table := settings.table }

/-- An option that is given decides its field; and settings that are loaded with the options are those
without them but for these fields. -/
structure Decides (job : JobInvocation) (surroundings : Surroundings) (settings : JobSettings) :
    Prop where
  driver : ∀ given, job.driver = some given → settings.connection.driver = nonBlank given
  connectionString : ∀ given, job.connectionString = some given →
    settings.connection.connectionString = nonBlank given
  others : ∀ bare, (JobSettings.load surroundings job.bare.request []).1 = .ok bare →
    settings = job.laidOver bare

theorem decides_of_load {job : JobInvocation} {surroundings : Surroundings}
    {settings : JobSettings}
    (loaded : (JobSettings.load surroundings job.request []).1 = .ok settings) :
    job.Decides surroundings settings := by
  have overrides := JobRequest.decides_of_load loaded
  have driver : ∀ given, job.driver = some given →
      settings.connection.driver = nonBlank given := fun _ =>
    eq_nonBlank_of_override overrides.driver
  have address : ∀ given, job.connectionString = some given →
      settings.connection.connectionString = nonBlank given := fun _ =>
    eq_nonBlank_of_override overrides.connectionString
  refine ⟨driver, address, ?_⟩
  intro bare isBare
  have same : job.request.SameLayers job.bare.request := ⟨rfl, rfl, rfl⟩
  have fields := same.fields loaded isBare
  have isDriver : settings.connection.driver =
      (job.driver.map nonBlank).getD bare.connection.driver :=
    eq_getD_of_given driver fun isNull => fields.driver isNull rfl
  have isAddress : settings.connection.connectionString =
      (job.connectionString.map nonBlank).getD bare.connection.connectionString :=
    eq_getD_of_given address fun isNull => fields.connectionString isNull rfl
  rw [laidOver, ← isDriver, ← isAddress, ← fields.username rfl rfl, ← fields.password rfl rfl,
    ← fields.table]

end JobInvocation

/-! ### The command -/

/-- What the library plans of a job that was loaded, with a context of its own and the records that
loading made. -/
abbrev plannedAfter (source : DataSource) (journal : List LogRecord) (settings : JobSettings) :
    Except Failure RunContext :=
  (Planner.planJob source settings { Planner.Workspace.ofContext .empty with journal }).1

theorem standsFor_runJob (surroundings : Surroundings) (source : DataSource) {job : JobInvocation}
    (isPlan : job.command = .plan) :
    StandsFor (plannedAfter source (JobSettings.load surroundings job.request []).2)
      (JobSettings.load surroundings job.request []).1 (runJob surroundings source job) := by
  rw [runJob, isPlan]
  cases loaded : JobSettings.load surroundings job.request [] with
  | mk result journal =>
      cases result with
      | error failure => exact .notLoaded rfl rfl rfl
      | ok settings =>
          have isLoaded : (JobSettings.load surroundings job.request []).1 = .ok settings :=
            congrArg Prod.fst loaded
          refine standsFor_planningOutcome (fun _ => Planner.legible_of_planJob) ?_ _ _
          intro context planned
          exact Planner.redacted_of_planJob rfl planned
            fun _ => JobSettings.portReadable_of_load isLoaded

/-- For every log level and all options there is a command line, and whatever line names them, the plan
command stands for loading the job and planning it into an empty context: it exits with zero just if
both succeed. The options for driver and address decide their fields of the job alone, and the log level
does not change how the command ends. -/
theorem plan_stands_for_library (surroundings : Surroundings) (source : DataSource)
    (level : Option String) (job : JobInvocation) (isPlan : job.command = .plan) :
    let loading := JobSettings.load surroundings job.request []
    let planned := plannedAfter source loading.2
    (∃ arguments, read arguments = .ok ⟨level, some job⟩) ∧
      (∀ settings, loading.1 = .ok settings → job.Decides surroundings settings) ∧
      ∀ (setup : LogSetup) (arguments : List String), read arguments = .ok ⟨level, some job⟩ →
        let ended := (run surroundings source setup arguments).1
        (ended.exit = .ok 0 ↔
            ∃ settings context, loading.1 = .ok settings ∧ planned settings = .ok context) ∧
          StandsFor planned loading.1 ended ∧
          ∀ (otherSetup : LogSetup) (otherLevel : Option String) (others : List String),
            read others = .ok ⟨otherLevel, some job⟩ →
            (run surroundings source otherSetup others).1 = ended := by
  intro loading planned
  refine ⟨⟨lineOf level job, read_lineOf level job⟩, fun _ => JobInvocation.decides_of_load, ?_⟩
  intro setup arguments given ended
  have isEnd : ended = runJob surroundings source job :=
    congrArg Prod.fst (run_of_read given surroundings source setup)
  have stands : StandsFor planned loading.1 ended := by
    rw [isEnd]
    exact standsFor_runJob surroundings source isPlan
  refine ⟨stands.exit_eq_zero_iff, stands, ?_⟩
  intro otherSetup otherLevel others isJob
  rw [run_of_read isJob, isEnd]

/-- A file with a job for another driver. -/
private def jobFile : Surroundings :=
  { files := [("job.json", Utf8.encode ("\x7b\"connection\": \x7b\"driver\": \"mysql\"\x7d, " ++
      "\"table\": \x7b\"table_name\": \"t\", \"partition_column\": \"id\"\x7d\x7d"))]
    environment := [] }

private def rangedSource : DataSource :=
  { dialect := .sqlite
    typeObjects := .none
    queries := [⟨none, .ok ⟨some [("low", .null), ("high", .null)],
      [[.integer 1, .integer 9]], none⟩⟩]
    primaryKeys := []
    connectFault := none
    createFault := none }

private def overriding : JobInvocation :=
  ⟨.plan, "job.json", some "sqlite", some "sqlite://host/base"⟩

private def overridingLine : List String :=
  ["--log-level", "DEBUG", "plan", "--config", "job.json", "--driver", "sqlite",
    "--connection-string", "sqlite://host/base"]

theorem plan_stands_for_library_overridden :
    (∃ settings, (JobSettings.load jobFile overriding.request []).1 = .ok settings ∧
        settings.connection.driver = some "sqlite") ∧
      (run jobFile rangedSource (.fresh 0) overridingLine).1.exit = .ok 0 ∧
      ∃ entries, WritesLine (run jobFile rangedSource (.fresh 0) overridingLine).1.output
        (.mapping entries) := by
  have given : read overridingLine = .ok ⟨some "DEBUG", some overriding⟩ := by
    rfl
  have succeeds : ((JobSettings.load jobFile overriding.request []).1 >>=
      plannedAfter rangedSource (JobSettings.load jobFile overriding.request []).2).isOk = true := by
    decide +kernel
  obtain ⟨context, isContext⟩ := exists_of_isOk succeeds
  obtain ⟨settings, isLoaded, isPlanned⟩ := bind_eq_ok_iff.mp isContext
  obtain ⟨_, decides, ends⟩ :=
    plan_stands_for_library jobFile rangedSource (some "DEBUG") overriding rfl
  obtain ⟨exits, stands, _⟩ := ends (.fresh 0) _ given
  obtain ⟨entries, _, written⟩ := stands.writesContext isLoaded isPlanned
  exact ⟨⟨settings, isLoaded, (decides settings isLoaded).driver "sqlite" rfl⟩,
    exits.mpr ⟨settings, context, isLoaded, isPlanned⟩, entries, written⟩

end ImportPlanning.CommandLine
