/-
Whole runs with different secrets. A job that is loaded and planned, by a caller or from the command
line, shows the same whatever the password is: the same records, the same texts, the same error, and
the same context once it is redacted.
-/
import ImportPlanning.CommandLine.Run
import ImportPlanning.Proofs.Publication
import ImportPlanning.Proofs.Secrecy.Arguments
import ImportPlanning.Proofs.Secrecy.Loading
import ImportPlanning.Proofs.Secrecy.Planning

namespace ImportPlanning

open ImportPlanning.Text

/-! ### Plans -/

/-- The values that two plans publish are under the same keys and differ in secrets only. -/
abbrev SameValues (left right : List (String × Value)) : Prop :=
  List.Forall₂ (fun first second => first.1 = second.1 ∧
    SameUnder (.text first.1) first.2 second.2) left right

theorem SameValues.refl (values : List (String × Value)) : SameValues values values :=
  List.forall₂_same.mpr fun _ _ => ⟨rfl, .same _ _⟩

theorem SameValues.keys_eq {left right : List (String × Value)} (same : SameValues left right) :
    left.map Prod.fst = right.map Prod.fst := by
  induction same with
  | nil => rfl
  | cons here _ ih => rw [List.map_cons, List.map_cons, here.1, ih]

theorem SameValues.extend {left right : List (String × Value)} (same : SameValues left right)
    (context : RunContext) :
    SameEntries (context.extend left).entries (context.extend right).entries := by
  rw [RunContext.extend, RunContext.extend]
  refine List.rel_append (SameEntries.refl context.entries) ?_
  induction same with
  | nil => exact .nil
  | cons here _ ih => exact .cons ⟨congrArg Value.text here.1, here.2⟩ ih

theorem sameValues_planOf {left right : ConnectionSettings} (same : SameConnection left right)
    (findings : Planner.Findings) :
    SameValues (Planner.planOf left findings).contextValues
      (Planner.planOf right findings).contextValues := by
  have address : SameUnder (.text ContextKey.url) (.text (left.connectionString.getD ""))
      (.text (right.connectionString.getD "")) := by
    rcases same.connectionString.getD with equal | passwords
    · rw [equal]
      exact .same _ _
    · exact .url (by decide) passwords
  have password : SameValues (ImportPlan.optionalEntry ContextKey.password left.password)
      (ImportPlan.optionalEntry ContextKey.password right.password) := by
    rcases same.password with equal | ⟨first, second, isFirst, isSecond⟩
    · rw [equal]
      exact SameValues.refl _
    · have isSecret : isSecretKey (lower ContextKey.password) = true := by decide
      rw [isFirst, isSecond]
      exact .cons ⟨rfl, .secret first second isSecret⟩ .nil
  have front : SameValues
      [(ContextKey.driver, .text (left.driver.getD "")),
        (ContextKey.url, .text (left.connectionString.getD ""))]
      [(ContextKey.driver, .text (right.driver.getD "")),
        (ContextKey.url, .text (right.connectionString.getD ""))] := by
    rw [same.driver]
    exact .cons ⟨rfl, .same _ _⟩ (.cons ⟨rfl, address⟩ .nil)
  have username : SameValues (ImportPlan.optionalEntry ContextKey.username left.username)
      (ImportPlan.optionalEntry ContextKey.username right.username) := by
    rw [same.username]
    exact SameValues.refl _
  exact List.rel_append (List.rel_append (List.rel_append front username) password)
    (SameValues.refl _)

namespace Planner

/-- Two workspaces have contexts that differ in secrets only, and one journal. -/
structure SameWorkspace (left right : Workspace) : Prop where
  context : SameEntries left.context.entries right.context.entries
  journal : left.journal = right.journal

theorem isMissing_eq_of_sameAddress {left right : Option String} (same : SameAddress left right) :
    isMissing left = isMissing right := by
  have present : ∀ source : String, isBlankText source = false → source.isEmpty = false := by
    intro source filled
    by_contra missing
    rw [Bool.not_eq_false, String.isEmpty_iff] at missing
    rw [missing] at filled
    exact absurd filled (by decide)
  rw [isMissing, isMissing]
  rcases same.getD with equal | passwords
  · rw [equal]
  · obtain ⟨notBlank, otherNotBlank⟩ := passwords.not_blank
    rw [present _ notBlank, present _ otherNotBlank]

theorem precheck_eq_of_sameConnection {left right : ConnectionSettings}
    (same : SameConnection left right) (table : TableSettings) :
    precheck left table = precheck right table := by
  rw [precheck, precheck, validateConnection, validateConnection, same.driver,
    isMissing_eq_of_sameAddress same.connectionString]

theorem sameWorkspace_publishInto {left right : ImportPlan}
    (same : SameValues left.contextValues right.contextValues) {first second : Workspace}
    (context : first.context = second.context) (journal : first.journal = second.journal) :
    Alike (fun _ _ => True) (publishInto left first).1 (publishInto right second).1 ∧
      SameWorkspace (publishInto left first).2 (publishInto right second).2 := by
  have conflicts : left.conflicts second.context = right.conflicts second.context := by
    rw [ImportPlan.conflicts, ImportPlan.conflicts, same.keys_eq]
  rw [publishInto, publishInto, left.publish_eq, right.publish_eq, context, conflicts]
  by_cases free : right.conflicts second.context = []
  · rw [if_pos free, if_pos free]
    refine ⟨.ok trivial, same.extend second.context, ?_⟩
    rw [journal, same.length_eq]
  · rw [if_neg free, if_neg free]
    exact ⟨.error _, SameEntries.refl _, journal⟩

/-- An attempt ends in the same way and reports the same, whatever the secrets of its connection. -/
theorem sameWorkspace_planInto {left right : ConnectionSettings} (same : SameConnection left right)
    (source : DataSource) (isBorrowed : Bool) (table : TableSettings) (workspace : Workspace) :
    Alike (fun _ _ => True) (planInto source isBorrowed left table workspace).1
        (planInto source isBorrowed right table workspace).1 ∧
      SameWorkspace (planInto source isBorrowed left table workspace).2
        (planInto source isBorrowed right table workspace).2 := by
  rw [planInto, planInto, precheck_eq_of_sameConnection same]
  cases precheck right table with
  | error error => exact ⟨.error _, SameEntries.refl _, rfl⟩
  | ok done =>
      have closed := Executor.respects_thenClose Executor.discreet_close
        (discreet_inspect source table)
      obtain ⟨results, sessions⟩ := closed
        ⟨.ofConnection left isBorrowed, workspace.trace, workspace.journal⟩
        ⟨.ofConnection right isBorrowed, workspace.trace, workspace.journal⟩
        ⟨Executor.sameExecutor_ofConnection same isBorrowed, rfl⟩
      rw [inspectWith, inspectWith]
      revert results sessions
      rcases Executor.thenClose (inspect source table)
        ⟨.ofConnection left isBorrowed, workspace.trace, workspace.journal⟩ with ⟨result, after⟩
      rcases Executor.thenClose (inspect source table)
        ⟨.ofConnection right isBorrowed, workspace.trace, workspace.journal⟩ with ⟨other, later⟩
      intro results sessions
      cases results with
      | error failure => exact ⟨.error _, SameEntries.refl _, sessions.journal⟩
      | @ok findings others equal =>
          subst equal
          exact sameWorkspace_publishInto (sameValues_planOf same findings) rfl sessions.journal

theorem sameWorkspace_planJob {left right : JobSettings} (same : SameJob left right)
    (source : DataSource) (workspace : Workspace) :
    Alike (fun first second : RunContext => SameEntries first.entries second.entries)
        (planJob source left workspace).1 (planJob source right workspace).1 ∧
      SameWorkspace (planJob source left workspace).2 (planJob source right workspace).2 := by
  obtain ⟨results, workspaces⟩ :=
    sameWorkspace_planInto same.connection source false right.table workspace
  rw [planJob, planJob, same.table]
  exact ⟨results.map fun _ _ _ => workspaces.context, workspaces⟩

end Planner

/-! ### Contexts -/

theorem RunContext.redacted_eq_of_sameEntries {left right : RunContext}
    (same : SameEntries left.entries right.entries) : left.redacted = right.redacted :=
  same.redact_eq

theorem RunContext.shown_eq_of_sameEntries {left right : RunContext}
    (same : SameEntries left.entries right.entries) : left.shown = right.shown := by
  rw [shown, shown, redacted_eq_of_sameEntries same]

/-! ### Loading and planning -/

/-- What is seen of a job that is loaded and planned into a run context: how it ends, the records
that are written, and the context as it is shown. -/
structure Sight where
  ended : Except Failure Unit
  journal : List LogRecord
  shown : Except Failure String
  redacted : Except Failure Entries

/-- Plans a job into a run context, after some records were written. -/
def sightOfJob (source : DataSource) (context : RunContext) (journal : List LogRecord)
    (job : JobSettings) : Sight :=
  let (result, workspace) :=
    Planner.planJob source job { Planner.Workspace.ofContext context with journal }
  ⟨result.map fun _ => (), workspace.journal, workspace.context.shown, workspace.context.redacted⟩

/-- Loads a job and plans it into a run context. -/
def sightOf (source : DataSource) (context : RunContext) (surroundings : Surroundings)
    (request : JobRequest) : Sight :=
  match JobSettings.load surroundings request [] with
  | (.error failure, journal) => ⟨.error failure, journal, context.shown, context.redacted⟩
  | (.ok job, journal) => sightOfJob source context journal job

theorem sightOfJob_eq {left right : JobSettings} (same : SameJob left right) (source : DataSource)
    (context : RunContext) (journal : List LogRecord) :
    sightOfJob source context journal left = sightOfJob source context journal right := by
  obtain ⟨results, workspaces⟩ := Planner.sameWorkspace_planJob same source
    { Planner.Workspace.ofContext context with journal }
  rw [sightOfJob, sightOfJob]
  revert results workspaces
  rcases Planner.planJob source left _ with ⟨result, after⟩
  rcases Planner.planJob source right _ with ⟨other, later⟩
  intro results workspaces
  have ended : (result.map fun _ => ()) = other.map fun _ => () := by
    cases results with
    | error failure => rfl
    | ok contexts => rfl
  show Sight.mk _ _ _ _ = Sight.mk _ _ _ _
  rw [ended, workspaces.journal, RunContext.shown_eq_of_sameEntries workspaces.context,
    RunContext.redacted_eq_of_sameEntries workspaces.context]

theorem sightOf_eq {left right : JobRequest} {surroundings others : Surroundings}
    (same : SameRequest left right)
    (around : SameSurroundings left.path left.group surroundings others) (source : DataSource)
    (context : RunContext) :
    sightOf source context surroundings left = sightOf source context others right := by
  rw [sightOf, sightOf]
  rcases load_cases same around [] with
    ⟨failure, journal, failed, otherFailed⟩ | ⟨job, other, journal, loaded, otherLoaded, jobs⟩
  · rw [failed, otherFailed]
  · rw [loaded, otherLoaded]
    exact sightOfJob_eq jobs source context journal

/-! ### The command line -/

/-- What is seen of a run from the command line: the number it exits with or the failure that
escapes, both texts, and the records that are written. -/
def CommandLine.Outcome.sight (outcome : CommandLine.Outcome) :
    Except Failure Nat × String × String × List LogRecord :=
  (outcome.exit, outcome.output, outcome.errorOutput, outcome.journal)

namespace CommandLine

theorem sameRequest_of_invocation {left right : JobInvocation} (same : SameInvocation left right) :
    SameRequest left.request right.request where
  explicit := .same _
  path := congrArg some same.config
  group := rfl
  driver := congrArg Value.ofOption same.driver
  connectionString := same.connectionString.sameUnder isUrlKey_connectionString
  username := .refl _
  password := .same _ _

theorem planningOutcome_eq {left right : Except Failure RunContext}
    (alike : Alike (fun first second => SameEntries first.entries second.entries) left right) :
    planningOutcome left = planningOutcome right := by
  cases alike with
  | error failure => rfl
  | ok contexts =>
      rw [planningOutcome, planningOutcome, Except.bind, Except.bind]
      simp only [RunContext.redacted_eq_of_sameEntries contexts]

theorem sight_runPlan {left right : JobSettings} (same : SameJob left right) (source : DataSource)
    (journal : List LogRecord) :
    (runPlan source journal left).sight = (runPlan source journal right).sight := by
  obtain ⟨results, workspaces⟩ := Planner.sameWorkspace_planJob same source
    { Planner.Workspace.ofContext .empty with journal }
  rw [runPlan, runPlan]
  revert results workspaces
  rcases Planner.planJob source left _ with ⟨result, after⟩
  rcases Planner.planJob source right _ with ⟨other, later⟩
  intro results workspaces
  have outcomes : planningOutcome result = planningOutcome other := planningOutcome_eq results
  have journals : after.journal = later.journal := workspaces.journal
  show ((planningOutcome result).exit, (planningOutcome result).output,
    (planningOutcome result).errorOutput, after.journal) = _
  rw [outcomes, journals]
  rfl

theorem sight_runJob {left right : JobInvocation} (same : SameInvocation left right)
    (isPlan : left.command = .plan) {surroundings others : Surroundings}
    (around : SameSurroundings (some left.config) (some JobRequest.standardGroup) surroundings
      others) (source : DataSource) :
    (runJob surroundings source left).sight = (runJob others source right).sight := by
  rw [runJob, runJob, ← same.command, isPlan]
  rcases load_cases (sameRequest_of_invocation same) around [] with
    ⟨failure, journal, failed, otherFailed⟩ | ⟨job, other, journal, loaded, otherLoaded, jobs⟩
  · rw [failed, otherFailed]
  · rw [loaded, otherLoaded]
    exact sight_runPlan jobs source journal

/-- A run depends on the line through its job only. -/
theorem run_of_read {arguments : List String} {level : Option String} {job : JobInvocation}
    (isJob : read arguments = .ok ⟨level, some job⟩) (surroundings : Surroundings)
    (source : DataSource) (setup : LogSetup) :
    run surroundings source setup arguments =
      (runJob surroundings source job,
        configureLoggers surroundings ⟨level, some job⟩ setup) := by
  rw [run, isJob]
  rfl

theorem configureLoggers_eq_of_level {level : Option String} {left right : Option JobInvocation}
    (surroundings others : Surroundings) (setup : LogSetup) :
    configureLoggers surroundings ⟨level, left⟩ setup =
      configureLoggers others ⟨level, right⟩ setup := by
  rw [configureLoggers, configureLoggers]
  cases level.filter fun name => !name.isEmpty with
  | none => rfl
  | some name => rfl

end CommandLine

/-- Whatever the password of a connection is, in any layer under its key or within the URL, a job that
is loaded and planned shows the same, and so does the command that plans it. The line may differ in
the password of an address after its option, or in any way that names the same job but for it. -/
theorem secrets_hidden :
    (∀ (source : DataSource) (context : RunContext) (left right : JobRequest)
      (surroundings others : Surroundings), SameRequest left right →
      SameSurroundings left.path left.group surroundings others →
      sightOf source context surroundings left = sightOf source context others right) ∧
    ∀ (source : DataSource) (setup : LogSetup) (level : Option String)
      (job : CommandLine.JobInvocation) (arguments otherArguments : List String)
      (surroundings others : Surroundings),
      CommandLine.read arguments = .ok ⟨level, some job⟩ → job.command = .plan →
      (CommandLine.SameArguments arguments otherArguments ∨
        ∃ other, CommandLine.read otherArguments = .ok ⟨level, some other⟩ ∧
          CommandLine.SameInvocation job other) →
      SameSurroundings (some job.config) (some JobRequest.standardGroup) surroundings others →
      (CommandLine.run surroundings source setup arguments).1.sight =
          (CommandLine.run others source setup otherArguments).1.sight ∧
        (CommandLine.run surroundings source setup arguments).2 =
          (CommandLine.run others source setup otherArguments).2 := by
  constructor
  · intro source context left right surroundings others same around
    exact sightOf_eq same around source context
  · intro source setup level job arguments otherArguments surroundings others isJob isPlan lines
      around
    have otherJob : ∃ other, CommandLine.read otherArguments = .ok ⟨level, some other⟩ ∧
        CommandLine.SameInvocation job other := by
      rcases lines with words | invocations
      · exact CommandLine.read_same words isJob
      · exact invocations
    obtain ⟨other, isOther, same⟩ := otherJob
    rw [CommandLine.run_of_read isJob, CommandLine.run_of_read isOther]
    exact ⟨CommandLine.sight_runJob same isPlan around source,
      CommandLine.configureLoggers_eq_of_level surroundings others setup⟩

private def oneRow : DataSource :=
  { dialect := .sqlite
    typeObjects := .none
    queries := [⟨none, .ok ⟨some [("low", .null), ("high", .null)],
      [[.integer 1, .integer 9]], none⟩⟩]
    primaryKeys := []
    connectFault := none
    createFault := none }

private def guardedRequest (address password : String) : JobRequest :=
  { JobRequest.empty with
    explicit := .mapping
      [(.text "connection", .mapping
          [(.text "driver", .text "db"), (.text "connection_string", .text address)]),
        (.text "table", .mapping
          [(.text "table_name", .text "t"), (.text "partition_column", .text "id")])]
    password := .text password }

private def guardedSurroundings (password : String) : Surroundings :=
  { files := [("job.json", Utf8.encode "\x7b\"table\": \x7b\"table_name\": \"t\"\x7d\x7d")]
    environment := [("HOME", "/"), ("SQL_IMPORT_PASSWORD", password)] }

private def guardedArguments (address : String) : List String :=
  ["--log-level", "DEBUG", "plan", "--config", "job.json", "--connection-string", address]

private theorem sameButPassword_coded :
    Url.SameButPassword "db://ada:one@host/base" "db://ada:t%40o@host/base" :=
  ⟨⟨"db", some "ada", none, some "host", none, some "base", []⟩, "one", "t@o", rfl, rfl, by decide,
    by decide⟩

private theorem sameSurroundings_guarded (path : Option String) (first second : String) :
    SameSurroundings path (some JobRequest.standardGroup) (guardedSurroundings first)
      (guardedSurroundings second) where
  file := by
    intro given _
    have files : (guardedSurroundings first).files = (guardedSurroundings second).files := rfl
    exact .of_files files given
  environment := by
    have isKey : Layers.keyOfVariable? (Layers.variableStem JobRequest.standardGroup)
        "SQL_IMPORT_PASSWORD" = some "password" := by
      decide +kernel
    refine .cons ⟨rfl, Or.inl rfl⟩ (.cons ⟨rfl, Or.inr ⟨"password", isKey, ?_⟩⟩ .nil)
    exact .secret first second isSecretKey_password

theorem secrets_hidden_coded :
    sightOf oneRow .empty (guardedSurroundings "a")
        (guardedRequest "db://ada:one@host/base" "first") =
      sightOf oneRow .empty (guardedSurroundings "b")
        (guardedRequest "db://ada:t%40o@host/base" "second") ∧
    (CommandLine.run (guardedSurroundings "a") oneRow (.fresh 0)
        (guardedArguments "db://ada:one@host/base")).1.sight =
      (CommandLine.run (guardedSurroundings "b") oneRow (.fresh 0)
        (guardedArguments "db://ada:t%40o@host/base")).1.sight := by
  constructor
  · refine secrets_hidden.1 oneRow .empty _ _ _ _ ?_ (sameSurroundings_guarded _ "a" "b")
    refine ⟨.mapping ?_, rfl, rfl, rfl, .same _ _, rfl, .secret "first" "second" isSecretKey_password⟩
    refine .cons ⟨rfl, Or.inr ⟨rfl, .mapping ?_⟩⟩ (.cons ⟨rfl, Or.inl rfl⟩ .nil)
    exact .cons ⟨rfl, .same _ _⟩
      (.cons ⟨rfl, .url isUrlKey_connectionString sameButPassword_coded⟩ .nil)
  · have isJob : CommandLine.read (guardedArguments "db://ada:one@host/base") =
        .ok ⟨some "DEBUG", some ⟨.plan, "job.json", none, some "db://ada:one@host/base"⟩⟩ := by
      rfl
    have lines : CommandLine.SameArguments (guardedArguments "db://ada:one@host/base")
        (guardedArguments "db://ada:t%40o@host/base") :=
      .cons _ (.cons _ (.cons _ (.cons _ (.cons _ (.address sameButPassword_coded .nil)))))
    exact (secrets_hidden.2 oneRow (.fresh 0) _ _ _ _ _ _ isJob rfl (Or.inl lines)
      (sameSurroundings_guarded _ "a" "b")).1

end ImportPlanning
