/-
The stages of planning in their order. The checks that need no data source come first, and the first
of them that fails decides the error; no executor is used for it. After them one executor is used:
the primary key is looked up before any statement is sent, and the statements are sent in a fixed
order, of which a failed attempt has sent a first part.
-/
import ImportPlanning.Proofs.Statements

namespace ImportPlanning.Planner

open SessionM

/-! ### Checks -/

/-- A check: does it fail, and with which error? -/
structure Check where
  fails : Bool
  error : PlannerError

def firstFailure (checks : List Check) : Option PlannerError :=
  (checks.find? Check.fails).map Check.error

def connectionChecks (connection : ConnectionSettings) : List Check :=
  [⟨isMissing connection.driver,
      ⟨.missingConnectionParameter, "Driver is required",
        [(.text "parameter", .text "driver")], none⟩⟩,
   ⟨isMissing connection.connectionString,
      ⟨.missingConnectionParameter, "Connection string is required",
        [(.text "parameter", .text "connection_string")], none⟩⟩]

def sourceChecks (table : TableSettings) : List Check :=
  [⟨table.tableName.isSome && table.sql.isSome,
      ⟨.ambiguousSource, "Table name and SQL statement cannot be specified together",
        [(.text "table_name", .text (table.tableName.getD ""))], none⟩⟩,
   ⟨table.tableName.isNone && table.sql.isNone,
      ⟨.unspecifiedSource, "Either a table name or an SQL statement must be specified", [], none⟩⟩,
   ⟨table.tableName.isNone && !Conditions.occurs (table.sql.getD ""),
      ⟨.missingConditionsToken, "SQL statement must contain $\x7bCONDITIONS\x7d",
        [(.text "sql", .text (table.sql.getD ""))], none⟩⟩]

/-- The checks that come before an executor is used, in their order. -/
def checks (connection : ConnectionSettings) (table : TableSettings) : List Check :=
  connectionChecks connection ++ sourceChecks table

/-- The error for a statement for which no partition column is set. -/
def columnMissing : PlannerError :=
  ⟨.unresolvablePartitionColumn,
    "Partition column must be set when importing from an SQL statement", [], none⟩

private def outcome (list : List Check) : Except PlannerError Unit :=
  match firstFailure list with
  | some error => .error error
  | none => .ok ()

private theorem outcome_append (earlier later : List Check) :
    outcome (earlier ++ later) = outcome earlier >>= fun _ => outcome later := by
  rw [outcome, outcome, firstFailure, firstFailure, List.find?_append]
  cases earlier.find? Check.fails with
  | none => rfl
  | some check => rfl

private theorem validateConnection_eq (connection : ConnectionSettings) :
    validateConnection connection = outcome (connectionChecks connection) := by
  rw [validateConnection]
  cases noDriver : isMissing connection.driver with
  | true =>
      simp only [outcome, firstFailure, connectionChecks, List.find?_cons, noDriver]
      rfl
  | false =>
      cases noAddress : isMissing connection.connectionString with
      | true =>
          simp only [outcome, firstFailure, connectionChecks, List.find?_cons, noDriver, noAddress]
          rfl
      | false =>
          simp only [outcome, firstFailure, connectionChecks, List.find?_cons, noDriver, noAddress]
          rfl

private theorem checkSource_eq (table : TableSettings) :
    (table.source >>= Source.ensureConditions) = outcome (sourceChecks table) := by
  rw [TableSettings.source.eq_def, outcome, firstFailure, sourceChecks]
  cases table.tableName with
  | some name =>
      cases table.sql with
      | some sql => rfl
      | none => rfl
  | none =>
      cases table.sql with
      | none => rfl
      | some sql =>
          show ensureToken sql = _
          rw [ensureToken]
          cases held : Conditions.occurs sql with
          | true => simp only [List.find?_cons, Option.getD_some, held]; rfl
          | false => simp only [List.find?_cons, Option.getD_some, held]; rfl

theorem precheck_eq (connection : ConnectionSettings) (table : TableSettings) :
    precheck connection table =
      match firstFailure (checks connection table) with
      | some error => .error error
      | none => .ok () := by
  show (validateConnection connection >>= fun _ => table.source >>= Source.ensureConditions) =
    outcome (connectionChecks connection ++ sourceChecks table)
  rw [validateConnection_eq, checkSource_eq, outcome_append]

theorem source_of_checks {connection : ConnectionSettings} {table : TableSettings}
    (passed : firstFailure (checks connection table) = none) :
    ∃ origin, table.source = .ok origin := by
  have whole := precheck_eq connection table
  rw [passed] at whole
  cases chosen : table.source with
  | ok origin =>
      exact ⟨origin, rfl⟩
  | error error =>
      cases validated : validateConnection connection <;>
        simp [precheck, validated, chosen, bind, Except.bind] at whole

/-! ### Attempts -/

def startOf (isBorrowed : Bool) (connection : ConnectionSettings) (workspace : Workspace) :
    Session :=
  ⟨.ofConnection connection isBorrowed, workspace.trace, workspace.journal⟩

/-- An attempt that fails a check does nothing at all. -/
theorem planInto_of_failure {connection : ConnectionSettings} {table : TableSettings}
    {error : PlannerError} (failed : firstFailure (checks connection table) = some error)
    (source : DataSource) (isBorrowed : Bool) (workspace : Workspace) :
    planInto source isBorrowed connection table workspace =
      (.error (.planner error), workspace) := by
  have checked := precheck_eq connection table
  rw [failed] at checked
  rw [planInto, checked]

theorem passed_of_plan {source : DataSource} {isBorrowed : Bool} {connection : ConnectionSettings}
    {table : TableSettings} {workspace : Workspace} {plan : ImportPlan}
    (planned : (planInto source isBorrowed connection table workspace).1 = .ok plan) :
    firstFailure (checks connection table) = none := by
  cases failed : firstFailure (checks connection table) with
  | none => rfl
  | some error =>
      rw [planInto_of_failure failed] at planned
      cases planned

/-- Publishing does nothing to the data source and uses no executor. -/
theorem publishInto_frame (plan : ImportPlan) (workspace : Workspace) :
    (publishInto plan workspace).2.trace = workspace.trace ∧
      (publishInto plan workspace).2.executors = workspace.executors ∧
      ∀ published, (publishInto plan workspace).1 = .ok published → published = plan := by
  rw [publishInto]
  cases plan.publish workspace.context with
  | mk result context =>
      cases result with
      | error failure =>
          refine ⟨rfl, rfl, ?_⟩
          intro published impossible
          cases impossible
      | ok done =>
          refine ⟨rfl, rfl, ?_⟩
          intro published same
          exact (Except.ok.inj same).symm

theorem planInto_of_inspected {connection : ConnectionSettings} {table : TableSettings}
    (passed : firstFailure (checks connection table) = none) {source : DataSource}
    {isBorrowed : Bool} {workspace after : Workspace} {findings : Except Failure Findings}
    (inspected : inspectWith source (.ofConnection connection isBorrowed) table workspace =
      (findings, after)) :
    (∀ failure, findings = .error failure →
      planInto source isBorrowed connection table workspace = (.error failure, after)) ∧
    ∀ found, findings = .ok found →
      planInto source isBorrowed connection table workspace =
        publishInto (planOf connection found) after := by
  have checked : precheck connection table = .ok () := by
    rw [precheck_eq, passed]
  constructor
  · rintro failure rfl
    simp only [planInto, checked, inspected]
  · rintro found rfl
    simp only [planInto, checked, inspected]

/-- An attempt that passes the checks is an inspection with one executor, and then a publication if
the inspection has found everything. -/
theorem planInto_of_checks {connection : ConnectionSettings} {table : TableSettings}
    (passed : firstFailure (checks connection table) = none) (source : DataSource)
    (isBorrowed : Bool) (workspace : Workspace) :
    let run := planInto source isBorrowed connection table workspace
    let inspection :=
      Executor.thenClose (inspect source table) (startOf isBorrowed connection workspace)
    run.2.trace = inspection.2.trace ∧
      run.2.executors = workspace.executors ++ [inspection.2.executor] ∧
      (∀ failure, inspection.1 = .error failure → run.1 = .error failure) ∧
      ∀ plan, run.1 = .ok plan →
        ∃ findings, inspection.1 = .ok findings ∧ plan = planOf connection findings := by
  intro run inspection
  have inspected : inspectWith source (.ofConnection connection isBorrowed) table workspace =
      (inspection.1,
        { workspace with
          trace := inspection.2.trace
          journal := inspection.2.journal
          executors := workspace.executors ++ [inspection.2.executor] }) := rfl
  obtain ⟨whenFailed, whenFound⟩ := planInto_of_inspected passed inspected
  cases ended : inspection.1 with
  | error failure =>
      have same : run = _ := whenFailed failure ended
      rw [same]
      refine ⟨rfl, rfl, ?_, ?_⟩
      · intro other equal
        exact congrArg Except.error (Except.error.inj equal)
      · intro plan impossible
        cases impossible
  | ok findings =>
      obtain ⟨trace, executors, published⟩ := publishInto_frame (planOf connection findings)
        { workspace with
          trace := inspection.2.trace
          journal := inspection.2.journal
          executors := workspace.executors ++ [inspection.2.executor] }
      have same : run = _ := whenFound findings ended
      rw [same]
      refine ⟨trace, executors, ?_, ?_⟩
      · intro failure impossible
        cases impossible
      · intro plan returned
        exact ⟨findings, rfl, published plan returned⟩

/-- What an attempt that passes the checks asks of its data source. -/
structure Inspects (source : DataSource) (table : TableSettings) (origin : Source)
    (start : Session) (workspace : Workspace) (run : Except Failure ImportPlan × Workspace) :
    Prop where
  /-- One executor is used. -/
  oneExecutor : ∃ executor, run.2.executors = workspace.executors ++ [executor]
  /-- A statement needs a partition column; without one nothing is asked. -/
  columnNeeded : table.tableName = none → table.partitionColumn = none →
    run.1 = .error (.planner columnMissing) ∧
      run.2.trace.executed = workspace.trace.executed ∧
      run.2.trace.lookups = workspace.trace.lookups
  /-- At most the key of the table is looked up, and only if no partition column is set. -/
  lookedUp : ∃ looked, looked <+: keyLookups table ∧
    run.2.trace.lookups = workspace.trace.lookups ++ looked
  /-- The first step looks up all keys of the attempt and sends no statement. -/
  lookupsFirst : ∃ rest : String → SessionM Findings,
    inspect source table = resolvePartitionColumn source table >>= rest ∧
      (resolvePartitionColumn source table start).2.trace.executed = workspace.trace.executed ∧
      (resolvePartitionColumn source table start).2.trace.lookups = run.2.trace.lookups
  /-- The first of the planned statements are sent. -/
  sentFirst : ∃ sent, sent <+: (plannedStatements source table origin).map source.dialect.sent ∧
    run.2.trace.executed = workspace.trace.executed ++ sent
  /-- A plan was made with all of them, and carries them. -/
  sentAll : ∀ plan, run.1 = .ok plan →
    columnOf source table = some plan.partitionColumn ∧
      plan.boundaryQuery = boundaryStatement source.dialect table plan.partitionColumn origin ∧
      plan.extraction.dataSql = template source.dialect table.columns origin ∧
      run.2.trace.executed = workspace.trace.executed ++
        (plan.boundaryQuery ::
          (match table.columns with
            | none => [Conditions.apply Conditions.alwaysFalse plan.extraction.dataSql]
            | some _ => [])).map source.dialect.sent

private theorem inspect_of_columnNeeded {table : TableSettings} (noTable : table.tableName = none)
    (noColumn : table.partitionColumn = none) (source : DataSource) (session : Session) :
    inspect source table session = (.error (.planner columnMissing), session) := by
  have failing : resolvePartitionColumn source table session =
      (.error (.planner columnMissing), session) := by
    rw [resolvePartitionColumn.eq_def, noColumn, noTable]
    rfl
  rw [inspect_eq, run_bind, failing]

private theorem lookups_of_inspect {table : TableSettings} {origin : Source}
    (chosen : table.source = .ok origin) (source : DataSource) (session : Session) :
    (resolvePartitionColumn source table session).2.trace.lookups =
      (inspect source table session).2.trace.lookups := by
  rw [inspect_eq, run_bind]
  cases resolvePartitionColumn source table session with
  | mk result between =>
      cases result with
      | error failure =>
          rfl
      | ok column =>
          obtain ⟨looked, _, isLooked, _, lookups, _, _⟩ :=
            sends_inspectColumn chosen source column between
          rw [List.prefix_nil.mp isLooked, List.append_nil] at lookups
          exact lookups.symm

theorem inspects_of_checks {connection : ConnectionSettings} {table : TableSettings}
    {origin : Source} (passed : firstFailure (checks connection table) = none)
    (chosen : table.source = .ok origin) (source : DataSource) (isBorrowed : Bool)
    (workspace : Workspace) :
    Inspects source table origin (startOf isBorrowed connection workspace) workspace
      (planInto source isBorrowed connection table workspace) := by
  obtain ⟨trace, executors, failed, succeeded⟩ :=
    planInto_of_checks passed source isBorrowed workspace
  have asks := Executor.asks_thenClose (asks_inspect chosen source)
  obtain ⟨looked, sent, isLooked, isSent, lookups, executed, all⟩ :=
    asks (startOf isBorrowed connection workspace)
  rw [← trace] at lookups executed
  refine ⟨⟨_, executors⟩, ?_, ⟨looked, isLooked, lookups⟩, ?_, ⟨sent, isSent, executed⟩, ?_⟩
  · intro noTable noColumn
    have failing := inspect_of_columnNeeded noTable noColumn source
      (startOf isBorrowed connection workspace)
    have noKeys : keyLookups table = [] := by
      rw [keyLookups.eq_def, noColumn, noTable]
    have noStatements : plannedStatements source table origin = [] := by
      rw [plannedStatements, columnOf.eq_def, noColumn, noTable]
    rw [noKeys, List.prefix_nil] at isLooked
    rw [noStatements, List.map_nil, List.prefix_nil] at isSent
    refine ⟨failed _ (congrArg Prod.fst failing), ?_, ?_⟩
    · rw [executed, isSent, List.append_nil]
      rfl
    · rw [lookups, isLooked, List.append_nil]
      rfl
  · refine ⟨inspectColumn source table, inspect_eq source table, ?_, ?_⟩
    · obtain ⟨_, nothing, _, isNothing, _, unchanged, _⟩ :=
        asks_resolvePartitionColumn source table (startOf isBorrowed connection workspace)
      rw [unchanged, List.prefix_nil.mp isNothing, List.append_nil]
      rfl
    · rw [trace, lookups_of_inspect chosen]
      exact (Executor.sends_close.trace_of_nothing
        (inspect source table (startOf isBorrowed connection workspace)).2).1.symm
  · intro plan returned
    obtain ⟨findings, found, rfl⟩ := succeeded plan returned
    obtain ⟨_, complete, known, boundaryQuery, written, _⟩ := all findings found
    have dataSql : (planOf connection findings).extraction.dataSql =
        template source.dialect table.columns origin := written
    have boundary : (planOf connection findings).boundaryQuery =
        boundaryStatement source.dialect table findings.partitionColumn origin := boundaryQuery
    refine ⟨known, boundary, dataSql, ?_⟩
    rw [executed, complete, plannedStatements, known, dataSql, boundary]
    show _ ++ (statementsFor _ _ _ _).map _ = _
    rw [statementsFor, discoveryStatements.eq_def]
    cases table.columns <;> rfl

/-- The first check that fails decides the error, and then nothing at all is done. If none fails, one
executor is used: at most one key is looked up, before any statement, and the planned statements are
sent in their order, all of them if a plan is made. -/
theorem planInto_stages (source : DataSource) (isBorrowed : Bool) (connection : ConnectionSettings)
    (table : TableSettings) (workspace : Workspace) :
    match firstFailure (checks connection table) with
    | some error =>
      planInto source isBorrowed connection table workspace = (.error (.planner error), workspace)
    | none => ∃ origin, table.source = .ok origin ∧
      Inspects source table origin (startOf isBorrowed connection workspace) workspace
        (planInto source isBorrowed connection table workspace) := by
  cases found : firstFailure (checks connection table) with
  | some error =>
      have checked := precheck_eq connection table
      rw [found] at checked
      show planInto source isBorrowed connection table workspace = _
      rw [planInto, checked]
  | none =>
      obtain ⟨origin, chosen⟩ := source_of_checks found
      exact ⟨origin, chosen, inspects_of_checks found chosen source isBorrowed workspace⟩

end ImportPlanning.Planner
