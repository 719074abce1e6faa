/-
Connection strings that are no database URL, under the operations of an executor that borrows no
engine and under planning. Such an executor never calls for an engine: every operation that needs one
fails for the flaw of the connection string, before it has done anything, and the executor stays as it
is until it is closed. Which flaw it is decides whether the failure is a planning error.

What the flaws of a text are is left to the reader of URLs.
-/
import ImportPlanning.Proofs.Lifecycle
import ImportPlanning.Proofs.Reports
import ImportPlanning.Proofs.Stages

namespace ImportPlanning

open SessionM

namespace Executor

/-! ### Failures -/

/-- The planning error for a connection string that does not have the shape of a URL. -/
def unreadableAddress : PlannerError :=
  { code := .dataSourceFailure
    message := "Engine creation failed"
    details := [(.text "operation", .text "Engine creation")]
    cause := some .unreadableAddress }

/-- The failure of calling for an engine at a connection string with a flaw. That of a port is passed
on as it is. -/
def addressFailure : UrlFlaw → Failure
  | .unreadable => .planner unreadableAddress
  | .badPort port flaw => .url (.badPort port flaw)

/-- The failure is a planning error just if the connection string has no port that cannot be read. -/
theorem addressFailure_isPlanner_iff {connectionString : String} {flaw : UrlFlaw}
    (isFlaw : Url.read connectionString = .error flaw) :
    (∃ error, addressFailure flaw = .planner error) ↔ PortReadable connectionString := by
  rw [portReadable_iff_of_flaw isFlaw]
  cases flaw with
  | unreadable => simp [addressFailure]
  | badPort port flaw => simp [addressFailure]

/-! ### Executors without an address -/

/-- The executor is open and has no engine, and its connection string has a flaw. -/
structure Unaddressed (flaw : UrlFlaw) (executor : Executor) : Prop where
  isOpen : executor.isClosed = false
  hasNone : executor.hasEngine = false
  isFlaw : Url.read executor.connectionString = .error flaw

theorem unaddressed_ofConnection {connection : ConnectionSettings} {flaw : UrlFlaw}
    (isFlaw : Url.read (connection.connectionString.getD "") = .error flaw) :
    Unaddressed flaw (ofConnection connection false) :=
  ⟨rfl, rfl, isFlaw⟩

section

variable {flaw : UrlFlaw} {executor : Executor} (unaddressed : Unaddressed flaw executor)
  (trace : Trace) (journal : List LogRecord)

include unaddressed

theorem Unaddressed.failsWith_requireEngine (source : DataSource) :
    FailsWith (addressFailure flaw) ⟨executor, trace, journal⟩ (requireEngine source) := by
  have isFlaw : executor.address = .error flaw := by
    rw [address, unaddressed.isFlaw]
    rfl
  have calls : requireEngine source ⟨executor, trace, journal⟩ =
      createEngine source executor ⟨executor, trace, journal⟩ := by
    rw [requireEngine_eq, unaddressed.isOpen, unaddressed.hasNone]
    rfl
  rw [FailsWith, calls, createEngine, isFlaw]
  cases flaw with
  | unreadable => exact ⟨_, rfl⟩
  | badPort port flaw => exact ⟨_, rfl⟩

/-- There is no engine to dispose of. -/
theorem Unaddressed.close_eq :
    close ⟨executor, trace, journal⟩ =
      (.ok (), ⟨{ executor with isClosed := true }, trace, journal⟩) := by
  rw [close, run_bind, run_executor]
  dsimp only
  rw [unaddressed.isOpen, if_neg Bool.false_ne_true, run_bind, run_update]
  dsimp only
  rw [unaddressed.hasNone]
  rfl

/-- An operation closes the executor or leaves it as it is, and does nothing else. One that needs the
engine fails for the flaw. -/
theorem Unaddressed.run_operation (source : DataSource) (operation : Operation) :
    let run := operation.run source ⟨executor, trace, journal⟩
    (∃ later, run.2 = ⟨{ executor with isClosed := operation.closes }, trace, later⟩) ∧
      (operation.needsEngine = true → run.1 = .error (addressFailure flaw)) := by
  intro run
  have stillOpen : { executor with isClosed := false } = executor := by
    rw [← unaddressed.isOpen]
  cases needs : operation.needsEngine with
  | true =>
      obtain ⟨later, failed⟩ := Operation.run_of_refused
        (fun other => unaddressed.failsWith_requireEngine trace other source) journal needs
      have same : run = _ := failed
      rw [same]
      refine ⟨⟨later, ?_⟩, fun _ => rfl⟩
      cases operation.closes with
      | true =>
          rw [if_pos rfl, unaddressed.close_eq]
      | false =>
          rw [if_neg Bool.false_ne_true, stillOpen]
  | false =>
      refine ⟨⟨journal, ?_⟩, fun impossible => (by cases impossible)⟩
      rcases Operation.cases_of_idle needs with ⟨column, relation, rfl⟩ | rfl
      · show _ = Session.mk { executor with isClosed := false } trace journal
        rw [stillOpen]
        rfl
      · show ((Operation.close).run source ⟨executor, trace, journal⟩).2 = _
        rw [Operation.run, after_return, unaddressed.close_eq]
        rfl

/-- A run of operations closes the executor if one of them does, and does nothing else. -/
theorem Unaddressed.serve_eq (calls : List Call) :
    ∃ later, (serve calls ⟨executor, trace, journal⟩).2 =
      ⟨{ executor with isClosed := calls.any fun call => call.operation.closes }, trace, later⟩ := by
  induction calls generalizing executor journal with
  | nil =>
      refine ⟨journal, ?_⟩
      rw [serve, List.any_nil, ← unaddressed.isOpen]
  | cons call rest ih =>
      obtain ⟨⟨between, after⟩, _⟩ :=
        unaddressed.run_operation trace journal call.source call.operation
      rw [serve_cons, Call.run, after, List.any_cons]
      cases call.operation.closes with
      | true =>
          have closed : (Session.mk { executor with isClosed := true } trace
            between).executor.isClosed = true := rfl
          obtain ⟨sameExecutor, sameTrace⟩ := serve_of_closed closed rest
          generalize (serve rest _).2 = last at sameExecutor sameTrace ⊢
          obtain ⟨_, _, later⟩ := last
          cases sameExecutor
          cases sameTrace
          exact ⟨later, rfl⟩
      | false =>
          have still : Unaddressed flaw { executor with isClosed := false } :=
            ⟨rfl, unaddressed.hasNone, unaddressed.isFlaw⟩
          exact ih still between

end

/-- What operations come to, one after the other, at a connection string with a flaw. -/
structure Unserved (flaw : UrlFlaw) (start : Session) (calls : List Call) (last : Session) : Prop
    where
  /-- No engine was called for, and nothing else was asked of a data source. -/
  untouched : last.trace = start.trace
  /-- The executor is the same as before, until an operation closes it. -/
  executor : last.executor =
    { start.executor with isClosed := calls.any fun call => call.operation.closes }
  /-- Until then every operation that needs the engine fails for the flaw. -/
  fails : last.executor.isClosed = false → ∀ call : Call, call.operation.needsEngine = true →
    (call.run last).1 = .error (addressFailure flaw)
  /-- It can be closed at any time. -/
  closable : (close last).1 = .ok () ∧ (close last).2.executor.isClosed = true ∧
    (close last).2.trace = start.trace

theorem Unaddressed.unserved {flaw : UrlFlaw} {executor : Executor}
    (unaddressed : Unaddressed flaw executor) (trace : Trace) (journal : List LogRecord)
    (calls : List Call) :
    Unserved flaw ⟨executor, trace, journal⟩ calls (serve calls ⟨executor, trace, journal⟩).2 := by
  obtain ⟨later, ended⟩ := unaddressed.serve_eq trace journal calls
  rw [ended]
  cases isClosed : calls.any fun call => call.operation.closes with
  | true =>
      have closes : close ⟨{ executor with isClosed := true }, trace, later⟩ =
          (.ok (), ⟨{ executor with isClosed := true }, trace, later⟩) := close_of_closed rfl
      refine ⟨rfl, by rw [isClosed], ?_, ?_⟩
      · intro isOpen
        cases isOpen
      · rw [closes]
        exact ⟨rfl, rfl, rfl⟩
  | false =>
      have still : Unaddressed flaw { executor with isClosed := false } :=
        ⟨rfl, unaddressed.hasNone, unaddressed.isFlaw⟩
      refine ⟨rfl, by rw [isClosed], ?_, ?_⟩
      · intro _ call needs
        exact (still.run_operation trace later call.source call.operation).2 needs
      · rw [still.close_eq]
        exact ⟨rfl, rfl, rfl⟩

end Executor

/-! ### Planning -/

namespace Planner

section

variable {failure : Failure} {source : DataSource} {executor : Executor} {trace : Trace}
  (fails : ∀ journal, FailsWith failure ⟨executor, trace, journal⟩
    (Executor.requireEngine source))
  (journal : List LogRecord)

include fails

theorem failsWith_findBoundary (sql : String) :
    FailsWith failure ⟨executor, trace, journal⟩ (findBoundary source sql) := by
  rw [findBoundary]
  apply failsWith_afterNote
  intro later
  exact failsWith_bind (Executor.failsWith_query fails later sql) _

/-- A boundary query that is set, or one over a statement, is run first; one over a table needs the
quotes of the data source before. -/
theorem failsWith_inspectColumn {table : TableSettings} {origin : Source}
    (chosen : table.source = .ok origin) (column : String) :
    FailsWith failure ⟨executor, trace, journal⟩ (inspectColumn source table column) := by
  rw [inspectColumn, resolveBoundaryQuery]
  cases table.boundaryQuery with
  | some sql =>
      rw [pure_bind]
      exact failsWith_bind (failsWith_findBoundary fails journal sql) _
  | none =>
      rw [chosen]
      dsimp only
      rw [ofPlanning, pure_bind]
      cases origin with
      | table name =>
          refine failsWith_bind ?_ _
          exact failsWith_bind (Executor.failsWith_delimit fails journal name) _
      | query sql =>
          dsimp only
          rw [pure_bind]
          exact failsWith_bind (failsWith_findBoundary fails journal _) _

/-- The failure of an attempt for which the engine is refused with a failure: a statement without a
partition column does not come to ask for it. -/
def attemptFailure (failure : Failure) (table : TableSettings) : Failure :=
  match table.partitionColumn, table.tableName with
  | none, none => .planner columnMissing
  | _, _ => failure

theorem failsWith_inspect {table : TableSettings} {origin : Source}
    (chosen : table.source = .ok origin) :
    FailsWith (attemptFailure failure table) ⟨executor, trace, journal⟩ (inspect source table) := by
  rw [inspect_eq, resolvePartitionColumn.eq_def, attemptFailure.eq_def]
  cases table.partitionColumn with
  | some column =>
      dsimp only
      rw [pure_bind]
      exact failsWith_inspectColumn fails journal chosen column
  | none =>
      cases table.tableName with
      | none =>
          exact failsWith_bind failsWith_throw _
      | some name =>
          exact failsWith_bind (failsWith_bind (Executor.failsWith_primaryKey fails journal name) _) _

end

/-- An attempt that passes the checks uses one executor, which is closed, and does nothing else. -/
theorem planInto_of_flaw {connection : ConnectionSettings} {flaw : UrlFlaw}
    (isFlaw : Url.read (connection.connectionString.getD "") = .error flaw) {table : TableSettings}
    (passed : firstFailure (checks connection table) = none) (source : DataSource)
    (workspace : Workspace) :
    ∃ journal, planInto source false connection table workspace =
      (.error (attemptFailure (Executor.addressFailure flaw) table),
        { workspace with
          journal
          executors := workspace.executors ++
            [{ Executor.ofConnection connection false with isClosed := true }] }) := by
  obtain ⟨origin, chosen⟩ := source_of_checks passed
  have unaddressed := Executor.unaddressed_ofConnection isFlaw
  obtain ⟨later, failed⟩ := failsWith_inspect
    (fun other => unaddressed.failsWith_requireEngine workspace.trace other source)
    workspace.journal chosen
  have inspected : inspectWith source (.ofConnection connection false) table workspace =
      (.error (attemptFailure (Executor.addressFailure flaw) table),
        { workspace with
          journal := later
          executors := workspace.executors ++
            [{ Executor.ofConnection connection false with isClosed := true }] }) := by
    rw [inspectWith, Executor.thenClose, failed]
    dsimp only
    rw [unaddressed.close_eq]
  exact ⟨later, (planInto_of_inspected passed inspected).1 _ rfl⟩

/-- At a connection string that is no URL, no engine is called for. The operations that need one fail,
and the executor stays open until it is closed; so do attempts at planning, which leave the context
alone and their executor closed. The failure is a planning error just if no port of the connection
string is at fault. -/
theorem flawed_address_reported_iff {connection : ConnectionSettings} {flaw : UrlFlaw}
    (isFlaw : Url.read (connection.connectionString.getD "") = .error flaw) :
    (∀ trace journal calls,
      let start : Session := ⟨.ofConnection connection false, trace, journal⟩
      Executor.Unserved flaw start calls (Executor.serve calls start).2) ∧
    (∀ source table workspace,
      match firstFailure (checks connection table) with
      | some error =>
        planInto source false connection table workspace = (.error (.planner error), workspace)
      | none => ∃ journal, planInto source false connection table workspace =
        (.error (attemptFailure (Executor.addressFailure flaw) table),
          { workspace with
            journal
            executors := workspace.executors ++
              [{ Executor.ofConnection connection false with isClosed := true }] })) ∧
    ((∃ error, Executor.addressFailure flaw = .planner error) ↔
      Executor.PortReadable (connection.connectionString.getD "")) := by
  refine ⟨?_, ?_, Executor.addressFailure_isPlanner_iff isFlaw⟩
  · intro trace journal calls
    exact (Executor.unaddressed_ofConnection isFlaw).unserved trace journal calls
  · intro source table workspace
    cases found : firstFailure (checks connection table) with
    | some error => exact planInto_of_failure found source false workspace
    | none => exact planInto_of_flaw isFlaw found source workspace

/-- A data source that answers nothing. -/
private def silent : DataSource :=
  { dialect := .sqlite
    typeObjects := .none
    queries := []
    primaryKeys := []
    connectFault := none
    createFault := none }

/-- A text without a scheme: a query, a quoted name and an attempt at planning end with the same error,
and the executor can be closed. -/
theorem flawed_address_reported_schemeless :
    let connection : ConnectionSettings := ⟨some "sqlite", some "no url", none, none⟩
    let calls : List Executor.Call := [⟨silent, .query "SELECT 1"⟩, ⟨silent, .delimit "t"⟩]
    let last := (Executor.serve calls ⟨.ofConnection connection false, .empty, []⟩).2
    let run := planInto silent false connection ⟨some "t", none, none, some "id", none⟩
      (.ofContext .empty)
    Url.read "no url" = .error .unreadable ∧ last.trace.created = [] ∧
      last.executor.isClosed = false ∧
      ((Executor.Call.mk silent (.primaryKey "t")).run last).1 =
        .error (.planner Executor.unreadableAddress) ∧
      run.1 = .error (.planner Executor.unreadableAddress) ∧
      run.2.executors.map Executor.isClosed = [true] := by
  intro connection calls last run
  have isFlaw : Url.read "no url" = .error .unreadable := rfl
  have isConnections : Url.read (connection.connectionString.getD "") = .error .unreadable := isFlaw
  obtain ⟨operations, attempts, _⟩ := flawed_address_reported_iff isConnections
  have served : Executor.Unserved .unreadable _ calls last := operations .empty [] calls
  have isOpen : last.executor.isClosed = false := by
    rw [served.executor]
    rfl
  obtain ⟨journal, failed⟩ := attempts silent ⟨some "t", none, none, some "id", none⟩
    (.ofContext .empty)
  have same : run = _ := failed
  rw [same]
  refine ⟨isFlaw, ?_, isOpen, served.fails isOpen _ rfl, rfl, rfl⟩
  rw [served.untouched]
  rfl

/-- A port that is no number is not reported as a planning error. -/
theorem bad_port_not_reported :
    let connection : ConnectionSettings := ⟨some "sqlite", some "sqlite://host:abc", none, none⟩
    let start : Session := ⟨.ofConnection connection false, .empty, []⟩
    let table : TableSettings := ⟨some "t", none, none, some "id", none⟩
    Url.read "sqlite://host:abc" = .error (.badPort "abc" .notANumber) ∧
      (∀ error, ((Executor.Operation.query "SELECT 1").run silent start).1 ≠
        .error (.planner error)) ∧
      ∀ error, (planInto silent false connection table (.ofContext .empty)).1 ≠
        .error (.planner error) := by
  intro connection start table
  have isFlaw : Url.read "sqlite://host:abc" = .error (.badPort "abc" .notANumber) := rfl
  have isConnections : Url.read (connection.connectionString.getD "") =
      .error (.badPort "abc" .notANumber) := isFlaw
  refine ⟨isFlaw, ?_, ?_⟩
  · intro error
    obtain ⟨_, failed⟩ := (Executor.unaddressed_ofConnection isConnections).run_operation .empty []
      silent (.query "SELECT 1")
    rw [failed rfl]
    intro impossible
    cases impossible
  · intro error
    have passed : firstFailure (checks connection table) = none := rfl
    obtain ⟨_, failed⟩ := planInto_of_flaw isConnections passed silent (.ofContext .empty)
    rw [failed]
    intro impossible
    cases impossible

end Planner
end ImportPlanning
