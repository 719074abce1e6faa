/-
The failures of planning. Where a data source has known faults only, and gives rows that are as long
as its columns with cells that can be written, every stage of planning fails with planning errors, and
publication fails because keys are taken.

Connection strings with a port that cannot be read are left out: they fail in their own way.
-/
import Mathlib.Data.List.Basic
import ImportPlanning.Proofs.Answers
import ImportPlanning.Proofs.BoundaryResults
import ImportPlanning.Proofs.Publication
import ImportPlanning.Proofs.Reports

namespace ImportPlanning

open SessionM

/-- Each row has one cell for each column, and each cell can be written as text. -/
structure DataSource.IsRegular (source : DataSource) : Prop where
  rectangular : ∀ query ∈ source.queries, ∀ result columns, query.outcome = .ok result →
    result.columns = some columns → ∀ row ∈ result.rows, row.length = columns.length
  writable : ∀ query ∈ source.queries, ∀ result, query.outcome = .ok result →
    ∀ row ∈ result.rows, ∀ cell ∈ row, cell.isOverlong = false

theorem DataSource.answer_of_fetch {source : DataSource} {statement : String}
    {columns : List (String × Value)} {rows : List (List Value)}
    (fetched : source.fetch statement = .ok (columns, rows)) :
    ∃ query ∈ source.queries, ∃ result, query.outcome = .ok result ∧
      result.columns = some columns ∧ result.rows = rows := by
  rw [fetch] at fetched
  rcases Executor.answer_cases source statement with ⟨query, member, same⟩ | unknown
  · refine ⟨query, member, ?_⟩
    rw [← same]
    cases answered : source.answer statement with
    | error fault =>
        rw [answered] at fetched
        cases fetched
    | ok result =>
        refine ⟨result, rfl, ?_⟩
        rw [answered] at fetched
        dsimp only at fetched
        cases hasColumns : result.columns with
        | none =>
            rw [hasColumns] at fetched
            cases fetched
        | some found =>
            cases faulty : result.fetchFault with
            | some fault =>
                rw [hasColumns, faulty] at fetched
                cases fetched
            | none =>
                rw [hasColumns, faulty] at fetched
                cases fetched
                exact ⟨rfl, rfl⟩
  · rw [unknown] at fetched
    cases fetched

namespace Executor

/-! ### Sound executors -/

structure IsSound (executor : Executor) : Prop where
  isOpen : executor.isClosed = false
  readable : PortReadable executor.connectionString

theorem frame_sound : Frame fun before after => before.executor.IsSound → after.executor.IsSound where
  refl _ sound := sound
  trans earlier later sound := later (earlier sound)
  noted _ _ sound := sound
  executed _ _ sound := sound
  lookedUp _ _ _ sound := sound

theorem sound_requireEngine (source : DataSource) :
    Keeps (fun before after => before.executor.IsSound → after.executor.IsSound)
      (requireEngine source) := by
  intro session sound
  rcases settles_requireEngine source session with same | ⟨_, equipped⟩
  · rw [same]
    exact sound
  · rw [equipped]
    exact ⟨sound.isOpen, sound.readable⟩

/-- Taken by a sound executor, the step leaves it sound; it gives an answer, or fails with a planning
error. -/
def Orderly {α : Type} (answers : α → Prop) (step : SessionM α) : Prop :=
  ∀ session, session.executor.IsSound → (step session).2.executor.IsSound ∧
    (∀ value, (step session).1 = .ok value → answers value) ∧
    ∀ failure, (step session).1 = .error failure → ∃ error, failure = .planner error

section

variable {α β : Type} {answers : α → Prop} {later : β → Prop}

theorem orderly_pure {value : α} (answered : answers value) : Orderly answers (pure value) := by
  intro session sound
  refine ⟨sound, ?_, ?_⟩
  · intro other same
    cases same
    exact answered
  · intro failure impossible
    cases impossible

theorem orderly_throw (error : PlannerError) :
    Orderly answers (throw (.planner error) : SessionM α) := by
  intro session sound
  refine ⟨sound, ?_, ?_⟩
  · intro value impossible
    cases impossible
  · intro failure same
    cases same
    exact ⟨error, rfl⟩

theorem orderly_note (severity : Severity) (logger message : String) :
    Orderly (fun _ => True) (note severity logger message) := by
  intro session sound
  refine ⟨sound, fun _ _ => trivial, ?_⟩
  intro failure impossible
  cases impossible

theorem orderly_ofPlanning (result : Except PlannerError α) :
    Orderly (fun value => result = .ok value) (Planner.ofPlanning result) := by
  cases result with
  | ok value => exact orderly_pure rfl
  | error error => exact orderly_throw error

theorem orderly_bind {step : SessionM α} {next : α → SessionM β} (begins : Orderly answers step)
    (goesOn : ∀ value, answers value → Orderly later (next value)) :
    Orderly later (step >>= next) := by
  intro session sound
  obtain ⟨stillSound, answered, failed⟩ := begins session sound
  rw [run_bind]
  revert stillSound answered failed
  rcases step session with ⟨result, after⟩
  intro stillSound answered failed
  cases result with
  | ok value => exact goesOn value (answered value rfl) after stillSound
  | error failure =>
      refine ⟨stillSound, ?_, ?_⟩
      · intro value impossible
        cases impossible
      · intro other same
        cases same
        exact failed failure rfl

theorem orderly_of_reports {keys : List (Option String × String)} {statements : List String}
    {breaks : Executor → Phase → Cause → Prop} {step : SessionM α}
    (keeps : Keeps (fun before after => before.executor.IsSound → after.executor.IsSound) step)
    (asks : Asks keys statements answers step)
    (reports : ∀ executor : Executor, executor.IsSound →
      Reports (· = executor) executor.driver (breaks executor) step) : Orderly answers step := by
  intro session sound
  refine ⟨keeps session sound, ?_, ?_⟩
  · obtain ⟨_, _, _, _, _, _, succeeded⟩ := asks session
    intro value returned
    exact (succeeded value returned).2.2
  · intro failure failed
    obtain ⟨phase, cause, _, isReport⟩ := ((reports _ sound).error_iff rfl).mp failed
    exact ⟨_, isReport⟩

end

/-! ### Operations -/

section

variable {source : DataSource} (known : source.HasKnownFaults)

include known

theorem orderly_query (sql : String) : Orderly (ResultOf source sql) (query source sql) :=
  orderly_of_reports (keeps_query frame_sound (sound_requireEngine source) sql)
    (sends_query source sql) fun _ sound => reports_query known sound.isOpen sound.readable sql

theorem orderly_columnNames (sql : String) : Orderly (fun _ => True) (columnNames source sql) := by
  rw [columnNames]
  exact orderly_bind (orderly_query known sql) fun _ _ => orderly_pure trivial

theorem orderly_primaryKey (table : String) : Orderly (fun _ => True) (primaryKey source table) :=
  orderly_of_reports (keeps_primaryKey frame_sound (sound_requireEngine source) table)
    ((asks_primaryKey source table).weaken fun _ _ => trivial)
    fun _ sound => reports_primaryKey known sound.isOpen sound.readable table

theorem orderly_delimit (name : String) : Orderly (fun _ => True) (delimit source name) := by
  have engine : Orderly (fun _ => True) (requireEngine source) :=
    orderly_of_reports (sound_requireEngine source) (sends_requireEngine source)
      fun _ sound => reports_requireEngine known sound.isOpen sound.readable
  rw [delimit]
  exact orderly_bind engine fun _ _ => orderly_pure trivial

end

end Executor

/-! ### Stages -/

namespace Planner

open Executor

/-- A result with rows of the right length and writable cells gives a range, or else it has a wrong
number of columns or rows. -/
theorem boundaryOf_of_regular {source : DataSource} (regular : source.IsRegular) {sql : String}
    {result : QueryResult} (given : ResultOf source sql result) {failure : Failure}
    (failed : boundaryOf sql result = .error failure) : ∃ error, failure = .planner error := by
  obtain ⟨columns, fetched, described⟩ := given
  obtain ⟨query, member, answer, answered, isColumns, isRows⟩ :=
    DataSource.answer_of_fetch fetched
  have sameLength : result.columns.length = columns.length := by
    rw [described, describeColumns, List.length_mapIdx]
  have rectangular : result.IsRectangular := by
    intro row isRow
    rw [← isRows] at isRow
    rw [sameLength]
    exact regular.rectangular query member answer columns answered isColumns row isRow
  have writable : result.IsWritable := by
    intro row isRow
    rw [← isRows] at isRow
    exact regular.writable query member answer answered row isRow
  have accepts := (judged_boundaryOf rectangular sql).acceptsWellFormed writable
  obtain ⟨message, details, isMalformed⟩ := accepts.refused failure failed
  exact ⟨_, isMalformed⟩

section

variable {source : DataSource} (known : source.HasKnownFaults)

include known

theorem orderly_resolvePartitionColumn (table : TableSettings) :
    Orderly (fun _ => True) (resolvePartitionColumn source table) := by
  rw [resolvePartitionColumn.eq_def]
  cases table.partitionColumn with
  | some column =>
      exact orderly_pure trivial
  | none =>
      cases table.tableName with
      | none =>
          exact orderly_throw _
      | some name =>
          apply orderly_bind (orderly_primaryKey known name)
          intro found _
          dsimp only
          split
          · exact orderly_throw _
          · exact orderly_bind (orderly_note _ _ _) fun _ _ => orderly_pure trivial

theorem orderly_resolveBoundaryQuery (table : TableSettings) (column : String) :
    Orderly (fun _ => True) (resolveBoundaryQuery source table column) := by
  rw [resolveBoundaryQuery]
  cases table.boundaryQuery with
  | some sql =>
      exact orderly_pure trivial
  | none =>
      apply orderly_bind (orderly_ofPlanning _)
      intro origin _
      cases origin with
      | table name =>
          exact orderly_bind (orderly_delimit known name) fun _ _ => orderly_pure trivial
      | query sql =>
          exact orderly_pure trivial

theorem orderly_findBoundary (regular : source.IsRegular) (sql : String) :
    Orderly (fun _ => True) (findBoundary source sql) := by
  rw [findBoundary]
  apply orderly_bind (orderly_note _ _ _)
  intro _ _
  apply orderly_bind (orderly_query known sql)
  intro result given
  have ranging : Orderly (fun _ => True) (ofExcept (boundaryOf sql result) : SessionM Boundary) := by
    cases found : boundaryOf sql result with
    | ok boundary => exact orderly_pure trivial
    | error failure =>
        obtain ⟨error, rfl⟩ := boundaryOf_of_regular regular given found
        exact orderly_throw error
  apply orderly_bind ranging
  intro _ _
  exact orderly_bind (orderly_note _ _ _) fun _ _ => orderly_pure trivial

theorem orderly_discoverFieldNames (sql : String) :
    Orderly (fun _ => True) (discoverFieldNames source sql) := by
  rw [discoverFieldNames]
  exact orderly_bind (orderly_columnNames known _) fun _ _ => orderly_pure trivial

theorem orderly_extractionOf (table : TableSettings) (origin : Source) :
    Orderly (fun _ => True) (extractionOf source table origin) := by
  rw [extractionOf.eq_def]
  cases origin with
  | table name =>
      cases table.columns with
      | none =>
          apply orderly_bind (orderly_delimit known name)
          intro _ _
          exact orderly_bind (orderly_discoverFieldNames known _) fun _ _ => orderly_pure trivial
      | some columns =>
          exact orderly_bind (orderly_delimit known name) fun _ _ => orderly_pure trivial
  | query sql =>
      cases table.columns with
      | none =>
          exact orderly_bind (orderly_discoverFieldNames known sql) fun _ _ => orderly_pure trivial
      | some columns =>
          exact orderly_pure trivial

theorem orderly_resolveExtraction (table : TableSettings) :
    Orderly (fun _ => True) (resolveExtraction source table) := by
  rw [resolveExtraction]
  apply orderly_bind (orderly_ofPlanning _)
  intro origin _
  apply orderly_bind (orderly_ofPlanning _)
  intro _ _
  apply orderly_bind (orderly_extractionOf known table origin)
  intro _ _
  apply orderly_bind (orderly_note _ _ _)
  intro _ _
  exact orderly_bind (orderly_note _ _ _) fun _ _ => orderly_pure trivial

theorem orderly_inspect (regular : source.IsRegular) (table : TableSettings) :
    Orderly (fun _ => True) (inspect source table) := by
  rw [inspect]
  apply orderly_bind (orderly_resolvePartitionColumn known table)
  intro column _
  apply orderly_bind (orderly_resolveBoundaryQuery known table column)
  intro boundaryQuery _
  apply orderly_bind (orderly_findBoundary known regular boundaryQuery)
  intro boundary _
  exact orderly_bind (orderly_resolveExtraction known table) fun _ _ => orderly_pure trivial

end

/-! ### Attempts -/

theorem publishInto_failure {plan : ImportPlan} {workspace : Workspace} {failure : Failure}
    (failed : (publishInto plan workspace).1 = .error failure) :
    ∃ keys, failure = .keysTaken keys ∧ keys ≠ [] ∧
      ∀ key ∈ keys, workspace.context.contains key = true := by
  rw [publishInto, plan.publish_eq] at failed
  by_cases free : plan.conflicts workspace.context = []
  · rw [if_pos free] at failed
    cases failed
  · rw [if_neg free] at failed
    cases failed
    refine ⟨_, rfl, free, ?_⟩
    intro key taken
    rw [ImportPlan.conflicts, List.mem_mergeSort, List.mem_filter] at taken
    exact taken.2

theorem planInto_failure {source : DataSource} (known : source.HasKnownFaults)
    (regular : source.IsRegular) {isBorrowed : Bool} {connection : ConnectionSettings}
    (readable : PortReadable (connection.connectionString.getD "")) {table : TableSettings}
    {workspace : Workspace} {failure : Failure}
    (failed : (planInto source isBorrowed connection table workspace).1 = .error failure) :
    (∃ error, failure = .planner error) ∨
      ∃ keys, failure = .keysTaken keys ∧ keys ≠ [] ∧
        ∀ key ∈ keys, workspace.context.contains key = true := by
  obtain ⟨_, _, orderly⟩ := orderly_inspect known regular table
    ⟨.ofConnection connection isBorrowed, workspace.trace, workspace.journal⟩ ⟨rfl, readable⟩
  rw [planInto] at failed
  cases checked : precheck connection table with
  | error error =>
      rw [checked] at failed
      cases failed
      exact Or.inl ⟨error, rfl⟩
  | ok _ =>
      rw [checked] at failed
      dsimp only at failed
      rw [inspectWith, thenClose] at failed
      cases inspected : inspect source table
        ⟨.ofConnection connection isBorrowed, workspace.trace, workspace.journal⟩ with
      | mk result between =>
          rw [inspected] at failed orderly
          cases result with
          | error other =>
              cases failed
              exact Or.inl (orderly _ rfl)
          | ok findings =>
              have publishing : (publishInto (planOf connection findings)
                  { workspace with
                    trace := (close between).2.trace
                    journal := (close between).2.journal
                    executors := workspace.executors ++ [(close between).2.executor] }).1 =
                .error failure := failed
              obtain ⟨keys, isTaken, nonempty, taken⟩ := publishInto_failure publishing
              exact Or.inr ⟨keys, isTaken, nonempty, taken⟩

/-- The breakdowns of a data source with known faults are all reported, once and for the phase that
broke down: each operation of an open executor fails just with the report of a breakdown. If the data
source is regular too, an attempt at planning fails with a planning error, or because keys are
taken. -/
theorem breakdowns_reported {source : DataSource} (known : source.HasKnownFaults) :
    (∀ (session : Session) (operation : Operation) (failure : Failure),
      session.executor.isClosed = false → PortReadable session.executor.connectionString →
      ((operation.run source session).1 = .error failure ↔
        ∃ phase cause, Breaks source session.executor operation phase cause ∧
          failure = .planner (phase.report session.executor.driver cause))) ∧
    (source.IsRegular → ∀ (isBorrowed : Bool) (connection : ConnectionSettings)
      (table : TableSettings) (workspace : Workspace) (failure : Failure),
      PortReadable (connection.connectionString.getD "") →
      (planInto source isBorrowed connection table workspace).1 = .error failure →
      (∃ error, failure = .planner error) ∨
        ∃ keys, failure = .keysTaken keys ∧ keys ≠ [] ∧
          ∀ key ∈ keys, workspace.context.contains key = true) := by
  constructor
  · intro session operation failure isOpen readable
    exact (operation.reports_run known isOpen readable).error_iff rfl
  · intro regular isBorrowed connection table workspace failure readable failed
    exact planInto_failure known regular readable failed

/-- A data source whose driver is not installed. -/
private def driverless : DataSource :=
  { dialect := .postgresql
    typeObjects := .none
    queries := []
    primaryKeys := []
    connectFault := none
    createFault := some ⟨.host .missingModule, "No module named 'psycopg2'"⟩ }

theorem breakdowns_reported_driverless :
    let connection : ConnectionSettings :=
      ⟨some "postgresql", some "postgresql://db/shop", none, none⟩
    let session : Session := ⟨.ofConnection connection false, .empty, []⟩
    ((Operation.query "SELECT 1").run driverless session).1 =
        .error (.planner
          { code := .dataSourceFailure
            message := "Engine creation failed"
            details := [(.text "operation", .text "Engine creation"),
              (.text "driver", .text "postgresql")]
            cause := some (.raised ⟨.host .missingModule, "No module named 'psycopg2'"⟩) }) ∧
      ∃ error, (planInto driverless false connection ⟨some "items", none, none, none, none⟩
        (.ofContext .empty)).1 = .error (.planner error) := by
  intro connection session
  have known : driverless.HasKnownFaults :=
    { connecting := by simp [driverless]
      executing := by simp [driverless]
      fetching := by simp [driverless]
      lookingUp := by simp [driverless]
      creating := by simp [driverless, isImportFault, HostErrorKind.isImportError] }
  have regular : driverless.IsRegular :=
    { rectangular := by simp [driverless]
      writable := by simp [driverless] }
  have parses : (Url.read "postgresql://db/shop").isOk = true := by decide +kernel
  have readable : PortReadable "postgresql://db/shop" := by
    intro port flaw isFlaw
    rw [isFlaw] at parses
    cases parses
  obtain ⟨operations, attempts⟩ := breakdowns_reported known
  constructor
  · refine (operations session _ _ rfl readable).mpr
      ⟨.engineCreation, .raised ⟨.host .missingModule, "No module named 'psycopg2'"⟩, ?_, rfl⟩
    obtain ⟨url, isAddress⟩ : ∃ url, session.executor.address = .ok url := by
      rw [address]
      cases read : Url.read session.executor.connectionString with
      | ok url => exact ⟨_, rfl⟩
      | error flaw =>
          have unread : Url.read "postgresql://db/shop" = .error flaw := read
          rw [unread] at parses
          cases parses
    exact .engine rfl rfl _ (.creating url isAddress _ rfl)
  · have failed : (planInto driverless false connection ⟨some "items", none, none, none, none⟩
        (.ofContext .empty)).1.isOk = false := by decide +kernel
    cases ended : (planInto driverless false connection ⟨some "items", none, none, none, none⟩
        (.ofContext .empty)).1 with
    | ok plan =>
        rw [ended] at failed
        cases failed
    | error failure =>
        rcases attempts regular false connection _ _ failure readable ended with
          ⟨error, rfl⟩ | ⟨keys, _, nonempty, taken⟩
        · exact ⟨error, rfl⟩
        · -- nothing is taken in an empty context
          obtain ⟨key, member⟩ := List.exists_mem_of_ne_nil keys nonempty
          cases taken key member

end Planner
end ImportPlanning
