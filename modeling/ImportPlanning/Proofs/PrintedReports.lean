/-
The planning errors that planning fails with can be printed and read back: their details have distinct
names and are documents, so that their summaries are documents too. In a plan, the type of the
partition column is one of the types of planning.

Failures that are no planning errors are left out: nothing is printed for them.
-/
import ImportPlanning.Proofs.Json.Documents
import ImportPlanning.Proofs.PlanningFailures
import ImportPlanning.Proofs.Stages

namespace ImportPlanning

open Json SessionM

/-! ### Errors -/

/-- The details of the error have distinct names, and each of them is a document. -/
def PlannerError.IsLegible (error : PlannerError) : Prop :=
  IsDocument (.mapping error.details)

/-- What a summary says beside the details is text, or null. -/
theorem isDocument_summary {error : PlannerError} (legible : error.IsLegible) :
    IsDocument (.mapping error.summary) := by
  obtain ⟨cause, isDocument, isSummary⟩ : ∃ cause, IsDocument cause ∧
      error.summary = entriesOf
        [("error_code", .text error.code.code), ("error_kind", .text error.code.name),
          ("message", .text error.message), ("details", .mapping error.details),
          ("original_error", cause)] := by
    rw [PlannerError.summary]
    cases error.cause with
    | none => exact ⟨.null, .null, rfl⟩
    | some cause => exact ⟨.text cause.text, .text cause.text, rfl⟩
  rw [isSummary]
  refine .mapping ?_ ?_
  · show ["error_code", "error_kind", "message", "details", "original_error"].Nodup
    decide
  · simp only [List.forall_mem_cons, List.not_mem_nil, false_implies, implies_true, and_true]
    exact ⟨.text _, .text _, .text _, legible, isDocument⟩

theorem PlannerError.legible_of_none {error : PlannerError} (none : error.details = []) :
    error.IsLegible := by
  have document : IsDocument (.mapping (entriesOf [])) :=
    .mapping List.nodup_nil fun _ member => absurd member List.not_mem_nil
  rw [IsLegible, none]
  exact document

theorem PlannerError.legible_of_one {error : PlannerError} {name content : String}
    (one : error.details = [(.text name, .text content)]) : error.IsLegible := by
  have document : IsDocument (.mapping (entriesOf [(name, .text content)])) := by
    refine .mapping (List.nodup_cons.mpr ⟨List.not_mem_nil, List.nodup_nil⟩) ?_
    rw [List.forall_mem_singleton]
    exact .text content
  rw [IsLegible, one]
  exact document

/-! ### Steps -/

/-- What the step gives has the property, and the planning errors that it fails with are legible. -/
def Legible {α : Type} (answers : α → Prop) (step : SessionM α) : Prop :=
  ∀ session, (∀ value, (step session).1 = .ok value → answers value) ∧
    ∀ error, (step session).1 = .error (.planner error) → error.IsLegible

section

variable {α β : Type} {answers : α → Prop} {later : β → Prop}

theorem legible_of_ok {step : SessionM α}
    (succeeds : ∀ session, ∃ value, (step session).1 = .ok value ∧ answers value) :
    Legible answers step := by
  intro session
  obtain ⟨value, succeeded, answered⟩ := succeeds session
  rw [succeeded]
  constructor
  · intro other same
    cases same
    exact answered
  · intro error impossible
    cases impossible

theorem legible_pure {value : α} (answered : answers value) : Legible answers (pure value) :=
  legible_of_ok fun _ => ⟨value, rfl, answered⟩

theorem legible_throw {failure : Failure}
    (legible : ∀ error, failure = .planner error → error.IsLegible) :
    Legible answers (throw failure : SessionM α) := by
  intro session
  constructor
  · intro value impossible
    cases impossible
  · intro error same
    cases same
    exact legible error rfl

theorem legible_modify (change : Session → Session) :
    Legible (fun _ => True) (modify change : SessionM PUnit) :=
  legible_of_ok fun _ => ⟨_, rfl, trivial⟩

theorem legible_executor : Legible (fun _ => True) SessionM.executor :=
  legible_of_ok fun _ => ⟨_, rfl, trivial⟩

theorem legible_bind {step : SessionM α} {next : α → SessionM β} (begins : Legible answers step)
    (goesOn : ∀ value, answers value → Legible later (next value)) :
    Legible later (step >>= next) := by
  intro session
  obtain ⟨answered, failed⟩ := begins session
  rw [run_bind]
  revert answered failed
  rcases step session with ⟨result, after⟩
  intro answered failed
  cases result with
  | ok value => exact goesOn value (answered value rfl) after
  | error failure =>
      constructor
      · intro value impossible
        cases impossible
      · intro error same
        cases same
        exact failed error rfl

theorem legible_after_modify {change : Session → Session} {next : SessionM β}
    (goesOn : Legible later next) :
    Legible later ((modify change : SessionM PUnit) >>= fun _ => next) :=
  legible_bind (legible_modify change) fun _ _ => goesOn

theorem legible_ofPlanning {result : Except PlannerError α}
    (legible : ∀ error, result = .error error → error.IsLegible) :
    Legible (fun value => result = .ok value) (Planner.ofPlanning result) := by
  cases result with
  | ok value => exact legible_pure rfl
  | error error =>
      apply legible_throw
      rintro _ ⟨⟩
      exact legible error rfl

end

/-! ### Operations -/

namespace Executor

/-- The details of an operation: each has its own name, which is not that of the operation. -/
structure AreDetails (details : List (String × Value)) : Prop where
  distinct : ("operation" :: details.map Prod.fst).Nodup
  documents : ∀ detail ∈ details, IsDocument detail.2

theorem areDetails_nil : AreDetails [] :=
  ⟨by decide, fun _ none => absurd none List.not_mem_nil⟩

theorem areDetails_singleton {name : String} (isOther : name ≠ "operation") (content : String) :
    AreDetails [(name, .text content)] where
  distinct := by simpa using Ne.symm isOther
  documents := by
    rw [List.forall_mem_singleton]
    exact .text content

theorem legible_operationError {α : Type} {answers : α → Prop} {details : List (String × Value)}
    (areDetails : AreDetails details) (operation : String) (cause : Cause) :
    Legible answers (throw (operationError operation details cause) : SessionM α) := by
  have document : IsDocument
      (.mapping (entriesOf (("operation", .text operation) :: details))) := by
    refine .mapping areDetails.distinct ?_
    rw [List.forall_mem_cons]
    exact ⟨.text operation, areDetails.documents⟩
  apply legible_throw
  rintro _ ⟨⟩
  exact document

section

variable {α : Type} {answers : α → Prop} {details : List (String × Value)}
  (areDetails : AreDetails details)

include areDetails

theorem legible_failOperation (operation : String) (cause : Cause) :
    Legible answers (failOperation operation details cause : SessionM α) := by
  rw [failOperation]
  exact legible_after_modify (legible_operationError areDetails operation cause)

theorem legible_guarded (operation : String) (result : Except AccessFault α) :
    Legible (fun _ => True) (guarded operation details result) := by
  rw [guarded.eq_def]
  split
  · exact legible_pure trivial
  · exact legible_failOperation areDetails operation _
  · exact legible_throw fun _ impossible => by cases impossible

end

theorem legible_createEngine (source : DataSource) (executor : Executor) :
    Legible (fun _ => True) (createEngine source executor) := by
  rw [createEngine]
  split
  · rw [createEngineAt]
    apply legible_after_modify
    split
    · split
      · rw [failImport]
        exact legible_after_modify
          (legible_operationError (areDetails_singleton (by decide) _) _ _)
      · exact legible_guarded areDetails_nil _ _
    · exact legible_after_modify (legible_modify _)
  · exact legible_failOperation areDetails_nil _ _
  · exact legible_throw fun _ impossible => by cases impossible

theorem legible_requireEngine (source : DataSource) :
    Legible (fun _ => True) (requireEngine source) := by
  rw [requireEngine]
  apply legible_bind legible_executor
  intro current _
  split
  · exact legible_throw fun _ impossible => by cases impossible
  · split
    · exact legible_pure trivial
    · exact legible_createEngine source current

theorem legible_runStatement (source : DataSource) (sql : String) :
    Legible (fun _ => True) (runStatement source sql) := by
  have details : AreDetails [("sql", .text sql)] := areDetails_singleton (by decide) sql
  rw [runStatement]
  apply legible_bind (legible_guarded details _ _)
  intro _ _
  dsimp only
  split
  · exact legible_failOperation details _ _
  · exact legible_after_modify (legible_guarded details _ _)

/-- The types of the columns are those of planning. -/
def HasPlannedTypes (result : QueryResult) : Prop :=
  ∀ column ∈ result.columns, ∃ type : ColumnType, column.typeCode = type.code

theorem legible_query (source : DataSource) (sql : String) :
    Legible HasPlannedTypes (query source sql) := by
  rw [query]
  apply legible_after_modify
  apply legible_bind (legible_requireEngine source)
  intro _ _
  apply legible_bind (legible_runStatement source sql)
  intro found _
  refine legible_after_modify (legible_pure ?_)
  intro column member
  obtain ⟨index, _, isColumn⟩ := List.mem_mapIdx.mp member
  rw [← isColumn]
  exact ⟨_, rfl⟩

theorem legible_columnNames (source : DataSource) (sql : String) :
    Legible (fun _ => True) (columnNames source sql) := by
  rw [columnNames]
  exact legible_bind (legible_query source sql) fun _ _ => legible_pure trivial

theorem legible_primaryKey (source : DataSource) (table : String) :
    Legible (fun _ => True) (primaryKey source table) := by
  rw [primaryKey]
  apply legible_bind (legible_requireEngine source)
  intro _ _
  apply legible_bind (legible_guarded areDetails_nil _ _)
  intro _ _
  apply legible_after_modify
  apply legible_bind (legible_guarded areDetails_nil _ _)
  intro columns _
  split
  · exact legible_pure trivial
  · exact legible_pure trivial
  · exact legible_after_modify (legible_pure trivial)

theorem legible_delimit (source : DataSource) (name : String) :
    Legible (fun _ => True) (delimit source name) := by
  rw [delimit]
  exact legible_bind (legible_requireEngine source) fun _ _ => legible_pure trivial

end Executor

/-! ### Stages -/

/-- The code of the boundary's type is that of one of the types of planning. -/
def Boundary.IsTyped (boundary : Boundary) : Prop :=
  ∃ type : ColumnType, boundary.columnType = type.code

namespace Planner

open Executor

theorem legible_source {table : TableSettings} {error : PlannerError}
    (failed : table.source = .error error) : error.IsLegible := by
  rw [TableSettings.source] at failed
  split at failed
  · cases failed
    exact PlannerError.legible_of_one rfl
  · cases failed
  · cases failed
  · cases failed
    exact PlannerError.legible_of_none rfl

theorem legible_ensureConditions {origin : Source} {error : PlannerError}
    (failed : origin.ensureConditions = .error error) : error.IsLegible := by
  cases origin with
  | table name => cases failed
  | query sql =>
      rw [Source.ensureConditions, ensureToken] at failed
      split at failed
      · cases failed
      · cases failed
        exact PlannerError.legible_of_one rfl

theorem legible_validateConnection {connection : ConnectionSettings} {error : PlannerError}
    (failed : validateConnection connection = .error error) : error.IsLegible := by
  rw [validateConnection] at failed
  split at failed
  · cases failed
    exact PlannerError.legible_of_one rfl
  · split at failed
    · cases failed
      exact PlannerError.legible_of_one rfl
    · cases failed

theorem legible_precheck {connection : ConnectionSettings} {table : TableSettings}
    {error : PlannerError} (failed : precheck connection table = .error error) :
    error.IsLegible := by
  rw [precheck] at failed
  rcases bind_eq_error_iff.mp failed with invalid | ⟨_, _, failed⟩
  · exact legible_validateConnection invalid
  rcases bind_eq_error_iff.mp failed with noSource | ⟨origin, _, failed⟩
  · exact legible_source noSource
  · exact legible_ensureConditions failed

theorem legible_resolvePartitionColumn (source : DataSource) (table : TableSettings) :
    Legible (fun _ => True) (resolvePartitionColumn source table) := by
  rw [resolvePartitionColumn.eq_def]
  split
  · exact legible_pure trivial
  · apply legible_throw
    rintro _ ⟨⟩
    exact PlannerError.legible_of_none rfl
  · apply legible_bind (legible_primaryKey source _)
    intro found _
    dsimp only
    split
    · apply legible_throw
      rintro _ ⟨⟩
      exact PlannerError.legible_of_one rfl
    · exact legible_after_modify (legible_pure trivial)

theorem legible_resolveBoundaryQuery (source : DataSource) (table : TableSettings)
    (column : String) : Legible (fun _ => True) (resolveBoundaryQuery source table column) := by
  rw [resolveBoundaryQuery]
  split
  · exact legible_pure trivial
  · apply legible_bind (legible_ofPlanning fun _ => legible_source)
    intro origin _
    cases origin with
    | table name => exact legible_bind (legible_delimit source name) fun _ _ => legible_pure trivial
    | query sql => exact legible_pure trivial

theorem legible_wrongColumns (sql : String) (result : QueryResult) :
    (wrongColumns sql result).IsLegible := by
  have names : IsDocument (.list (result.columnNames.map .text)) := by
    refine .list ?_
    intro item member
    obtain ⟨name, _, rfl⟩ := List.mem_map.mp member
    exact .text name
  have document : IsDocument (.mapping (entriesOf
      [("sql", .text sql), ("columns", .list (result.columnNames.map .text))])) := by
    refine .mapping ?_ ?_
    · show ["sql", "columns"].Nodup
      decide
    · rw [List.forall_mem_cons, List.forall_mem_singleton]
      exact ⟨.text sql, names⟩
  exact document

theorem typed_boundaryOf {sql : String} {result : QueryResult} (planned : HasPlannedTypes result)
    {boundary : Boundary} (found : boundaryOf sql result = .ok boundary) :
    boundary.IsTyped := by
  rw [boundaryOf.eq_def] at found
  split at found
  · rename_i first second row isColumns isRows
    obtain ⟨⟨low, high⟩, _, found⟩ := bind_eq_ok_iff.mp found
    obtain ⟨minValue, _, found⟩ := bind_eq_ok_iff.mp found
    obtain ⟨maxValue, _, found⟩ := bind_eq_ok_iff.mp found
    cases found
    exact planned first (isColumns ▸ List.mem_cons_self)
  · cases found
  · cases found

theorem legible_of_boundaryOf {sql : String} {result : QueryResult} {error : PlannerError}
    (failed : boundaryOf sql result = .error (.planner error)) : error.IsLegible := by
  have bound : ∀ cell, boundText cell ≠ .error (.planner error) := by
    intro cell refused
    rw [boundText_eq] at refused
    split at refused
    · cases refused
    · cases refused
  rw [boundaryOf.eq_def] at failed
  split at failed
  · rcases bind_eq_error_iff.mp failed with noCells | ⟨⟨low, high⟩, _, failed⟩
    · rw [twoCells.eq_def] at noCells
      split at noCells
      · cases noCells
      · cases noCells
      · cases noCells
      · cases noCells
    rcases bind_eq_error_iff.mp failed with refused | ⟨minValue, _, failed⟩
    · exact absurd refused (bound low)
    rcases bind_eq_error_iff.mp failed with refused | ⟨maxValue, _, failed⟩
    · exact absurd refused (bound high)
    · cases failed
  · cases failed
    exact PlannerError.legible_of_one rfl
  · cases failed
    exact legible_wrongColumns sql result

theorem legible_findBoundary (source : DataSource) (sql : String) :
    Legible Boundary.IsTyped (findBoundary source sql) := by
  rw [findBoundary]
  apply legible_after_modify
  apply legible_bind (legible_query source sql)
  intro result planned
  have ranging : Legible Boundary.IsTyped (ofExcept (boundaryOf sql result) : SessionM Boundary) := by
    cases found : boundaryOf sql result with
    | ok boundary => exact legible_pure (typed_boundaryOf planned found)
    | error failure =>
        apply legible_throw
        rintro error rfl
        exact legible_of_boundaryOf found
  apply legible_bind ranging
  intro boundary isTyped
  exact legible_after_modify (legible_pure isTyped)

theorem legible_discoverFieldNames (source : DataSource) (template : String) :
    Legible (fun _ => True) (discoverFieldNames source template) := by
  rw [discoverFieldNames]
  exact legible_bind (legible_columnNames source _) fun _ _ => legible_pure trivial

theorem legible_extractionOf (source : DataSource) (table : TableSettings) (origin : Source) :
    Legible (fun _ => True) (extractionOf source table origin) := by
  rw [extractionOf.eq_def]
  split
  · apply legible_bind (legible_delimit source _)
    intro _ _
    exact legible_bind (legible_discoverFieldNames source _) fun _ _ => legible_pure trivial
  · exact legible_bind (legible_delimit source _) fun _ _ => legible_pure trivial
  · exact legible_bind (legible_discoverFieldNames source _) fun _ _ => legible_pure trivial
  · exact legible_pure trivial

theorem legible_resolveExtraction (source : DataSource) (table : TableSettings) :
    Legible (fun _ => True) (resolveExtraction source table) := by
  rw [resolveExtraction]
  apply legible_bind (legible_ofPlanning fun _ => legible_source)
  intro origin _
  apply legible_bind (legible_ofPlanning fun _ => legible_ensureConditions)
  intro _ _
  apply legible_bind (legible_extractionOf source table origin)
  intro _ _
  exact legible_after_modify (legible_after_modify (legible_pure trivial))

theorem legible_inspect (source : DataSource) (table : TableSettings) :
    Legible (fun findings => findings.boundary.IsTyped) (inspect source table) := by
  rw [inspect]
  apply legible_bind (legible_resolvePartitionColumn source table)
  intro column _
  apply legible_bind (legible_resolveBoundaryQuery source table column)
  intro boundaryQuery _
  apply legible_bind (legible_findBoundary source boundaryQuery)
  intro boundary isTyped
  exact legible_bind (legible_resolveExtraction source table) fun _ _ => legible_pure isTyped

/-! ### Attempts -/

theorem legible_of_planInto {source : DataSource} {isBorrowed : Bool}
    {connection : ConnectionSettings} {table : TableSettings} {workspace : Workspace}
    {error : PlannerError}
    (failed : (planInto source isBorrowed connection table workspace).1 = .error (.planner error)) :
    error.IsLegible := by
  rw [planInto] at failed
  cases checked : precheck connection table with
  | error found =>
      rw [checked] at failed
      cases failed
      exact legible_precheck checked
  | ok _ =>
      rw [checked] at failed
      dsimp only at failed
      cases inspected : inspectWith source (.ofConnection connection isBorrowed) table workspace with
      | mk result after =>
          rw [inspected] at failed
          cases result with
          | error failure =>
              cases failed
              exact (legible_inspect source table (startOf isBorrowed connection workspace)).2 error
                (congrArg Prod.fst inspected)
          | ok findings =>
              obtain ⟨keys, impossible, _⟩ := publishInto_failure failed
              cases impossible

theorem typed_of_planInto {source : DataSource} {isBorrowed : Bool}
    {connection : ConnectionSettings} {table : TableSettings} {workspace : Workspace}
    {plan : ImportPlan}
    (planned : (planInto source isBorrowed connection table workspace).1 = .ok plan) :
    plan.boundary.IsTyped ∧ plan.connectionString = connection.connectionString.getD "" := by
  obtain ⟨_, _, _, given⟩ :=
    planInto_of_checks (passed_of_plan planned) source isBorrowed workspace
  obtain ⟨findings, inspected, rfl⟩ := given plan planned
  exact ⟨(legible_inspect source table _).1 findings inspected, rfl⟩

/-- A plan was made for a connection that names an address. -/
theorem addressed_of_passed {connection : ConnectionSettings} {table : TableSettings}
    (passed : firstFailure (checks connection table) = none) :
    ∃ address, connection.connectionString = some address := by
  rw [firstFailure, Option.map_eq_none_iff, List.find?_eq_none] at passed
  have named := passed _ (List.mem_append_left _ (List.mem_cons_of_mem _ List.mem_cons_self))
  cases isAddress : connection.connectionString with
  | none =>
      rw [isAddress] at named
      exact absurd rfl named
  | some address => exact ⟨address, rfl⟩

end Planner

end ImportPlanning
