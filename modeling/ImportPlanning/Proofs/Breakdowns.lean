/-
Where a data source breaks down under the operations of an executor. An operation goes through
phases: an engine is created for it, a statement is run, a primary key is looked up. Each phase has
its points at which the data source may have a fault; a phase that meets one is over, and its report
is a planning error that names the phase and carries the cause.

The faults are those that the access layer knows, and missing modules where an engine is created. That
operations fail with these reports is not shown here.
-/
import ImportPlanning.Proofs.Lifecycle
import ImportPlanning.Proofs.Statements

namespace ImportPlanning

open SessionM

/-! ### Faults that are known -/

/-- May the fault come from the driver or from the access layer, as faults at a connection do? -/
def FaultKind.isOfConnection : FaultKind → Bool
  | .host _ => false
  | _ => true

def FaultKind.isOfAccess : FaultKind → Bool
  | .access _ => true
  | _ => false

/-- The driver's faults arise at a connection only, the access layer's anywhere, and of the hosting
program there are only missing modules where an engine is created. -/
structure DataSource.HasKnownFaults (source : DataSource) : Prop where
  connecting : ∀ fault, source.connectFault = some fault → fault.kind.isOfConnection = true
  executing : ∀ query ∈ source.queries, ∀ fault, query.outcome = .error fault →
    fault.kind.isOfConnection = true
  fetching : ∀ query ∈ source.queries, ∀ result fault, query.outcome = .ok result →
    result.fetchFault = some fault → fault.kind.isOfConnection = true
  lookingUp : ∀ key ∈ source.primaryKeys, ∀ fault, key.outcome = .error fault →
    fault.kind.isOfAccess = true
  creating : ∀ fault, source.createFault = some fault →
    fault.kind.isOfAccess = true ∨ Executor.isImportFault fault = true

/-- The cause that a fault at a connection is reported as: the driver's are wrapped with the
statement that was running, those of the access layer stay as they are. -/
def Fault.atConnection (statement : Option String) (fault : Fault) : Cause :=
  match fault.kind with
  | .driver kind => .reported kind fault.message statement
  | _ => .raised fault

def Cause.isImport : Cause → Bool
  | .raised fault => Executor.isImportFault fault
  | _ => false

theorem FaultKind.cases_of_isOfConnection {kind : FaultKind}
    (ofConnection : kind.isOfConnection = true) :
    (∃ driver, kind = .driver driver) ∨ ∃ access, kind = .access access := by
  cases kind with
  | driver driver => exact Or.inl ⟨driver, rfl⟩
  | access access => exact Or.inr ⟨access, rfl⟩
  | host host => cases ofConnection

theorem FaultKind.access_of_isOfAccess {kind : FaultKind} (ofAccess : kind.isOfAccess = true) :
    ∃ access, kind = .access access := by
  cases kind with
  | access access => exact ⟨access, rfl⟩
  | driver driver => cases ofAccess
  | host host => cases ofAccess

theorem AccessFault.reported_eq {fault : Fault} (ofConnection : fault.kind.isOfConnection = true)
    (statement : Option String) : reported statement fault = known (fault.atConnection statement) := by
  rw [reported, Fault.atConnection]
  rcases FaultKind.cases_of_isOfConnection ofConnection with ⟨driver, isDriver⟩ | ⟨access, isAccess⟩
  · rw [isDriver]
  · rw [isAccess]

theorem AccessFault.unreported_eq {fault : Fault} (ofAccess : fault.kind.isOfAccess = true) :
    unreported fault = known (.raised fault) := by
  obtain ⟨access, isAccess⟩ := FaultKind.access_of_isOfAccess ofAccess
  rw [unreported, isAccess]

theorem Fault.isImportFault_of_isOfAccess {fault : Fault} (ofAccess : fault.kind.isOfAccess = true) :
    Executor.isImportFault fault = false := by
  obtain ⟨access, isAccess⟩ := FaultKind.access_of_isOfAccess ofAccess
  rw [Executor.isImportFault, isAccess]

theorem Fault.isImport_atConnection {fault : Fault} (ofConnection : fault.kind.isOfConnection = true)
    (statement : Option String) : (fault.atConnection statement).isImport = false := by
  rw [atConnection]
  rcases FaultKind.cases_of_isOfConnection ofConnection with ⟨driver, isDriver⟩ | ⟨access, isAccess⟩
  · rw [isDriver]
    rfl
  · rw [isAccess]
    have ofAccess : fault.kind.isOfAccess = true := by rw [isAccess]; rfl
    exact isImportFault_of_isOfAccess ofAccess

namespace Executor

/-! ### Phases -/

/-- The phases of operations in which a data source may break down. -/
inductive Phase where
  | engineCreation
  | queryExecution (sql : String)
  | primaryKeyLookup
  deriving DecidableEq, Repr

namespace Phase

def name : Phase → String
  | engineCreation => "Engine creation"
  | queryExecution _ => "Query execution"
  | primaryKeyLookup => "Primary key lookup"

def statement? : Phase → Option String
  | queryExecution sql => some sql
  | _ => none

/-- The planning error for a phase that breaks down: it tells the phase and its statement, the driver
if a module is missing, and the cause. -/
def report (driver : String) (phase : Phase) (cause : Cause) : PlannerError :=
  { code := .dataSourceFailure
    message := phase.name ++ " failed"
    details := (.text "operation", .text phase.name) ::
      ((phase.statement?.map fun sql => (.text "sql", .text sql)).toList ++
        if cause.isImport then [(.text "driver", .text driver)] else [])
    cause := some cause }

theorem planner_report_of_import {cause : Cause} (isImport : cause.isImport = true)
    (driver : String) : .planner (engineCreation.report driver cause) =
      operationError "Engine creation" [("driver", .text driver)] cause := by
  rw [report, isImport]
  rfl

/-- The details that operations give for a phase beside its name, where no module is missing. -/
def details (phase : Phase) : List (String × Value) :=
  (phase.statement?.map fun sql => ("sql", .text sql)).toList

theorem planner_report {cause : Cause} (other : cause.isImport = false) (driver : String)
    (phase : Phase) :
    .planner (phase.report driver cause) = operationError phase.name phase.details cause := by
  rw [report, other]
  cases phase <;> rfl

end Phase

/-! ### Breakdowns -/

/-- How the creation of an engine breaks down: the connection string is no address, or the data
source has a fault for the call. -/
inductive EngineBreaks (source : DataSource) (executor : Executor) : Cause → Prop where
  | address (unread : executor.address = .error .unreadable) :
      EngineBreaks source executor .unreadableAddress
  | creating (url : DatabaseUrl) (isAddress : executor.address = .ok url) (fault : Fault)
      (faulty : source.createFault = some fault) : EngineBreaks source executor (.raised fault)

inductive ConnectBreaks (source : DataSource) : Cause → Prop where
  | connecting (fault : Fault) (faulty : source.connectFault = some fault) :
      ConnectBreaks source (fault.atConnection none)

/-- How something breaks down that needs a connection: in connecting, or once there is one. -/
def ConnectedBreaks (source : DataSource) (causes : Cause → Prop) (cause : Cause) : Prop :=
  ConnectBreaks source cause ∨ source.connectFault = none ∧ causes cause

/-- How a statement breaks down that the driver gets: it is refused, it gives no rows, or they
cannot be fetched. -/
inductive FetchBreaks (source : DataSource) (statement : String) : Cause → Prop where
  | executing (fault : Fault) (refused : source.answer statement = .error fault) :
      FetchBreaks source statement (fault.atConnection (some statement))
  | rowless (result : ResultSet) (answered : source.answer statement = .ok result)
      (noColumns : result.columns = none) : FetchBreaks source statement .noRows
  | fetching (result : ResultSet) (answered : source.answer statement = .ok result)
      (hasColumns : result.columns ≠ none) (fault : Fault)
      (faulty : result.fetchFault = some fault) :
      FetchBreaks source statement (fault.atConnection none)

/-- How a statement breaks down: it marks a parameter, or breaks down at the driver. -/
inductive StatementBreaks (source : DataSource) (sql : String) : Cause → Prop where
  | parameter (name : String)
      (marked : (Statement.prepare source.dialect sql).parameter = some name) :
      StatementBreaks source sql (.unboundParameter name (source.dialect.sent sql))
  | driver (unmarked : (Statement.prepare source.dialect sql).parameter = none) (cause : Cause)
      (breaks : FetchBreaks source (source.dialect.sent sql) cause) :
      StatementBreaks source sql cause

/-- How the lookup of a primary key breaks down: the data source has a fault for the table. -/
inductive LookupBreaks (source : DataSource) (table : String) : Cause → Prop where
  | lookingUp (fault : Fault)
      (refused : source.primaryKey (splitTable table).1 (splitTable table).2 = .error fault) :
      LookupBreaks source table (.raised fault)

def Operation.statement? : Operation → Option String
  | query sql => some sql
  | columnNames sql => some sql
  | queryAndClose sql => some sql
  | _ => none

/-- The phase in which an operation of an executor breaks down, and the cause. A statement is run and
a key looked up only with an engine. -/
inductive Breaks (source : DataSource) (executor : Executor) (operation : Operation) :
    Phase → Cause → Prop where
  | engine (needs : operation.needsEngine = true) (hasNone : executor.hasEngine = false)
      (cause : Cause) (breaks : EngineBreaks source executor cause) :
      Breaks source executor operation .engineCreation cause
  | statement (obtains : Obtains source executor) (sql : String)
      (runs : operation.statement? = some sql) (cause : Cause)
      (breaks : ConnectedBreaks source (StatementBreaks source sql) cause) :
      Breaks source executor operation (.queryExecution sql) cause
  | lookup (obtains : Obtains source executor) (table : String)
      (looksUp : operation = .primaryKey table) (cause : Cause)
      (breaks : ConnectedBreaks source (LookupBreaks source table) cause) :
      Breaks source executor operation .primaryKeyLookup cause

/-! ### Answers of a data source with known faults -/

/-- What the access layer gives is a known cause if there is a breakdown, and a value if there is
none. -/
structure BrokenBy {α : Type} (breaks : Cause → Prop) (result : Except AccessFault α) : Prop where
  broken : ∀ cause, breaks cause → result = .error (.known cause)
  whole : (∀ cause, ¬ breaks cause) → ∃ value, result = .ok value

theorem answer_cases (source : DataSource) (statement : String) :
    (∃ query ∈ source.queries, source.answer statement = query.outcome) ∨
      source.answer statement = .error DataSource.noAnswer := by
  rw [DataSource.answer]
  cases found : source.queries.find? _ with
  | none => exact Or.inr rfl
  | some query => exact Or.inl ⟨query, List.mem_of_find?_eq_some found, rfl⟩

section

variable {source : DataSource} (known : source.HasKnownFaults)

include known

private theorem isOfConnection_of_answer {statement : String} {fault : Fault}
    (refused : source.answer statement = .error fault) : fault.kind.isOfConnection = true := by
  rcases answer_cases source statement with ⟨query, member, same⟩ | unknown
  · exact known.executing query member fault (same.symm.trans refused)
  · rw [unknown] at refused
    cases refused
    rfl

private theorem isOfConnection_of_fetchFault {statement : String} {result : ResultSet}
    {fault : Fault} (answered : source.answer statement = .ok result)
    (faulty : result.fetchFault = some fault) : fault.kind.isOfConnection = true := by
  rcases answer_cases source statement with ⟨query, member, same⟩ | unknown
  · exact known.fetching query member result fault (same.symm.trans answered) faulty
  · rw [unknown] at answered
    cases answered

private theorem isOfAccess_of_primaryKey {schema : Option String} {table : String} {fault : Fault}
    (refused : source.primaryKey schema table = .error fault) : fault.kind.isOfAccess = true := by
  rw [DataSource.primaryKey] at refused
  cases found : source.primaryKeys.find? _ with
  | none =>
      rw [found] at refused
      cases refused
      rfl
  | some key =>
      rw [found] at refused
      exact known.lookingUp key (List.mem_of_find?_eq_some found) fault refused

theorem brokenBy_connect : BrokenBy (ConnectBreaks source) source.connect := by
  constructor
  · intro cause breaks
    cases breaks with
    | connecting fault faulty =>
        rw [DataSource.connect, faulty]
        exact congrArg Except.error (AccessFault.reported_eq (known.connecting fault faulty) none)
  · intro unbroken
    rw [DataSource.connect]
    cases faulty : source.connectFault with
    | none => exact ⟨(), rfl⟩
    | some fault => exact absurd (.connecting fault faulty) (unbroken _)

theorem brokenBy_fetch (statement : String) :
    BrokenBy (FetchBreaks source statement) (source.fetch statement) := by
  constructor
  · intro cause breaks
    rw [DataSource.fetch]
    cases breaks with
    | executing fault refused =>
        rw [refused]
        exact congrArg Except.error
          (AccessFault.reported_eq (isOfConnection_of_answer known refused) (some statement))
    | rowless result answered noColumns =>
        rw [answered]
        dsimp only
        rw [noColumns]
    | fetching result answered hasColumns fault faulty =>
        obtain ⟨columns, isColumns⟩ := Option.ne_none_iff_exists'.mp hasColumns
        rw [answered]
        dsimp only
        rw [isColumns, faulty]
        exact congrArg Except.error
          (AccessFault.reported_eq (isOfConnection_of_fetchFault known answered faulty) none)
  · intro unbroken
    rw [DataSource.fetch]
    cases answered : source.answer statement with
    | error fault => exact absurd (.executing fault answered) (unbroken _)
    | ok result =>
        dsimp only
        cases isColumns : result.columns with
        | none => exact absurd (.rowless result answered isColumns) (unbroken _)
        | some columns =>
            cases faulty : result.fetchFault with
            | none => exact ⟨_, rfl⟩
            | some fault =>
                have hasColumns : result.columns ≠ none := by simp [isColumns]
                exact absurd (.fetching result answered hasColumns fault faulty) (unbroken _)

theorem brokenBy_lookUpKey (table : String) :
    BrokenBy (LookupBreaks source table)
      (source.lookUpKey (splitTable table).1 (splitTable table).2) := by
  constructor
  · intro cause breaks
    cases breaks with
    | lookingUp fault refused =>
        rw [DataSource.lookUpKey, refused]
        exact congrArg Except.error
          (AccessFault.unreported_eq (isOfAccess_of_primaryKey known refused))
  · intro unbroken
    rw [DataSource.lookUpKey]
    cases answered : source.primaryKey (splitTable table).1 (splitTable table).2 with
    | error fault => exact absurd (.lookingUp fault answered) (unbroken _)
    | ok columns => exact ⟨columns, rfl⟩

/-! ### No missing modules at a connection -/

theorem ConnectBreaks.isImport_eq {cause : Cause} (breaks : ConnectBreaks source cause) :
    cause.isImport = false := by
  cases breaks with
  | connecting fault faulty => exact Fault.isImport_atConnection (known.connecting fault faulty) none

theorem FetchBreaks.isImport_eq {statement : String} {cause : Cause}
    (breaks : FetchBreaks source statement cause) : cause.isImport = false := by
  cases breaks with
  | executing fault refused =>
      exact Fault.isImport_atConnection (isOfConnection_of_answer known refused) _
  | rowless result answered noColumns => rfl
  | fetching result answered hasColumns fault faulty =>
      exact Fault.isImport_atConnection (isOfConnection_of_fetchFault known answered faulty) none

theorem LookupBreaks.isImport_eq {table : String} {cause : Cause}
    (breaks : LookupBreaks source table cause) : cause.isImport = false := by
  cases breaks with
  | lookingUp fault refused =>
      exact Fault.isImportFault_of_isOfAccess (isOfAccess_of_primaryKey known refused)

end

end Executor
end ImportPlanning
