/-
Planning an import: check the connection, choose the source, find the partition column, ask for its
range, and settle the statement that extracts rows. The plan is published into a run context. One
executor is used for each attempt and closed after it, whatever the attempt comes to.
-/
import ImportPlanning.Executor
import ImportPlanning.Plan
import ImportPlanning.Source

namespace ImportPlanning.Planner

open SessionM
open ImportPlanning.Text

def logger : String := "planning.planner"

def subqueryAlias : String := "sub"

def ofPlanning {α : Type} (result : Except PlannerError α) : SessionM α :=
  match result with
  | .ok value => pure value
  | .error error => throw (.planner error)

/-! ### Connection -/

def missingParameter (label parameter : String) : PlannerError :=
  .plain .missingConnectionParameter (label ++ " is required") [("parameter", .text parameter)]

def isMissing (setting : Option String) : Bool :=
  (setting.getD "").isEmpty

def validateConnection (connection : ConnectionSettings) : Except PlannerError Unit :=
  if isMissing connection.driver then .error (missingParameter "Driver" "driver")
  else if isMissing connection.connectionString then
    .error (missingParameter "Connection string" "connection_string")
  else .ok ()

/-! ### Partition column -/

def columnRequired : PlannerError :=
  .plain .unresolvablePartitionColumn
    "Partition column must be set when importing from an SQL statement" []

def noPrimaryKey (table : String) : PlannerError :=
  .plain .unresolvablePartitionColumn
    ("Table " ++ table ++ " has no primary key, set the partition column explicitly")
    [("table_name", .text table)]

/-- The partition column: the one that is set, or else the first column of the table's primary
key. -/
def resolvePartitionColumn (source : DataSource) (table : TableSettings) : SessionM String :=
  match table.partitionColumn, table.tableName with
  | some column, _ => pure column
  | none, none => throw (.planner columnRequired)
  | none, some name => do
    let column := (← Executor.primaryKey source name).getD ""
    if column.isEmpty then throw (.planner (noPrimaryKey name))
    else do
      note .info logger
        ("Using primary key " ++ column ++ " of table " ++ name ++ " as partition column")
      return column

/-! ### Range -/

def subquery (sql : String) : String :=
  "(" ++ sql ++ ") " ++ subqueryAlias

def rangeQuery (column relation : String) : String :=
  "SELECT MIN(" ++ column ++ "), MAX(" ++ column ++ ") FROM " ++ relation

/-- The boundary query: the one that is set, or else one over all rows of the source. -/
def resolveBoundaryQuery (source : DataSource) (table : TableSettings) (column : String) :
    SessionM String :=
  match table.boundaryQuery with
  | some sql => pure sql
  | none => do
    match ← ofPlanning table.source with
    | .table name => return rangeQuery column (← Executor.delimit source name)
    | .query sql =>
      return rangeQuery (Executor.qualify column subqueryAlias)
        (subquery (Conditions.apply Conditions.alwaysTrue sql))

/-- A bound as text: bytes are decoded, other values take their plain form. -/
def boundText : Value → Except Failure (Option String)
  | .null => .ok none
  | .binary _ bytes => .ok (some (Utf8.decodeLenient bytes))
  | value => (RunContext.plainText value).map some

def wrongColumns (sql : String) (result : QueryResult) : PlannerError :=
  .plain .malformedBoundaryResult
    ("Boundary query returned " ++ toString result.columns.length ++ " columns, expected 2")
    [("sql", .text sql), ("columns", .list (result.columnNames.map .text))]

def wrongRows (sql : String) (result : QueryResult) : PlannerError :=
  .plain .malformedBoundaryResult
    ("Boundary query returned " ++ toString result.rows.length ++ " rows, expected 1")
    [("sql", .text sql)]

def twoCells : List Value → Except Failure (Value × Value)
  | [low, high] => .ok (low, high)
  | [] => .error (.rowTooShort 0)
  | [_] => .error (.rowTooShort 1)
  | _ => .error .rowTooLong

/-- The range that the result of a boundary query gives: it must have two columns and one row. The
type is that of the first column. -/
def boundaryOf (sql : String) (result : QueryResult) : Except Failure Boundary :=
  match result.columns, result.rows with
  | [first, _], [row] => do
    let (low, high) ← twoCells row
    let minValue ← boundText low
    let maxValue ← boundText high
    .ok { columnType := first.typeCode, minValue, maxValue }
  | [_, _], _ => .error (.planner (wrongRows sql result))
  | _, _ => .error (.planner (wrongColumns sql result))

def shownBound (bound : Option String) : String :=
  bound.getD "None"

def findBoundary (source : DataSource) (sql : String) : SessionM Boundary := do
  note .debug logger ("Using boundary query: " ++ sql)
  let result ← Executor.query source sql
  let boundary ← ofExcept (boundaryOf sql result)
  note .info logger
    ("Boundaries: min=" ++ shownBound boundary.minValue ++ ", max=" ++
      shownBound boundary.maxValue ++ ", columnType=" ++ toString boundary.columnType)
  return boundary

/-! ### Extraction -/

def discoverFieldNames (source : DataSource) (template : String) : SessionM String := do
  let names ← Executor.columnNames source (Conditions.apply Conditions.alwaysFalse template)
  return joinColumns names

def tableTemplate (selection relation : String) : String :=
  "SELECT " ++ selection ++ " FROM " ++ relation ++ " WHERE " ++ Conditions.token

def qualifiedColumns (columns : String) : String :=
  ", ".intercalate
    ((splitColumns columns).map fun column => Executor.qualify column subqueryAlias)

def queryTemplate (columns sql : String) : String :=
  "SELECT " ++ qualifiedColumns columns ++ " FROM " ++ subquery sql

/-- The statement that extracts rows, and the field names. Names that are not set are discovered. -/
def extractionOf (source : DataSource) (table : TableSettings) (origin : Source) :
    SessionM Extraction :=
  match origin, table.columns with
  | .table name, none => do
    let dataSql := tableTemplate "*" (← Executor.delimit source name)
    return ⟨dataSql, ← discoverFieldNames source dataSql⟩
  | .table name, some columns => do
    return ⟨tableTemplate columns (← Executor.delimit source name), columns⟩
  | .query sql, none => do
    return ⟨sql, ← discoverFieldNames source sql⟩
  | .query sql, some columns => return ⟨queryTemplate columns sql, columns⟩

def resolveExtraction (source : DataSource) (table : TableSettings) : SessionM Extraction := do
  let origin ← ofPlanning table.source
  ofPlanning origin.ensureConditions
  let extraction ← extractionOf source table origin
  note .info logger ("Using dataSql: " ++ extraction.dataSql)
  note .info logger ("Field names: " ++ extraction.fieldNames)
  return extraction

/-! ### Whole plans -/

structure Findings where
  partitionColumn : String
  boundaryQuery : String
  boundary : Boundary
  extraction : Extraction
  deriving DecidableEq, Repr

def inspect (source : DataSource) (table : TableSettings) : SessionM Findings := do
  let partitionColumn ← resolvePartitionColumn source table
  let boundaryQuery ← resolveBoundaryQuery source table partitionColumn
  let boundary ← findBoundary source boundaryQuery
  let extraction ← resolveExtraction source table
  return { partitionColumn, boundaryQuery, boundary, extraction }

def planOf (connection : ConnectionSettings) (findings : Findings) : ImportPlan :=
  { driver := connection.driver.getD ""
    connectionString := connection.connectionString.getD ""
    username := connection.username
    password := connection.password
    partitionColumn := findings.partitionColumn
    boundaryQuery := findings.boundaryQuery
    boundary := findings.boundary
    extraction := findings.extraction }

def precheck (connection : ConnectionSettings) (table : TableSettings) :
    Except PlannerError Unit := do
  validateConnection connection
  let origin ← table.source
  origin.ensureConditions

/-- What attempts at planning leave behind: the run context, trace and journal, and the executors
that were used. -/
structure Workspace where
  context : RunContext
  trace : Trace
  journal : List LogRecord
  executors : List Executor
  deriving Repr

def Workspace.ofContext (context : RunContext) : Workspace :=
  ⟨context, .empty, [], []⟩

/-- Inspects the data source with a fresh executor, which is closed after it. -/
def inspectWith (source : DataSource) (executor : Executor) (table : TableSettings)
    (workspace : Workspace) : Except Failure Findings × Workspace :=
  let (result, session) :=
    Executor.thenClose (inspect source table) ⟨executor, workspace.trace, workspace.journal⟩
  (result,
    { workspace with
      trace := session.trace
      journal := session.journal
      executors := workspace.executors ++ [session.executor] })

def publishInto (plan : ImportPlan) (workspace : Workspace) :
    Except Failure ImportPlan × Workspace :=
  match plan.publish workspace.context with
  | (.error failure, context) => (.error failure, { workspace with context })
  | (.ok (), context) =>
    (.ok plan,
      { workspace with
        context
        journal := workspace.journal ++
          [⟨.info, loggerName logger,
            "Import plan published with " ++ toString plan.contextValues.length ++
              " context keys"⟩] })

def planInto (source : DataSource) (isBorrowed : Bool) (connection : ConnectionSettings)
    (table : TableSettings) (workspace : Workspace) : Except Failure ImportPlan × Workspace :=
  match precheck connection table with
  | .error error => (.error (.planner error), workspace)
  | .ok () =>
    match inspectWith source (.ofConnection connection isBorrowed) table workspace with
    | (.error failure, after) => (.error failure, after)
    | (.ok findings, after) => publishInto (planOf connection findings) after

def planJob (source : DataSource) (job : JobSettings) (workspace : Workspace) :
    Except Failure RunContext × Workspace :=
  let (result, after) := planInto source false job.connection job.table workspace
  (result.map fun _ => after.context, after)

end ImportPlanning.Planner
