/-
The operations of an executor: statements, primary keys and quoted names. Faults of the data source
become planning errors that name the operation that failed; faults of the hosting program pass
through as they are.
-/
import ImportPlanning.Session
import ImportPlanning.Settings.Models
import ImportPlanning.Url.Printer
import ImportPlanning.Url.Reader

namespace ImportPlanning

open SessionM

/-! ### Results -/

structure ResultColumn where
  name : String
  typeCode : Int
  deriving DecidableEq, Repr

structure QueryResult where
  columns : List ResultColumn
  rows : List (List Value)
  deriving Repr

def QueryResult.columnNames (result : QueryResult) : List String :=
  result.columns.map ResultColumn.name

/-! ### Faults -/

/-- A fault as the access layer hands it on: as a cause that it stands for, or as it was raised. -/
inductive AccessFault where
  | known (cause : Cause)
  | foreign (fault : Fault)
  deriving DecidableEq, Repr

namespace AccessFault

/-- A fault at a connection: the access layer reports those of the driver. -/
def reported (statement : Option String) (fault : Fault) : AccessFault :=
  match fault.kind with
  | .driver kind => known (.reported kind fault.message statement)
  | .access _ => known (.raised fault)
  | .host _ => foreign fault

/-- A fault outside any connection: those of the driver stay as they are. -/
def unreported (fault : Fault) : AccessFault :=
  match fault.kind with
  | .access _ => known (.raised fault)
  | _ => foreign fault

end AccessFault

/-! ### Operations of the access layer -/

namespace DataSource

def connect (source : DataSource) : Except AccessFault Unit :=
  match source.connectFault with
  | some fault => .error (.reported none fault)
  | none => .ok ()

def fetch (source : DataSource) (statement : String) :
    Except AccessFault (List (String × Value) × List (List Value)) :=
  match source.answer statement with
  | .error fault => .error (.reported (some statement) fault)
  | .ok result =>
    match result.columns, result.fetchFault with
    | none, _ => .error (.known .noRows)
    | some _, some fault => .error (.reported none fault)
    | some columns, none => .ok (columns, result.rows)

def lookUpKey (source : DataSource) (schema : Option String) (table : String) :
    Except AccessFault (List String) :=
  match source.primaryKey schema table with
  | .error fault => .error (.unreported fault)
  | .ok columns => .ok columns

end DataSource

namespace Executor

/-! ### Engines -/

def logger : String := "connections.executor"

def ofConnection (connection : ConnectionSettings) (isBorrowed : Bool) : Executor :=
  { driver := connection.driver.getD ""
    connectionString := connection.connectionString.getD ""
    username := connection.username
    password := connection.password
    isBorrowed
    hasEngine := isBorrowed
    isClosed := false }

/-- The address of the data source: the connection string with the driver as its name, and with user
name and password where they are given. -/
def address (executor : Executor) : Except UrlFlaw DatabaseUrl :=
  (Url.read executor.connectionString).map fun url =>
    ((url.withName executor.driver).withUsername executor.username).withPassword executor.password

def operationError (operation : String) (details : List (String × Value)) (cause : Cause) :
    Failure :=
  .planner (.create .dataSourceFailure (some (operation ++ " failed"))
    ((.text "operation", .text operation) ::
      details.map fun detail => (.text detail.1, detail.2)) (some cause))

def failOperation {α : Type} (operation : String) (details : List (String × Value))
    (cause : Cause) : SessionM α := do
  note .error logger (operation ++ " failed: " ++ cause.text)
  throw (operationError operation details cause)

/-- Takes what the access layer gives; a known fault becomes a planning error. -/
def guarded {α : Type} (operation : String) (details : List (String × Value))
    (result : Except AccessFault α) : SessionM α :=
  match result with
  | .ok value => pure value
  | .error (.known cause) => failOperation operation details cause
  | .error (.foreign fault) => throw (.fault fault)

def failImport {α : Type} (driver : String) (fault : Fault) : SessionM α := do
  note .error logger ("Driver " ++ driver ++ " is not available: " ++ fault.message)
  throw (operationError "Engine creation" [("driver", .text driver)] (.raised fault))

def isImportFault (fault : Fault) : Bool :=
  match fault.kind with
  | .host kind => kind.isImportError
  | _ => false

def createEngineAt (source : DataSource) (executor : Executor) (url : DatabaseUrl) :
    SessionM Unit := do
  record (Trace.noteCreated (Url.text false url))
  match source.createFault with
  | some fault =>
    if isImportFault fault then failImport executor.driver fault
    else guarded "Engine creation" [] (.error (.unreported fault))
  | none => do
    update fun current => { current with hasEngine := true }
    note .info logger ("Created engine for driver=" ++ executor.driver)

def createEngine (source : DataSource) (executor : Executor) : SessionM Unit :=
  match executor.address with
  | .ok url => createEngineAt source executor url
  | .error .unreadable => failOperation "Engine creation" [] .unreadableAddress
  | .error flaw => throw (.url flaw)

def requireEngine (source : DataSource) : SessionM Unit := do
  let current ← executor
  if current.isClosed then throw .executorClosed
  else if current.hasEngine then pure ()
  else createEngine source current

/-! ### Statements -/

/-- The cell of a row at an index; null beyond its end. -/
def cellAt (row : List Value) (index : Nat) : Value :=
  row[index]?.getD .null

/-- The columns of a result. The first row gives the sample values. -/
def describeColumns (source : DataSource) (columns : List (String × Value))
    (rows : List (List Value)) : List ResultColumn :=
  columns.mapIdx fun index column =>
    { name := source.dialect.columnName column.1
      typeCode :=
        (ColumnType.resolve (some source.typeObjects) column.2
          (cellAt (rows.head?.getD []) index)).code }

def runStatement (source : DataSource) (sql : String) :
    SessionM (List (String × Value) × List (List Value)) := do
  let details := [("sql", Value.text sql)]
  guarded "Query execution" details source.connect
  let prepared := Statement.prepare source.dialect sql
  match prepared.parameter with
  | some name => failOperation "Query execution" details (.unboundParameter name prepared.text)
  | none => do
    record (Trace.noteExecuted prepared.text)
    guarded "Query execution" details (source.fetch prepared.text)

def shownNames (names : List String) : String :=
  (Value.list (names.map .text)).shown

def query (source : DataSource) (sql : String) : SessionM QueryResult := do
  note .debug logger ("Executing query: " ++ sql)
  requireEngine source
  let (columns, rows) ← runStatement source sql
  let result : QueryResult := ⟨describeColumns source columns rows, rows⟩
  note .debug logger
    ("Query returned columns=" ++ shownNames result.columnNames ++ " rows=" ++
      toString rows.length)
  return result

def columnNames (source : DataSource) (sql : String) : SessionM (List String) := do
  return (← query source sql).columnNames

/-! ### Names and keys -/

/-- The schema and the name of a table: what stands before and after the last point. An empty schema
is none. -/
def splitTable (table : String) : Option String × String :=
  match Text.cutAtLast? '.' table.toList with
  | none => (none, table)
  | some (schema, name) =>
    (if schema.isEmpty then none else some (String.ofList schema), String.ofList name)

def primaryKey (source : DataSource) (table : String) : SessionM (Option String) := do
  let (schema, name) := splitTable table
  requireEngine source
  guarded "Primary key lookup" [] source.connect
  record (Trace.noteLookup schema name)
  let columns ← guarded "Primary key lookup" [] (source.lookUpKey schema name)
  match columns with
  | [] => return none
  | [column] => return some column
  | column :: _ => do
    note .warning logger
      ("Table " ++ table ++ " has a composite primary key " ++ shownNames columns ++ ", using " ++
        column)
    return some column

def delimit (source : DataSource) (name : String) : SessionM String := do
  requireEngine source
  return source.dialect.delimit name

def qualify (column relation : String) : String :=
  relation ++ "." ++ column

/-! ### Closing -/

def close : SessionM Unit := do
  let current ← executor
  if current.isClosed then pure ()
  else do
    update fun other => { other with isClosed := true, hasEngine := false }
    if current.hasEngine && !current.isBorrowed then do
      record Trace.noteDisposed
      note .info logger ("Disposed engine for driver=" ++ current.driver)
    else pure ()

/-- Takes a step and closes the executor, whatever the step comes to. -/
def thenClose {α : Type} (step : SessionM α) : SessionM α := fun session =>
  let (result, after) := step session
  (result, (close after).2)

/-! ### Testing a connection -/

def probe (source : DataSource) : SessionM QueryResult :=
  thenClose (query source "SELECT 1")

/-- Tells whether a connection works. A failure is reported, and raised again if asked for. -/
def testConnection (source : DataSource) (raises : Bool) : SessionM Bool :=
  tryCatch
    (do
      let _ ← probe source
      return true)
    fun failure => do
      note .error logger "Connection test failed"
      if raises then throw failure else return false

end Executor
end ImportPlanning
