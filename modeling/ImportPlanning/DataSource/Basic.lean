/-
A data source as far as planning can see it: what it answers to statements, which primary keys its
tables have, and the faults that it raises. What is done to it is kept in a trace.
-/
import ImportPlanning.DataSource.ColumnType
import ImportPlanning.DataSource.Dialect
import ImportPlanning.DataSource.Fault
import ImportPlanning.DataSource.Statement

namespace ImportPlanning

/-! ### Answers -/

/-- The rows that a statement gives, or the fault met while they are fetched. `columns` are the
names and type codes; a statement without columns gives no rows at all. -/
structure ResultSet where
  columns : Option (List (String × Value))
  rows : List (List Value)
  fetchFault : Option Fault
  deriving Repr

/-- What a data source answers to a statement. `none` as statement stands for any. -/
structure QueryAnswer where
  statement : Option String
  outcome : Except Fault ResultSet

/-- What a data source tells about the primary key of a table: its columns, none if there is no
key. -/
structure KeyAnswer where
  schema : Option String
  table : String
  outcome : Except Fault (List String)

structure DataSource where
  dialect : Dialect
  typeObjects : TypeObjects
  queries : List QueryAnswer
  primaryKeys : List KeyAnswer
  connectFault : Option Fault
  createFault : Option Fault

namespace DataSource

def noAnswer : Fault := ⟨.driver .operational, "no such query"⟩

def answer (source : DataSource) (statement : String) : Except Fault ResultSet :=
  match source.queries.find? fun query =>
      query.statement.isNone || query.statement = some statement with
  | some query => query.outcome
  | none => .error noAnswer

def qualifiedName (schema : Option String) (table : String) : String :=
  match schema with
  | none => table
  | some name => name ++ "." ++ table

def primaryKey (source : DataSource) (schema : Option String) (table : String) :
    Except Fault (List String) :=
  match source.primaryKeys.find? fun key => key.schema = schema && key.table = table with
  | some key => key.outcome
  | none => .error ⟨.access .noSuchTable, qualifiedName schema table⟩

end DataSource

/-! ### Traces -/

/-- What was done to a data source: statements run, primary keys looked up, engines created (by the
address used, also where creation failed), and the number of engines disposed of. -/
structure Trace where
  executed : List String
  lookups : List (Option String × String)
  created : List String
  disposed : Nat
  deriving DecidableEq, Repr

namespace Trace

def empty : Trace := ⟨[], [], [], 0⟩

def noteExecuted (statement : String) (trace : Trace) : Trace :=
  { trace with executed := trace.executed ++ [statement] }

def noteLookup (schema : Option String) (table : String) (trace : Trace) : Trace :=
  { trace with lookups := trace.lookups ++ [(schema, table)] }

def noteCreated (address : String) (trace : Trace) : Trace :=
  { trace with created := trace.created ++ [address] }

def noteDisposed (trace : Trace) : Trace :=
  { trace with disposed := trace.disposed + 1 }

end Trace
end ImportPlanning
