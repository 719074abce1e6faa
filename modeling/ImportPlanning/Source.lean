/-
The source of an import: a table or a statement, never both and never neither.
-/
import ImportPlanning.Conditions
import ImportPlanning.PlannerError
import ImportPlanning.Settings.Models

namespace ImportPlanning

inductive Source where
  | table (name : String)
  | query (sql : String)
  deriving DecidableEq, Repr

def ensureToken (sql : String) : Except PlannerError Unit :=
  if Conditions.occurs sql then .ok ()
  else
    .error (.plain .missingConditionsToken ("SQL statement must contain " ++ Conditions.token)
      [("sql", .text sql)])

def TableSettings.source (table : TableSettings) : Except PlannerError Source :=
  match table.tableName, table.sql with
  | some name, some _ =>
    .error (.create .ambiguousSource none [(.text "table_name", .text name)] none)
  | some name, none => .ok (.table name)
  | none, some sql => .ok (.query sql)
  | none, none => .error (.create .unspecifiedSource none [] none)

namespace Source

def ensureConditions : Source → Except PlannerError Unit
  | table _ => .ok ()
  | query sql => ensureToken sql

end Source
end ImportPlanning
