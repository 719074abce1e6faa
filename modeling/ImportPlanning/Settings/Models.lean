/-
The settings of an import job: how to connect, and what to import. A blank text counts as not given,
except for user name and password, which may be any text.
-/
import ImportPlanning.Columns
import ImportPlanning.Settings.Validation

namespace ImportPlanning

open ImportPlanning.Text

/-! ### Blank settings -/

/-- A blank text becomes null. Bytes are no text yet and stay. -/
def blankToNull : Value → Value
  | .text value => if isBlankText value then .null else .text value
  | value => value

def nonBlankText (field : String) (entries : Entries) : Checked (Option String) :=
  (checkOptionalText (blankToNull (Entries.get field entries))).under field

/-- A list that names no column counts as not given. -/
def columnList (columns : Option String) : Option String :=
  columns.filter fun names => !namesNoColumn names

def Value.ofOption : Option String → Value
  | none => .null
  | some value => .text value

/-! ### Connections -/

/-- How to connect to a data source. Driver and address may be missing here; planning asks for
them. -/
structure ConnectionSettings where
  driver : Option String
  connectionString : Option String
  username : Option String
  password : Option String
  deriving DecidableEq, Repr

namespace ConnectionSettings

def empty : ConnectionSettings := ⟨none, none, none, none⟩

def ofEntries (entries : Entries) : Checked ConnectionSettings :=
  ((((Checked.apply (.ok ConnectionSettings.mk) (nonBlankText "driver" entries)).apply
    (nonBlankText "connection_string" entries)).apply
    (optionalText "username" entries)).apply
    (optionalText "password" entries))

def ofValue (value : Value) : Checked ConnectionSettings :=
  (checkMapping .connection value).bind ofEntries

def toEntries (connection : ConnectionSettings) : Entries :=
  [(.text "driver", Value.ofOption connection.driver),
   (.text "connection_string", Value.ofOption connection.connectionString),
   (.text "username", Value.ofOption connection.username),
   (.text "password", Value.ofOption connection.password)]

end ConnectionSettings

/-! ### Tables -/

structure TableSettings where
  tableName : Option String
  sql : Option String
  columns : Option String
  partitionColumn : Option String
  boundaryQuery : Option String
  deriving DecidableEq, Repr

namespace TableSettings

def empty : TableSettings := ⟨none, none, none, none, none⟩

def ofEntries (entries : Entries) : Checked TableSettings :=
  (((((Checked.apply (.ok TableSettings.mk) (nonBlankText "table_name" entries)).apply
    (nonBlankText "sql" entries)).apply
    ((nonBlankText "columns" entries).map columnList)).apply
    (nonBlankText "partition_column" entries)).apply
    (nonBlankText "boundary_query" entries))

def ofValue (value : Value) : Checked TableSettings :=
  (checkMapping .table value).bind ofEntries

def toEntries (table : TableSettings) : Entries :=
  [(.text "table_name", Value.ofOption table.tableName),
   (.text "sql", Value.ofOption table.sql),
   (.text "columns", Value.ofOption table.columns),
   (.text "partition_column", Value.ofOption table.partitionColumn),
   (.text "boundary_query", Value.ofOption table.boundaryQuery)]

end TableSettings

/-! ### Jobs -/

structure JobSettings where
  connection : ConnectionSettings
  table : TableSettings
  deriving DecidableEq, Repr

namespace JobSettings

/-- Checks a part of a job; a part that is missing altogether is empty. -/
def part {α : Type} (field : String) (missing : α) (check : Value → Checked α)
    (entries : Entries) : Checked α :=
  match Entries.find? (.text field) entries with
  | none => .ok missing
  | some value => (check value).under field

def ofEntries (entries : Entries) : Checked JobSettings :=
  (Checked.apply (.ok JobSettings.mk)
    (part "connection" .empty ConnectionSettings.ofValue entries)).apply
    (part "table" .empty TableSettings.ofValue entries)

def ofValue (value : Value) : Checked JobSettings :=
  (checkMapping .job value).bind ofEntries

def toEntries (job : JobSettings) : Entries :=
  [(.text "connection", .mapping job.connection.toEntries),
   (.text "table", .mapping job.table.toEntries)]

end JobSettings
end ImportPlanning
