/-
Loading the settings of a job. The connection is resolved from its layers; the table comes from the
file and from the caller's entries, which win.
-/
import ImportPlanning.Settings.Layers
import ImportPlanning.Settings.Models

namespace ImportPlanning

open LoadingM

structure JobRequest where
  explicit : Value
  path : Option String
  group : Option String
  driver : Value
  connectionString : Value
  username : Value
  password : Value
  deriving Repr

namespace JobRequest

def standardGroup : String := "SQL_IMPORT"

def empty : JobRequest :=
  ⟨.null, none, some standardGroup, .null, .null, .null, .null⟩

/-- The settings of the connection that win over every layer. -/
def overrides (request : JobRequest) : Entries :=
  [(.text "driver", request.driver), (.text "connection_string", request.connectionString),
   (.text "username", request.username), (.text "password", request.password)]

def connectionRequest (request : JobRequest) (explicit : Entries) : Layers.ConnectionRequest :=
  { explicit := Entries.get "connection" explicit
    path := request.path
    part := some "connection"
    group := request.group
    overrides := .mapping request.overrides }

end JobRequest

namespace JobSettings

def logger : String := "connections.config"

/-- The entries of a table. A value that counts as empty has none; any other must be a mapping. -/
def tableEntries (value : Value) : Except Failure Entries :=
  if value.isTruthy then
    match value with
    | .mapping entries => .ok entries
    | other => .error (.overlay (.notMapping other.fullKindName))
  else .ok []

def mergeTable (fromFile explicit : Entries) : Except Failure Entries := do
  let lower ← tableEntries (Entries.get "table" fromFile)
  let upper ← tableEntries (Entries.get "table" explicit)
  .ok (Entries.overlay lower upper)

def ofLayers (connection table : Entries) : Except Failure JobSettings :=
  ((JobSettings.ofEntries
      [(.text "connection", .mapping connection), (.text "table", .mapping table)]).report
    .job).mapError .invalid

def load (surroundings : Surroundings) (request : JobRequest) : LoadingM JobSettings := do
  let explicit ← ofExcept (Layers.optionalMapping "get" request.explicit)
  let connection ← Layers.loadConnection surroundings (request.connectionRequest explicit)
  let fromFile ← ConfigFile.read surroundings request.path
  let table ← ofExcept (mergeTable fromFile explicit)
  let job ← ofExcept (ofLayers connection table)
  let redacted ← ofExcept (redact job.toEntries)
  note .info logger ("Import job config resolved: " ++ (Value.mapping redacted).shown)
  return job

end JobSettings
end ImportPlanning
