/-
Configuration files: finding a file by its path, and reading it by the suffix of its name. The root
of a configuration file is a mapping.
-/
import ImportPlanning.Failure
import ImportPlanning.Journal
import ImportPlanning.LogSetup
import ImportPlanning.Text.Casing
import ImportPlanning.Text.Pieces
import ImportPlanning.Yaml.Document

namespace ImportPlanning

open ImportPlanning.Text

/-! ### Paths -/

/-- The surroundings of a run: the files that are known, by their paths from the working directory,
and the environment. -/
structure Surroundings where
  files : List (String × List UInt8)
  environment : Environment
  deriving Repr

namespace Path

/-- The parts of a path between slashes. Empty parts and single points say nothing. -/
def segments (path : String) : List String :=
  (splitFields '/' path).filter fun segment => !segment.isEmpty && segment ≠ "."

def isAbsolute (path : String) : Bool :=
  path.toList.head? = some '/'

def normalized (path : String) : String :=
  let body := "/".intercalate (segments path)
  if isAbsolute path then "/" ++ body else if body.isEmpty then "." else body

/-- The suffix of a name: from its last point on, if something stands before and after it. -/
def suffixOfName (name : List Char) : List Char :=
  let after := (name.reverse.takeWhile (· ≠ '.')).reverse
  let before := name.take (name.length - after.length - 1)
  if after.isEmpty || before.isEmpty || !name.contains '.' then [] else '.' :: after

def suffix (path : String) : String :=
  String.ofList (suffixOfName ((segments path).getLast?.getD "").toList)

end Path

inductive PathEntry where
  | file (bytes : List UInt8)
  | directory
  | nothing
  deriving Repr

namespace Surroundings

def localFiles (surroundings : Surroundings) : List (String × List UInt8) :=
  surroundings.files.filter fun file => !Path.isAbsolute file.1

def entryAt (surroundings : Surroundings) (place : List String) : PathEntry :=
  match surroundings.localFiles.find? fun file => Path.segments file.1 = place with
  | some file => .file file.2
  | none =>
    if place.isEmpty ||
        surroundings.localFiles.any fun file => place.isPrefixOf (Path.segments file.1)
    then .directory
    else .nothing

/-- Walks the parts of a path from a directory. A double point leads back; nothing is known above
the working directory. -/
def walk (surroundings : Surroundings) : (place : List String) → List String → PathEntry
  | place, [] => surroundings.entryAt place
  | place, segment :: rest =>
    match surroundings.entryAt place with
    | .directory =>
      if segment = ".." then
        if place.isEmpty then .nothing else walk surroundings place.dropLast rest
      else walk surroundings (place ++ [segment]) rest
    | _ => .nothing

/-- What stands at an absolute path, if the very path is known. -/
def absoluteEntryAt (surroundings : Surroundings) (path : String) : PathEntry :=
  match surroundings.files.find? fun file =>
      Path.isAbsolute file.1 && Path.segments file.1 = Path.segments path with
  | some file => .file file.2
  | none => .nothing

def find (surroundings : Surroundings) (path : String) : PathEntry :=
  if Path.isAbsolute path then surroundings.absoluteEntryAt path
  else walk surroundings [] (Path.segments path)

end Surroundings

/-! ### Loading -/

/-- A step of loading settings. It may fail; the journal keeps what was reported before. -/
abbrev LoadingM := ExceptT Failure (StateM (List LogRecord))

namespace LoadingM

def note (severity : Severity) (logger message : String) : LoadingM Unit :=
  modify fun journal => journal ++ [⟨severity, loggerName logger, message⟩]

end LoadingM

namespace ConfigFile

open LoadingM

def logger : String := "config"

inductive Format where
  | json
  | yaml
  deriving DecidableEq, Repr

def Format.ofSuffix? (suffix : String) : Option Format :=
  if suffix = ".json" then some .json
  else if suffix = ".yaml" || suffix = ".yml" then some .yaml
  else none

def Format.read (format : Format) (document : String) : Except FileObstacle Value :=
  match format with
  | json =>
    match Json.read document with
    | .ok value => .ok value
    | .error flaw => .error (.json flaw)
  | yaml =>
    match Yaml.read document with
    | .ok value => .ok value
    | .error flaw => .error (.yaml flaw)

def unifyLineEnds : List Char → List Char
  | [] => []
  | '\r' :: '\n' :: rest => '\n' :: unifyLineEnds rest
  | '\r' :: rest => '\n' :: unifyLineEnds rest
  | character :: rest => character :: unifyLineEnds rest

def textOf (bytes : List UInt8) : Except FileObstacle String :=
  match Utf8.decode bytes with
  | .ok text => .ok (String.ofList (unifyLineEnds text.toList))
  | .error failure => .error (.undecodable failure)

def parse (suffix : String) (bytes : List UInt8) : Except FileObstacle Value := do
  let document ← textOf bytes
  match Format.ofSuffix? suffix with
  | some format => format.read document
  | none => .error .unsupportedFormat

def rootEntries : Value → Except FileObstacle Entries
  | .mapping entries => .ok entries
  | _ => .error .rootNotMapping

def ofFile {α : Type} (result : Except FileObstacle α) : LoadingM α :=
  match result with
  | .ok value => pure value
  | .error obstacle => throw (.file obstacle)

def readAt (surroundings : Surroundings) (path : String) : LoadingM Entries := do
  match surroundings.find path with
  | .nothing => do
    note .error logger ("Config file not found: " ++ path)
    throw (.file (.missing path))
  | .directory => throw (.file (.isDirectory (Path.normalized path)))
  | .file bytes => do
    let suffix := lower (Path.suffix path)
    let value ← ofFile (parse suffix bytes)
    note .info logger
      ("Loaded " ++ String.ofList (suffix.toList.dropWhile (· = '.')) ++ " config from " ++ path)
    ofFile (rootEntries value)

/-- Reads a configuration file. Without a path, or with an empty one, there are no settings. -/
def read (surroundings : Surroundings) (path : Option String) : LoadingM Entries :=
  match path.filter fun given => !given.isEmpty with
  | some given => readAt surroundings given
  | none => do
    note .info logger "No config file path provided"
    return []

end ConfigFile
end ImportPlanning
