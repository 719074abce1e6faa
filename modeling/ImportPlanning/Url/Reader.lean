/-
Reading database URLs. The parts are cut off from the left, each as long as it can be; what is left
after the last part is ignored. Only a missing name and a port that is no integer are refused.
-/
import ImportPlanning.Text.Pieces
import ImportPlanning.Text.Word
import ImportPlanning.Url.Basic
import ImportPlanning.Url.Percent

namespace ImportPlanning.Url

open ImportPlanning.Text

/-! ### Cutting -/

/-- Cuts at the first character that satisfies `stop`, which stays with the rest. -/
def cutBefore (stop : Char → Bool) (characters : List Char) : List Char × List Char :=
  (characters.takeWhile fun character => !stop character,
   characters.dropWhile fun character => !stop character)

/-! ### Parts -/

structure Parts where
  name : List Char
  username : Option (List Char)
  password : Option (List Char)
  host : Option (List Char)
  port : Option (List Char)
  database : Option (List Char)
  query : Option (List Char)
  deriving DecidableEq, Repr

def takeName? (characters : List Char) : Option (List Char × List Char) :=
  match cutBefore (fun character => !(isWord character || character = '+')) characters with
  | (name, ':' :: '/' :: '/' :: rest) => if name.isEmpty then none else some (name, rest)
  | _ => none

/-- Takes user name and password. The user name ends at the first colon, if an at sign follows it
anywhere; the password then ends at the first at sign. Otherwise the user name ends at the last at
sign before any colon or slash. -/
def takeCredentials (characters : List Char) :
    Option (List Char) × Option (List Char) × List Char :=
  let (front, back) := cutBefore (fun character => character = ':' || character = '/') characters
  let withoutPassword :=
    match cutAtLast? '@' front with
    | some (username, host) => (some username, none, host ++ back)
    | none => (none, none, characters)
  match back with
  | ':' :: rest =>
    match cutAt? '@' rest with
    | some (password, others) => (some front, some password, others)
    | none => withoutPassword
  | _ => withoutPassword

def endsHost (character : Char) : Bool :=
  character = '/' || character = '?'

/-- Takes a host between brackets: up to the last closing bracket, and not empty. -/
def takeBracketed? : List Char → Option (List Char × List Char)
  | '[' :: rest =>
    let (front, back) := cutBefore endsHost rest
    match cutAtLast? ']' front with
    | some (host, others) => if host.isEmpty then none else some (host, others ++ back)
    | none => none
  | _ => none

def takeHost (characters : List Char) : Option (List Char) × List Char :=
  match takeBracketed? characters with
  | some (host, rest) => (some host, rest)
  | none =>
    let (host, rest) :=
      cutBefore (fun character => character = ':' || endsHost character) characters
    if host.isEmpty then (none, characters) else (some host, rest)

def takeAfter (mark : Char) (stop : Char → Bool) :
    List Char → Option (List Char) × List Char
  | [] => (none, [])
  | character :: rest =>
    if character = mark then
      let (part, others) := cutBefore stop rest
      (some part, others)
    else (none, character :: rest)

def parts? (characters : List Char) : Option Parts :=
  (takeName? characters).map fun (name, afterName) =>
    let (username, password, afterCredentials) := takeCredentials afterName
    let (host, afterHost) := takeHost afterCredentials
    let (port, afterPort) := takeAfter ':' endsHost afterHost
    let (database, afterDatabase) := takeAfter '/' (· = '?') afterPort
    let (query, _) := takeAfter '?' (· = '\n') afterDatabase
    { name, username, password, host, port, database, query }

/-! ### Queries -/

/-- A key and its value; a pair without a value says nothing. -/
def queryPair? (characters : List Char) : Option (String × String) :=
  match cutAt? '=' characters with
  | some (key, value) =>
    if value.isEmpty then none else some (decodeQueryPart key, decodeQueryPart value)
  | none => none

def addQueryPair (query : List (String × List String)) (pair : String × String) :
    List (String × List String) :=
  match query with
  | [] => [(pair.1, [pair.2])]
  | (key, values) :: rest =>
    if key = pair.1 then (key, values ++ [pair.2]) :: rest
    else (key, values) :: addQueryPair rest pair

def readQuery (characters : List Char) : List (String × List String) :=
  ((fields '&' characters).filterMap queryPair?).foldl addQueryPair []

/-! ### Whole URLs -/

def readPort : Option (List Char) → Except UrlFlaw (Option Int)
  | none => .ok none
  | some characters =>
    match Number.readInteger (String.ofList characters) with
    | .ok port => .ok (some port)
    | .error flaw => .error (.badPort (String.ofList characters) flaw)

def ofParts (parts : Parts) : Except UrlFlaw DatabaseUrl :=
  (readPort parts.port).map fun port =>
    { name := String.ofList parts.name
      username := parts.username.map decode
      password := parts.password.map decode
      host := parts.host.map String.ofList
      port
      database := parts.database.map decode
      query := (parts.query.map readQuery).getD [] }

def read (text : String) : Except UrlFlaw DatabaseUrl :=
  match parts? text.toList with
  | none => .error .unreadable
  | some parts => ofParts parts

end ImportPlanning.Url
