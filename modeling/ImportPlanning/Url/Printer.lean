/-
Writing database URLs, with the password shown or masked. The keys of the query are sorted. Without
a user name the password is not written.
-/
import ImportPlanning.Url.Basic
import ImportPlanning.Url.Percent

namespace ImportPlanning.Url

def mask : String := "***"

def credentialsText (hidePassword : Bool) (username password : Option String) : String :=
  match username with
  | none => ""
  | some name =>
    encode safeInCredentials name ++
      (match password with
       | none => ""
       | some secret =>
         ":" ++ (if hidePassword then mask else encode safeInCredentials secret)) ++ "@"

/-- A host; one that holds a colon stands in brackets. -/
def hostText (host : Option String) : String :=
  match host with
  | none => ""
  | some name => if name.toList.contains ':' then "[" ++ name ++ "]" else name

def portText (port : Option Int) : String :=
  match port with
  | none => ""
  | some number => ":" ++ toString number

def databaseText (database : Option String) : String :=
  match database with
  | none => ""
  | some name => "/" ++ encode safeInDatabase name

def queryText (query : List (String × List String)) : String :=
  if query.isEmpty then ""
  else
    let sorted := query.mergeSort fun left right => left.1 ≤ right.1
    "?" ++ "&".intercalate (sorted.flatMap fun entry =>
      entry.2.map fun value => encodeQueryPart entry.1 ++ "=" ++ encodeQueryPart value)

def text (hidePassword : Bool) (url : DatabaseUrl) : String :=
  url.name ++ "://" ++ credentialsText hidePassword url.username url.password ++
    hostText url.host ++ portText url.port ++ databaseText url.database ++ queryText url.query

end ImportPlanning.Url
