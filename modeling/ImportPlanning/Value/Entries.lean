/-
Mappings as lists of entries: look-up by key, writing an entry, and laying one mapping over another.
A key keeps the place where it was first written, and its last value wins.
-/
import ImportPlanning.Value.Equality

namespace ImportPlanning.Entries

def find? (key : Value) : Entries → Option Value
  | [] => none
  | (candidate, value) :: rest => if key.sameAs candidate then some value else find? key rest

def holds (key : Value) (entries : Entries) : Bool :=
  (find? key entries).isSome

/-- Writes an entry: in the place of the key if it is there, and else at the end. -/
def insert (key value : Value) : Entries → Entries
  | [] => [(key, value)]
  | (candidate, old) :: rest =>
    if key.sameAs candidate then (candidate, value) :: rest
    else (candidate, old) :: insert key value rest

def overlay (lower upper : Entries) : Entries :=
  upper.foldl (fun entries entry => insert entry.1 entry.2 entries) lower

def ofList (entries : Entries) : Entries :=
  overlay [] entries

/-- The value under a text key; a missing key counts as null. -/
def get (name : String) (entries : Entries) : Value :=
  (find? (.text name) entries).getD .null

end ImportPlanning.Entries
