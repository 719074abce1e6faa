/-
The conditions token: the place in a statement where a later stage puts the row filter of a
partition.
-/
import ImportPlanning.Text.Pieces

namespace ImportPlanning.Conditions

open ImportPlanning.Text

def token : String := "$\x7bCONDITIONS\x7d"

def alwaysTrue : String := "1 = 1"

def alwaysFalse : String := "1 = 0"

def occurs (sql : String) : Bool :=
  occursIn token.toList sql.toList

/-- A statement with a predicate in the place of each token. -/
def apply (predicate sql : String) : String :=
  replace token predicate sql

end ImportPlanning.Conditions
