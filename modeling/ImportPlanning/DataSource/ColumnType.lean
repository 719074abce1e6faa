/-
Type codes of result columns. The driver's own code decides if it equals one of the driver's type
objects; otherwise a sample value decides by its kind; without one, the column is null or of some
other type.
-/
import ImportPlanning.Value.Equality

namespace ImportPlanning

inductive ColumnType where
  | bit
  | tinyInt
  | bigInt
  | binary
  | null
  | char
  | numeric
  | decimal
  | integer
  | smallInt
  | float
  | real
  | double
  | varchar
  | boolean
  | date
  | time
  | timestamp
  | other
  deriving DecidableEq, Repr

namespace ColumnType

def code : ColumnType → Int
  | bit => -7
  | tinyInt => -6
  | bigInt => -5
  | binary => -2
  | null => 0
  | char => 1
  | numeric => 2
  | decimal => 3
  | integer => 4
  | smallInt => 5
  | float => 6
  | real => 7
  | double => 8
  | varchar => 12
  | boolean => 16
  | date => 91
  | time => 92
  | timestamp => 93
  | other => 1111

def name : ColumnType → String
  | bit => "BIT"
  | tinyInt => "TINYINT"
  | bigInt => "BIGINT"
  | binary => "BINARY"
  | null => "NULL"
  | char => "CHAR"
  | numeric => "NUMERIC"
  | decimal => "DECIMAL"
  | integer => "INTEGER"
  | smallInt => "SMALLINT"
  | float => "FLOAT"
  | real => "REAL"
  | double => "DOUBLE"
  | varchar => "VARCHAR"
  | boolean => "BOOLEAN"
  | date => "DATE"
  | time => "TIME"
  | timestamp => "TIMESTAMP"
  | other => "OTHER"

def ofValue : Value → ColumnType
  | .boolean _ => boolean
  | .integer _ => bigInt
  | .float _ => double
  | .decimal _ => decimal
  | .moment _ => timestamp
  | .date _ => date
  | .time _ => time
  | .text _ => varchar
  | .binary _ _ => binary
  | _ => other

end ColumnType

/-- The type objects of a driver: for each, the codes that equal it. A driver may lack some. -/
structure TypeObjects where
  moments : Option (List Value)
  numbers : Option (List Value)
  texts : Option (List Value)
  binaries : Option (List Value)
  deriving Repr

namespace TypeObjects

def none : TypeObjects := ⟨.none, .none, .none, .none⟩

def inOrder (objects : TypeObjects) : List (Option (List Value) × ColumnType) :=
  [(objects.moments, .timestamp), (objects.numbers, .numeric), (objects.texts, .varchar),
   (objects.binaries, .binary)]

def equals (code : Value) : Option (List Value) → Bool
  | .none => false
  | some codes => codes.any fun candidate => candidate.sameAs code

def match? (code : Value) (objects : TypeObjects) : Option ColumnType :=
  (objects.inOrder.find? fun object => equals code object.1).map Prod.snd

end TypeObjects

namespace ColumnType

/-- The type that a driver declares by its code; a null code declares nothing. -/
def declared? (objects : Option TypeObjects) (code : Value) : Option ColumnType :=
  if code.isNull then none else objects.bind (TypeObjects.match? code)

def resolve (objects : Option TypeObjects) (code sample : Value) : ColumnType :=
  match declared? objects code with
  | some found => found
  | none =>
    if !sample.isNull then ofValue sample
    else if code.isNull then null else other

end ColumnType
end ImportPlanning
