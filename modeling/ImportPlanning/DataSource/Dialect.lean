/-
Dialects of SQL: how names are quoted, how parameters are marked in statements, and how column names
are given back.
-/
import ImportPlanning.Text.Casing
import ImportPlanning.Text.Pieces

namespace ImportPlanning

open ImportPlanning.Text

inductive Dialect where
  | sqlite
  | postgresql
  | mysql
  | mssql
  | oracle
  deriving DecidableEq, Repr

namespace Dialect

/-! ### Names -/

def grave : Char := Char.ofNat 0x60

def quotes : Dialect → Char × Char
  | mysql => (grave, grave)
  | mssql => ('[', ']')
  | _ => ('"', '"')

/-- Does the driver read a percent sign as a mark, so that a plain one is written twice? -/
def doublesPercent : Dialect → Bool
  | postgresql => true
  | mysql => true
  | _ => false

def escapePercent (dialect : Dialect) (text : List Char) : List Char :=
  if dialect.doublesPercent then double '%' text else text

/-- A name between quotes; a closing quote in it is written twice. -/
def quoteName (dialect : Dialect) (name : List Char) : List Char :=
  dialect.quotes.1 :: (dialect.escapePercent (double dialect.quotes.2 name) ++ [dialect.quotes.2])

def delimit (dialect : Dialect) (name : String) : String :=
  String.ofList (['.'].intercalate ((fields '.' name.toList).map dialect.quoteName))

/-! ### Parameters -/

def parameterMark (dialect : Dialect) (name : List Char) : List Char :=
  match dialect with
  | sqlite => ['?']
  | mssql => ['?']
  | postgresql => "%(".toList ++ name ++ ")s".toList
  | mysql => ['%', 's']
  | oracle => ':' :: name

/-! ### Column names -/

/-- Words that a name without quotes cannot be, where the dialect folds such names to upper
case. -/
def reservedWords : List String :=
  ["share", "raw", "drop", "between", "from", "desc", "option", "prior", "long", "then", "default",
   "alter", "is", "into", "minus", "integer", "number", "grant", "identified", "all", "to", "order",
   "on", "float", "date", "having", "cluster", "nowait", "resource", "any", "table", "index", "for",
   "update", "where", "check", "smallint", "with", "delete", "by", "asc", "revoke", "like", "size",
   "rename", "nocompress", "null", "group", "values", "as", "in", "view", "exclusive", "compress",
   "synonym", "select", "insert", "exists", "not", "trigger", "else", "create", "intersect",
   "pctfree", "distinct", "user", "connect", "set", "mode", "of", "unique", "varchar2", "varchar",
   "lock", "or", "char", "decimal", "union", "public", "and", "start", "uid", "comment", "current",
   "level"]

def isNameCharacter (character : Char) : Bool :=
  character.isAlphanum || character = '_' || character = '$'

def isPlainName (name : String) : Bool :=
  match name.toList with
  | [] => false
  | first :: rest =>
    first.isAlpha && rest.all isNameCharacter && !reservedWords.contains (lower name)

/-- A column name as it is given back. A dialect that folds plain names to upper case gives them in
lower case. -/
def columnName (dialect : Dialect) (name : String) : String :=
  match dialect with
  | oracle => if upper name = name && isPlainName name then lower name else name
  | _ => name

end Dialect
end ImportPlanning
