/-
Statements on their way to a driver. Percent signs are doubled where the dialect asks for it; a
colon before a word marks a parameter, unless a colon, a word character or a backslash stands before
it or a colon follows the word; a backslash before a colon is dropped. No parameter ever has a
value, so a statement that marks one cannot be run.

These are taken to be all the marks that the access layer knows in a statement: a dollar sign is no
word character, and a percent sign before a name in brackets marks nothing in any dialect.
-/
import ImportPlanning.DataSource.Dialect
import ImportPlanning.Text.Word

namespace ImportPlanning

open ImportPlanning.Text

namespace Statement

inductive Piece where
  | character (value : Char)
  | parameter (name : List Char)
  deriving DecidableEq, Repr

/-- The word after a colon, if nothing around it keeps it from being a parameter. -/
def parameterAt? (before : Option Char) (rest : List Char) : Option (List Char) :=
  let name := rest.takeWhile isWord
  let following := (rest.dropWhile isWord).head?
  let isOpen :=
    match before with
    | none => true
    | some character => !(character = ':' || isWord character || character = '\\')
  if isOpen && !name.isEmpty && following ≠ some ':' then some name else none

/-- The pieces of a statement, given the character before it, after `skip` characters that belong to
the parameter before. -/
def piecesFrom : (before : Option Char) → (skip : Nat) → List Char → List Piece
  | _, _, [] => []
  | _, skip + 1, character :: rest => piecesFrom (some character) skip rest
  | before, 0, character :: rest =>
    match if character = ':' then parameterAt? before rest else none with
    | some name => .parameter name :: piecesFrom (some character) name.length rest
    | none => .character character :: piecesFrom (some character) 0 rest

def parameters (pieces : List Piece) : List (List Char) :=
  pieces.filterMap fun piece =>
    match piece with
    | .character _ => none
    | .parameter name => some name

def pieceText (dialect : Dialect) : Piece → List Char
  | .character value => [value]
  | .parameter name => dialect.parameterMark name

/-- Drops each backslash before a colon and a word that no colon follows. -/
def dropEscapes : List Char → List Char
  | [] => []
  | '\\' :: ':' :: rest =>
    if (rest.dropWhile isWord).head? = some ':' then '\\' :: ':' :: dropEscapes rest
    else ':' :: dropEscapes rest
  | character :: rest => character :: dropEscapes rest

/-- A statement as the driver gets it, and its first parameter if it marks one. -/
structure Prepared where
  text : String
  parameter : Option String
  deriving DecidableEq, Repr

def prepare (dialect : Dialect) (sql : String) : Prepared :=
  let pieces := piecesFrom none 0 (dialect.escapePercent sql.toList)
  { text := String.ofList (dropEscapes (pieces.flatMap (pieceText dialect)))
    parameter := (parameters pieces).head?.map String.ofList }

end Statement
end ImportPlanning
