/-
Cutting a text at the occurrences of a mark, from the left and without overlap, and putting another
text in their place; cutting it once, at the first or the last occurrence of a character. A text
always has one piece more than it has marks.
-/

namespace ImportPlanning.Text

/-- The pieces of a text between the occurrences of `mark`, after `skip` characters that belong to
the occurrence before. The mark is meant to be non-empty. -/
def piecesFrom (mark : List Char) : (skip : Nat) → List Char → List (List Char)
  | _, [] => [[]]
  | skip + 1, _ :: rest => piecesFrom mark skip rest
  | 0, character :: rest =>
    if mark.isPrefixOf (character :: rest) then [] :: piecesFrom mark (mark.length - 1) rest
    else (piecesFrom mark 0 rest).modifyHead (character :: ·)

def pieces (mark text : List Char) : List (List Char) :=
  piecesFrom mark 0 text

def replaceMarks (mark replacement text : List Char) : List Char :=
  replacement.intercalate (pieces mark text)

def replace (mark replacement text : String) : String :=
  String.ofList (replaceMarks mark.toList replacement.toList text.toList)

def occursIn (mark : List Char) : List Char → Bool
  | [] => mark.isEmpty
  | character :: rest => mark.isPrefixOf (character :: rest) || occursIn mark rest

def fields (separator : Char) : List Char → List (List Char)
  | [] => [[]]
  | character :: rest =>
    if character = separator then [] :: fields separator rest
    else (fields separator rest).modifyHead (character :: ·)

def splitFields (separator : Char) (text : String) : List String :=
  (fields separator text.toList).map String.ofList

/-- Cuts at the first occurrence of a character, which is dropped. -/
def cutAt? (mark : Char) : List Char → Option (List Char × List Char)
  | [] => none
  | character :: rest =>
    if character = mark then some ([], rest)
    else (cutAt? mark rest).map fun cut => (character :: cut.1, cut.2)

def cutAtLast? (mark : Char) : List Char → Option (List Char × List Char)
  | [] => none
  | character :: rest =>
    match cutAtLast? mark rest with
    | some cut => some (character :: cut.1, cut.2)
    | none => if character = mark then some ([], rest) else none

def double (character : Char) (text : List Char) : List Char :=
  text.flatMap fun other => if other = character then [other, other] else [other]

end ImportPlanning.Text
