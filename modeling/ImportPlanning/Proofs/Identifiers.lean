/-
Quoted identifiers with points between them, and a reader that goes through a text from left to
right. It takes exactly the texts that are written so, to their end, and tells the bodies that they
were written from. A table name between the quotes of a dialect is such a text, so that no character
of the name ends its quoting; the reader finds an identifier for each part of the name, and from the
identifiers the name itself can be told.

Which table a database takes the identifiers for is not said here.
-/
import ImportPlanning.Executor
import ImportPlanning.Proofs.Session
import ImportPlanning.Proofs.Text.Fields
import ImportPlanning.Proofs.Text.Marks

namespace ImportPlanning

open ImportPlanning.Text

namespace Identifiers

/-! ### Reading -/

/-- Where a reader of quoted identifiers stands. -/
inductive Place where
  /-- Before an opening quote. -/
  | outside
  /-- Between the quotes. -/
  | inside
  /-- Behind a closing quote, which a second one would make a part of the body. -/
  | behindQuote
  deriving DecidableEq, Repr

/-- The bodies of the identifiers that a text holds from a place on. Between the quotes the first of
them is the rest of the body that was begun. There are none where the text, read to its end, is no
sequence of quoted identifiers. -/
def read (quotes : Char × Char) : Place → List Char → Option (List (List Char))
  | .outside, [] => none
  | .outside, character :: rest =>
    if character = quotes.1 then read quotes .inside rest else none
  | .inside, [] => none
  | .inside, character :: rest =>
    if character = quotes.2 then read quotes .behindQuote rest
    else (read quotes .inside rest).map (List.modifyHead (character :: ·))
  | .behindQuote, [] => some [[]]
  | .behindQuote, character :: rest =>
    if character = quotes.2 then
      (read quotes .inside rest).map (List.modifyHead (character :: ·))
    else if character = '.' then (read quotes .outside rest).map ([] :: ·)
    else none

/-- An identifier: a body between quotes, with its closing quotes doubled. -/
def quoted (quotes : Char × Char) (body : List Char) : List Char :=
  quotes.1 :: (double quotes.2 body ++ [quotes.2])

/-- Identifiers with points between them. -/
def sequence (quotes : Char × Char) (bodies : List (List Char)) : List Char :=
  ['.'].intercalate (bodies.map (quoted quotes))

section

variable {quotes : Char × Char}

/-- A body is read to its closing quote, whatever stands behind it. -/
theorem read_inside (body rest : List Char) :
    read quotes .inside (double quotes.2 body ++ quotes.2 :: rest) =
      (read quotes .behindQuote rest).map (List.modifyHead (body ++ ·)) := by
  induction body with
  | nil =>
      show read quotes .inside (quotes.2 :: rest) = _
      rw [read, if_pos rfl]
      cases read quotes .behindQuote rest with
      | none => rfl
      | some bodies => cases bodies <;> rfl
  | cons character others ih =>
      by_cases same : character = quotes.2
      · subst same
        rw [double_cons_self, List.cons_append, List.cons_append, read, if_pos rfl, read,
          if_pos rfl, ih]
        cases read quotes .behindQuote rest with
        | none => rfl
        | some bodies => cases bodies <;> rfl
      · rw [double_cons_other same, List.cons_append, read, if_neg same, ih]
        cases read quotes .behindQuote rest with
        | none => rfl
        | some bodies => cases bodies <;> rfl

theorem read_quoted (body rest : List Char) :
    read quotes .outside (quoted quotes body ++ rest) =
      (read quotes .behindQuote rest).map (List.modifyHead (body ++ ·)) := by
  rw [quoted, List.cons_append, read, if_pos rfl, List.append_assoc, List.singleton_append,
    read_inside]

end

section

variable (quotes : Char × Char)

/-- What stands behind the closing quote of an identifier, before which the others were written. -/
private def behind : List (List Char) → List Char
  | [] => []
  | next :: others => '.' :: sequence quotes (next :: others)

private theorem sequence_cons (body : List Char) (others : List (List Char)) :
    sequence quotes (body :: others) = quoted quotes body ++ behind quotes others := by
  cases others with
  | nil =>
      rw [sequence, List.map_singleton, List.intercalate_singleton, behind, List.append_nil]
  | cons next rest =>
      rw [sequence, List.map_cons, List.map_cons, List.intercalate_cons_cons, List.append_assoc,
        List.singleton_append]
      rfl

/-- The rest of a body, its closing quote, and what the other bodies are written as. -/
private def Closes (text : List Char) (bodies : List (List Char)) : Prop :=
  ∃ body others, bodies = body :: others ∧
    text = double quotes.2 body ++ quotes.2 :: behind quotes others

/-- What a text must be for given bodies to be read from a place on. Behind a quote that quote still
counts, since it may be the first of two. -/
private def Expects : Place → List Char → List (List Char) → Prop
  | .outside, text, bodies => ∃ rest, text = quotes.1 :: rest ∧ Closes quotes rest bodies
  | .inside, text, bodies => Closes quotes text bodies
  | .behindQuote, text, bodies => Closes quotes (quotes.2 :: text) bodies

end

section

variable {quotes : Char × Char} {text : List Char} {bodies : List (List Char)}

private theorem sequence_of_expects (expected : Expects quotes .outside text bodies) :
    bodies ≠ [] ∧ text = sequence quotes bodies := by
  obtain ⟨rest, rfl, body, others, rfl, rfl⟩ := expected
  refine ⟨List.cons_ne_nil body others, ?_⟩
  rw [sequence_cons, quoted, List.cons_append, List.append_assoc, List.singleton_append]

private theorem closes_behind (expected : Expects quotes .outside text bodies) :
    Closes quotes (quotes.2 :: '.' :: text) ([] :: bodies) := by
  obtain ⟨some, rfl⟩ := sequence_of_expects expected
  refine ⟨[], bodies, rfl, ?_⟩
  cases bodies with
  | nil => exact absurd rfl some
  | cons next others => rfl

private theorem closes_cons_other {character : Char} (other : character ≠ quotes.2)
    (closes : Closes quotes text bodies) :
    Closes quotes (character :: text) (bodies.modifyHead (character :: ·)) := by
  obtain ⟨body, others, rfl, rfl⟩ := closes
  refine ⟨character :: body, others, rfl, ?_⟩
  rw [double_cons_other other, List.cons_append]

private theorem closes_cons_quote (closes : Closes quotes text bodies) :
    Closes quotes (quotes.2 :: quotes.2 :: text) (bodies.modifyHead (quotes.2 :: ·)) := by
  obtain ⟨body, others, rfl, rfl⟩ := closes
  refine ⟨quotes.2 :: body, others, rfl, ?_⟩
  rw [double_cons_self, List.cons_append, List.cons_append]

private theorem expects_of_read {place : Place} (found : read quotes place text = some bodies) :
    Expects quotes place text bodies := by
  -- for every place at once, since a quote between the quotes only moves the reader behind it
  induction text generalizing place bodies with
  | nil =>
      cases place with
      | outside => cases found
      | inside => cases found
      | behindQuote =>
          cases found
          exact ⟨[], [], rfl, rfl⟩
  | cons character rest ih =>
      cases place with
      | outside =>
          obtain ⟨opening, inner⟩ := Option.ite_none_right_eq_some.mp found
          exact ⟨rest, congrArg (· :: rest) opening, ih inner⟩
      | inside =>
          rw [read] at found
          by_cases closing : character = quotes.2
          · rw [if_pos closing] at found
            have closes : Closes quotes (quotes.2 :: rest) bodies := ih found
            rwa [← closing] at closes
          · rw [if_neg closing] at found
            obtain ⟨inner, isInner, rfl⟩ := Option.map_eq_some_iff.mp found
            exact closes_cons_other closing (ih isInner)
      | behindQuote =>
          rw [read] at found
          by_cases doubled : character = quotes.2
          · -- the two quotes belong to the body, which goes on behind them
            rw [if_pos doubled] at found
            obtain ⟨inner, isInner, rfl⟩ := Option.map_eq_some_iff.mp found
            have closes : Closes quotes rest inner := ih isInner
            rw [doubled]
            exact closes_cons_quote closes
          · rw [if_neg doubled] at found
            obtain ⟨point, others⟩ := Option.ite_none_right_eq_some.mp found
            obtain ⟨inner, isInner, rfl⟩ := Option.map_eq_some_iff.mp others
            rw [point]
            exact closes_behind (ih isInner)

private theorem read_behind (apart : quotes.2 ≠ '.') (others : List (List Char))
    (rest : others ≠ [] → read quotes .outside (sequence quotes others) = some others) :
    read quotes .behindQuote (behind quotes others) = some ([] :: others) := by
  cases others with
  | nil =>
      rfl
  | cons next more =>
      rw [behind, read, if_neg apart.symm, if_pos rfl, rest (List.cons_ne_nil next more),
        Option.map_some]

private theorem read_sequence (apart : quotes.2 ≠ '.') (several : bodies ≠ []) :
    read quotes .outside (sequence quotes bodies) = some bodies := by
  induction bodies with
  | nil =>
      exact absurd rfl several
  | cons body others ih =>
      rw [sequence_cons, read_quoted, read_behind apart others ih, Option.map_some,
        List.modifyHead_cons, List.append_nil]

/-- The reader takes exactly the texts that are written from bodies, and tells those bodies. -/
theorem read_eq_some_iff (apart : quotes.2 ≠ '.') :
    read quotes .outside text = some bodies ↔ bodies ≠ [] ∧ text = sequence quotes bodies := by
  constructor
  · intro found
    exact sequence_of_expects (expects_of_read found)
  · rintro ⟨several, rfl⟩
    exact read_sequence apart several

end

/-- A doubled bracket does not end the identifier; a single one does, and only a point may follow. -/
example :
    read ('[', ']') .outside "[a]]; x].[]".toList = some ["a]; x".toList, []] ∧
      read ('[', ']') .outside "[a]; x]".toList = none := by
  decide

/-! ### Doubled characters -/

theorem double_comm (first second : Char) (text : List Char) :
    double first (double second text) = double second (double first text) := by
  induction text with
  | nil =>
      rfl
  | cons character rest ih =>
      by_cases isFirst : character = first
      · by_cases isSecond : character = second
        · rw [← isFirst, ← isSecond]
        · subst isFirst
          rw [double_cons_other isSecond, double_cons_self, double_cons_self,
            double_cons_other isSecond, double_cons_other isSecond, ih]
      · by_cases isSecond : character = second
        · subst isSecond
          rw [double_cons_self, double_cons_other isFirst, double_cons_other isFirst,
            double_cons_other isFirst, double_cons_self, ih]
        · rw [double_cons_other isSecond, double_cons_other isFirst, double_cons_other isFirst,
            double_cons_other isSecond, ih]

theorem double_injective (character : Char) : Function.Injective (double character) := by
  intro left right same
  -- between two of the character itself the reader gives the undoubled text back
  have whole : ∀ body : List Char,
      read (character, character) .inside (double character body ++ [character]) = some [body] := by
    intro body
    have found : read (character, character) .inside (double character body ++ [character]) = _ :=
      read_inside body []
    rwa [read, Option.map_some, List.modifyHead_cons, List.append_nil] at found
  have lists : some [left] = some [right] := by
    rw [← whole left, ← whole right, same]
  exact List.singleton_inj.mp (Option.some.inj lists)

end Identifiers

/-! ### Names in a dialect -/

namespace Dialect

theorem escapePercent_injective (dialect : Dialect) : Function.Injective dialect.escapePercent := by
  intro left right same
  rw [escapePercent, escapePercent] at same
  split at same
  · exact Identifiers.double_injective '%' same
  · exact same

/-- A quoted name is an identifier whose body is the name as the dialect writes it. -/
theorem quoteName_eq_quoted (dialect : Dialect) (name : List Char) :
    dialect.quoteName name = Identifiers.quoted dialect.quotes (dialect.escapePercent name) := by
  rw [quoteName, Identifiers.quoted, escapePercent, escapePercent]
  split
  · rw [Identifiers.double_comm]
  · rfl

theorem quote_ne_point (dialect : Dialect) : dialect.quotes.2 ≠ '.' := by
  cases dialect <;> decide

/-- A name between quotes is written as identifiers, whose bodies are its parts as the dialect writes
them. -/
theorem toList_delimit (dialect : Dialect) (name : String) :
    (dialect.delimit name).toList =
      Identifiers.sequence dialect.quotes ((fields '.' name.toList).map dialect.escapePercent) := by
  have bodies : (fields '.' name.toList).map dialect.quoteName =
      ((fields '.' name.toList).map dialect.escapePercent).map
        (Identifiers.quoted dialect.quotes) := by
    rw [List.map_map]
    exact List.map_congr_left fun field _ => dialect.quoteName_eq_quoted field
  rw [delimit, String.toList_ofList, bodies, Identifiers.sequence]

/-- The reader takes a name between quotes whole and finds its parts, as the dialect writes them. -/
theorem read_delimit (dialect : Dialect) (name : String) :
    Identifiers.read dialect.quotes .outside (dialect.delimit name).toList =
      some ((fields '.' name.toList).map dialect.escapePercent) := by
  rw [Identifiers.read_eq_some_iff dialect.quote_ne_point]
  refine ⟨?_, dialect.toList_delimit name⟩
  rw [Ne, List.map_eq_nil_iff]
  exact fields_ne_nil '.' name.toList

theorem delimit_injective (dialect : Dialect) : Function.Injective dialect.delimit := by
  intro left right same
  have lists : some ((fields '.' left.toList).map dialect.escapePercent) =
      some ((fields '.' right.toList).map dialect.escapePercent) := by
    rw [← dialect.read_delimit left, ← dialect.read_delimit right, same]
  have parts : fields '.' left.toList = fields '.' right.toList :=
    (List.map_inj_right fun _ _ equal => dialect.escapePercent_injective equal).mp
      (Option.some.inj lists)
  exact String.toList_injective (fields_injective '.' parts)

end Dialect

namespace Executor

open SessionM

/-- An executor that has its engine gives the name between the quotes of its dialect. -/
theorem delimit_eq (source : DataSource) (name : String) (session : Session) :
    (delimit source name session).1 =
      (requireEngine source session).1.map fun _ => source.dialect.delimit name := by
  rw [delimit, run_bind]
  cases requireEngine source session with
  | mk result after =>
      cases result with
      | ok done => rfl
      | error failure => rfl

/-- The text that an executor gives for a name is read to its end as quoted identifiers with points
between them, one for each part of the name, and in one dialect different names never give the same
text. -/
theorem delimit_unbroken (source : DataSource) :
    (∀ name session, (delimit source name session).1 =
      (requireEngine source session).1.map fun _ => source.dialect.delimit name) ∧
    (∀ name, ∃ identifiers,
      Identifiers.read source.dialect.quotes .outside (source.dialect.delimit name).toList =
          some identifiers ∧
        identifiers.length = (splitFields '.' name).length) ∧
    Function.Injective source.dialect.delimit := by
  refine ⟨delimit_eq source, ?_, source.dialect.delimit_injective⟩
  intro name
  refine ⟨_, source.dialect.read_delimit name, ?_⟩
  rw [splitFields, List.length_map, List.length_map]

end Executor
end ImportPlanning
