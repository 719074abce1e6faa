/-
Statements that reach a driver as they were written. Percent signs apart, which are written twice
where the driver reads them once, a statement is changed in two ways: a colon before a word marks a
parameter, and a backslash before a colon is dropped. A statement in which neither stands is sent
as it is; one with a parameter is not sent at all.

What a data source answers is left open.
-/
import Mathlib.Logic.Basic
import ImportPlanning.Proofs.Engines
import ImportPlanning.Proofs.Preparation
import ImportPlanning.Proofs.Statements

namespace ImportPlanning

open ImportPlanning.Text

namespace Statement

/-! ### Words behind colons -/

/-- Neither a word nor a colon goes on here. -/
def EndsWord (rest : List Char) : Prop :=
  ∀ character, rest.head? = some character → isWord character = false ∧ character ≠ ':'

/-- A colon behind this character may mark a parameter. -/
def LetsMark (before : Option Char) : Prop :=
  ∀ character, before = some character →
    isWord character = false ∧ character ≠ ':' ∧ character ≠ '\\'

/-- A parameter is marked in a text, which stands behind the character `before`. -/
def MarksParameter (before : Option Char) (text : List Char) : Prop :=
  ∃ front word rest, text = front ++ ':' :: (word ++ rest) ∧ word ≠ [] ∧
    (∀ character ∈ word, isWord character = true) ∧ EndsWord rest ∧
    LetsMark (front.getLast?.or before)

/-- A backslash stands before a colon, and neither a word nor a colon goes on after the word behind
it, which may be empty. -/
def HoldsEscape (text : List Char) : Prop :=
  ∃ front word rest, text = front ++ '\\' :: ':' :: (word ++ rest) ∧
    (∀ character ∈ word, isWord character = true) ∧ EndsWord rest

private theorem cut_word {word rest : List Char} (all : ∀ character ∈ word, isWord character = true)
    (ends : EndsWord rest) :
    (word ++ rest).takeWhile isWord = word ∧ (word ++ rest).dropWhile isWord = rest := by
  rw [List.takeWhile_append_of_pos all, List.dropWhile_append_of_pos all]
  cases rest with
  | nil => simp
  | cons first others =>
      have noWord : ¬ isWord first = true := by simp [(ends first rfl).1]
      rw [List.takeWhile_cons_of_neg noWord, List.dropWhile_cons_of_neg noWord, List.append_nil]
      exact ⟨rfl, rfl⟩

private theorem endsWord_dropWhile_iff (text : List Char) :
    EndsWord (text.dropWhile isWord) ↔ (text.dropWhile isWord).head? ≠ some ':' := by
  have noWord := List.head?_dropWhile_not isWord text
  constructor
  · intro ends colon
    exact (ends ':' colon).2 rfl
  · intro noColon character isFirst
    rw [isFirst] at noWord noColon
    exact ⟨by simpa using noWord, fun same => noColon (congrArg some same)⟩

/-- After a word goes on neither a word nor a colon just if no colon follows the longest word. -/
private theorem exists_word_iff (text : List Char) (holds : List Char → Prop) :
    (∃ word rest, text = word ++ rest ∧ (∀ character ∈ word, isWord character = true) ∧
        EndsWord rest ∧ holds word) ↔
      (text.dropWhile isWord).head? ≠ some ':' ∧ holds (text.takeWhile isWord) := by
  rw [← endsWord_dropWhile_iff]
  constructor
  · rintro ⟨word, rest, rfl, all, ends, held⟩
    obtain ⟨isWhole, isRest⟩ := cut_word all ends
    rw [isWhole, isRest]
    exact ⟨ends, held⟩
  · rintro ⟨ends, held⟩
    exact ⟨_, _, (List.takeWhile_append_dropWhile).symm,
      fun _ member => List.all_eq_true.mp List.all_takeWhile _ member, ends, held⟩

/-! ### Parameters -/

theorem isSome_parameterAt?_iff (before : Option Char) (rest : List Char) :
    (parameterAt? before rest).isSome = true ↔
      LetsMark before ∧ (rest.dropWhile isWord).head? ≠ some ':' ∧ rest.takeWhile isWord ≠ [] := by
  rw [parameterAt?.eq_def, LetsMark]
  cases before with
  | none => simp [and_comm]
  | some character => simp [and_assoc, and_comm, and_left_comm]

/-- A parameter is marked at the start of a text or after its first character. -/
theorem marksParameter_cons_iff (before : Option Char) (character : Char) (rest : List Char) :
    MarksParameter before (character :: rest) ↔
      (character = ':' ∧ (parameterAt? before rest).isSome = true) ∨
        MarksParameter (some character) rest := by
  have behind : ∀ front : List Char, ((character :: front).getLast?.or before) =
      front.getLast?.or (some character) := by
    intro front
    rw [List.getLast?_cons]
    cases front.getLast? <;> rfl
  rw [isSome_parameterAt?_iff, ← exists_word_iff rest fun word => word ≠ []]
  constructor
  · rintro ⟨front, word, others, isText, named, all, ends, lets⟩
    -- the colon of the parameter is the first character, or it stands further on
    cases front with
    | nil =>
        obtain ⟨isColon, isRest⟩ := List.cons.inj isText
        exact Or.inl ⟨isColon, lets, word, others, isRest, all, ends, named⟩
    | cons first front =>
        obtain ⟨isFirst, isRest⟩ := List.cons.inj isText
        subst isFirst
        rw [behind front] at lets
        exact Or.inr ⟨front, word, others, isRest, named, all, ends, lets⟩
  · rintro (⟨isColon, lets, word, others, isRest, all, ends, named⟩ |
      ⟨front, word, others, isRest, named, all, ends, lets⟩)
    · exact ⟨[], word, others, by rw [isColon, isRest]; rfl, named, all, ends, lets⟩
    · rw [← behind front] at lets
      exact ⟨character :: front, word, others, by rw [isRest]; rfl, named, all, ends, lets⟩

theorem not_marksParameter_nil (before : Option Char) : ¬ MarksParameter before [] := by
  rintro ⟨front, word, rest, isText, _⟩
  simp at isText

theorem not_marksParameter_of_noColon (before : Option Char) {text : List Char}
    (noColon : ':' ∉ text) : ¬ MarksParameter before text := by
  rintro ⟨front, word, rest, rfl, _⟩
  simp at noColon

/-- The pieces of a text behind a first character that marks no parameter. -/
private theorem piecesFrom_cons_unmarked {before : Option Char} {character : Char}
    {rest : List Char}
    (unmarked : ¬ (character = ':' ∧ (parameterAt? before rest).isSome = true)) :
    piecesFrom before 0 (character :: rest) =
      .character character :: piecesFrom (some character) 0 rest := by
  rw [piecesFrom]
  split
  · rename_i name isParameter
    split at isParameter
    · rename_i isColon
      exact absurd ⟨isColon, by rw [isParameter]; rfl⟩ unmarked
    · cases isParameter
  · rfl

theorem piecesFrom_of_unmarked {before : Option Char} {text : List Char}
    (unmarked : ¬ MarksParameter before text) :
    piecesFrom before 0 text = text.map .character := by
  induction text generalizing before with
  | nil =>
      rfl
  | cons character rest ih =>
      rw [marksParameter_cons_iff, not_or] at unmarked
      rw [piecesFrom_cons_unmarked unmarked.1, ih unmarked.2, List.map_cons]

theorem parameters_eq_nil_iff (before : Option Char) (text : List Char) :
    parameters (piecesFrom before 0 text) = [] ↔ ¬ MarksParameter before text := by
  constructor
  · intro none
    induction text generalizing before with
    | nil =>
        exact not_marksParameter_nil before
    | cons character rest ih =>
        have unmarked : ¬ (character = ':' ∧ (parameterAt? before rest).isSome = true) := by
          rintro ⟨isColon, isParameter⟩
          obtain ⟨name, isName⟩ := Option.isSome_iff_exists.mp isParameter
          rw [piecesFrom, if_pos isColon, isName] at none
          cases none
        rw [piecesFrom_cons_unmarked unmarked] at none
        rw [marksParameter_cons_iff, not_or]
        exact ⟨unmarked, ih (some character) none⟩
  · intro unmarked
    rw [piecesFrom_of_unmarked unmarked, parameters, List.filterMap_map]
    exact List.filterMap_eq_nil_iff.mpr fun _ _ => rfl

theorem written_of_unmarked {before : Option Char} {text : List Char} (dialect : Dialect)
    (unmarked : ¬ MarksParameter before text) :
    written dialect (piecesFrom before 0 text) = text := by
  rw [piecesFrom_of_unmarked unmarked, written, List.flatMap_map]
  exact List.flatMap_singleton' text

/-! ### Escapes -/

theorem holdsEscape_cons_iff (character : Char) (rest : List Char) :
    HoldsEscape (character :: rest) ↔
      (character = '\\' ∧ ∃ others, rest = ':' :: others ∧
        (others.dropWhile isWord).head? ≠ some ':') ∨ HoldsEscape rest := by
  constructor
  · rintro ⟨front, word, others, isText, all, ends⟩
    cases front with
    | nil =>
        obtain ⟨isBackslash, isRest⟩ := List.cons.inj isText
        refine Or.inl ⟨isBackslash, word ++ others, isRest, ?_⟩
        rw [← endsWord_dropWhile_iff, (cut_word all ends).2]
        exact ends
    | cons first front =>
        obtain ⟨_, isRest⟩ := List.cons.inj isText
        exact Or.inr ⟨front, word, others, isRest, all, ends⟩
  · rintro (⟨isBackslash, behind, isRest, noColon⟩ | ⟨front, word, others, isRest, all, ends⟩)
    · refine ⟨[], behind.takeWhile isWord, behind.dropWhile isWord, ?_, ?_, ?_⟩
      · rw [isBackslash, isRest, List.takeWhile_append_dropWhile]
        rfl
      · exact fun _ member => List.all_eq_true.mp List.all_takeWhile _ member
      · exact (endsWord_dropWhile_iff behind).mpr noColon
    · exact ⟨character :: front, word, others, by rw [isRest]; rfl, all, ends⟩

theorem not_holdsEscape_nil : ¬ HoldsEscape [] := by
  rintro ⟨front, word, rest, isText, _⟩
  simp at isText

theorem dropEscapes_eq_self_iff (text : List Char) :
    dropEscapes text = text ↔ ¬ HoldsEscape text := by
  induction text using dropEscapes.induct with
  | case1 =>
      simp [dropEscapes, not_holdsEscape_nil]
  | case2 rest kept ih =>
      rw [dropEscapes.eq_2, if_pos kept, List.cons_inj_right, List.cons_inj_right, ih,
        holdsEscape_cons_iff, holdsEscape_cons_iff]
      simp [kept]
  | case3 rest dropped ih =>
      rw [dropEscapes.eq_2, if_neg dropped, holdsEscape_cons_iff]
      simp [dropped]
  | case4 character rest other ih =>
      rw [dropEscapes.eq_3 character rest other, List.cons_inj_right, ih, holdsEscape_cons_iff]
      constructor
      · rintro unheld (⟨isBackslash, others, isRest, _⟩ | held)
        · exact other others isBackslash isRest
        · exact unheld held
      · exact fun unheld held => unheld (Or.inr held)

/-! ### Neutral characters -/

/-- No word, parameter or escape goes on over the character. -/
structure IsNeutral (character : Char) : Prop where
  noWord : isWord character = false
  noColon : character ≠ ':'
  noBackslash : character ≠ '\\'

instance (character : Char) : Decidable (IsNeutral character) :=
  decidable_of_iff (isWord character = false ∧ character ≠ ':' ∧ character ≠ '\\')
    ⟨fun ⟨noWord, noColon, noBackslash⟩ => ⟨noWord, noColon, noBackslash⟩,
      fun ⟨noWord, noColon, noBackslash⟩ => ⟨noWord, noColon, noBackslash⟩⟩

theorem dropEscapes_sublist (text : List Char) : (dropEscapes text).Sublist text := by
  induction text using dropEscapes.induct with
  | case1 =>
      exact List.Sublist.refl []
  | case2 rest kept ih =>
      rw [dropEscapes.eq_2, if_pos kept]
      exact (ih.cons_cons ':').cons_cons '\\'
  | case3 rest dropped ih =>
      rw [dropEscapes.eq_2, if_neg dropped]
      exact (ih.cons_cons ':').cons '\\'
  | case4 character rest other ih =>
      rw [dropEscapes.eq_3 character rest other]
      exact ih.cons_cons character

section

variable {neutral : Char} (isNeutral : IsNeutral neutral)

include isNeutral

private theorem takeWhile_append_neutral (left right : List Char) :
    (left ++ neutral :: right).takeWhile isWord = left.takeWhile isWord := by
  induction left with
  | nil =>
      simp [isNeutral.noWord]
  | cons character rest ih =>
      rw [List.cons_append, List.takeWhile_cons, List.takeWhile_cons, ih]

private theorem head?_dropWhile_append_neutral (left right : List Char) :
    ((left ++ neutral :: right).dropWhile isWord).head? = some ':' ↔
      (left.dropWhile isWord).head? = some ':' := by
  induction left with
  | nil =>
      simp [isNeutral.noWord, isNeutral.noColon]
  | cons character rest ih =>
      rw [List.cons_append, List.dropWhile_cons, List.dropWhile_cons]
      split
      · exact ih
      · rfl

theorem marksParameter_behind (text : List Char) :
    MarksParameter (some neutral) text ↔ MarksParameter none text := by
  cases text with
  | nil =>
      exact iff_of_false (not_marksParameter_nil _) (not_marksParameter_nil _)
  | cons character rest =>
      have behind : LetsMark (some neutral) := by
        intro other same
        cases same
        exact ⟨isNeutral.noWord, isNeutral.noColon, isNeutral.noBackslash⟩
      have first : LetsMark none := nofun
      simp [marksParameter_cons_iff, isSome_parameterAt?_iff, behind, first]

/-- A parameter is marked on one side of a neutral character or on the other. -/
theorem marksParameter_append (before : Option Char) (left right : List Char) :
    MarksParameter before (left ++ neutral :: right) ↔
      MarksParameter before left ∨ MarksParameter none right := by
  induction left generalizing before with
  | nil =>
      rw [List.nil_append, marksParameter_cons_iff, marksParameter_behind isNeutral]
      simp [isNeutral.noColon, not_marksParameter_nil]
  | cons character rest ih =>
      rw [List.cons_append, marksParameter_cons_iff, marksParameter_cons_iff, ih,
        isSome_parameterAt?_iff, isSome_parameterAt?_iff, takeWhile_append_neutral isNeutral, Ne,
        head?_dropWhile_append_neutral isNeutral, or_assoc]

/-- Escapes are dropped on either side of a neutral character. -/
theorem dropEscapes_append (left right : List Char) :
    dropEscapes (left ++ neutral :: right) = dropEscapes left ++ neutral :: dropEscapes right := by
  induction left using dropEscapes.induct with
  | case1 =>
      exact dropEscapes.eq_3 neutral right fun _ same _ => isNeutral.noBackslash same
  | case2 rest kept ih =>
      have alsoKept := (head?_dropWhile_append_neutral isNeutral rest right).mpr kept
      rw [List.cons_append, List.cons_append, dropEscapes.eq_2, if_pos alsoKept, ih,
        dropEscapes.eq_2, if_pos kept, List.cons_append, List.cons_append]
  | case3 rest dropped ih =>
      have alsoDropped := mt (head?_dropWhile_append_neutral isNeutral rest right).mp dropped
      rw [List.cons_append, List.cons_append, dropEscapes.eq_2, if_neg alsoDropped, ih,
        dropEscapes.eq_2, if_neg dropped, List.cons_append]
  | case4 character rest other ih =>
      -- the neutral character is no colon, so that it makes no escape with a backslash before it
      have still : ∀ others, character = '\\' → rest ++ neutral :: right = ':' :: others → False := by
        intro others isBackslash same
        cases rest with
        | nil =>
            exact isNeutral.noColon (List.cons.inj same).1
        | cons second behind =>
            exact other behind isBackslash (congrArg (· :: behind) (List.cons.inj same).1)
      rw [List.cons_append, dropEscapes.eq_3 character _ still, ih,
        dropEscapes.eq_3 character rest other, List.cons_append]

/-- An escape stands on one side of a neutral character or on the other. -/
theorem holdsEscape_append (left right : List Char) :
    HoldsEscape (left ++ neutral :: right) ↔ HoldsEscape left ∨ HoldsEscape right := by
  rw [← not_iff_not, not_or, ← dropEscapes_eq_self_iff, ← dropEscapes_eq_self_iff,
    ← dropEscapes_eq_self_iff, dropEscapes_append isNeutral]
  constructor
  · intro same
    have sameLength := congrArg List.length same
    rw [List.length_append, List.length_append, List.length_cons, List.length_cons] at sameLength
    -- what is dropped on one side cannot be made up for on the other
    have leftShorter := (dropEscapes_sublist left).length_le
    have rightShorter := (dropEscapes_sublist right).length_le
    obtain ⟨sameLeft, sameRight⟩ := List.append_inj same (by omega)
    exact ⟨sameLeft, (List.cons.inj sameRight).2⟩
  · rintro ⟨sameLeft, sameRight⟩
    rw [sameLeft, sameRight]

/-! ### Neutral characters written twice -/

/-- No parameter is won or lost by neutral characters that are written twice. -/
theorem marksParameter_double (before : Option Char) (text : List Char) :
    MarksParameter before (double neutral text) ↔ MarksParameter before text := by
  induction text using induction_at neutral generalizing before with
  | free text missing =>
      rw [double_of_not_mem missing]
  | joined left right missing ih =>
      rw [double_append missing, marksParameter_append isNeutral, ← List.nil_append (neutral :: _),
        marksParameter_append isNeutral, marksParameter_append isNeutral, ih,
        or_iff_right (not_marksParameter_nil none)]

theorem holdsEscape_double (text : List Char) :
    HoldsEscape (double neutral text) ↔ HoldsEscape text := by
  induction text using induction_at neutral with
  | free text missing =>
      rw [double_of_not_mem missing]
  | joined left right missing ih =>
      rw [double_append missing, holdsEscape_append isNeutral, ← List.nil_append (neutral :: _),
        holdsEscape_append isNeutral, holdsEscape_append isNeutral, ih,
        or_iff_right not_holdsEscape_nil]

theorem dropEscapes_double (text : List Char) :
    dropEscapes (double neutral text) = double neutral (dropEscapes text) := by
  induction text using induction_at neutral with
  | free text missing =>
      have alsoMissing : neutral ∉ dropEscapes text := mt (dropEscapes_sublist text).mem missing
      rw [double_of_not_mem missing, double_of_not_mem alsoMissing]
  | joined left right missing ih =>
      have alsoMissing : neutral ∉ dropEscapes left := mt (dropEscapes_sublist left).mem missing
      rw [double_append missing, dropEscapes_append isNeutral, ← List.nil_append (neutral :: double _ _),
        dropEscapes_append isNeutral, ih, dropEscapes_append isNeutral, double_append alsoMissing]
      rfl

end

/-! ### Percent signs -/

private theorem isNeutral_percent : IsNeutral '%' := by decide +kernel

theorem marksParameter_escapePercent (dialect : Dialect) (before : Option Char)
    (text : List Char) :
    MarksParameter before (dialect.escapePercent text) ↔ MarksParameter before text := by
  rw [Dialect.escapePercent]
  split
  · exact marksParameter_double isNeutral_percent before text
  · rfl

theorem holdsEscape_escapePercent (dialect : Dialect) (text : List Char) :
    HoldsEscape (dialect.escapePercent text) ↔ HoldsEscape text := by
  rw [Dialect.escapePercent]
  split
  · exact holdsEscape_double isNeutral_percent text
  · rfl

theorem dropEscapes_escapePercent (dialect : Dialect) (text : List Char) :
    dropEscapes (dialect.escapePercent text) = dialect.escapePercent (dropEscapes text) := by
  rw [Dialect.escapePercent, Dialect.escapePercent]
  split
  · exact dropEscapes_double isNeutral_percent text
  · rfl

/-! ### Statements made ready -/

theorem parameter_prepare_eq_none_iff (dialect : Dialect) (sql : String) :
    (prepare dialect sql).parameter = none ↔ ¬ MarksParameter none sql.toList := by
  rw [← marksParameter_escapePercent dialect, ← parameters_eq_nil_iff, prepare,
    Option.map_eq_none_iff, List.head?_eq_none_iff]

/-- A statement without parameters reaches the driver without its escapes. -/
theorem text_prepare_of_unmarked (dialect : Dialect) {sql : String}
    (unmarked : ¬ MarksParameter none sql.toList) :
    (prepare dialect sql).text =
      String.ofList (dropEscapes (dialect.escapePercent sql.toList)) := by
  have plain : ¬ MarksParameter none (dialect.escapePercent sql.toList) := by
    rwa [marksParameter_escapePercent]
  exact congrArg (fun text => String.ofList (dropEscapes text)) (written_of_unmarked dialect plain)

/-- A statement without parameters reaches the driver as it was written just if it holds no escape.
-/
theorem text_prepare_eq_iff (dialect : Dialect) {sql : String}
    (unmarked : ¬ MarksParameter none sql.toList) :
    (prepare dialect sql).text = String.ofList (dialect.escapePercent sql.toList) ↔
      ¬ HoldsEscape sql.toList := by
  rw [text_prepare_of_unmarked dialect unmarked, String.ofList_inj, dropEscapes_eq_self_iff,
    holdsEscape_escapePercent]

end Statement

namespace Executor

open SessionM Statement

/-- An open executor that obtains its engine, with which it can connect to the data source. -/
structure Reaches (source : DataSource) (session : Session) : Prop where
  isOpen : session.executor.isClosed = false
  obtains : Obtains source session.executor
  connects : source.connectFault = none

theorem Reaches.noted {source : DataSource} {session : Session} (reaches : Reaches source session)
    (journal : List LogRecord) : Reaches source { session with journal } :=
  ⟨reaches.isOpen, reaches.obtains, reaches.connects⟩

private theorem executed_runStatement {source : DataSource} (connects : source.connectFault = none)
    (sql : String) (session : Session) :
    (runStatement source sql session).2.trace.executed = session.trace.executed ++
      match (prepare source.dialect sql).parameter with
      | some _ => []
      | none => [source.dialect.sent sql] := by
  have connected : source.connect = .ok () := by rw [DataSource.connect, connects]
  rw [runStatement, connected]
  dsimp only [guarded]
  rw [run_bind, run_pure]
  dsimp only
  cases (prepare source.dialect sql).parameter with
  | some name =>
      rw [List.append_nil]
      exact ((asks_failOperation [] [] (fun _ => True) _ _ _).trace_of_nothing session).2
  | none =>
      exact (trace_bind_of_silent
        (fun _ => (sends_guarded _ _ _).weaken fun _ _ => trivial) session).2

/-- One statement reaches the data source if it marks no parameter, and else none does. -/
theorem executed_query {source : DataSource} {session : Session}
    (reaches : Reaches source session) (sql : String) :
    (query source sql session).2.trace.executed = session.trace.executed ++
      match (prepare source.dialect sql).parameter with
      | some _ => []
      | none => [source.dialect.sent sql] := by
  rw [query, run_bind, run_note]
  dsimp only
  have noted := reaches.noted
    (session.journal ++ [⟨.debug, loggerName logger, "Executing query: " ++ sql⟩])
  obtain ⟨ready, isReady, _, executed, _⟩ :=
    requireEngine_of_obtains noted.isOpen noted.obtains
  rw [run_bind, isReady]
  dsimp only
  rw [(trace_bind_of_silent ?_ ready).2, executed_runStatement reaches.connects, executed]
  intro fetched
  exact asks_after (sends_note _ _ _) fun _ _ => sends_pure trivial

/-- A statement is executed as it was written, up to the percent signs, just if no parameter is
marked in it and no escape stands in it. One with a parameter is not executed at all. -/
theorem query_verbatim_iff {source : DataSource} {session : Session}
    (reaches : Reaches source session) (sql : String) :
    ((query source sql session).2.trace.executed =
        session.trace.executed ++ [String.ofList (source.dialect.escapePercent sql.toList)] ↔
      ¬ MarksParameter none sql.toList ∧ ¬ HoldsEscape sql.toList) ∧
    (MarksParameter none sql.toList →
      (query source sql session).2.trace.executed = session.trace.executed) := by
  rw [executed_query reaches]
  cases marked : (prepare source.dialect sql).parameter with
  | none =>
      have unmarked := (parameter_prepare_eq_none_iff source.dialect sql).mp marked
      dsimp only
      rw [List.append_right_inj, List.cons.injEq, and_iff_left rfl, Dialect.sent,
        text_prepare_eq_iff source.dialect unmarked]
      exact ⟨⟨fun plain => ⟨unmarked, plain⟩, And.right⟩, fun marks => absurd marks unmarked⟩
  | some name =>
      have marks : MarksParameter none sql.toList := by
        have named : (prepare source.dialect sql).parameter ≠ none := by
          rw [marked]
          exact Option.some_ne_none name
        rwa [Ne, parameter_prepare_eq_none_iff, Classical.not_not] at named
      dsimp only
      rw [List.append_nil]
      refine ⟨?_, fun _ => rfl⟩
      constructor
      · intro same
        simp at same
      · exact fun plain => absurd marks plain.1

/-- A data source that gives one row for every statement. -/
private def oneRow (dialect : Dialect) : DataSource :=
  { dialect
    typeObjects := .none
    queries := [⟨none, .ok ⟨some [("a", .null)], [[.integer 1]], none⟩⟩]
    primaryKeys := []
    connectFault := none
    createFault := none }

private def borrower : Session :=
  ⟨ofConnection ⟨some "db", some "db://host/base", none, none⟩ true, .empty, []⟩

private theorem reaches_oneRow (dialect : Dialect) : Reaches (oneRow dialect) borrower :=
  ⟨rfl, Or.inl rfl, rfl⟩

/-- A cast with two colons and a percent sign is sent as it stands, but for the percent sign. -/
theorem query_verbatim_cast :
    Reaches (oneRow .postgresql) borrower ∧
      (query (oneRow .postgresql) "SELECT a::text LIKE 'b%'" borrower).2.trace.executed =
        ["SELECT a::text LIKE 'b%%'"] := by
  refine ⟨reaches_oneRow .postgresql, ?_⟩
  refine (query_verbatim_iff (reaches_oneRow .postgresql) _).1.mpr ⟨?_, ?_⟩
  · rw [← parameters_eq_nil_iff]
    decide +kernel
  · rw [← dropEscapes_eq_self_iff]
    decide +kernel

/-- A colon before a word keeps a statement from being run, though it stands in a literal; a
backslash before a colon does not reach the data source. -/
theorem colon_in_literal_not_verbatim :
    Reaches (oneRow .sqlite) borrower ∧
      (query (oneRow .sqlite) "SELECT ':a'" borrower).2.trace.executed = [] ∧
      (query (oneRow .sqlite) "SELECT ':a'" borrower).1.toOption.isNone = true ∧
      (query (oneRow .sqlite) "SELECT '\\:'" borrower).2.trace.executed = ["SELECT ':'"] :=
  ⟨reaches_oneRow .sqlite, by decide +kernel, by decide +kernel, by decide +kernel⟩

end Executor
end ImportPlanning
