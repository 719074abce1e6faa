/-
The conditions token in statements that are made ready for a driver. Doubling percent signs, marking
parameters and dropping backslashes make no token: what they write holds no `$`, with which every
token begins, and a token holds neither the characters that they write first nor those that they take
away.

Whether a statement can be run with the parameters that it marks is left open.
-/
import ImportPlanning.DataSource.Statement
import ImportPlanning.Proofs.Conditions

namespace ImportPlanning.Statement

open ImportPlanning.Text
open Conditions (Free token)

/-! ### Backslashes -/

private theorem prefix_of_prefix_dropEscapes {start text : List Char} (noBackslash : '\\' ∉ start)
    (noColon : ':' ∉ start) (found : start <+: dropEscapes text) : start <+: text := by
  induction text using dropEscapes.induct generalizing start with
  | case1 =>
      exact found
  | case2 rest kept ih =>
      rw [dropEscapes.eq_2, if_pos kept] at found
      rw [eq_nil_of_prefix_cons noBackslash found]
      exact List.nil_prefix
  | case3 rest dropped ih =>
      rw [dropEscapes.eq_2, if_neg dropped] at found
      rw [eq_nil_of_prefix_cons noColon found]
      exact List.nil_prefix
  | case4 character rest other ih =>
      rw [dropEscapes.eq_3 character rest other] at found
      cases start with
      | nil =>
          exact List.nil_prefix
      | cons head others =>
          rw [List.mem_cons, not_or] at noBackslash noColon
          obtain ⟨same, later⟩ := List.cons_prefix_cons.mp found
          rw [same]
          exact (List.prefix_cons_inj character).mpr (ih noBackslash.2 noColon.2 later)

/-- Dropping backslashes makes no mark that holds neither a backslash nor a colon. -/
theorem infix_of_infix_dropEscapes {mark text : List Char} (noBackslash : '\\' ∉ mark)
    (noColon : ':' ∉ mark) (found : mark <:+: dropEscapes text) : mark <:+: text := by
  induction text using dropEscapes.induct with
  | case1 =>
      exact found
  | case2 rest kept ih =>
      -- a mark cannot begin at the backslash nor at the colon behind it, both of which it lacks
      rw [dropEscapes.eq_2, if_pos kept, List.infix_cons_iff, List.infix_cons_iff] at found
      rcases found with starts | starts | later
      · rw [eq_nil_of_prefix_cons noBackslash starts]
        exact List.nil_infix
      · rw [eq_nil_of_prefix_cons noColon starts]
        exact List.nil_infix
      · exact List.infix_cons (List.infix_cons (ih later))
  | case3 rest dropped ih =>
      rw [dropEscapes.eq_2, if_neg dropped, List.infix_cons_iff] at found
      rcases found with starts | later
      · rw [eq_nil_of_prefix_cons noColon starts]
        exact List.nil_infix
      · exact List.infix_cons (List.infix_cons (ih later))
  | case4 character rest other ih =>
      have kept := dropEscapes.eq_3 character rest other
      rw [kept, List.infix_cons_iff, ← kept] at found
      rcases found with starts | later
      · exact (prefix_of_prefix_dropEscapes noBackslash noColon starts).isInfix
      · exact List.infix_cons (ih later)

/-! ### Parameters -/

private theorem parameterAt?_eq_some {before : Option Char} {rest name : List Char}
    (found : parameterAt? before rest = some name) : name = rest.takeWhile isWord := by
  rw [parameterAt?.eq_def] at found
  obtain ⟨_, isName⟩ := Option.ite_none_right_eq_some.mp found
  exact (Option.some.inj isName).symm

/-- The mark of a parameter begins with a character that no token holds. -/
private theorem parameterMark_begins (dialect : Dialect) (name : List Char) :
    ∃ first others, dialect.parameterMark name = first :: others ∧ first ∈ ['?', '%', ':'] := by
  cases dialect with
  | sqlite => exact ⟨_, _, rfl, by decide⟩
  | postgresql => exact ⟨'%', '(' :: (name ++ [')', 's']), rfl, by decide⟩
  | mysql => exact ⟨_, _, rfl, by decide⟩
  | mssql => exact ⟨_, _, rfl, by decide⟩
  | oracle => exact ⟨_, _, rfl, by decide⟩

private theorem marks_not_in_token : ∀ character ∈ ['?', '%', ':'], character ∉ token.toList := by
  simp only [List.mem_cons, List.not_mem_nil, or_false, forall_eq_or_imp, forall_eq]
  decide

private theorem dollar_not_in_parameterMark (dialect : Dialect) {name : List Char}
    (named : '$' ∉ name) : '$' ∉ dialect.parameterMark name := by
  cases dialect <;> simp [Dialect.parameterMark, named]

/-- What a statement says in a dialect, with the marks of its parameters. -/
def written (dialect : Dialect) (pieces : List Piece) : List Char :=
  pieces.flatMap (pieceText dialect)

private theorem written_character (dialect : Dialect) (value : Char) (pieces : List Piece) :
    written dialect (.character value :: pieces) = value :: written dialect pieces :=
  rfl

private theorem written_parameter (dialect : Dialect) (name : List Char) (pieces : List Piece) :
    written dialect (.parameter name :: pieces) =
      dialect.parameterMark name ++ written dialect pieces :=
  rfl

private theorem prefix_of_prefix_written {dialect : Dialect} {before : Option Char}
    {start text : List Char} (foreign : ∀ character ∈ ['?', '%', ':'], character ∉ start)
    (found : start <+: written dialect (piecesFrom before 0 text)) : start <+: text := by
  induction text generalizing before start with
  | nil =>
      rwa [piecesFrom] at found
  | cons character rest ih =>
      rw [piecesFrom] at found
      split at found
      · rename_i name _
        rw [written_parameter] at found
        obtain ⟨first, others, begins, member⟩ := parameterMark_begins dialect name
        rw [begins, List.cons_append] at found
        rw [eq_nil_of_prefix_cons (foreign first member) found]
        exact List.nil_prefix
      · rw [written_character] at found
        cases start with
        | nil =>
            exact List.nil_prefix
        | cons head others =>
            obtain ⟨same, later⟩ := List.cons_prefix_cons.mp found
            have within : others <+: rest :=
              ih (fun other member inOthers =>
                foreign other member (List.mem_cons_of_mem head inOthers)) later
            rw [same]
            exact (List.prefix_cons_inj character).mpr within

private theorem infix_of_infix_written {dialect : Dialect} {before : Option Char} {skip : Nat}
    {text : List Char}
    (found : token.toList <:+: written dialect (piecesFrom before skip text)) :
    token.toList <:+: text := by
  induction before, skip, text using piecesFrom.induct with
  | case1 before skip =>
      rwa [piecesFrom] at found
  | case2 before skip character rest ih =>
      rw [piecesFrom] at found
      exact List.infix_cons (ih found)
  | case3 before character rest name isParameter ih =>
      rw [piecesFrom, isParameter] at found
      -- a token begins with `$`, which is no word character and so not in the parameter's mark
      have named : '$' ∉ name := by
        split at isParameter
        · rw [parameterAt?_eq_some isParameter]
          intro member
          have word : isWord '$' = true := List.all_eq_true.mp List.all_takeWhile _ member
          exact absurd word (by decide)
        · cases isParameter
      exact List.infix_cons
        (ih (infix_of_infix_append (dollar_not_in_parameterMark dialect named) found))
  | case4 before character rest isCharacter ih =>
      have single : piecesFrom before 0 (character :: rest) =
          .character character :: piecesFrom (some character) 0 rest := by
        rw [piecesFrom, isCharacter]
      rw [single, written_character, List.infix_cons_iff, ← written_character, ← single] at found
      rcases found with starts | later
      · exact (prefix_of_prefix_written marks_not_in_token starts).isInfix
      · exact List.infix_cons (ih later)

/-- A statement without tokens has none when the driver gets it, in any dialect. -/
theorem free_prepare (dialect : Dialect) {sql : String} (free : Free sql) :
    Free (prepare dialect sql).text := by
  rw [Conditions.free_iff] at free
  rw [Conditions.free_iff, prepare, String.toList_ofList]
  intro found
  have undropped := infix_of_infix_dropEscapes (by decide) (by decide) found
  exact Conditions.escapePercent_free dialect free (infix_of_infix_written undropped)

end ImportPlanning.Statement
