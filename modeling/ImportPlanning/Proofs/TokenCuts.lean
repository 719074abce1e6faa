/-
Statements taken apart at their tokens. No token begins inside another one, so that a statement can
be taken apart in one way only. Replacing the tokens fills the places between the parts and changes
nothing else.
-/
import ImportPlanning.Proofs.Conditions
import Mathlib.Logic.ExistsUnique

namespace ImportPlanning.Conditions

open ImportPlanning.Text

/-- A statement taken apart: what stands before its first token, and what stands behind each token.
No part holds a token. -/
@[ext]
structure Cut where
  first : String
  later : List String
  firstFree : ¬ token.toList <:+: first.toList
  laterFree : ∀ part ∈ later, ¬ token.toList <:+: part.toList

namespace Cut

def parts (cut : Cut) : List String :=
  cut.first :: cut.later

/-- The number of places between the parts. -/
def places (cut : Cut) : Nat :=
  cut.later.length

/-- The parts with the same text in each place between them. -/
def filled (filling : String) (cut : Cut) : String :=
  filling.intercalate cut.parts

theorem toList_filled (cut : Cut) (filling : String) :
    (cut.filled filling).toList = filling.toList.intercalate (cut.parts.map String.toList) :=
  String.toList_intercalate

theorem parts_free (cut : Cut) :
    ∀ part ∈ cut.parts.map String.toList, ¬ token.toList <:+: part := by
  intro part member
  obtain ⟨text, isPart, rfl⟩ := List.mem_map.mp member
  rcases List.mem_cons.mp isPart with rfl | later
  · exact cut.firstFree
  · exact cut.laterFree text later

end Cut

/-! ### Taking apart -/

theorem unbordered_token : Unbordered token.toList :=
  unbordered_of_not_mem (by decide)

/-- The parts of a cut are what its statement is cut into. -/
theorem pieces_filled (cut : Cut) :
    pieces token.toList (cut.filled token).toList = cut.parts.map String.toList := by
  rw [cut.toList_filled]
  exact pieces_intercalate unbordered_token token_ne_nil (List.cons_ne_nil _ _) cut.parts_free

theorem exists_cut (sql : String) : ∃ cut : Cut, cut.filled token = sql := by
  have free : ∀ piece ∈ pieces token.toList sql.toList,
      ¬ token.toList <:+: (String.ofList piece).toList := by
    intro piece member
    rw [String.toList_ofList]
    exact not_infix_of_mem_pieces token_ne_nil member
  have whole := intercalate_pieces token_ne_nil sql.toList
  obtain ⟨first, others, cut⟩ := List.exists_cons_of_ne_nil (pieces_ne_nil token.toList sql.toList)
  rw [cut] at free whole
  refine ⟨⟨String.ofList first, others.map String.ofList, free first List.mem_cons_self, ?_⟩, ?_⟩
  · intro part member
    obtain ⟨piece, isPiece, rfl⟩ := List.mem_map.mp member
    exact free piece (List.mem_cons_of_mem first isPiece)
  · apply String.toList_injective
    rw [Cut.toList_filled, ← whole]
    simp [Cut.parts]

theorem filled_token_injective {left right : Cut} (same : left.filled token = right.filled token) :
    left = right := by
  have pieceByPiece : left.parts.map String.toList = right.parts.map String.toList := by
    rw [← pieces_filled, ← pieces_filled, same]
  have parts : left.parts = right.parts :=
    (List.map_inj_right fun _ _ => String.toList_inj.mp).mp pieceByPiece
  obtain ⟨first, later⟩ := List.cons.inj parts
  exact Cut.ext first later

/-! ### Finding and filling the places -/

theorem occurs_filled (cut : Cut) : occurs (cut.filled token) = true ↔ 0 < cut.places := by
  rw [occurs, occursIn_iff_infix, cut.toList_filled, Cut.places, Cut.parts]
  cases behind : cut.later with
  | nil =>
      simpa using cut.firstFree
  | cons next rest =>
      rw [List.map_cons, List.map_cons, List.intercalate_cons_cons]
      constructor
      · intro _
        exact Nat.succ_pos rest.length
      · intro _
        exact List.infix_append _ _ _

theorem apply_filled (cut : Cut) (predicate : String) :
    apply predicate (cut.filled token) = cut.filled predicate := by
  apply String.toList_injective
  rw [toList_apply, replaceMarks, pieces_filled, cut.toList_filled]

/-- A statement is one cut with the token in each place, and of one cut only. It holds a token, and
passes the check for one, just if there are places, and a predicate fills these. A predicate that
says something, without any character of the token, leaves no token to be replaced; both predicates
that planning uses are of this kind. -/
theorem substitution_unique (sql : String) :
    (∃! cut : Cut, cut.filled token = sql) ∧
    (∀ cut : Cut, cut.filled token = sql →
      (occurs sql = true ↔ 0 < cut.places) ∧
      (ensureToken sql = .ok () ↔ 0 < cut.places) ∧
      ∀ predicate, apply predicate sql = cut.filled predicate) ∧
    (isForeign alwaysTrue = true ∧ isForeign alwaysFalse = true) ∧
    ∀ predicate, isForeign predicate = true →
      ¬ token.toList <:+: (apply predicate sql).toList ∧
      ∀ other, apply other (apply predicate sql) = apply predicate sql := by
  refine ⟨?_, ?_, by decide, ?_⟩
  · obtain ⟨cut, whole⟩ := exists_cut sql
    refine ⟨cut, whole, fun other same => filled_token_injective ?_⟩
    exact same.trans whole.symm
  · rintro cut rfl
    exact ⟨occurs_filled cut, (ensureToken_eq_ok_iff _).trans (occurs_filled cut), apply_filled cut⟩
  · intro predicate foreign
    have free := free_apply foreign sql
    exact ⟨(free_iff _).mp free, apply_of_free free⟩

/-- A token among the pieces of another, and one more behind it. -/
private def nested : Cut where
  first := "$\x7bCOND"
  later := ["ITIONS\x7d", ""]
  firstFree := (free_iff _).mp (by decide)
  laterFree := by
    have free : ∀ part ∈ ["ITIONS\x7d", ""], Free part := by decide
    exact fun part member => (free_iff part).mp (free part member)

/-- An empty predicate would bring the pieces around the first token together to a new one. -/
theorem substitution_unique_nested :
    let sql := "$\x7bCOND$\x7bCONDITIONS\x7dITIONS\x7d$\x7bCONDITIONS\x7d"
    nested.filled token = sql ∧
      (∀ other : Cut, other.filled token = sql → other = nested) ∧
      ensureToken sql = .ok () ∧
      apply "" sql = token ∧
      isForeign alwaysFalse = true ∧
      apply token (apply alwaysFalse sql) = "$\x7bCOND1 = 0ITIONS\x7d1 = 0" := by
  intro sql
  have whole : nested.filled token = sql := by decide
  obtain ⟨unique, decided, ⟨_, foreign⟩, left⟩ := substitution_unique sql
  obtain ⟨_, checked, fills⟩ := decided nested whole
  have emptied : apply "" sql = token := (fills "").trans (by decide)
  have restricted : apply alwaysFalse sql = "$\x7bCOND1 = 0ITIONS\x7d1 = 0" :=
    (fills alwaysFalse).trans (by decide)
  refine ⟨whole, fun other same => unique.unique same whole, checked.mpr (by decide), emptied,
    foreign, ?_⟩
  rw [(left alwaysFalse foreign).2 token, restricted]

end ImportPlanning.Conditions
