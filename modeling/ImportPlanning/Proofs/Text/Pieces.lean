/-
The pieces of a text between its marks. Put together with marks between them they are the text
again, and none of them holds a mark. Where no end of a mark begins another one, this describes the
pieces: a list of texts without marks is the list of pieces of the text that it gives.

For a mark that overlaps itself it does not: `aaa` is the mark `aa` behind `a` and before it.
-/
import ImportPlanning.Text.Pieces

namespace ImportPlanning.Text

/-! ### Cutting step by step -/

private theorem piecesFrom_skip (mark text : List Char) (skip : Nat) :
    piecesFrom mark skip text = piecesFrom mark 0 (text.drop skip) := by
  induction text generalizing skip with
  | nil =>
      simp [piecesFrom]
  | cons character rest ih =>
      cases skip with
      | zero =>
          rfl
      | succ skip =>
          rw [piecesFrom, ih, List.drop_succ_cons]

private theorem piecesFrom_ne_nil (mark text : List Char) (skip : Nat) :
    piecesFrom mark skip text ≠ [] := by
  induction text generalizing skip with
  | nil =>
      simp [piecesFrom]
  | cons character rest ih =>
      cases skip with
      | zero =>
          rw [piecesFrom]
          split
          · simp
          · intro empty
            have shorter : (piecesFrom mark 0 rest).length = 0 := by
              rw [← List.length_modifyHead, empty, List.length_nil]
            exact ih 0 (List.eq_nil_of_length_eq_zero shorter)
      | succ skip =>
          exact ih skip

theorem pieces_ne_nil (mark text : List Char) : pieces mark text ≠ [] :=
  piecesFrom_ne_nil mark text 0

@[simp] theorem pieces_nil (mark : List Char) : pieces mark [] = [[]] := by
  simp [pieces, piecesFrom]

theorem pieces_mark_append {mark : List Char} (marked : mark ≠ []) (rest : List Char) :
    pieces mark (mark ++ rest) = [] :: pieces mark rest := by
  cases mark with
  | nil =>
      exact absurd rfl marked
  | cons first others =>
      have starts : (first :: others).isPrefixOf (first :: (others ++ rest)) = true := by
        simp
      rw [pieces, List.cons_append, piecesFrom, if_pos starts, List.length_cons,
        Nat.add_sub_cancel, piecesFrom_skip, List.drop_left, pieces]

theorem pieces_cons {mark : List Char} {character : Char} {rest : List Char}
    (other : ¬ mark <+: character :: rest) :
    pieces mark (character :: rest) = (pieces mark rest).modifyHead (character :: ·) := by
  have starts : mark.isPrefixOf (character :: rest) = false := by
    rwa [Bool.eq_false_iff, Ne, List.isPrefixOf_iff_prefix]
  rw [pieces, piecesFrom, starts, if_neg Bool.false_ne_true, pieces]

/-- Every text comes from nothing by putting a mark before it, or a character with which no mark
begins there. -/
theorem induction_marks {mark : List Char} (marked : mark ≠ []) {motive : List Char → Prop}
    (nil : motive []) (marking : ∀ rest, motive rest → motive (mark ++ rest))
    (cons : ∀ character rest, ¬ mark <+: character :: rest → motive rest →
      motive (character :: rest))
    (text : List Char) : motive text := by
  induction sized : text.length using Nat.strongRecOn generalizing text with
  | ind size ih =>
      by_cases here : mark <+: text
      · obtain ⟨rest, rfl⟩ := here
        have shorter : rest.length < size := by
          have positive := List.length_pos_iff.mpr marked
          rw [← sized, List.length_append]
          omega
        exact marking rest (ih _ shorter rest rfl)
      · cases text with
        | nil =>
            exact nil
        | cons character rest =>
            have shorter : rest.length < size := by
              rw [← sized, List.length_cons]
              omega
            exact cons character rest here (ih _ shorter rest rfl)

/-! ### Putting pieces together -/

theorem intercalate_modifyHead {texts : List (List Char)} (nonempty : texts ≠ [])
    (between : List Char) (character : Char) :
    between.intercalate (texts.modifyHead (character :: ·)) =
      character :: between.intercalate texts := by
  cases texts with
  | nil =>
      exact absurd rfl nonempty
  | cons first others =>
      exact List.intercalate_cons_cons_left

theorem prefix_intercalate (between first : List Char) (others : List (List Char)) :
    first <+: between.intercalate (first :: others) := by
  cases others with
  | nil =>
      simp
  | cons second rest =>
      rw [List.intercalate_cons_cons, List.append_assoc]
      exact List.prefix_append first _

theorem infix_intercalate_of_mem {between part : List Char} {parts : List (List Char)}
    (member : part ∈ parts) : part <:+: between.intercalate parts := by
  induction parts with
  | nil =>
      cases member
  | cons first others ih =>
      rcases List.mem_cons.mp member with rfl | later
      · exact (prefix_intercalate between part others).isInfix
      · rw [List.intercalate_cons_of_ne_nil (List.ne_nil_of_mem later)]
        exact (ih later).trans (List.suffix_append _ _).isInfix

section

variable {mark : List Char} (marked : mark ≠ [])

include marked

theorem intercalate_pieces (text : List Char) : mark.intercalate (pieces mark text) = text := by
  induction text using induction_marks marked with
  | nil =>
      rw [pieces_nil, List.intercalate_singleton]
  | marking rest ih =>
      rw [pieces_mark_append marked, List.intercalate_cons_of_ne_nil (pieces_ne_nil mark rest), ih,
        List.nil_append]
  | cons character rest other ih =>
      rw [pieces_cons other, intercalate_modifyHead (pieces_ne_nil mark rest), ih]

theorem not_infix_of_mem_pieces {text piece : List Char} (member : piece ∈ pieces mark text) :
    ¬ mark <:+: piece := by
  induction text using induction_marks marked generalizing piece with
  | nil =>
      rw [pieces_nil, List.mem_singleton] at member
      rwa [member, List.infix_nil]
  | marking rest ih =>
      rw [pieces_mark_append marked, List.mem_cons] at member
      rcases member with rfl | later
      · rwa [List.infix_nil]
      · exact ih later
  | cons character rest other ih =>
      obtain ⟨first, others, cut⟩ := List.exists_cons_of_ne_nil (pieces_ne_nil mark rest)
      rw [pieces_cons other, cut, List.modifyHead_cons, List.mem_cons] at member
      rcases member with rfl | later
      · rw [List.infix_cons_iff, not_or]
        have starts : first <+: rest := by
          have whole := intercalate_pieces marked rest
          rw [cut] at whole
          exact whole ▸ prefix_intercalate mark first others
        refine ⟨fun found => ?_, ih (cut ▸ List.mem_cons_self)⟩
        exact other (found.trans ((List.prefix_cons_inj character).mpr starts))
      · exact ih (cut ▸ List.mem_cons_of_mem first later)

end

/-! ### Marks that do not overlap -/

/-- What a mark both begins and ends with is nothing or the whole mark, so that no mark begins
inside another one. -/
def Unbordered (mark : List Char) : Prop :=
  ∀ border, border <+: mark → border <:+ mark → border = [] ∨ border = mark

theorem unbordered_of_not_mem {first : Char} {others : List Char} (missing : first ∉ others) :
    Unbordered (first :: others) := by
  intro border begins ends
  cases border with
  | nil =>
      exact Or.inl rfl
  | cons head tail =>
      have same : head = first := (List.cons_prefix_cons.mp begins).1
      rcases List.suffix_cons_iff.mp ends with whole | inside
      · exact Or.inr whole
      · have member : head ∈ others := inside.subset List.mem_cons_self
        exact absurd (same ▸ member) missing

theorem pieces_of_free {mark text : List Char} (free : ¬ mark <:+: text) :
    pieces mark text = [text] := by
  induction text with
  | nil =>
      exact pieces_nil mark
  | cons character rest ih =>
      rw [List.infix_cons_iff, not_or] at free
      rw [pieces_cons free.1, ih free.2, List.modifyHead_cons]

section

variable {mark : List Char} (unbordered : Unbordered mark) (marked : mark ≠ [])

include unbordered

/-- No mark begins in a text without marks that stands before a mark. It would end inside that
mark and so begin it. -/
theorem not_prefix_append_mark {left : List Char} (nonempty : left ≠ []) (free : ¬ mark <:+: left)
    (right : List Char) : ¬ mark <+: left ++ (mark ++ right) := by
  intro found
  rcases List.prefix_or_prefix_of_prefix found (List.prefix_append left _) with within | beyond
  · exact free within.isInfix
  · obtain ⟨border, whole⟩ := beyond
    have ends : border <:+ mark := ⟨left, whole⟩
    have begins : border <+: mark := by
      have reached : left ++ border <+: left ++ (mark ++ right) := by
        rwa [whole]
      exact List.prefix_of_prefix_length_le ((List.prefix_append_right_inj left).mp reached)
        (List.prefix_append mark right) ends.length_le
    rcases unbordered border begins ends with rfl | rfl
    · rw [List.append_nil] at whole
      exact free (whole ▸ List.infix_refl left)
    · exact nonempty (List.append_left_eq_self.mp whole)

include marked

theorem pieces_append_mark {left : List Char} (free : ¬ mark <:+: left) (right : List Char) :
    pieces mark (left ++ (mark ++ right)) = left :: pieces mark right := by
  induction left with
  | nil =>
      exact pieces_mark_append marked right
  | cons character rest ih =>
      have other := not_prefix_append_mark unbordered (List.cons_ne_nil character rest) free right
      have later : ¬ mark <:+: rest := fun found => free (List.infix_cons found)
      rw [List.cons_append] at other ⊢
      rw [pieces_cons other, ih later, List.modifyHead_cons]

/-- Texts without marks are the pieces of what they give with marks between them. -/
theorem pieces_intercalate {texts : List (List Char)} (nonempty : texts ≠ [])
    (free : ∀ text ∈ texts, ¬ mark <:+: text) : pieces mark (mark.intercalate texts) = texts := by
  induction texts with
  | nil =>
      exact absurd rfl nonempty
  | cons text others ih =>
      have here : ¬ mark <:+: text := free text List.mem_cons_self
      cases others with
      | nil =>
          rw [List.intercalate_singleton, pieces_of_free here]
      | cons next rest =>
          have later := ih (List.cons_ne_nil next rest) fun other member =>
            free other (List.mem_cons_of_mem text member)
          rw [List.intercalate_cons_cons, List.append_assoc,
            pieces_append_mark unbordered marked here, later]

end

end ImportPlanning.Text
