/-
Marks in texts: where a mark stands, and what becomes of a text when another text is put in the
place of its marks. A character that a mark does not hold keeps the two sides of a text apart, so
that finding, counting and replacing marks can be done on each side alone.

Nothing here knows which mark is meant or what the text says.
-/
import ImportPlanning.Proofs.Text.Pieces
import ImportPlanning.Text.Blank

namespace ImportPlanning.Text

/-- The number of places at which a mark stands in a text. -/
def occurrences (mark : List Char) : List Char → Nat
  | [] => if mark.isEmpty then 1 else 0
  | character :: rest =>
    (if mark.isPrefixOf (character :: rest) then 1 else 0) + occurrences mark rest

/-- No mark reaches across the place where two texts meet: the first text ends, or the second one
begins, with a character that the mark does not hold. -/
def Apart (mark left right : List Char) : Prop :=
  (∃ character, left.getLast? = some character ∧ character ∉ mark) ∨
    ∃ character, right.head? = some character ∧ character ∉ mark

/-! ### Finding marks -/

theorem occursIn_iff_infix (mark text : List Char) : occursIn mark text = true ↔ mark <:+: text := by
  induction text with
  | nil =>
      simp [occursIn]
  | cons character rest ih =>
      rw [occursIn, Bool.or_eq_true, ih, List.isPrefixOf_iff_prefix, List.infix_cons_iff]

theorem occurrences_pos_iff_infix (mark text : List Char) :
    0 < occurrences mark text ↔ mark <:+: text := by
  induction text with
  | nil =>
      cases mark <;> simp [occurrences]
  | cons character rest ih =>
      rw [List.infix_cons_iff, ← ih, occurrences]
      by_cases here : mark <+: character :: rest
      · simp only [List.isPrefixOf_iff_prefix, here, if_true, true_or, iff_true]
        omega
      · simp [here]

theorem occurrences_eq_zero {mark text : List Char} (free : ¬ mark <:+: text) :
    occurrences mark text = 0 := by
  rw [← occurrences_pos_iff_infix] at free
  omega

theorem eq_nil_of_prefix_cons {start rest : List Char} {first : Char} (missing : first ∉ start)
    (found : start <+: first :: rest) : start = [] := by
  cases start with
  | nil =>
      rfl
  | cons head others =>
      have same : head = first := (List.cons_prefix_cons.mp found).1
      exact absurd (same ▸ List.mem_cons_self) missing

/-- A mark does not begin in a text that lacks its first character. -/
theorem infix_of_infix_append {first : Char} {others left right : List Char}
    (missing : first ∉ left) (found : first :: others <:+: left ++ right) :
    first :: others <:+: right := by
  induction left with
  | nil =>
      exact found
  | cons character rest ih =>
      rw [List.mem_cons, not_or] at missing
      rw [List.cons_append, List.infix_cons_iff] at found
      rcases found with starts | later
      · exact absurd (List.cons_prefix_cons.mp starts).1 missing.1
      · exact ih missing.2 later

/-- A mark at the start of two texts that are kept apart lies in the first one. -/
theorem prefix_append_of_apart {mark left right : List Char} (apart : Apart mark left right) :
    mark <+: left ++ right ↔ mark <+: left := by
  constructor
  · intro found
    rcases List.prefix_or_prefix_of_prefix found (List.prefix_append left right) with within | beyond
    · exact within
    · obtain ⟨rest, rfl⟩ := beyond
      have reached : rest <+: right := (List.prefix_append_right_inj left).mp found
      cases rest with
      | nil =>
          simp
      | cons first others =>
          -- a mark that goes on into the second text holds both characters at the border
          rcases apart with ⟨last, isLast, missing⟩ | ⟨head, isHead, missing⟩
          · have member : last ∈ left := List.mem_of_getLast? isLast
            exact absurd (List.mem_append_left _ member) missing
          · obtain ⟨tail, rfl⟩ := reached
            have same : first = head := by
              simpa using isHead
            subst same
            simp at missing
  · intro found
    exact List.prefix_append_of_prefix found

private theorem apart_of_suffix {mark left right rest : List Char} (apart : Apart mark left right)
    (ending : rest <:+ left) (nonempty : rest ≠ []) : Apart mark rest right := by
  rcases apart with ⟨last, isLast, missing⟩ | byHead
  · obtain ⟨front, rfl⟩ := ending
    refine Or.inl ⟨last, ?_, missing⟩
    rwa [List.getLast?_append, List.getLast?_eq_some_getLast nonempty, Option.some_or,
      ← List.getLast?_eq_some_getLast nonempty] at isLast
  · exact Or.inr byHead

/-- A mark stands in two texts that are kept apart only if it stands in one of them. -/
theorem infix_append_of_apart {mark left right : List Char} (apart : Apart mark left right) :
    mark <:+: left ++ right ↔ mark <:+: left ∨ mark <:+: right := by
  constructor
  · intro found
    induction left with
    | nil =>
        exact Or.inr found
    | cons character rest ih =>
        rw [List.cons_append, List.infix_cons_iff] at found
        rcases found with here | later
        · have within : mark <+: character :: rest :=
            (prefix_append_of_apart apart).mp here
          exact Or.inl within.isInfix
        · by_cases ended : rest = []
          · subst ended
            exact Or.inr later
          · rcases ih (apart_of_suffix apart (List.suffix_cons _ _) ended) later with inLeft | inRight
            · exact Or.inl (List.infix_cons inLeft)
            · exact Or.inr inRight
  · rintro (inLeft | inRight)
    · exact List.infix_append_of_infix_left inLeft
    · exact List.infix_append_of_infix_right inRight

/-- The marks of two texts that are kept apart are those of the one and those of the other. -/
theorem occurrences_append_of_apart {mark left right : List Char} (apart : Apart mark left right)
    (marked : mark ≠ []) :
    occurrences mark (left ++ right) = occurrences mark left + occurrences mark right := by
  induction left with
  | nil =>
      simp [occurrences, marked]
  | cons character rest ih =>
      have here : mark <+: character :: (rest ++ right) ↔ mark <+: character :: rest :=
        prefix_append_of_apart apart
      have later : occurrences mark (rest ++ right) =
          occurrences mark rest + occurrences mark right := by
        by_cases ended : rest = []
        · subst ended
          simp [occurrences, marked]
        · exact ih (apart_of_suffix apart (List.suffix_cons _ _) ended)
      simp only [List.cons_append, occurrences, List.isPrefixOf_iff_prefix, here, later]
      omega

/-! ### Replacing marks -/

@[simp] theorem replaceMarks_nil (mark replacement : List Char) :
    replaceMarks mark replacement [] = [] := by
  rw [replaceMarks, pieces_nil, List.intercalate_singleton]

theorem replaceMarks_mark_append {mark : List Char} (marked : mark ≠ [])
    (replacement rest : List Char) :
    replaceMarks mark replacement (mark ++ rest) =
      replacement ++ replaceMarks mark replacement rest := by
  rw [replaceMarks, pieces_mark_append marked,
    List.intercalate_cons_of_ne_nil (pieces_ne_nil mark rest)]
  rfl

theorem replaceMarks_cons {mark : List Char} {character : Char} {rest : List Char}
    (other : ¬ mark <+: character :: rest) (replacement : List Char) :
    replaceMarks mark replacement (character :: rest) =
      character :: replaceMarks mark replacement rest := by
  rw [replaceMarks, pieces_cons other, intercalate_modifyHead (pieces_ne_nil mark rest),
    replaceMarks]

theorem replaceMarks_of_free {mark text : List Char} (free : ¬ mark <:+: text)
    (replacement : List Char) : replaceMarks mark replacement text = text := by
  rw [replaceMarks, pieces_of_free free, List.intercalate_singleton]

/-- An ending of the first text is kept apart from the second one as long as something of it is
left. -/
private theorem replaced_of_suffix {mark left right rest replacement : List Char}
    (apart : Apart mark left right) (ending : rest <:+ left)
    (replaced : Apart mark rest right → replaceMarks mark replacement (rest ++ right) =
      replaceMarks mark replacement rest ++ replaceMarks mark replacement right) :
    replaceMarks mark replacement (rest ++ right) =
      replaceMarks mark replacement rest ++ replaceMarks mark replacement right := by
  by_cases ended : rest = []
  · subst ended
    simp
  · exact replaced (apart_of_suffix apart ending ended)

/-- Marks are replaced on either side of a border that keeps two texts apart. -/
theorem replaceMarks_append_of_apart {mark left right : List Char} (apart : Apart mark left right)
    (marked : mark ≠ []) (replacement : List Char) :
    replaceMarks mark replacement (left ++ right) =
      replaceMarks mark replacement left ++ replaceMarks mark replacement right := by
  induction left using induction_marks marked with
  | nil =>
      simp
  | marking rest ih =>
      have later := replaced_of_suffix apart (List.suffix_append mark rest) ih
      rw [List.append_assoc, replaceMarks_mark_append marked, replaceMarks_mark_append marked,
        List.append_assoc, later]
  | cons character rest other ih =>
      have later := replaced_of_suffix apart (List.suffix_cons character rest) ih
      have nowhere : ¬ mark <+: character :: (rest ++ right) := fun found =>
        other ((prefix_append_of_apart apart).mp found)
      rw [List.cons_append, replaceMarks_cons nowhere, replaceMarks_cons other, later,
        List.cons_append]

/-- A beginning that shares no character with the replacement stood there before marks were
replaced. -/
private theorem prefix_of_prefix_replaceMarks {mark replacement start text : List Char}
    (marked : mark ≠ []) (nonempty : replacement ≠ [])
    (foreign : ∀ character ∈ replacement, character ∉ start)
    (found : start <+: replaceMarks mark replacement text) : start <+: text := by
  induction text generalizing start with
  | nil =>
      rwa [replaceMarks_nil] at found
  | cons character rest ih =>
      cases start with
      | nil =>
          exact List.nil_prefix
      | cons head others =>
          by_cases here : mark <+: character :: rest
          · obtain ⟨ending, whole⟩ := here
            rw [← whole, replaceMarks_mark_append marked] at found
            obtain ⟨first, more, isReplacement⟩ := List.exists_cons_of_ne_nil nonempty
            rw [isReplacement, List.cons_append] at found
            have missing : first ∉ head :: others :=
              foreign first (isReplacement ▸ List.mem_cons_self)
            exact absurd (eq_nil_of_prefix_cons missing found) (List.cons_ne_nil head others)
          · rw [replaceMarks_cons here] at found
            obtain ⟨same, later⟩ := List.cons_prefix_cons.mp found
            have within : others <+: rest :=
              ih (fun other member inOthers =>
                foreign other member (List.mem_cons_of_mem head inOthers)) later
            rw [same]
            exact (List.prefix_cons_inj character).mpr within

/-- No mark is left once marks are replaced by a text that shares no character with them, and none
arises around it. -/
theorem replaceMarks_free {mark replacement : List Char} (marked : mark ≠ [])
    (nonempty : replacement ≠ []) (foreign : ∀ character ∈ replacement, character ∉ mark)
    (text : List Char) : ¬ mark <:+: replaceMarks mark replacement text := by
  induction text using induction_marks marked with
  | nil =>
      rwa [replaceMarks_nil, List.infix_nil]
  | marking rest ih =>
      have border : Apart mark replacement (replaceMarks mark replacement rest) :=
        Or.inl ⟨replacement.getLast nonempty, List.getLast?_eq_some_getLast nonempty,
          foreign _ (List.getLast_mem nonempty)⟩
      rw [replaceMarks_mark_append marked, infix_append_of_apart border]
      rintro (inReplacement | later)
      · obtain ⟨only, member⟩ := List.exists_mem_of_ne_nil mark marked
        exact foreign only (inReplacement.subset member) member
      · exact ih later
  | cons character rest other ih =>
      have unchanged := replaceMarks_cons other replacement
      rw [unchanged, List.infix_cons_iff, ← unchanged]
      rintro (starts | later)
      · exact other (prefix_of_prefix_replaceMarks marked nonempty foreign starts)
      · exact ih later

/-! ### Marks in parts of a text -/

theorem trimWhere_within (drop : Char → Bool) (text : List Char) : trimWhere drop text <:+: text := by
  have front : (text.dropWhile drop).reverse.dropWhile drop <:+ (text.dropWhile drop).reverse :=
    List.dropWhile_suffix drop
  have inner : trimWhere drop text <+: text.dropWhile drop := by
    rw [← List.reverse_suffix, trimWhere, List.reverse_reverse]
    exact front
  exact inner.isInfix.trans (List.dropWhile_suffix drop).isInfix

theorem double_cons_self (character : Char) (rest : List Char) :
    double character (character :: rest) = character :: character :: double character rest := by
  simp [double]

theorem double_cons_other {first character : Char} (other : first ≠ character)
    (rest : List Char) : double character (first :: rest) = first :: double character rest := by
  simp [double, other]

theorem double_of_not_mem {character : Char} {text : List Char} (missing : character ∉ text) :
    double character text = text := by
  induction text with
  | nil =>
      rfl
  | cons first rest ih =>
      rw [List.mem_cons, not_or] at missing
      rw [double_cons_other (Ne.symm missing.1), ih missing.2]

/-- The first occurrence of a character is written twice, and those behind it are. -/
theorem double_append {character : Char} {left : List Char} (missing : character ∉ left)
    (right : List Char) :
    double character (left ++ character :: right) =
      left ++ character :: character :: double character right := by
  rw [double, List.flatMap_append, ← double, ← double, double_of_not_mem missing, double_cons_self]

/-- Every text comes from texts without a character when such are put before it again and again. -/
theorem induction_at (character : Char) {motive : List Char → Prop}
    (free : ∀ text, character ∉ text → motive text)
    (joined : ∀ left right, character ∉ left → motive right → motive (left ++ character :: right))
    (text : List Char) : motive text := by
  induction sized : text.length using Nat.strongRecOn generalizing text with
  | ind size ih =>
      by_cases held : character ∈ text
      · obtain ⟨left, right, isText, missing⟩ := List.eq_append_cons_of_mem held
        have shorter : right.length < size := by
          rw [← sized, isText, List.length_append, List.length_cons]
          omega
        rw [isText]
        exact joined left right missing (ih _ shorter right rfl)
      · exact free text held

private theorem prefix_of_prefix_double {mark text : List Char} {character : Char}
    (missing : character ∉ mark) (found : mark <+: double character text) : mark <+: text := by
  induction text generalizing mark with
  | nil =>
      exact found
  | cons first rest ih =>
      cases mark with
      | nil =>
          exact List.nil_prefix
      | cons head others =>
          rw [List.mem_cons, not_or] at missing
          by_cases doubled : first = character
          · subst doubled
            rw [double_cons_self] at found
            exact absurd (List.cons_prefix_cons.mp found).1.symm missing.1
          · rw [double_cons_other doubled] at found
            obtain ⟨same, later⟩ := List.cons_prefix_cons.mp found
            subst same
            exact (List.prefix_cons_inj head).mpr (ih missing.2 later)

/-- Writing a character twice makes no mark that does not hold it. -/
theorem infix_of_infix_double {mark text : List Char} {character : Char}
    (missing : character ∉ mark) (found : mark <:+: double character text) : mark <:+: text := by
  induction text with
  | nil =>
      exact found
  | cons first rest ih =>
      by_cases doubled : first = character
      · subst doubled
        rw [double_cons_self, List.infix_cons_iff, List.infix_cons_iff] at found
        rcases found with starts | starts | later
        · rw [eq_nil_of_prefix_cons missing starts]
          exact List.nil_infix
        · rw [eq_nil_of_prefix_cons missing starts]
          exact List.nil_infix
        · exact List.infix_cons (ih later)
      · have written := double_cons_other doubled rest
        rw [written, List.infix_cons_iff, ← written] at found
        rcases found with starts | later
        · exact (prefix_of_prefix_double missing starts).isInfix
        · exact List.infix_cons (ih later)

/-- A mark that stands in none of several texts does not stand in them when they are joined by a
character that it does not hold. -/
theorem free_intercalate {mark : List Char} (marked : mark ≠ []) {separator : Char}
    (missing : separator ∉ mark) {texts : List (List Char)}
    (free : ∀ text ∈ texts, ¬ mark <:+: text) : ¬ mark <:+: [separator].intercalate texts := by
  induction texts with
  | nil =>
      simpa using marked
  | cons text others ih =>
      have here : ¬ mark <:+: text := free text List.mem_cons_self
      have later : ¬ mark <:+: [separator].intercalate others :=
        ih fun other member => free other (List.mem_cons_of_mem text member)
      cases others with
      | nil =>
          simpa using here
      | cons next rest =>
          rw [List.intercalate_cons_cons, List.append_assoc,
            infix_append_of_apart (Or.inr ⟨separator, by simp, missing⟩),
            infix_append_of_apart (Or.inl ⟨separator, by simp, missing⟩)]
          rintro (inText | alone | inRest)
          · exact here inText
          · obtain ⟨only, member⟩ := List.exists_mem_of_ne_nil mark marked
            have same := List.mem_singleton.mp (alone.subset member)
            exact missing (same ▸ member)
          · exact later inRest

end ImportPlanning.Text
