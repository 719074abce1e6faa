/-
Cutting a text into fields, and trimming it. The fields of a text are its pieces between separators:
they hold none, and with separators between them they make the text again. A text is cut once at the
first mark in it. Trimming keeps a text just if it neither begins nor ends with what is to be dropped.
-/
import ImportPlanning.Proofs.Text.Pieces
import ImportPlanning.Text.Blank

namespace ImportPlanning.Text

/-! ### Fields -/

theorem fields_eq_splitOn (separator : Char) (text : List Char) :
    fields separator text = text.splitOn separator := by
  induction text with
  | nil =>
      rw [fields, List.splitOn_nil]
  | cons character rest ih =>
      rw [fields, ih, List.splitOn_cons_eq_if_modifyHead]
      simp only [beq_iff_eq]

theorem intercalate_fields (separator : Char) (text : List Char) :
    [separator].intercalate (fields separator text) = text := by
  rw [fields_eq_splitOn]
  exact List.intercalate_splitOn separator

theorem fields_injective (separator : Char) : Function.Injective (fields separator) := by
  intro left right same
  rw [← intercalate_fields separator left, same, intercalate_fields]

theorem fields_ne_nil (separator : Char) (text : List Char) : fields separator text ≠ [] := by
  rw [fields_eq_splitOn]
  exact List.splitOn_ne_nil separator text

/-- A separator ends one field and begins the next. -/
theorem fields_append (separator : Char) (left right : List Char) :
    fields separator (left ++ separator :: right) =
      fields separator left ++ fields separator right := by
  rw [fields_eq_splitOn, fields_eq_splitOn, fields_eq_splitOn, List.splitOn_append_cons_self]

theorem fields_of_not_mem {separator : Char} {text : List Char} (missing : separator ∉ text) :
    fields separator text = [text] := by
  rw [fields_eq_splitOn, List.splitOn_eq_singleton missing]

/-- Parts without separators are the fields of the text that they make. -/
theorem fields_intercalate {separator : Char} {parts : List (List Char)} (some : parts ≠ [])
    (free : ∀ part ∈ parts, separator ∉ part) :
    fields separator ([separator].intercalate parts) = parts := by
  rw [fields_eq_splitOn]
  exact List.splitOn_intercalate separator free some

theorem mem_intercalate {separator : Char} {parts : List (List Char)} {character : Char}
    (member : character ∈ [separator].intercalate parts) :
    character = separator ∨ ∃ part ∈ parts, character ∈ part := by
  induction parts with
  | nil => cases member
  | cons first rest ih =>
      by_cases last : rest = []
      · rw [last, List.intercalate_singleton] at member
        exact .inr ⟨first, List.mem_cons_self, member⟩
      · rw [List.intercalate_cons_of_ne_nil last, List.append_assoc, List.mem_append,
          List.mem_append, List.mem_singleton] at member
        rcases member with inFirst | isSeparator | later
        · exact .inr ⟨first, List.mem_cons_self, inFirst⟩
        · exact .inl isSeparator
        · rcases ih later with isSeparator | ⟨part, isPart, inPart⟩
          · exact .inl isSeparator
          · exact .inr ⟨part, List.mem_cons_of_mem first isPart, inPart⟩

/-- Fields are the pieces between marks of one character. -/
theorem fields_eq_pieces (separator : Char) (text : List Char) :
    fields separator text = pieces [separator] text := by
  induction text with
  | nil =>
      rw [fields, pieces_nil]
  | cons character rest ih =>
      rw [fields, ih]
      split
      next same =>
        rw [same, ← pieces_mark_append (List.cons_ne_nil separator []), List.singleton_append]
      next other =>
        rw [pieces_cons fun found => other (List.cons_prefix_cons.mp found).1.symm]

theorem separator_not_mem_of_mem_fields {separator : Char} {text field : List Char}
    (member : field ∈ fields separator text) : separator ∉ field := by
  rw [fields_eq_pieces] at member
  intro held
  obtain ⟨front, back, rfl⟩ := List.append_of_mem held
  exact not_infix_of_mem_pieces (List.cons_ne_nil separator []) member ⟨front, back, by simp⟩

theorem infix_of_mem_fields {separator : Char} {text field : List Char}
    (member : field ∈ fields separator text) : field <:+: text := by
  rw [← intercalate_fields separator text]
  exact infix_intercalate_of_mem member

/-! ### Cutting once -/

theorem cutAt?_append {mark : Char} {front back : List Char} (free : mark ∉ front) :
    cutAt? mark (front ++ mark :: back) = some (front, back) := by
  induction front with
  | nil =>
      rw [List.nil_append, cutAt?, if_pos rfl]
  | cons character rest ih =>
      rw [List.mem_cons, not_or] at free
      rw [List.cons_append, cutAt?, if_neg fun same => free.1 same.symm, ih free.2]
      rfl

/-! ### Trimming -/

private theorem head?_dropWhile {drop : Char → Bool} {text : List Char} {first : Char}
    (isFirst : (text.dropWhile drop).head? = some first) : drop first = false := by
  have kept := List.head?_dropWhile_not drop text
  rw [isFirst] at kept
  exact kept

private theorem dropWhile_of_head? {drop : Char → Bool} {text : List Char}
    (kept : ∀ first, text.head? = some first → drop first = false) : text.dropWhile drop = text := by
  cases text with
  | nil => rfl
  | cons first rest => rw [List.dropWhile_cons_of_neg (by simp [kept first rfl])]

theorem ends_trimWhere (drop : Char → Bool) (text : List Char) :
    (∀ first, (trimWhere drop text).head? = some first → drop first = false) ∧
      ∀ last, (trimWhere drop text).getLast? = some last → drop last = false := by
  constructor
  · intro first isFirst
    -- trimming at the end leaves the beginning as it is
    have front : trimWhere drop text <+: text.dropWhile drop := by
      rw [← List.reverse_suffix, trimWhere, List.reverse_reverse]
      exact List.dropWhile_suffix drop
    obtain ⟨rest, whole⟩ := front
    have alsoFirst : (text.dropWhile drop).head? = some first := by
      rw [← whole, List.head?_append, isFirst, Option.some_or]
    exact head?_dropWhile alsoFirst
  · intro last isLast
    rw [trimWhere, List.getLast?_reverse] at isLast
    exact head?_dropWhile isLast

theorem trimWhere_eq_self_iff {drop : Char → Bool} {text : List Char} :
    trimWhere drop text = text ↔
      (∀ first, text.head? = some first → drop first = false) ∧
        ∀ last, text.getLast? = some last → drop last = false := by
  constructor
  · intro same
    rw [← same]
    exact ends_trimWhere drop text
  · rintro ⟨front, back⟩
    rw [trimWhere, dropWhile_of_head? front, dropWhile_of_head?, List.reverse_reverse]
    intro last isLast
    rw [List.head?_reverse] at isLast
    exact back last isLast

end ImportPlanning.Text
