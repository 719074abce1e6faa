/-
The conditions token in statements that are put together from pieces. A separator is a text without
the token that begins and ends with characters which the token does not hold; across it no token can
arise or be lost. An opening only ends so, and stands at the start of a statement. Quoting a name
makes no token either.

The statements themselves are not built here.
-/
import ImportPlanning.DataSource.Dialect
import ImportPlanning.Proofs.Text.Fields
import ImportPlanning.Proofs.Text.Marks
import ImportPlanning.Source

namespace ImportPlanning.Conditions

open ImportPlanning.Text

def count (sql : String) : Nat :=
  occurrences token.toList sql.toList

/-- The token does not stand in the text. -/
def Free (text : String) : Prop :=
  occurs text = false

instance (text : String) : Decidable (Free text) :=
  inferInstanceAs (Decidable (occurs text = false))

/-- May a text without the token stand before any other, so that no token arises between them? -/
def opens (text : String) : Bool :=
  !occurs text && text.toList.getLast?.any fun character => !token.toList.contains character

/-- Does a text without the token keep what stands before it apart from what stands after it? -/
def separates (text : String) : Bool :=
  opens text && text.toList.head?.any fun character => !token.toList.contains character

theorem token_ne_nil : token.toList ≠ [] := by
  decide

theorem free_iff (text : String) : Free text ↔ ¬ token.toList <:+: text.toList := by
  rw [Free, occurs, ← occursIn_iff_infix, Bool.not_eq_true]

theorem free_empty : Free "" := rfl

theorem Free.of_infix {part text : String} (free : Free text) (within : part.toList <:+: text.toList) :
    Free part := by
  rw [free_iff] at free ⊢
  exact fun found => free (found.trans within)

theorem count_eq_zero {text : String} (free : Free text) : count text = 0 :=
  occurrences_eq_zero ((free_iff text).mp free)

theorem occurs_iff_count_pos (sql : String) : occurs sql = true ↔ 0 < count sql := by
  rw [occurs, count, occursIn_iff_infix, occurrences_pos_iff_infix]

theorem ensureToken_eq_ok_iff (sql : String) : ensureToken sql = .ok () ↔ occurs sql = true := by
  rw [ensureToken]
  cases occurs sql with
  | true =>
      exact iff_of_true rfl rfl
  | false =>
      exact iff_of_false nofun nofun

theorem count_token : count token = 1 := by
  decide

theorem toList_apply (predicate sql : String) :
    (apply predicate sql).toList =
      replaceMarks token.toList predicate.toList sql.toList := by
  rw [apply, replace, String.toList_ofList]

theorem apply_of_free {text : String} (free : Free text) (predicate : String) :
    apply predicate text = text := by
  apply String.toList_injective
  rw [toList_apply, replaceMarks_of_free ((free_iff text).mp free)]

theorem apply_token (predicate : String) : apply predicate token = predicate := by
  apply String.toList_injective
  have whole := replaceMarks_mark_append token_ne_nil predicate.toList []
  rw [List.append_nil, replaceMarks_nil, List.append_nil] at whole
  rw [toList_apply, whole]

/-- Does a predicate say something, and without any character of the token? -/
def isForeign (predicate : String) : Bool :=
  !predicate.toList.isEmpty && predicate.toList.all fun character => !token.toList.contains character

/-- No token is left in a statement once a predicate that shares no character with it is put in the
place of each one. -/
theorem free_apply {predicate : String} (foreign : isForeign predicate = true) (sql : String) :
    Free (apply predicate sql) := by
  simp only [isForeign, Bool.and_eq_true, Bool.not_eq_true', List.all_eq_true,
    List.contains_eq_mem, decide_eq_false_iff_not, List.isEmpty_eq_false_iff] at foreign
  obtain ⟨nonempty, missing⟩ := foreign
  rw [free_iff, toList_apply]
  exact replaceMarks_free token_ne_nil nonempty missing sql.toList

/-! ### Texts that are kept apart -/

section

variable {left right : String}

private theorem apply_append (apart : Apart token.toList left.toList right.toList)
    (predicate : String) :
    apply predicate (left ++ right) = apply predicate left ++ apply predicate right := by
  apply String.toList_injective
  rw [String.toList_append, toList_apply, toList_apply, toList_apply, String.toList_append,
    replaceMarks_append_of_apart apart token_ne_nil]

private theorem count_append (apart : Apart token.toList left.toList right.toList) :
    count (left ++ right) = count left + count right := by
  rw [count, String.toList_append, occurrences_append_of_apart apart token_ne_nil]
  rfl

private theorem free_append (apart : Apart token.toList left.toList right.toList) :
    Free (left ++ right) ↔ Free left ∧ Free right := by
  rw [free_iff, free_iff, free_iff, String.toList_append, infix_append_of_apart apart, not_or]

end

/-! ### Openings -/

section

variable {text : String} (opening : opens text = true) (right : String)

include opening

theorem free_of_opens : Free text := by
  simp only [opens, Bool.and_eq_true, Bool.not_eq_true'] at opening
  exact opening.1

private theorem apart_after (left : String) :
    Apart token.toList (left ++ text).toList right.toList := by
  simp only [opens, Bool.and_eq_true, Option.any_eq_true] at opening
  obtain ⟨_, character, ends, missing⟩ := opening
  refine Or.inl ⟨character, ?_, ?_⟩
  · rw [String.toList_append, List.getLast?_append, ends, Option.some_or]
  · simpa using missing

private theorem apart_behind : Apart token.toList text.toList right.toList := by
  have whole := apart_after opening right ""
  rwa [String.empty_append] at whole

theorem apply_after (predicate : String) :
    apply predicate (text ++ right) = text ++ apply predicate right := by
  rw [apply_append (apart_behind opening right), apply_of_free (free_of_opens opening)]

theorem count_after : count (text ++ right) = count right := by
  rw [count_append (apart_behind opening right), count_eq_zero (free_of_opens opening),
    Nat.zero_add]

theorem free_after : Free (text ++ right) ↔ Free right := by
  rw [free_append (apart_behind opening right), and_iff_right (free_of_opens opening)]

end

/-! ### Separators -/

section

variable {text : String} (separating : separates text = true) (left right : String)

include separating

private theorem opens_of_separates : opens text = true := by
  rw [separates, Bool.and_eq_true] at separating
  exact separating.1

private theorem apart_before : Apart token.toList left.toList text.toList := by
  simp only [separates, Bool.and_eq_true, Option.any_eq_true] at separating
  obtain ⟨_, character, starts, missing⟩ := separating
  refine Or.inr ⟨character, starts, ?_⟩
  simpa using missing

theorem apply_separated (predicate : String) :
    apply predicate (left ++ text ++ right) =
      apply predicate left ++ text ++ apply predicate right := by
  have opening := opens_of_separates separating
  rw [apply_append (apart_after opening right left), apply_append (apart_before separating left),
    apply_of_free (free_of_opens opening)]

theorem count_separated : count (left ++ text ++ right) = count left + count right := by
  have opening := opens_of_separates separating
  rw [count_append (apart_after opening right left), count_append (apart_before separating left),
    count_eq_zero (free_of_opens opening), Nat.add_zero]

theorem free_separated : Free (left ++ text ++ right) ↔ Free left ∧ Free right := by
  have opening := opens_of_separates separating
  rw [free_append (apart_after opening right left), free_append (apart_before separating left),
    and_iff_left (free_of_opens opening)]

theorem free_intercalate {texts : List String} (free : ∀ part ∈ texts, Free part) :
    Free (text.intercalate texts) := by
  induction texts with
  | nil =>
      rw [String.intercalate_nil]
      exact free_empty
  | cons part others ih =>
      have here : Free part := free part List.mem_cons_self
      have later : Free (text.intercalate others) :=
        ih fun other member => free other (List.mem_cons_of_mem part member)
      cases others with
      | nil =>
          rwa [String.intercalate_singleton]
      | cons next rest =>
          rw [String.intercalate_cons_cons]
          exact (free_separated separating part _).mpr ⟨here, later⟩

end

/-! ### Quoted names -/

private theorem quotes_not_in_token (dialect : Dialect) :
    dialect.quotes.1 ∉ token.toList ∧ dialect.quotes.2 ∉ token.toList := by
  cases dialect <;> decide

theorem escapePercent_free (dialect : Dialect) {text : List Char}
    (free : ¬ token.toList <:+: text) : ¬ token.toList <:+: dialect.escapePercent text := by
  rw [Dialect.escapePercent]
  split
  · exact fun found => free (infix_of_infix_double (by decide) found)
  · exact free

private theorem quoteName_free (dialect : Dialect) {name : List Char}
    (free : ¬ token.toList <:+: name) : ¬ token.toList <:+: dialect.quoteName name := by
  obtain ⟨opening, closing⟩ := quotes_not_in_token dialect
  have body : ¬ token.toList <:+: dialect.escapePercent (double dialect.quotes.2 name) :=
    escapePercent_free dialect fun found => free (infix_of_infix_double closing found)
  have single : ∀ character, character ∉ token.toList → ¬ token.toList <:+: [character] := by
    intro character missing found
    obtain ⟨only, member⟩ := List.exists_mem_of_ne_nil _ token_ne_nil
    have same := List.mem_singleton.mp (found.subset member)
    exact missing (same ▸ member)
  rw [Dialect.quoteName, ← List.singleton_append,
    infix_append_of_apart (Or.inl ⟨dialect.quotes.1, rfl, opening⟩),
    infix_append_of_apart (Or.inr ⟨dialect.quotes.2, rfl, closing⟩)]
  rintro (atStart | inside | atEnd)
  · exact single _ opening atStart
  · exact body inside
  · exact single _ closing atEnd

/-- A name without tokens has none when it is quoted, in any dialect. -/
theorem free_delimit (dialect : Dialect) {name : String} (free : Free name) :
    Free (dialect.delimit name) := by
  rw [free_iff] at free
  rw [free_iff, Dialect.delimit, String.toList_ofList]
  apply Text.free_intercalate token_ne_nil (by decide)
  intro quoted member
  obtain ⟨field, isField, rfl⟩ := List.mem_map.mp member
  exact quoteName_free dialect fun found => free (found.trans (infix_of_mem_fields isField))

end ImportPlanning.Conditions
