/-
What a validated table keeps of a list of columns. A list is kept as it was supplied if it names a
column, and is dropped otherwise; so the statement that selects the columns of a query always has
something to select.
-/
import ImportPlanning.Proofs.BlankSettings

namespace ImportPlanning

open SessionM
open ImportPlanning.Text

/-! ### Supplied lists -/

/-- The text that a value supplies for a field: none, the text itself, or that of its bytes. -/
inductive Supplies : Value → Option String → Prop
  | nothing : Supplies .null none
  | text (text : String) : Supplies (.text text) (some text)
  | bytes (value : Value) (text : String) (decodes : value.bytesText? = some text) :
      Supplies value (some text)

/-- Cutting a list at its commas undoes joining what was cut. -/
theorem splitColumns_joinColumns_splitColumns (list : String) :
    splitColumns (joinColumns (splitColumns list)) = splitColumns list :=
  (splitColumns_joinColumns_iff (splitColumns list)).mpr fun _ => isListable_of_mem_splitColumns

theorem splitColumns_eq_nil_iff (list : String) :
    splitColumns list = [] ↔ namesNoColumn list = true := by
  rw [← not_iff_not, Bool.not_eq_true]
  exact splitColumns_ne_nil_iff list

theorem columnList_eq_some_iff {supplied : Option String} {list : String} :
    columnList supplied = some list ↔ supplied = some list ∧ splitColumns list ≠ [] := by
  rw [columnList, Option.filter_eq_some_iff, splitColumns_ne_nil_iff, Bool.not_eq_true']

/-- The columns of a table beside the text that was supplied for them. -/
structure KeepsColumns (supplied columns : Option String) : Prop where
  unset : columns = none ↔ ∀ text, supplied = some text → splitColumns text = []
  verbatim : ∀ list, columns = some list ↔ supplied = some list ∧ splitColumns list ≠ []
  names : ∀ list, columns = some list → ∀ name ∈ splitColumns list,
    name ≠ "" ∧ trim name = name ∧ ',' ∉ name.toList

theorem keepsColumns_columnList (supplied : Option String) :
    KeepsColumns supplied (columnList supplied) where
  unset := by
    cases supplied with
    | none => exact iff_of_true rfl nofun
    | some text =>
        rw [columnList, Option.filter_eq_none_iff]
        simp [splitColumns_eq_nil_iff]
  verbatim _ := columnList_eq_some_iff
  names := by
    intro list _ name member
    have listable : IsListable name := isListable_of_mem_splitColumns member
    exact ⟨listable.nonempty, listable.trim_eq, listable.noComma⟩

/-- A blank text is dropped before its fields are looked at, and it would be dropped for them. -/
theorem ComesTo.supplies {value : Value} {columns : Option String} (comes : ComesTo value columns) :
    ∃ supplied, Supplies value supplied ∧ columnList columns = columnList supplied := by
  cases comes with
  | null =>
      exact ⟨none, .nothing, rfl⟩
  | blank text isBlank =>
      refine ⟨some text, .text text, ?_⟩
      rw [columnList, columnList, Option.filter_some, namesNoColumn_of_isBlankText isBlank]
      rfl
  | marked text _ =>
      exact ⟨some text, .text text, rfl⟩
  | bytes _ text decodes =>
      exact ⟨some text, .bytes value text decodes, rfl⟩

theorem TableSettings.keepsColumns_of_valid {value : Value} {table : TableSettings}
    (valid : ofValue value = .ok table) :
    ∃ entries supplied, value = .mapping entries ∧
      Supplies (Entries.get "columns" entries) supplied ∧ KeepsColumns supplied table.columns := by
  obtain ⟨entries, isMapping, fits⟩ := bind_eq_ok_iff.mp valid
  obtain ⟨_, _, ⟨columns, checked, isList⟩, _, _⟩ := ofEntries_eq_ok_iff.mp fits
  obtain ⟨supplied, supplies, same⟩ := (comesTo_of_checked checked).supplies
  have kept : columnList supplied = table.columns := same.symm.trans isList
  exact ⟨entries, supplied, checkMapping_eq_ok_iff.mp isMapping, supplies,
    kept ▸ keepsColumns_columnList supplied⟩

/-! ### Statements over them -/

namespace Planner

/-- The statement that selects the columns of a list from a query. -/
def selectionFrom (sql list : String) : String :=
  "SELECT " ++ ", ".intercalate ((splitColumns list).map fun name => "sub." ++ name) ++
    " FROM (" ++ sql ++ ") sub"

theorem queryTemplate_eq (list sql : String) : queryTemplate list sql = selectionFrom sql list := by
  apply String.toList_injective
  rw [queryTemplate, qualifiedColumns_eq, subquery_eq, subqueryColumns, selectionFrom]
  simp only [String.toList_append, List.append_assoc]
  rfl

section

variable {table : TableSettings} {sql list : String} (chosen : table.source = .ok (.query sql))
  (selected : table.columns = some list)

include chosen selected

/-- No engine is asked for: a query without the token is refused, and any other is wrapped. -/
theorem resolveExtraction_query_eq_ok_iff (source : DataSource) (session : Session)
    (extraction : Extraction) :
    (resolveExtraction source table session).1 = .ok extraction ↔
      Conditions.occurs sql = true ∧ extraction = ⟨selectionFrom sql list, list⟩ := by
  have written : extractionOf source table (.query sql) session =
      (.ok ⟨selectionFrom sql list, list⟩, session) := by
    rw [extractionOf.eq_def, selected, ← queryTemplate_eq]
    rfl
  rw [resolveExtraction, chosen, run_bind, run_ofPlanning_ok]
  dsimp only
  rw [Source.ensureConditions, ensureToken]
  cases held : Conditions.occurs sql with
  | false =>
      rw [if_neg Bool.false_ne_true]
      constructor
      · intro impossible
        cases impossible
      · rintro ⟨impossible, _⟩
        cases impossible
  | true =>
      rw [if_pos rfl, run_bind, run_ofPlanning_ok]
      dsimp only
      rw [run_bind, written]
      constructor
      · intro same
        cases same
        exact ⟨rfl, rfl⟩
      · rintro ⟨_, rfl⟩
        rfl

theorem extraction_of_query_plan {source : DataSource} {isBorrowed : Bool}
    {connection : ConnectionSettings} {workspace : Workspace} {plan : ImportPlan}
    (planned : (planInto source isBorrowed connection table workspace).1 = .ok plan) :
    plan.extraction = ⟨selectionFrom sql list, list⟩ := by
  obtain ⟨_, _, _, succeeded⟩ :=
    planInto_of_checks (passed_of_plan planned) source isBorrowed workspace
  obtain ⟨findings, found, rfl⟩ := succeeded plan planned
  obtain ⟨start, resolved⟩ := resolved_of_inspect found
  exact ((resolveExtraction_query_eq_ok_iff chosen selected source start _).mp resolved).2

end

/-- The columns of every validated table are the supplied text, or unset just where nothing or only
such a text is supplied that names no column. What cutting a list gives is unchanged when it is joined
and cut again. A query with columns is extracted by selecting those names, one at least, from it; with
the token in it the extraction is always resolved, and every plan has it. -/
theorem column_lists_kept_iff_named {value : Value} {table : TableSettings}
    (valid : TableSettings.ofValue value = .ok table) :
    (∃ entries supplied, value = .mapping entries ∧
      Supplies (Entries.get "columns" entries) supplied ∧ KeepsColumns supplied table.columns) ∧
    (∀ list, splitColumns (joinColumns (splitColumns list)) = splitColumns list) ∧
    ∀ sql list, table.source = .ok (.query sql) → table.columns = some list →
      splitColumns list ≠ [] ∧
      (∀ (source : DataSource) (session : Session) (extraction : Extraction),
        (resolveExtraction source table session).1 = .ok extraction ↔
          Conditions.occurs sql = true ∧ extraction = ⟨selectionFrom sql list, list⟩) ∧
      ∀ (source : DataSource) (isBorrowed : Bool) (connection : ConnectionSettings)
        (workspace : Workspace) (plan : ImportPlan),
        (planInto source isBorrowed connection table workspace).1 = .ok plan →
        plan.extraction = ⟨selectionFrom sql list, list⟩ := by
  obtain ⟨entries, supplied, isMapping, supplies, keeps⟩ := table.keepsColumns_of_valid valid
  refine ⟨⟨entries, supplied, isMapping, supplies, keeps⟩, splitColumns_joinColumns_splitColumns, ?_⟩
  intro sql list chosen selected
  obtain ⟨_, named⟩ := (keeps.verbatim list).mp selected
  exact ⟨named, resolveExtraction_query_eq_ok_iff chosen selected,
    fun _ _ _ _ _ => extraction_of_query_plan chosen selected⟩

/-- Only separators, given as bytes, are dropped; a list with surplus commas is kept, and its two
columns are selected. -/
theorem column_lists_kept_iff_named_surplus :
    let sql := "SELECT * FROM t WHERE $\x7bCONDITIONS\x7d"
    let separators : Entries :=
      [(.text "sql", .text sql), (.text "columns", .binary .bytes [0x20, 0x2C, 0x09])]
    let surplus : Entries := [(.text "sql", .text sql), (.text "columns", .text ",a , b")]
    (∃ table, TableSettings.ofValue (.mapping separators) = .ok table ∧ table.columns = none ∧
      ∃ entries supplied, Value.mapping separators = .mapping entries ∧
        Supplies (Entries.get "columns" entries) supplied ∧ KeepsColumns supplied table.columns) ∧
    ∃ table, TableSettings.ofValue (.mapping surplus) = .ok table ∧
      table.columns = some ",a , b" ∧ splitColumns ",a , b" = ["a", "b"] ∧
      ∀ (source : DataSource) (session : Session),
        (resolveExtraction source table session).1 =
          .ok ⟨"SELECT sub.a, sub.b FROM (" ++ sql ++ ") sub", ",a , b"⟩ := by
  intro sql separators surplus
  have dropped : TableSettings.ofValue (.mapping separators) =
      .ok ⟨none, some sql, none, none, none⟩ := toOption_eq_some_iff.mp (by decide +kernel)
  have kept : TableSettings.ofValue (.mapping surplus) =
      .ok ⟨none, some sql, some ",a , b", none, none⟩ :=
    toOption_eq_some_iff.mp (by decide +kernel)
  refine ⟨⟨_, dropped, rfl, (column_lists_kept_iff_named dropped).1⟩, _, kept, rfl,
    by decide +kernel, ?_⟩
  intro source session
  obtain ⟨_, _, ofQuery⟩ := column_lists_kept_iff_named kept
  obtain ⟨_, resolved, _⟩ := ofQuery sql ",a , b" rfl rfl
  exact (resolved source session _).mpr ⟨by decide +kernel, by decide +kernel⟩

end Planner
end ImportPlanning
