/-
The statements that planning writes, as functions of dialect, source and column list, and what
putting a predicate in the place of their tokens gives. The tokens of a template are those of the
statement that it wraps, or the one after `WHERE`; names and column lists bring none of their own.

No data source is asked here.
-/
import ImportPlanning.Planner
import ImportPlanning.Proofs.Conditions

namespace ImportPlanning.Planner

open ImportPlanning.Text
open Conditions (Free)

/-! ### Statements -/

/-- The statement that extracts the rows of a source, with its tokens. -/
def template (dialect : Dialect) (columns : Option String) : Source → String
  | .table name => tableTemplate (columns.getD "*") (dialect.delimit name)
  | .query sql =>
    match columns with
    | none => sql
    | some list => queryTemplate list sql

/-- The statement that asks for the range of a column over all rows of a source. -/
def rangeStatement (dialect : Dialect) (column : String) : Source → String
  | .table name => rangeQuery column (dialect.delimit name)
  | .query sql =>
    rangeQuery (Executor.qualify column subqueryAlias)
      (subquery (Conditions.apply Conditions.alwaysTrue sql))

/-- The columns of a list, each of them taken from the subquery. -/
def subqueryColumns (list : String) : String :=
  ", ".intercalate ((splitColumns list).map fun column => "sub." ++ column)

/-- The statement that extracts the rows of a source which meet a predicate. -/
def restricted (dialect : Dialect) (columns : Option String) (predicate : String) : Source → String
  | .table name =>
    "SELECT " ++ columns.getD "*" ++ " FROM " ++ dialect.delimit name ++ " WHERE " ++ predicate
  | .query sql =>
    match columns with
    | none => Conditions.apply predicate sql
    | some list =>
      "SELECT " ++ subqueryColumns list ++ " FROM (" ++ Conditions.apply predicate sql ++ ") sub"

/-- The number of tokens that a template has: that of the statement it is made of, or one. -/
def tokenCount : Source → Nat
  | .table _ => 1
  | .query sql => Conditions.count sql

/-- The table name and the column list hold no token. -/
def NamesFree (table : TableSettings) : Prop :=
  (∀ name, table.tableName = some name → Free name) ∧
    ∀ list, table.columns = some list → Free list

theorem tableName_of_source {table : TableSettings} {name : String}
    (chosen : table.source = .ok (.table name)) : table.tableName = some name := by
  rw [TableSettings.source.eq_def] at chosen
  cases named : table.tableName with
  | none =>
      cases written : table.sql <;> rw [named, written] at chosen <;> cases chosen
  | some given =>
      cases written : table.sql with
      | none =>
          rw [named, written] at chosen
          cases chosen
          rfl
      | some sql =>
          rw [named, written] at chosen
          cases chosen

/-! ### Column lists -/

theorem free_of_mem_splitColumns {list column : String} (free : Free list)
    (member : column ∈ splitColumns list) : Free column := by
  obtain ⟨field, isField, rfl⟩ := List.mem_map.mp (List.mem_filter.mp member).1
  obtain ⟨characters, isPart, rfl⟩ := List.mem_map.mp isField
  apply free.of_infix
  rw [trim, String.toList_ofList, String.toList_ofList]
  exact (trimWhere_within isBlank characters).trans (infix_of_mem_fields isPart)

theorem qualifiedColumns_eq (list : String) : qualifiedColumns list = subqueryColumns list := by
  have qualified : ∀ column, Executor.qualify column subqueryAlias = "sub." ++ column := fun _ => rfl
  simp only [qualifiedColumns, subqueryColumns, qualified]

theorem template_table (dialect : Dialect) (columns : Option String) (name : String) :
    template dialect columns (.table name) =
      "SELECT " ++ columns.getD "*" ++ " FROM " ++ dialect.delimit name ++
        " WHERE $\x7bCONDITIONS\x7d" := by
  rw [template, tableTemplate, String.append_assoc]
  rfl

theorem subquery_eq (sql : String) : subquery sql = "(" ++ sql ++ ") sub" := by
  rw [subquery, String.append_assoc]
  rfl

theorem free_subqueryColumns {list : String} (free : Free list) : Free (subqueryColumns list) := by
  apply Conditions.free_intercalate (by decide)
  intro part member
  obtain ⟨column, isColumn, rfl⟩ := List.mem_map.mp member
  have columnFree : Free column := free_of_mem_splitColumns free isColumn
  have whole : "sub." ++ column = "sub" ++ "." ++ column := rfl
  rw [whole, Conditions.free_separated (by decide)]
  exact ⟨by decide, columnFree⟩

/-! ### Predicates in templates -/

private theorem free_selection (text : String) : Free ("SELECT " ++ text) ↔ Free text :=
  Conditions.free_after (by decide) text

private theorem free_front {selection relation : String} (selectionFree : Free selection)
    (relationFree : Free relation) : Free ("SELECT " ++ selection ++ " FROM " ++ relation) := by
  rw [Conditions.free_separated (by decide), free_selection]
  exact ⟨selectionFree, relationFree⟩

private theorem apply_tableTemplate {selection relation : String} (selectionFree : Free selection)
    (relationFree : Free relation) (predicate : String) :
    Conditions.apply predicate (tableTemplate selection relation) =
      "SELECT " ++ selection ++ " FROM " ++ relation ++ " WHERE " ++ predicate := by
  rw [tableTemplate, Conditions.apply_separated (by decide),
    Conditions.apply_of_free (free_front selectionFree relationFree), Conditions.apply_token]

private theorem count_tableTemplate {selection relation : String} (selectionFree : Free selection)
    (relationFree : Free relation) : Conditions.count (tableTemplate selection relation) = 1 := by
  rw [tableTemplate, Conditions.count_separated (by decide),
    Conditions.count_eq_zero (free_front selectionFree relationFree), Conditions.count_token]

private theorem apply_subquery (predicate sql : String) :
    Conditions.apply predicate (subquery sql) = subquery (Conditions.apply predicate sql) := by
  rw [subquery, Conditions.apply_separated (by decide), Conditions.apply_after (by decide),
    Conditions.apply_of_free (show Free subqueryAlias by decide), subquery]

private theorem count_subquery (sql : String) :
    Conditions.count (subquery sql) = Conditions.count sql := by
  rw [subquery, Conditions.count_separated (by decide), Conditions.count_after (by decide),
    Conditions.count_eq_zero (show Free subqueryAlias by decide), Nat.add_zero]

private theorem apply_queryTemplate {list : String} (listFree : Free list) (predicate sql : String) :
    Conditions.apply predicate (queryTemplate list sql) =
      "SELECT " ++ subqueryColumns list ++ " FROM (" ++ Conditions.apply predicate sql ++ ") sub" := by
  have selectionFree := (free_selection _).mpr (free_subqueryColumns listFree)
  have written : ∀ front inner : String,
      front ++ " FROM " ++ subquery inner = front ++ " FROM (" ++ inner ++ ") sub" := by
    intro front inner
    apply String.toList_injective
    simp [subquery_eq]
  rw [queryTemplate, qualifiedColumns_eq, Conditions.apply_separated (by decide),
    Conditions.apply_of_free selectionFree, apply_subquery, written]

private theorem count_queryTemplate {list : String} (listFree : Free list) (sql : String) :
    Conditions.count (queryTemplate list sql) = Conditions.count sql := by
  have selectionFree := (free_selection _).mpr (free_subqueryColumns listFree)
  rw [queryTemplate, qualifiedColumns_eq, Conditions.count_separated (by decide),
    Conditions.count_eq_zero selectionFree, count_subquery, Nat.zero_add]

private theorem free_selected {table : TableSettings} (free : NamesFree table) :
    Free (table.columns.getD "*") := by
  cases selected : table.columns with
  | none => exact show Free "*" by decide
  | some list => exact free.2 list selected

section

variable {table : TableSettings} {origin : Source} (chosen : table.source = .ok origin)
  (free : NamesFree table) (dialect : Dialect)

include chosen free

/-- Putting a predicate in the place of the tokens of a template gives the statement for the rows
that meet it. -/
theorem apply_template (predicate : String) :
    Conditions.apply predicate (template dialect table.columns origin) =
      restricted dialect table.columns predicate origin := by
  cases origin with
  | table name =>
      exact apply_tableTemplate (free_selected free)
        (Conditions.free_delimit dialect (free.1 name (tableName_of_source chosen))) predicate
  | query sql =>
      cases selected : table.columns with
      | none => rfl
      | some list => exact apply_queryTemplate (free.2 list selected) predicate sql

/-- A template of a table has one token, and one of a statement has the tokens of that. -/
theorem count_template :
    Conditions.count (template dialect table.columns origin) = tokenCount origin := by
  cases origin with
  | table name =>
      exact count_tableTemplate (free_selected free)
        (Conditions.free_delimit dialect (free.1 name (tableName_of_source chosen)))
  | query sql =>
      cases selected : table.columns with
      | none => rfl
      | some list => exact count_queryTemplate (free.2 list selected) sql

end

theorem tokenCount_pos {origin : Source} (checked : origin.ensureConditions = .ok ()) :
    0 < tokenCount origin := by
  cases origin with
  | table name =>
      exact Nat.one_pos
  | query sql =>
      rw [tokenCount, ← Conditions.occurs_iff_count_pos]
      exact (Conditions.ensureToken_eq_ok_iff sql).mp checked

end ImportPlanning.Planner
