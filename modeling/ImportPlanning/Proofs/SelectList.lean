/-
The select list of an extraction beside its field names, where the columns are set. Both are made from
one list of columns: that of a statement from the names in the list, and that of a table is the list as
it is written. What is selected then lines up with the field names, name by name, but for a table whose
list has commas with nothing between them, where something empty is selected.

What a database makes of an empty item is left open.
-/
import Mathlib.Data.List.TakeWhile
import ImportPlanning.Proofs.FieldNames
import ImportPlanning.Proofs.Layers.Jobs
import ImportPlanning.Proofs.SharedRelation

namespace ImportPlanning

open SessionM
open ImportPlanning.Text

/-! ### Blank texts -/

namespace Text

theorem trimWhere_eq_nil_iff {drop : Char → Bool} {text : List Char} :
    trimWhere drop text = [] ↔ ∀ character ∈ text, drop character = true := by
  rw [trimWhere, List.reverse_eq_nil_iff, List.dropWhile_eq_nil_iff]
  simp only [List.mem_reverse]
  constructor
  · intro all
    -- what is left after the first dropped characters would begin with one that is kept
    have gone : text.dropWhile drop = [] := by
      cases left : text.dropWhile drop with
      | nil =>
          rfl
      | cons first others =>
          have kept := List.head?_dropWhile_not drop text
          rw [left] at all kept
          simp [all first List.mem_cons_self] at kept
    exact List.dropWhile_eq_nil_iff.mp gone
  · intro all character member
    exact all character ((List.dropWhile_sublist drop).subset member)

theorem trim_eq_empty_iff {text : String} : trim text = "" ↔ isBlankText text = true := by
  rw [trim, String.ofList_eq_empty_iff, trimWhere_eq_nil_iff, isBlankText, List.all_eq_true]

theorem trim_blank_append (text : String) : trim (" " ++ text) = trim text := by
  have isDropped : isBlank ' ' = true := by decide
  rw [trim, trim, String.toList_append]
  show String.ofList (trimWhere isBlank (' ' :: text.toList)) = _
  rw [trimWhere, List.dropWhile_cons_of_pos isDropped, trimWhere]

end Text

/-! ### Items of a list -/

/-- The items of a select list: what stands between its commas, without the blanks around it. -/
def selectedItems (selection : String) : List String :=
  (splitFields ',' selection).map trim

/-- There is something between any two commas of a list, and before and behind them. -/
def EveryFieldNames (list : String) : Prop :=
  ∀ field ∈ splitFields ',' list, isBlankText field = false

theorem splitColumns_eq_filter (list : String) :
    splitColumns list = (selectedItems list).filter fun item => !item.isEmpty :=
  rfl

theorem empty_not_mem_selectedItems_iff (list : String) :
    "" ∉ selectedItems list ↔ EveryFieldNames list := by
  rw [selectedItems, List.mem_map, EveryFieldNames]
  simp only [trim_eq_empty_iff, not_exists, not_and, Bool.not_eq_true]

theorem splitColumns_ne_nil_iff (list : String) :
    splitColumns list ≠ [] ↔ namesNoColumn list = false := by
  rw [splitColumns_eq_filter, Ne, List.filter_eq_nil_iff, namesNoColumn, selectedItems]
  simp [trim_eq_empty_iff]

private theorem selectedItems_of_noComma {text : String} (noComma : ',' ∉ text.toList) :
    selectedItems text = [trim text] := by
  rw [selectedItems, splitFields, fields_of_not_mem noComma, List.map_singleton,
    List.map_singleton, String.ofList_toList]

private theorem selectedItems_append {first : String} (noComma : ',' ∉ first.toList)
    (rest : String) : selectedItems (first ++ ", " ++ rest) = trim first :: selectedItems rest := by
  have cut : fields ',' (first ++ ", " ++ rest).toList =
      first.toList :: fields ',' (' ' :: rest.toList) := by
    rw [String.toList_append, String.toList_append, List.append_assoc]
    exact (fields_append ',' first.toList (' ' :: rest.toList)).trans
      (by rw [fields_of_not_mem noComma, List.singleton_append])
  obtain ⟨head, others, isRest⟩ := List.exists_cons_of_ne_nil (fields_ne_nil ',' rest.toList)
  have spaced : fields ',' (' ' :: rest.toList) = (' ' :: head) :: others := by
    rw [fields, if_neg (by decide), isRest, List.modifyHead_cons]
  have sameHead : trim (String.ofList (' ' :: head)) = trim (String.ofList head) := by
    rw [← trim_blank_append (String.ofList head)]
    exact congrArg trim (String.toList_injective (by simp))
  rw [selectedItems, selectedItems, splitFields, splitFields, cut, spaced, isRest]
  simp only [List.map_cons, String.ofList_toList, sameHead]

/-- Names that are listable are the items of the list in which they stand with commas between. -/
theorem selectedItems_intercalate {names : List String} (several : names ≠ [])
    (listable : ∀ name ∈ names, IsListable name) :
    selectedItems (", ".intercalate names) = names := by
  induction names with
  | nil =>
      exact absurd rfl several
  | cons name others ih =>
      have here : IsListable name := listable name List.mem_cons_self
      cases others with
      | nil =>
          rw [String.intercalate_singleton, selectedItems_of_noComma here.noComma, here.trim_eq]
      | cons next rest =>
          rw [String.intercalate_cons_cons, selectedItems_append here.noComma, here.trim_eq,
            ih (List.cons_ne_nil next rest) fun other member =>
              listable other (List.mem_cons_of_mem name member)]

/-- A listable name stays so when it is taken from a subquery. -/
theorem IsListable.qualified {name : String} (listable : IsListable name) :
    IsListable ("sub." ++ name) := by
  have named : name.toList ≠ [] := mt String.toList_eq_nil_iff.mp listable.nonempty
  constructor
  · simp
  · rw [String.toList_append, List.mem_append, not_or]
    exact ⟨by decide, listable.noComma⟩
  · intro first isFirst
    have isLetter : first = 's' := by simpa using isFirst.symm
    rw [isLetter]
    decide
  · intro last isLast
    rw [String.toList_append, List.getLast?_append, List.getLast?_eq_some_getLast named,
      Option.some_or, ← List.getLast?_eq_some_getLast named] at isLast
    exact listable.back last isLast

/-! ### Validated lists -/

/-- A column list that is set in a table that was validated names a column. -/
theorem TableSettings.namesColumn_of_valid {value : Value} {table : TableSettings} {list : String}
    (valid : ofValue value = .ok table) (selected : table.columns = some list) :
    namesNoColumn list = false := by
  obtain ⟨entries, _, checked⟩ := bind_eq_ok_iff.mp valid
  obtain ⟨_, _, ⟨found, _, isFiltered⟩, _, _⟩ := ofEntries_eq_ok_iff.mp checked
  have kept : columnList found = some list := isFiltered.trans selected
  simpa using (Option.filter_eq_some_iff.mp kept).2

namespace Planner

/-! ### What is selected -/

/-- What stands behind the select list of the statement that extracts chosen columns. -/
def extractedFrom (dialect : Dialect) : Source → String
  | .table name => dialect.delimit name ++ " WHERE $\x7bCONDITIONS\x7d"
  | .query sql => "(" ++ sql ++ ") sub"

/-- The text is the select list of the statement that extracts chosen columns of a source. -/
def IsSelection (dialect : Dialect) (origin : Source) (selection dataSql : String) : Prop :=
  dataSql = "SELECT " ++ selection ++ " FROM " ++ extractedFrom dialect origin

theorem IsSelection.unique {dialect : Dialect} {origin : Source} {first second dataSql : String}
    (isFirst : IsSelection dialect origin first dataSql)
    (isSecond : IsSelection dialect origin second dataSql) : first = second := by
  rw [IsSelection] at isFirst isSecond
  rw [isFirst, String.append_left_inj, String.append_left_inj, String.append_right_inj] at isSecond
  exact isSecond

/-- A select list has no empty item, and is the names one by one, each of them written as where its
range is asked: those of a statement are taken from the subquery. -/
structure LinesUp (origin : Source) (selection : String) (names : List String) : Prop where
  noneEmpty : "" ∉ selectedItems selection
  oneByOne : selectedItems selection = names.map fun name => rangedColumn name origin

/-- The select list of an extraction has its field names as its items, beside which a table's has an
empty item for every field of the configured list that is blank. -/
structure SelectsFields (dialect : Dialect) (origin : Source) (list : String)
    (extraction : Extraction) : Prop where
  named : extraction.fieldNameList ≠ []
  selected : ∃ selection, IsSelection dialect origin selection extraction.dataSql ∧
    ((selectedItems selection).filter fun item => !item.isEmpty) =
      extraction.fieldNameList.map (fun name => rangedColumn name origin) ∧
    (LinesUp origin selection extraction.fieldNameList ↔
      ∀ name, origin = .table name → EveryFieldNames list)

private theorem filter_eq_self_of_noneEmpty {items : List String} (noneEmpty : "" ∉ items) :
    (items.filter fun item => !item.isEmpty) = items := by
  rw [List.filter_eq_self]
  intro item member
  have named : item ≠ "" := fun same => noneEmpty (same ▸ member)
  simpa using named

private theorem selectsFields_table {dialect : Dialect} {name list : String}
    (named : namesNoColumn list = false) :
    SelectsFields dialect (.table name) list
      ⟨tableTemplate list (dialect.delimit name), list⟩ where
  named := (splitColumns_ne_nil_iff list).mpr named
  selected := by
    have kept : ((selectedItems list).filter fun item => !item.isEmpty) =
        (splitColumns list).map fun column => rangedColumn column (.table name) :=
      (List.map_id (splitColumns list)).symm
    refine ⟨list, ?_, kept, ?_⟩
    · show tableTemplate list (dialect.delimit name) =
        "SELECT " ++ list ++ " FROM " ++ (dialect.delimit name ++ (" WHERE " ++ Conditions.token))
      rw [tableTemplate, ← String.append_assoc, ← String.append_assoc]
    · constructor
      · rintro ⟨noneEmpty, _⟩ _ _
        exact (empty_not_mem_selectedItems_iff list).mp noneEmpty
      · intro every
        have noneEmpty := (empty_not_mem_selectedItems_iff list).mpr (every name rfl)
        exact ⟨noneEmpty, (filter_eq_self_of_noneEmpty noneEmpty).symm.trans kept⟩

private theorem selectsFields_query {dialect : Dialect} {sql list : String}
    (named : namesNoColumn list = false) :
    SelectsFields dialect (.query sql) list ⟨queryTemplate list sql, list⟩ where
  named := (splitColumns_ne_nil_iff list).mpr named
  selected := by
    have listable : ∀ item ∈ (splitColumns list).map fun column => "sub." ++ column,
        IsListable item := by
      intro item member
      obtain ⟨column, isColumn, rfl⟩ := List.mem_map.mp member
      exact (isListable_of_mem_splitColumns isColumn).qualified
    have several : (splitColumns list).map (fun column => "sub." ++ column) ≠ [] :=
      mt List.map_eq_nil_iff.mp ((splitColumns_ne_nil_iff list).mpr named)
    have items : selectedItems (subqueryColumns list) =
        (splitColumns list).map fun column => rangedColumn column (.query sql) :=
      selectedItems_intercalate several listable
    have noneEmpty : "" ∉ selectedItems (subqueryColumns list) := by
      rw [items]
      exact fun member => (listable "" member).nonempty rfl
    refine ⟨subqueryColumns list, ?_, (filter_eq_self_of_noneEmpty noneEmpty).trans items, ?_⟩
    · show queryTemplate list sql = _
      rw [queryTemplate, qualifiedColumns_eq, subquery_eq, extractedFrom]
    · refine iff_of_true ⟨noneEmpty, items⟩ ?_
      intro name impossible
      cases impossible

theorem selectsFields_of_extracts {dialect : Dialect} {table : TableSettings} {origin : Source}
    {list : String} {extraction : Extraction} (named : namesNoColumn list = false)
    (selected : table.columns = some list) (extracts : Extracts dialect table origin extraction) :
    SelectsFields dialect origin list extraction := by
  obtain ⟨dataSql, fieldNames⟩ := extraction
  obtain ⟨isTemplate, isList⟩ := extracts
  obtain rfl : fieldNames = list := isList list selected
  rw [selected] at isTemplate
  obtain rfl : dataSql = template dialect (some fieldNames) origin := isTemplate
  cases origin with
  | table name => exact selectsFields_table named
  | query sql => exact selectsFields_query named

/-- Where a validated table names its columns, the select list of the statement that extracts them
lines up with the field names, if and only if the source is a statement or nothing is missing between
the commas of the list; otherwise it has empty items beside the field names. So it is with every
extraction and every plan, and an executor with an engine always comes to an extraction. -/
theorem select_list_lines_up_iff {value : Value} {table : TableSettings} {list : String}
    (valid : TableSettings.ofValue value = .ok table) (selected : table.columns = some list)
    {origin : Source} (chosen : table.source = .ok origin) (source : DataSource) :
    (∀ (session : Session) (extraction : Extraction),
      (resolveExtraction source table session).1 = .ok extraction →
      SelectsFields source.dialect origin list extraction) ∧
    (∀ session : Session, session.IsReady → origin.ensureConditions = .ok () →
      ∃ extraction after, resolveExtraction source table session = (.ok extraction, after)) ∧
    ∀ (isBorrowed : Bool) (connection : ConnectionSettings) (workspace : Workspace)
      (plan : ImportPlan),
      (planInto source isBorrowed connection table workspace).1 = .ok plan →
      SelectsFields source.dialect origin list plan.extraction := by
  have named := TableSettings.namesColumn_of_valid valid selected
  refine ⟨?_, ?_, ?_⟩
  · intro session extraction resolved
    exact selectsFields_of_extracts named selected (extracts_of_resolved chosen resolved)
  · intro session ready checked
    have declared : table.columns ≠ none := Option.ne_none_iff_exists'.mpr ⟨list, selected⟩
    exact resolveExtraction_of_isReady ready source chosen checked declared
  · intro isBorrowed connection workspace plan planned
    obtain ⟨_, _, _, succeeded⟩ :=
      planInto_of_checks (passed_of_plan planned) source isBorrowed workspace
    obtain ⟨findings, found, rfl⟩ := succeeded plan planned
    obtain ⟨start, resolved⟩ := resolved_of_inspect found
    exact selectsFields_of_extracts named selected (extracts_of_resolved chosen resolved)

/-- A data source that gives nothing, as the columns are set. -/
private def unqueried : DataSource :=
  { dialect := .sqlite
    typeObjects := .none
    queries := []
    primaryKeys := []
    connectFault := none
    createFault := none }

private def selecting : Session :=
  ⟨⟨"sqlite", "sqlite://", none, none, true, true, false⟩, .empty, []⟩

/-- Blanks around the columns of a table, and surplus commas between those of a statement, change
nothing about what is selected. -/
theorem select_list_lines_up_iff_spaced :
    let spaced : TableSettings := ⟨some "t", none, some " a ,b", none, none⟩
    let sql := "SELECT a, b FROM t WHERE $\x7bCONDITIONS\x7d"
    let surplus : TableSettings := ⟨none, some sql, some ",a ,, b", none, none⟩
    TableSettings.ofValue (.mapping spaced.toEntries) = .ok spaced ∧
      (resolveExtraction unqueried spaced selecting).1 =
        .ok ⟨"SELECT  a ,b FROM \"t\" WHERE $\x7bCONDITIONS\x7d", " a ,b"⟩ ∧
      LinesUp (.table "t") " a ,b" ["a", "b"] ∧
      TableSettings.ofValue (.mapping surplus.toEntries) = .ok surplus ∧
      (resolveExtraction unqueried surplus selecting).1 =
        .ok ⟨"SELECT sub.a, sub.b FROM (" ++ sql ++ ") sub", ",a ,, b"⟩ ∧
      LinesUp (.query sql) "sub.a, sub.b" ["a", "b"] := by
  intro spaced sql surplus
  have spacedValid : TableSettings.ofValue (.mapping spaced.toEntries) = .ok spaced :=
    toOption_eq_some_iff.mp (by decide +kernel)
  have surplusValid : TableSettings.ofValue (.mapping surplus.toEntries) = .ok surplus :=
    toOption_eq_some_iff.mp (by decide +kernel)
  have ofTable : (resolveExtraction unqueried spaced selecting).1 =
      .ok ⟨"SELECT  a ,b FROM \"t\" WHERE $\x7bCONDITIONS\x7d", " a ,b"⟩ :=
    toOption_eq_some_iff.mp (by decide +kernel)
  have ofStatement : (resolveExtraction unqueried surplus selecting).1 =
      .ok ⟨"SELECT sub.a, sub.b FROM (" ++ sql ++ ") sub", ",a ,, b"⟩ :=
    toOption_eq_some_iff.mp (by decide +kernel)
  refine ⟨spacedValid, ofTable, ?_, surplusValid, ofStatement, ?_⟩
  · have chosen : spaced.source = .ok (.table "t") := rfl
    obtain ⟨_, selection, isSelection, _, linesUp⟩ :=
      (select_list_lines_up_iff spacedValid rfl chosen unqueried).1 _ _ ofTable
    obtain rfl : selection = " a ,b" := isSelection.unique rfl
    have every : EveryFieldNames " a ,b" := by
      rw [← empty_not_mem_selectedItems_iff]
      decide +kernel
    have names : splitColumns " a ,b" = ["a", "b"] := by decide +kernel
    exact names ▸ linesUp.mpr fun _ _ => every
  · have chosen : surplus.source = .ok (.query sql) := rfl
    obtain ⟨_, selection, isSelection, _, linesUp⟩ :=
      (select_list_lines_up_iff surplusValid rfl chosen unqueried).1 _ _ ofStatement
    obtain rfl : selection = "sub.a, sub.b" := isSelection.unique rfl
    have names : splitColumns ",a ,, b" = ["a", "b"] := by decide +kernel
    exact names ▸ linesUp.mpr nofun

/-- A table with nothing between two commas of its column list: an empty item is selected between the
two fields that are named. -/
theorem surplus_comma_selected :
    let table : TableSettings := ⟨some "t", none, some "a,,b", none, none⟩
    let extraction : Extraction :=
      ⟨"SELECT a,,b FROM \"t\" WHERE $\x7bCONDITIONS\x7d", "a,,b"⟩
    TableSettings.ofValue (.mapping table.toEntries) = .ok table ∧
      (resolveExtraction unqueried table selecting).1 = .ok extraction ∧
      extraction.fieldNameList = ["a", "b"] ∧
      IsSelection .sqlite (.table "t") "a,,b" extraction.dataSql ∧
      selectedItems "a,,b" = ["a", "", "b"] ∧
      ¬ LinesUp (.table "t") "a,,b" extraction.fieldNameList := by
  intro table extraction
  have items : selectedItems "a,,b" = ["a", "", "b"] := by decide +kernel
  refine ⟨toOption_eq_some_iff.mp (by decide +kernel), toOption_eq_some_iff.mp (by decide +kernel),
    by decide +kernel, rfl, items, ?_⟩
  intro linesUp
  exact linesUp.noneEmpty (by rw [items]; simp)

end Planner
end ImportPlanning
