/-
The field names of an extraction whose columns are not set. They are found by a statement for no rows
and kept in one text with commas between them, from which they are read again by cutting at the
commas and trimming. What is read again is what was found just where each name can stand in such a
text.
-/
import ImportPlanning.Proofs.Identifiers
import ImportPlanning.Proofs.Stages

namespace ImportPlanning

open SessionM
open ImportPlanning.Text

/-! ### Column lists -/

/-- The name can stand in a comma-joined list: it is not empty, holds no comma, and neither begins nor
ends with a blank. -/
structure IsListable (name : String) : Prop where
  nonempty : name ≠ ""
  noComma : ',' ∉ name.toList
  front : ∀ first, name.toList.head? = some first → isBlank first = false
  back : ∀ last, name.toList.getLast? = some last → isBlank last = false

theorem IsListable.trim_eq {name : String} (listable : IsListable name) : trim name = name := by
  rw [trim, trimWhere_eq_self_iff.mpr ⟨listable.front, listable.back⟩, String.ofList_toList]

theorem isListable_of_mem_splitColumns {list name : String} (member : name ∈ splitColumns list) :
    IsListable name := by
  obtain ⟨isTrimmed, nonempty⟩ := List.mem_filter.mp member
  obtain ⟨field, isField, rfl⟩ := List.mem_map.mp isTrimmed
  obtain ⟨characters, isPart, rfl⟩ := List.mem_map.mp isField
  have within : trimWhere isBlank characters <:+: characters := trimWhere_within isBlank characters
  obtain ⟨front, back⟩ := ends_trimWhere isBlank characters
  constructor
  · intro empty
    rw [empty] at nonempty
    cases nonempty
  · rw [trim, String.toList_ofList, String.toList_ofList]
    exact fun held => separator_not_mem_of_mem_fields isPart (within.subset held)
  · rw [trim, String.toList_ofList, String.toList_ofList]
    exact front
  · rw [trim, String.toList_ofList, String.toList_ofList]
    exact back

private theorem splitFields_joinColumns {names : List String} (nonempty : names ≠ [])
    (noCommas : ∀ name ∈ names, ',' ∉ name.toList) : splitFields ',' (joinColumns names) = names := by
  have cut : fields ',' (joinColumns names).toList = names.map String.toList := by
    rw [joinColumns, String.toList_intercalate]
    apply fields_intercalate (mt List.map_eq_nil_iff.mp nonempty)
    intro field member
    obtain ⟨name, isName, rfl⟩ := List.mem_map.mp member
    exact noCommas name isName
  rw [splitFields, cut, List.map_map]
  exact List.map_id'' (fun name => String.ofList_toList) names

/-- A list of names is read back from its joined form just if each of them is listable. -/
theorem splitColumns_joinColumns_iff (names : List String) :
    splitColumns (joinColumns names) = names ↔ ∀ name ∈ names, IsListable name := by
  constructor
  · intro same name member
    rw [← same] at member
    exact isListable_of_mem_splitColumns member
  · intro listable
    by_cases nonempty : names = []
    · subst nonempty
      decide
    · have trimmed : names.map trim = names := by
        calc
          names.map trim = names.map id :=
            List.map_congr_left fun name member => (listable name member).trim_eq
          _ = names := List.map_id names
      rw [splitColumns, splitFields_joinColumns nonempty fun name member =>
        (listable name member).noComma, trimmed, List.filter_eq_self]
      intro name member
      simpa using (listable name member).nonempty

/-! ### Discovered names -/

namespace Planner

/-- The field names are those that the statement for no rows gives, with commas between them. -/
structure Discovers (source : DataSource) (extraction : Extraction) (names : List String) :
    Prop where
  given : Executor.NamesOf source (Conditions.apply "1 = 0" extraction.dataSql) names
  joined : extraction.fieldNames = ",".intercalate names

theorem Discovers.fieldNameList_iff {source : DataSource} {extraction : Extraction}
    {names : List String} (discovers : Discovers source extraction names) :
    extraction.fieldNameList = names ↔ ∀ name ∈ names, IsListable name := by
  rw [Extraction.fieldNameList, discovers.joined]
  exact splitColumns_joinColumns_iff names

theorem sends_extractionOf_discovered {table : TableSettings} (undeclared : table.columns = none)
    (source : DataSource) (origin : Source) :
    Sends ((discoveryStatements source.dialect table origin).map source.dialect.sent)
      (fun extraction => ∃ names, Discovers source extraction names)
      (extractionOf source table origin) := by
  rw [extractionOf.eq_def]
  unfold discoveryStatements
  rw [undeclared]
  cases origin with
  | table name =>
      apply asks_after (Executor.sends_delimit source name)
      intro quoted isQuoted
      subst isQuoted
      apply asks_before (sends_discoverFieldNames source _)
      rintro fieldNames ⟨names, joined, given⟩
      exact sends_pure ⟨names, given, joined⟩
  | query sql =>
      apply asks_before (sends_discoverFieldNames source sql)
      rintro fieldNames ⟨names, joined, given⟩
      exact sends_pure ⟨names, given, joined⟩

section

variable {source : DataSource} {table : TableSettings} {session : Session} {extraction : Extraction}

theorem source_of_resolved (resolved : (resolveExtraction source table session).1 = .ok extraction) :
    ∃ origin, table.source = .ok origin := by
  have whole : resolveExtraction source table session =
      (.ok extraction, (resolveExtraction source table session).2) := Prod.ext resolved rfl
  rw [resolveExtraction] at whole
  obtain ⟨origin, between, found, _⟩ := run_bind_eq_ok_iff.mp whole
  obtain ⟨_, _, _, _, _, _, succeeded⟩ := sends_ofPlanning table.source session
  rw [found] at succeeded
  exact ⟨origin, (succeeded origin rfl).2.2⟩

theorem discovers_of_resolved (undeclared : table.columns = none)
    (resolved : (resolveExtraction source table session).1 = .ok extraction) :
    ∃ names, Discovers source extraction names ∧
      (resolveExtraction source table session).2.trace.executed = session.trace.executed ++
        [source.dialect.sent (Conditions.apply "1 = 0" extraction.dataSql)] := by
  obtain ⟨origin, chosen⟩ := source_of_resolved resolved
  obtain ⟨_, sent, _, _, _, executed, succeeded⟩ :=
    sends_resolveExtraction_of chosen (sends_extractionOf_discovered undeclared source origin) session
  obtain ⟨_, _, _, _, _, _, extracts⟩ := sends_resolveExtraction chosen source session
  obtain ⟨_, complete, names, discovers⟩ := succeeded extraction resolved
  have isTemplate : extraction.dataSql = template source.dialect table.columns origin :=
    (extracts extraction resolved).2.2.1
  refine ⟨names, discovers, ?_⟩
  rw [executed, complete, isTemplate, undeclared, discoveryStatements.eq_def, undeclared]
  rfl

theorem resolved_of_inspect {findings : Findings}
    (found : (inspect source table session).1 = .ok findings) :
    ∃ start, (resolveExtraction source table start).1 = .ok findings.extraction :=
  (steps_of_inspect found).2

end

/-- Where no columns are set, an extraction gives its field names one by one as the statement for no
rows gave them, duplicates included, if and only if each of them is listable; and so does that of a
plan. That statement is the only one sent for them. -/
theorem fieldNameList_discovered_iff {source : DataSource} {table : TableSettings}
    (undeclared : table.columns = none) :
    (∀ (session : Session) (extraction : Extraction),
      (resolveExtraction source table session).1 = .ok extraction →
      ∃ names, Discovers source extraction names ∧
        (resolveExtraction source table session).2.trace.executed = session.trace.executed ++
          [source.dialect.sent (Conditions.apply "1 = 0" extraction.dataSql)] ∧
        (extraction.fieldNameList = names ↔ ∀ name ∈ names, IsListable name)) ∧
    ∀ (isBorrowed : Bool) (connection : ConnectionSettings) (workspace : Workspace)
      (plan : ImportPlan),
      (planInto source isBorrowed connection table workspace).1 = .ok plan →
      ∃ names, Discovers source plan.extraction names ∧
        (plan.extraction.fieldNameList = names ↔ ∀ name ∈ names, IsListable name) := by
  constructor
  · intro session extraction resolved
    obtain ⟨names, discovers, executed⟩ := discovers_of_resolved undeclared resolved
    exact ⟨names, discovers, executed, discovers.fieldNameList_iff⟩
  · intro isBorrowed connection workspace plan planned
    obtain ⟨_, _, _, succeeded⟩ :=
      planInto_of_checks (passed_of_plan planned) source isBorrowed workspace
    obtain ⟨findings, found, rfl⟩ := succeeded plan planned
    obtain ⟨start, resolved⟩ := resolved_of_inspect found
    obtain ⟨names, discovers, _⟩ := discovers_of_resolved undeclared resolved
    exact ⟨names, discovers, discovers.fieldNameList_iff⟩

/-- A data source that gives columns of the names, and no rows, for every statement. -/
private def naming (names : List String) : DataSource :=
  { dialect := .sqlite
    typeObjects := .none
    queries := [⟨none, .ok ⟨some (names.map fun name => (name, .null)), [], none⟩⟩]
    primaryKeys := []
    connectFault := none
    createFault := none }

private theorem fetch_naming (names : List String) (statement : String) :
    (naming names).fetch statement = .ok (names.map fun name => (name, .null), []) :=
  rfl

/-- Resolves the extraction of a table whose columns are not set. -/
private def resolveNamed (names : List String) : Except Failure Extraction × Session :=
  resolveExtraction (naming names) ⟨some "t", none, none, none, none⟩
    ⟨⟨"sqlite", "sqlite://", none, none, true, true, false⟩, .empty, []⟩

/-- Two columns of one name are read back, and a column with a comma in its name is not. -/
theorem fieldNameList_discovered_iff_comma :
    (∃ extraction, (resolveNamed ["id", "id"]).1 = .ok extraction ∧
      extraction.fieldNameList = ["id", "id"]) ∧
    ∃ extraction, (resolveNamed ["id", "a,b"]).1 = .ok extraction ∧
      extraction.fieldNameList ≠ ["id", "a,b"] := by
  have survives : ∀ names extraction, (resolveNamed names).1 = .ok extraction →
      (extraction.fieldNameList = names ↔ ∀ name ∈ names, IsListable name) := by
    intro names extraction resolved
    obtain ⟨found, discovers, _, survives⟩ := (fieldNameList_discovered_iff rfl).1 _ _ resolved
    obtain ⟨columns, rows, fetched, isFound⟩ := discovers.given
    rw [fetch_naming] at fetched
    obtain ⟨rfl, rfl⟩ := Prod.mk.inj (Except.ok.inj fetched)
    have same : found = names := by
      rw [isFound, List.map_map]
      exact List.map_id names
    rw [same] at survives
    exact survives
  constructor
  · have resolved : (resolveNamed ["id", "id"]).1 =
        .ok ⟨"SELECT * FROM \"t\" WHERE $\x7bCONDITIONS\x7d", "id,id"⟩ :=
      toOption_eq_some_iff.mp (by decide +kernel)
    refine ⟨_, resolved, (survives _ _ resolved).mpr ?_⟩
    intro name member
    have isId : name = "id" := by simpa using member
    subst isId
    constructor
    · decide
    · decide
    · intro first isFirst
      cases isFirst
      decide
    · intro last isLast
      cases isLast
      decide
  · have resolved : (resolveNamed ["id", "a,b"]).1 =
        .ok ⟨"SELECT * FROM \"t\" WHERE $\x7bCONDITIONS\x7d", "id,a,b"⟩ :=
      toOption_eq_some_iff.mp (by decide +kernel)
    refine ⟨_, resolved, ?_⟩
    intro same
    have listable := (survives _ _ resolved).mp same "a,b" (by simp)
    exact listable.noComma (by decide)

end Planner
end ImportPlanning
