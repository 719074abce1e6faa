/-
The keys that planning looks up and the statements that it sends. Each operation of an executor and
each stage of planning is described by what it asks for when it succeeds; quoting and closing ask for
nothing, and only the search for a partition column looks up a primary key.

Which of the statements fail, and with which error, is left open.
-/
import ImportPlanning.Proofs.Session
import ImportPlanning.Proofs.Template

namespace ImportPlanning

open SessionM

/-- A statement as the driver of a dialect gets it. -/
def Dialect.sent (dialect : Dialect) (sql : String) : String :=
  (Statement.prepare dialect sql).text

namespace Executor

/-! ### Faults -/

theorem asks_failOperation {α : Type} (keys : List (Option String × String))
    (statements : List String) (answers : α → Prop) (operation : String)
    (details : List (String × Value)) (cause : Cause) :
    Asks keys statements answers (failOperation operation details cause) := by
  rw [failOperation]
  exact asks_after (sends_note _ _ _) fun _ _ => asks_throw _ _ _ _

theorem sends_guarded {α : Type} (operation : String) (details : List (String × Value))
    (result : Except AccessFault α) :
    Sends [] (fun value => result = .ok value) (guarded operation details result) := by
  cases result with
  | ok value =>
      exact sends_pure rfl
  | error fault =>
      cases fault with
      | known cause => exact asks_failOperation _ _ _ _ _ _
      | foreign fault => exact asks_throw _ _ _ _

/-! ### Engines -/

theorem sends_createEngineAt (source : DataSource) (executor : Executor) (url : DatabaseUrl) :
    Sends [] (fun _ => True) (createEngineAt source executor url) := by
  rw [createEngineAt]
  apply asks_after (sends_noteCreated _)
  intro _ _
  cases source.createFault with
  | none =>
      exact asks_after (sends_update _) fun _ _ => sends_note _ _ _
  | some fault =>
      show Sends [] _ (if isImportFault fault then failImport executor.driver fault else _)
      split
      · exact asks_after (sends_note _ _ _) fun _ _ => asks_throw _ _ _ _
      · exact (sends_guarded _ _ _).weaken fun _ _ => trivial

theorem sends_requireEngine (source : DataSource) :
    Sends [] (fun _ => True) (requireEngine source) := by
  rw [requireEngine]
  apply asks_after sends_executor
  intro current _
  split
  · exact asks_throw _ _ _ _
  · split
    · exact sends_pure trivial
    · rw [createEngine]
      split
      · exact sends_createEngineAt _ _ _
      · exact asks_failOperation _ _ _ _ _ _
      · exact asks_throw _ _ _ _

/-! ### Operations -/

theorem sends_runStatement (source : DataSource) (sql : String) :
    Sends [source.dialect.sent sql]
      (fun fetched => source.fetch (source.dialect.sent sql) = .ok fetched)
      (runStatement source sql) := by
  rw [runStatement]
  apply asks_after (sends_guarded _ _ _)
  intro _ _
  dsimp only
  cases marked : (Statement.prepare source.dialect sql).parameter with
  | some name =>
      exact asks_failOperation _ _ _ _ _ _
  | none =>
      exact asks_before (sends_noteExecuted _) fun _ _ => sends_guarded _ _ _

/-- The result is what the data source gives for a statement, with its columns described. -/
def ResultOf (source : DataSource) (sql : String) (result : QueryResult) : Prop :=
  ∃ columns, source.fetch (source.dialect.sent sql) = .ok (columns, result.rows) ∧
    result.columns = describeColumns source columns result.rows

theorem sends_query (source : DataSource) (sql : String) :
    Sends [source.dialect.sent sql] (ResultOf source sql) (query source sql) := by
  rw [query]
  apply asks_after (sends_note _ _ _)
  intro _ _
  apply asks_after (sends_requireEngine source)
  intro _ _
  apply asks_before (sends_runStatement source sql)
  rintro ⟨columns, rows⟩ fetched
  exact asks_after (sends_note _ _ _) fun _ _ => sends_pure ⟨columns, fetched, rfl⟩

/-- The names are those of the columns that the data source gives for a statement, as its dialect
gives them back. -/
def NamesOf (source : DataSource) (sql : String) (names : List String) : Prop :=
  ∃ columns rows, source.fetch (source.dialect.sent sql) = .ok (columns, rows) ∧
    names = columns.map fun column => source.dialect.columnName column.1

theorem columnNames_describeColumns (source : DataSource) (columns : List (String × Value))
    (rows : List (List Value)) :
    (describeColumns source columns rows).map ResultColumn.name =
      columns.map fun column => source.dialect.columnName column.1 := by
  rw [describeColumns]
  apply List.ext_getElem?
  intro index
  rw [List.getElem?_map, List.getElem?_mapIdx, List.getElem?_map, Option.map_map]
  rfl

private theorem columnNames_of_resultOf {source : DataSource} {sql : String}
    {result : QueryResult} (given : ResultOf source sql result) :
    NamesOf source sql result.columnNames := by
  obtain ⟨columns, fetched, described⟩ := given
  refine ⟨columns, result.rows, fetched, ?_⟩
  rw [QueryResult.columnNames, described, columnNames_describeColumns]

theorem sends_columnNames (source : DataSource) (sql : String) :
    Sends [source.dialect.sent sql] (NamesOf source sql) (columnNames source sql) := by
  rw [columnNames]
  exact asks_before (sends_query source sql) fun _ given =>
    sends_pure (columnNames_of_resultOf given)

theorem sends_delimit (source : DataSource) (name : String) :
    Sends [] (fun quoted => quoted = source.dialect.delimit name) (delimit source name) := by
  rw [delimit]
  exact asks_after (sends_requireEngine source) fun _ _ => sends_pure rfl

theorem sends_close : Sends [] (fun _ => True) close := by
  rw [close]
  apply asks_after sends_executor
  intro current _
  split
  · exact sends_pure trivial
  · apply asks_after (sends_update _)
    intro _ _
    split
    · exact asks_after sends_noteDisposed fun _ _ => sends_note _ _ _
    · exact sends_pure trivial

private theorem primaryKey_of_lookUpKey {source : DataSource} {schema : Option String}
    {table : String} {columns : List String}
    (looked : source.lookUpKey schema table = .ok columns) :
    source.primaryKey schema table = .ok columns := by
  rw [DataSource.lookUpKey] at looked
  cases found : source.primaryKey schema table with
  | error fault =>
      rw [found] at looked
      cases looked
  | ok others =>
      rw [found] at looked
      cases looked
      rfl

theorem asks_primaryKey (source : DataSource) (table : String) :
    Asks [splitTable table] []
      (fun column => ∃ columns, source.primaryKey (splitTable table).1 (splitTable table).2 =
        .ok columns ∧ column = columns.head?) (primaryKey source table) := by
  rw [primaryKey]
  apply asks_after (sends_requireEngine source)
  intro _ _
  apply asks_after (sends_guarded _ _ _)
  intro _ _
  apply asks_before (asks_noteLookup _ _)
  intro _ _
  apply asks_after (sends_guarded _ _ _)
  intro columns looked
  have known : source.primaryKey (splitTable table).1 (splitTable table).2 = .ok columns :=
    primaryKey_of_lookUpKey looked
  cases columns with
  | nil =>
      exact sends_pure ⟨_, known, rfl⟩
  | cons column others =>
      cases others with
      | nil => exact sends_pure ⟨_, known, rfl⟩
      | cons second rest =>
          exact asks_after (sends_note _ _ _) fun _ _ => sends_pure ⟨_, known, rfl⟩

theorem asks_thenClose {α : Type} {keys : List (Option String × String)} {statements : List String}
    {answers : α → Prop} {step : SessionM α} (asks : Asks keys statements answers step) :
    Asks keys statements answers (thenClose step) := by
  intro session
  obtain ⟨looked, sent, isLooked, isSent, lookups, executed, succeeded⟩ := asks session
  obtain ⟨sameLookups, sameExecuted⟩ := sends_close.trace_of_nothing (step session).2
  have closed : (thenClose step session).2 = (close (step session).2).2 := rfl
  refine ⟨looked, sent, isLooked, isSent, ?_, ?_, succeeded⟩
  · rw [closed, sameLookups, lookups]
  · rw [closed, sameExecuted, executed]

end Executor

namespace Planner

theorem sends_ofPlanning {α : Type} (result : Except PlannerError α) :
    Sends [] (fun value => result = .ok value) (ofPlanning result) := by
  cases result with
  | ok value => exact sends_pure rfl
  | error error => exact asks_throw _ _ _ _

/-! ### Partition column -/

/-- The primary keys that are looked up to find the partition column: that of the table, if none is
set. -/
def keyLookups (table : TableSettings) : List (Option String × String) :=
  match table.partitionColumn, table.tableName with
  | none, some name => [Executor.splitTable name]
  | _, _ => []

/-- The partition column: the one that is set, or else the first column of the table's key. -/
def columnOf (source : DataSource) (table : TableSettings) : Option String :=
  match table.partitionColumn, table.tableName with
  | some column, _ => some column
  | none, none => none
  | none, some name =>
    match source.primaryKey (Executor.splitTable name).1 (Executor.splitTable name).2 with
    | .ok columns => columns.head?.filter fun column => !column.isEmpty
    | .error _ => none

theorem asks_resolvePartitionColumn (source : DataSource) (table : TableSettings) :
    Asks (keyLookups table) [] (fun column => columnOf source table = some column)
      (resolvePartitionColumn source table) := by
  rw [resolvePartitionColumn.eq_def, columnOf.eq_def, keyLookups.eq_def]
  cases table.partitionColumn with
  | some column =>
      exact sends_pure rfl
  | none =>
      cases table.tableName with
      | none =>
          exact asks_throw _ _ _ _
      | some name =>
          apply asks_before (Executor.asks_primaryKey source name)
          rintro found ⟨columns, known, isFirst⟩
          dsimp only
          rw [known]
          dsimp only
          rw [← isFirst]
          cases found with
          | none =>
              exact asks_throw _ _ _ _
          | some column =>
              rw [Option.getD_some]
              by_cases empty : column.isEmpty = true
              · rw [if_pos empty]
                exact asks_throw _ _ _ _
              · rw [if_neg empty]
                apply asks_after (sends_note _ _ _)
                intro _ _
                refine sends_pure ?_
                simp [Option.filter, empty]

/-! ### Stages after it -/

/-- The boundary query: the one that is set, or else the one over all rows of the source. -/
def boundaryStatement (dialect : Dialect) (table : TableSettings) (column : String)
    (origin : Source) : String :=
  table.boundaryQuery.getD (rangeStatement dialect column origin)

theorem sends_resolveBoundaryQuery {table : TableSettings} {origin : Source}
    (chosen : table.source = .ok origin) (source : DataSource) (column : String) :
    Sends [] (fun sql => sql = boundaryStatement source.dialect table column origin)
      (resolveBoundaryQuery source table column) := by
  rw [resolveBoundaryQuery, boundaryStatement]
  cases table.boundaryQuery with
  | some sql =>
      exact sends_pure rfl
  | none =>
      apply asks_after (sends_ofPlanning _)
      intro other same
      rw [chosen] at same
      cases same
      cases origin with
      | table name =>
          apply asks_after (Executor.sends_delimit source name)
          intro quoted isQuoted
          subst isQuoted
          exact sends_pure rfl
      | query sql =>
          exact sends_pure rfl

theorem boundaryQuery_of_resolved {table : TableSettings} {origin : Source}
    (chosen : table.source = .ok origin) {source : DataSource} {column sql : String}
    {session : Session} (resolved : (resolveBoundaryQuery source table column session).1 = .ok sql) :
    sql = boundaryStatement source.dialect table column origin := by
  obtain ⟨_, _, _, _, _, _, answered⟩ := sends_resolveBoundaryQuery chosen source column session
  exact (answered sql resolved).2.2

theorem sends_findBoundary (source : DataSource) (sql : String) :
    Sends [source.dialect.sent sql] (fun _ => True) (findBoundary source sql) := by
  rw [findBoundary]
  apply asks_after (sends_note _ _ _)
  intro _ _
  apply asks_before (Executor.sends_query source sql)
  intro result _
  apply asks_after (sends_ofExcept _)
  intro boundary _
  exact asks_after (sends_note _ _ _) fun _ _ => sends_pure trivial

theorem sends_discoverFieldNames (source : DataSource) (sql : String) :
    Sends [source.dialect.sent (Conditions.apply Conditions.alwaysFalse sql)]
      (fun fieldNames => ∃ names, fieldNames = joinColumns names ∧
        Executor.NamesOf source (Conditions.apply Conditions.alwaysFalse sql) names)
      (discoverFieldNames source sql) := by
  rw [discoverFieldNames]
  exact asks_before (Executor.sends_columnNames source _) fun names given =>
    sends_pure ⟨names, rfl, given⟩

/-- The statements by which the field names of a template are found: its own one for no rows if no
columns are set, and none otherwise. -/
def discoveryStatements (dialect : Dialect) (table : TableSettings) (origin : Source) :
    List String :=
  match table.columns with
  | none => [Conditions.apply Conditions.alwaysFalse (template dialect none origin)]
  | some _ => []

/-- An extraction carries the template of its source, and the column list if one is set. -/
def Extracts (dialect : Dialect) (table : TableSettings) (origin : Source)
    (extraction : Extraction) : Prop :=
  extraction.dataSql = template dialect table.columns origin ∧
    ∀ list, table.columns = some list → extraction.fieldNames = list

theorem sends_extractionOf (source : DataSource) (table : TableSettings) (origin : Source) :
    Sends ((discoveryStatements source.dialect table origin).map source.dialect.sent)
      (Extracts source.dialect table origin) (extractionOf source table origin) := by
  rw [extractionOf.eq_def]
  unfold Extracts discoveryStatements
  cases origin with
  | table name =>
      cases table.columns with
      | none =>
          apply asks_after (Executor.sends_delimit source name)
          intro quoted isQuoted
          subst isQuoted
          apply asks_before (sends_discoverFieldNames source _)
          intro names _
          refine sends_pure ⟨rfl, ?_⟩
          intro list impossible
          cases impossible
      | some columns =>
          apply asks_after (Executor.sends_delimit source name)
          intro quoted isQuoted
          subst isQuoted
          refine sends_pure ⟨rfl, ?_⟩
          intro list same
          exact Option.some.inj same
  | query sql =>
      cases table.columns with
      | none =>
          apply asks_before (sends_discoverFieldNames source sql)
          intro names _
          refine sends_pure ⟨rfl, ?_⟩
          intro list impossible
          cases impossible
      | some columns =>
          refine sends_pure ⟨rfl, ?_⟩
          intro list same
          exact Option.some.inj same

/-- An extraction is resolved as it is written for the source. -/
theorem sends_resolveExtraction_of {source : DataSource} {table : TableSettings} {origin : Source}
    (chosen : table.source = .ok origin) {statements : List String} {answers : Extraction → Prop}
    (written : Sends statements answers (extractionOf source table origin)) :
    Sends statements answers (resolveExtraction source table) := by
  rw [resolveExtraction]
  apply asks_after (sends_ofPlanning _)
  intro other same
  rw [chosen] at same
  cases same
  apply asks_after (sends_ofPlanning _)
  intro _ _
  apply asks_before written
  intro extraction answered
  apply asks_after (sends_note _ _ _)
  intro _ _
  exact asks_after (sends_note _ _ _) fun _ _ => sends_pure answered

theorem sends_resolveExtraction {table : TableSettings} {origin : Source}
    (chosen : table.source = .ok origin) (source : DataSource) :
    Sends ((discoveryStatements source.dialect table origin).map source.dialect.sent)
      (Extracts source.dialect table origin) (resolveExtraction source table) :=
  sends_resolveExtraction_of chosen (sends_extractionOf source table origin)

theorem extracts_of_resolved {table : TableSettings} {origin : Source}
    (chosen : table.source = .ok origin) {source : DataSource} {session : Session}
    {extraction : Extraction}
    (resolved : (resolveExtraction source table session).1 = .ok extraction) :
    Extracts source.dialect table origin extraction := by
  obtain ⟨_, _, _, _, _, _, answered⟩ := sends_resolveExtraction chosen source session
  exact (answered extraction resolved).2.2

/-! ### Whole inspections -/

/-- What is asked once the partition column is known. -/
def inspectColumn (source : DataSource) (table : TableSettings) (column : String) :
    SessionM Findings := do
  let boundaryQuery ← resolveBoundaryQuery source table column
  let boundary ← findBoundary source boundaryQuery
  let extraction ← resolveExtraction source table
  return { partitionColumn := column, boundaryQuery, boundary, extraction }

theorem inspect_eq (source : DataSource) (table : TableSettings) :
    inspect source table = resolvePartitionColumn source table >>= inspectColumn source table :=
  rfl

/-- What was found was found by the stages, each of which has succeeded. -/
theorem steps_of_inspect {source : DataSource} {table : TableSettings} {session : Session}
    {findings : Findings} (found : (inspect source table session).1 = .ok findings) :
    (∃ start, (findBoundary source findings.boundaryQuery start).1 = .ok findings.boundary) ∧
      ∃ start, (resolveExtraction source table start).1 = .ok findings.extraction := by
  have whole : inspect source table session = (.ok findings, (inspect source table session).2) :=
    Prod.ext found rfl
  rw [inspect] at whole
  obtain ⟨column, _, _, whole⟩ := run_bind_eq_ok_iff.mp whole
  obtain ⟨boundaryQuery, start, _, whole⟩ := run_bind_eq_ok_iff.mp whole
  obtain ⟨boundary, later, ranged, whole⟩ := run_bind_eq_ok_iff.mp whole
  obtain ⟨extraction, _, resolved, whole⟩ := run_bind_eq_ok_iff.mp whole
  cases whole
  exact ⟨⟨start, congrArg Prod.fst ranged⟩, later, congrArg Prod.fst resolved⟩

/-- The statements for a partition column, in their order: the boundary query, and then the one that
finds the field names. -/
def statementsFor (dialect : Dialect) (table : TableSettings) (origin : Source) (column : String) :
    List String :=
  boundaryStatement dialect table column origin :: discoveryStatements dialect table origin

def Finds (dialect : Dialect) (table : TableSettings) (origin : Source) (findings : Findings) :
    Prop :=
  findings.boundaryQuery = boundaryStatement dialect table findings.partitionColumn origin ∧
    Extracts dialect table origin findings.extraction

theorem sends_inspectColumn {table : TableSettings} {origin : Source}
    (chosen : table.source = .ok origin) (source : DataSource) (column : String) :
    Sends ((statementsFor source.dialect table origin column).map source.dialect.sent)
      (fun findings => findings.partitionColumn = column ∧
        Finds source.dialect table origin findings)
      (inspectColumn source table column) := by
  rw [inspectColumn]
  apply asks_after (sends_resolveBoundaryQuery chosen source column)
  intro boundaryQuery isBoundaryQuery
  subst isBoundaryQuery
  refine asks_bind (sends_findBoundary source _) ?_
  intro boundary _
  apply asks_before (sends_resolveExtraction chosen source)
  intro extraction extracts
  exact sends_pure ⟨rfl, rfl, extracts⟩

/-- The statements that are sent if no step fails; none without a partition column. -/
def plannedStatements (source : DataSource) (table : TableSettings) (origin : Source) :
    List String :=
  match columnOf source table with
  | none => []
  | some column => statementsFor source.dialect table origin column

theorem asks_inspect {table : TableSettings} {origin : Source}
    (chosen : table.source = .ok origin) (source : DataSource) :
    Asks (keyLookups table) ((plannedStatements source table origin).map source.dialect.sent)
      (fun findings => columnOf source table = some findings.partitionColumn ∧
        Finds source.dialect table origin findings)
      (inspect source table) := by
  rw [inspect_eq, ← List.append_nil (keyLookups table)]
  refine asks_bind (asks_resolvePartitionColumn source table) ?_
  intro column known
  rw [plannedStatements, known]
  refine (sends_inspectColumn chosen source column).weaken ?_
  rintro findings ⟨same, finds⟩
  exact ⟨by rw [same], finds⟩

end Planner
end ImportPlanning
