/-
No statement that is sent holds the conditions token. The texts that are written beside the source's
own statement bring none, and the token in that statement gives way to a predicate that shares no
character with it, so that none arises around the predicate, however the tokens stand.

The column list is not asked to be free of tokens: it stands only in the published template.
-/
import ImportPlanning.Proofs.Preparation
import ImportPlanning.Proofs.Stages

namespace ImportPlanning.Planner

open Conditions (Free)

/-! ### Boundary query -/

private theorem free_subquery {sql : String} (free : Free sql) : Free (subquery sql) := by
  have aliasFree : Free subqueryAlias := by decide
  rw [subquery, Conditions.free_separated (by decide), Conditions.free_after (by decide)]
  exact ⟨free, aliasFree⟩

private theorem free_qualify {column : String} (free : Free column) :
    Free (Executor.qualify column subqueryAlias) := by
  have aliasFree : Free subqueryAlias := by decide
  rw [Executor.qualify, Conditions.free_separated (by decide)]
  exact ⟨aliasFree, free⟩

private theorem free_rangeQuery {column relation : String} (columnFree : Free column)
    (relationFree : Free relation) : Free (rangeQuery column relation) := by
  have front : Free ("SELECT MIN(" ++ column) := (Conditions.free_after (by decide) _).mpr columnFree
  have both : Free ("SELECT MIN(" ++ column ++ "), MAX(" ++ column) :=
    (Conditions.free_separated (by decide) _ _).mpr ⟨front, columnFree⟩
  exact (Conditions.free_separated (by decide) _ _).mpr ⟨both, relationFree⟩

theorem free_alwaysTrue (sql : String) : Free (Conditions.apply Conditions.alwaysTrue sql) :=
  Conditions.free_apply (by decide) sql

theorem free_alwaysFalse (sql : String) : Free (Conditions.apply Conditions.alwaysFalse sql) :=
  Conditions.free_apply (by decide) sql

/-- The boundary query over a source holds no token if the column and the table name hold none. -/
theorem free_rangeStatement (dialect : Dialect) {column : String} {origin : Source}
    (columnFree : Free column) (named : ∀ name, origin = .table name → Free name) :
    Free (rangeStatement dialect column origin) := by
  cases origin with
  | table name =>
      exact free_rangeQuery columnFree (Conditions.free_delimit dialect (named name rfl))
  | query sql =>
      exact free_rangeQuery (free_qualify columnFree) (free_subquery (free_alwaysTrue sql))

/-! ### Planned statements -/

/-- What planning writes into statements beside the source's own one holds no token: the boundary
query where one is set, the partition column, set or found as key, and the table name. -/
structure BringsNoToken (source : DataSource) (table : TableSettings) : Prop where
  boundaryQuery : ∀ sql, table.boundaryQuery = some sql → Free sql
  column : ∀ column, columnOf source table = some column → Free column
  tableName : ∀ name, table.tableName = some name → Free name

section

variable {source : DataSource} {table : TableSettings} {origin : Source}
  (free : BringsNoToken source table) (chosen : table.source = .ok origin)

include free chosen

private theorem free_boundaryStatement {column : String}
    (known : columnOf source table = some column) :
    Free (boundaryStatement source.dialect table column origin) := by
  rw [boundaryStatement]
  cases set : table.boundaryQuery with
  | some sql =>
      exact free.boundaryQuery sql set
  | none =>
      refine free_rangeStatement source.dialect (free.column column known) ?_
      rintro name rfl
      exact free.tableName name (tableName_of_source chosen)

theorem free_plannedStatements :
    ∀ statement ∈ plannedStatements source table origin, Free statement := by
  intro statement planned
  rw [plannedStatements] at planned
  cases known : columnOf source table with
  | none =>
      rw [known] at planned
      cases planned
  | some column =>
      rw [known] at planned
      rcases List.mem_cons.mp planned with rfl | discovers
      · exact free_boundaryStatement free chosen known
      · rw [discoveryStatements.eq_def] at discovers
        cases selected : table.columns with
        | none =>
            rw [selected] at discovers
            rw [List.mem_singleton.mp discovers]
            exact free_alwaysFalse _
        | some list =>
            rw [selected] at discovers
            cases discovers

end

/-- However the tokens stand in the source's own statement, no statement that an attempt sends holds
one. -/
theorem planInto_sends_no_token {source : DataSource} {table : TableSettings}
    (free : BringsNoToken source table) (isBorrowed : Bool) (connection : ConnectionSettings)
    (workspace : Workspace) :
    ∃ sent, (planInto source isBorrowed connection table workspace).2.trace.executed =
        workspace.trace.executed ++ sent ∧
      ∀ statement ∈ sent, ¬ Conditions.token.toList <:+: statement.toList := by
  cases checked : firstFailure (checks connection table) with
  | some error =>
      rw [planInto_of_failure checked]
      exact ⟨[], (List.append_nil _).symm, fun _ none => absurd none List.not_mem_nil⟩
  | none =>
      obtain ⟨origin, chosen⟩ := source_of_checks checked
      obtain ⟨sent, isSent, executed⟩ :=
        (inspects_of_checks checked chosen source isBorrowed workspace).sentFirst
      refine ⟨sent, executed, ?_⟩
      intro statement member
      -- what the driver gets is a planned statement made ready, and both steps make no token
      obtain ⟨planned, isPlanned, rfl⟩ := List.mem_map.mp (isSent.subset member)
      rw [← Conditions.free_iff]
      exact Statement.free_prepare source.dialect
        (free_plannedStatements free chosen planned isPlanned)

/-- A data source that gives one row of two cells for every statement. -/
private def oneRow : DataSource :=
  { dialect := .mysql
    typeObjects := .none
    queries :=
      [⟨none, .ok ⟨some [("id", .null), ("total", .null)], [[.integer 1, .integer 9]], none⟩⟩]
    primaryKeys := []
    connectFault := none
    createFault := none }

/-- Tokens side by side, and one among the pieces of another. -/
theorem planInto_sends_no_token_nested :
    let sql := "SELECT $\x7bCOND$\x7bCONDITIONS\x7dITIONS\x7d$\x7bCONDITIONS\x7d%"
    let table : TableSettings := ⟨none, some sql, none, some "id", none⟩
    let connection : ConnectionSettings := ⟨some "mysql", some "mysql://host/shop", none, none⟩
    let run := planInto oneRow false connection table (.ofContext .empty)
    BringsNoToken oneRow table ∧
      run.2.trace.executed =
        ["SELECT MIN(sub.id), MAX(sub.id) FROM (SELECT $\x7bCOND1 = 1ITIONS\x7d1 = 1%%) sub",
          "SELECT $\x7bCOND1 = 0ITIONS\x7d1 = 0%%"] ∧
      ∀ statement ∈ run.2.trace.executed, ¬ Conditions.token.toList <:+: statement.toList := by
  intro sql table connection run
  have free : BringsNoToken oneRow table := by
    constructor
    · intro other impossible
      cases impossible
    · intro column same
      cases same
      decide
    · intro name impossible
      cases impossible
  obtain ⟨sent, executed, none⟩ :=
    planInto_sends_no_token free false connection (.ofContext .empty)
  refine ⟨free, by decide +kernel, ?_⟩
  intro statement member
  have same : run.2.trace.executed = sent := executed.trans (List.nil_append sent)
  exact none statement (same ▸ member)

end ImportPlanning.Planner
