/-
What a later stage gets when it puts the row filter of a partition in the place of the tokens of a
published statement, and how the search for field names uses the same statement.
-/
import ImportPlanning.Proofs.Statements

namespace ImportPlanning

open SessionM

/-! ### Executors that are ready -/

/-- The executor is open and has its engine. -/
def Session.IsReady (session : Session) : Prop :=
  session.executor.isClosed = false ∧ session.executor.hasEngine = true

theorem Executor.requireEngine_of_isReady {session : Session} (ready : session.IsReady)
    (source : DataSource) : requireEngine source session = (.ok (), session) := by
  obtain ⟨isOpen, hasEngine⟩ := ready
  rw [requireEngine, run_bind, run_executor]
  dsimp only
  rw [isOpen, hasEngine, if_neg Bool.false_ne_true, if_pos rfl, run_pure]

theorem Executor.delimit_of_isReady {session : Session} (ready : session.IsReady)
    (source : DataSource) (name : String) :
    delimit source name session = (.ok (source.dialect.delimit name), session) := by
  rw [delimit, run_bind, requireEngine_of_isReady ready]
  rfl

namespace Planner

@[simp] theorem run_ofPlanning_ok {α : Type} (value : α) (session : Session) :
    ofPlanning (.ok value) session = (.ok value, session) :=
  rfl

/-! ### Published statements -/

private theorem extractionOf_of_isReady {session : Session} (ready : session.IsReady)
    (source : DataSource) {table : TableSettings} {list : String} (selected : table.columns = some list)
    (origin : Source) :
    ∃ extraction, extractionOf source table origin session = (.ok extraction, session) := by
  rw [extractionOf.eq_def, selected]
  cases origin with
  | table name =>
      refine ⟨⟨tableTemplate list (source.dialect.delimit name), list⟩, ?_⟩
      dsimp only
      rw [run_bind, Executor.delimit_of_isReady ready]
      rfl
  | query sql =>
      exact ⟨⟨queryTemplate list sql, list⟩, rfl⟩

theorem resolveExtraction_of_isReady {session : Session} (ready : session.IsReady)
    (source : DataSource) {table : TableSettings} {origin : Source}
    (chosen : table.source = .ok origin) (checked : origin.ensureConditions = .ok ())
    (selected : table.columns ≠ none) :
    ∃ extraction after, resolveExtraction source table session = (.ok extraction, after) := by
  obtain ⟨list, isList⟩ := Option.ne_none_iff_exists'.mp selected
  obtain ⟨extraction, isExtraction⟩ := extractionOf_of_isReady ready source isList origin
  refine ⟨extraction, ?_⟩
  rw [resolveExtraction, chosen, run_bind, run_ofPlanning_ok]
  dsimp only
  rw [checked, run_bind, run_ofPlanning_ok]
  dsimp only
  rw [run_bind, isExtraction]
  exact ⟨_, rfl⟩

private theorem discoveryStatements_eq {table : TableSettings} {origin : Source}
    (chosen : table.source = .ok origin) (free : NamesFree table) (dialect : Dialect) :
    discoveryStatements dialect table origin =
      match table.columns with
      | none => [restricted dialect none Conditions.alwaysFalse origin]
      | some _ => [] := by
  rw [discoveryStatements.eq_def]
  cases selected : table.columns with
  | none =>
      have whole := apply_template chosen free dialect Conditions.alwaysFalse
      rw [selected] at whole
      simp only [whole]
  | some list =>
      rfl

/-- The published statement has the tokens of the source, or one if that is a table, and a predicate
in their place gives the statement for the rows that meet it. Field names are found by the published
statement for no rows. Where the columns are set, an executor with an engine always comes to an
extraction. -/
theorem resolveExtraction_substitutes {table : TableSettings} {origin : Source}
    (chosen : table.source = .ok origin) (checked : origin.ensureConditions = .ok ())
    (free : NamesFree table) (source : DataSource) (session : Session) :
    (∀ extraction after, resolveExtraction source table session = (.ok extraction, after) →
      Conditions.occurs extraction.dataSql = true ∧
      Conditions.count extraction.dataSql = tokenCount origin ∧
      (∀ predicate, Conditions.apply predicate extraction.dataSql =
        restricted source.dialect table.columns predicate origin) ∧
      after.trace.executed = session.trace.executed ++
        (match table.columns with
          | none =>
            [source.dialect.sent
              (restricted source.dialect none Conditions.alwaysFalse origin)]
          | some _ => [])) ∧
    (table.columns ≠ none → session.IsReady →
      ∃ extraction after, resolveExtraction source table session = (.ok extraction, after)) := by
  constructor
  · intro extraction after returned
    obtain ⟨_, sent, _, _, _, executed, succeeded⟩ :=
      sends_resolveExtraction chosen source session
    rw [returned] at executed succeeded
    obtain ⟨_, complete, written, _⟩ := succeeded extraction rfl
    have counted : Conditions.count extraction.dataSql = tokenCount origin := by
      rw [written, count_template chosen free]
    refine ⟨?_, counted, ?_, ?_⟩
    · rw [Conditions.occurs_iff_count_pos, counted]
      exact tokenCount_pos checked
    · intro predicate
      rw [written, apply_template chosen free]
    · rw [executed, complete, discoveryStatements_eq chosen free]
      cases table.columns <;> rfl
  · intro selected ready
    exact resolveExtraction_of_isReady ready source chosen checked selected

/-- A data source that gives two columns and no rows for every statement. -/
private def twoColumns : DataSource :=
  { dialect := .postgresql
    typeObjects := .none
    queries := [⟨none, .ok ⟨some [("id", .null), ("total", .null)], [], none⟩⟩]
    primaryKeys := []
    connectFault := none
    createFault := none }

private def borrowing : Session :=
  ⟨⟨"postgresql", "postgresql://host/shop", none, none, true, true, false⟩, .empty, []⟩

/-- A name with a percent sign and a quote, whose fields are found by asking for no rows. -/
theorem resolveExtraction_substitutes_percent :
    let table : TableSettings := ⟨some "shop.50%\"off", none, none, none, none⟩
    let run := resolveExtraction twoColumns table borrowing
    let dataSql := "SELECT * FROM \"shop\".\"50%%\"\"off\" WHERE $\x7bCONDITIONS\x7d"
    run.1 = .ok ⟨dataSql, "id,total"⟩ ∧
      Conditions.apply "id < 9" dataSql =
        "SELECT * FROM \"shop\".\"50%%\"\"off\" WHERE id < 9" ∧
      run.2.trace.executed = ["SELECT * FROM \"shop\".\"50%%%%\"\"off\" WHERE 1 = 0"] := by
  intro table run dataSql
  have returned : run.1 = .ok ⟨dataSql, "id,total"⟩ := rfl
  have free : NamesFree table := by
    constructor
    · intro name same
      cases same
      decide
    · intro list impossible
      cases impossible
  have substituted := (resolveExtraction_substitutes (show table.source = .ok (.table _) from rfl) rfl free
    twoColumns borrowing).1 ⟨dataSql, "id,total"⟩ run.2 (Prod.ext returned rfl)
  exact ⟨returned, substituted.2.2.1 "id < 9", substituted.2.2.2⟩

end Planner
end ImportPlanning
