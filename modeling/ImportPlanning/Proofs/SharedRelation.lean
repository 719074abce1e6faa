/-
The relation that the boundary query and the extraction have in common. Where no boundary query is
set, the one that planning writes ranges over the relation whose rows the template extracts, and
without any predicate on them: a table as it is quoted, or the statement of the source in brackets
with a true predicate for its tokens.

What the data source makes of the two statements is left open.
-/
import ImportPlanning.Proofs.Stages
import ImportPlanning.Proofs.Substitution

namespace ImportPlanning.Planner

open SessionM

/-- The column of which the range is asked: as it is given, or taken from the subquery. -/
def rangedColumn (column : String) : Source → String
  | .table _ => column
  | .query _ => "sub." ++ column

/-- The template extracts rows of the relation. That of a table reads from it, with the token as its
only condition; that of a statement reads from it once its tokens are true, or is the statement in
its brackets. -/
def ExtractsRowsOf (relation : String) (columns : Option String) (dataSql : String) : Source → Prop
  | .table _ =>
    dataSql =
      "SELECT " ++ columns.getD "*" ++ " FROM " ++ relation ++ " WHERE $\x7bCONDITIONS\x7d"
  | .query _ =>
    match columns with
    | some list =>
      Conditions.apply "1 = 1" dataSql = "SELECT " ++ subqueryColumns list ++ " FROM " ++ relation
    | none => relation = "(" ++ Conditions.apply "1 = 1" dataSql ++ ") sub"

/-- The boundary query asks for the range of the column over a relation, which is what stands after
its `FROM`, and the template extracts rows of the same. -/
def SharesRelation (table : TableSettings) (origin : Source) (column boundaryQuery dataSql : String) :
    Prop :=
  ∃ relation,
    boundaryQuery =
      "SELECT MIN(" ++ rangedColumn column origin ++ "), MAX(" ++ rangedColumn column origin ++
        ") FROM " ++ relation ∧
    ExtractsRowsOf relation table.columns dataSql origin

section

variable {table : TableSettings} {origin : Source} (chosen : table.source = .ok origin)

include chosen

/-- The two statements that planning writes for a source have their relation in common. -/
theorem sharesRelation_of_source (free : NamesFree table) (dialect : Dialect) (column : String) :
    SharesRelation table origin column (rangeStatement dialect column origin)
      (template dialect table.columns origin) := by
  have applied := apply_template chosen free dialect "1 = 1"
  cases origin with
  | table name =>
      exact ⟨dialect.delimit name, rfl, template_table dialect table.columns name⟩
  | query sql =>
      refine ⟨subquery (Conditions.apply "1 = 1" sql), rfl, ?_⟩
      rw [ExtractsRowsOf.eq_def]
      cases selected : table.columns with
      | none =>
          exact subquery_eq (Conditions.apply "1 = 1" sql)
      | some list =>
          rw [selected] at applied
          dsimp only
          rw [applied, restricted]
          apply String.toList_injective
          simp [subquery_eq]

end

theorem resolveBoundaryQuery_of_isReady {session : Session} (ready : session.IsReady)
    (source : DataSource) {table : TableSettings} {origin : Source}
    (chosen : table.source = .ok origin) (column : String) :
    ∃ boundaryQuery,
      resolveBoundaryQuery source table column session = (.ok boundaryQuery, session) := by
  rw [resolveBoundaryQuery]
  cases table.boundaryQuery with
  | some sql =>
      exact ⟨sql, rfl⟩
  | none =>
      dsimp only
      rw [chosen, run_bind, run_ofPlanning_ok]
      cases origin with
      | table name =>
          dsimp only
          rw [run_bind, Executor.delimit_of_isReady ready]
          exact ⟨_, rfl⟩
      | query sql =>
          exact ⟨_, rfl⟩

/-- Where no boundary query is set, the one that is resolved and the extraction that is resolved have
their relation in common, whatever executors they are resolved with, and so do those of a plan. An
executor with an engine always comes to a boundary query, and to an extraction where the columns are
set. -/
theorem boundary_shares_relation {table : TableSettings} {origin : Source}
    (chosen : table.source = .ok origin) (free : NamesFree table)
    (unset : table.boundaryQuery = none) (source : DataSource) :
    (∀ (column boundaryQuery : String) (extraction : Extraction) (start other : Session),
      (resolveBoundaryQuery source table column start).1 = .ok boundaryQuery →
      (resolveExtraction source table other).1 = .ok extraction →
      SharesRelation table origin column boundaryQuery extraction.dataSql) ∧
    (∀ session : Session, session.IsReady →
      (∀ column, ∃ boundaryQuery,
        resolveBoundaryQuery source table column session = (.ok boundaryQuery, session)) ∧
      (origin.ensureConditions = .ok () → table.columns ≠ none → ∃ extraction after,
        resolveExtraction source table session = (.ok extraction, after))) ∧
    ∀ (isBorrowed : Bool) (connection : ConnectionSettings) (workspace : Workspace)
      (plan : ImportPlan),
      (planInto source isBorrowed connection table workspace).1 = .ok plan →
      SharesRelation table origin plan.partitionColumn plan.boundaryQuery
        plan.extraction.dataSql := by
  have written : ∀ column, boundaryStatement source.dialect table column origin =
      rangeStatement source.dialect column origin := by
    intro column
    rw [boundaryStatement, unset, Option.getD_none]
  refine ⟨?_, ?_, ?_⟩
  · intro column boundaryQuery extraction start other asked extracted
    obtain ⟨_, _, _, _, _, _, answered⟩ := sends_resolveBoundaryQuery chosen source column start
    obtain ⟨_, _, _, _, _, _, given⟩ := sends_resolveExtraction chosen source other
    have isBoundary := (answered boundaryQuery asked).2.2
    have isTemplate := (given extraction extracted).2.2.1
    rw [isBoundary, isTemplate, written]
    exact sharesRelation_of_source chosen free source.dialect column
  · intro session ready
    constructor
    · exact resolveBoundaryQuery_of_isReady ready source chosen
    · exact resolveExtraction_of_isReady ready source chosen
  · intro isBorrowed connection workspace plan planned
    have inspects :=
      inspects_of_checks (passed_of_plan planned) chosen source isBorrowed workspace
    obtain ⟨_, isBoundary, isTemplate, _⟩ := inspects.sentAll plan planned
    rw [isBoundary, isTemplate, written]
    exact sharesRelation_of_source chosen free source.dialect plan.partitionColumn

/-- A data source that answers no statement. -/
private def answerless : DataSource :=
  { dialect := .sqlite
    typeObjects := .none
    queries := []
    primaryKeys := []
    connectFault := none
    createFault := none }

private def equipped : Session :=
  ⟨⟨"sqlite", "sqlite://", none, none, true, true, false⟩, .empty, []⟩

/-- A statement with two tokens and a list with blanks: bounds and rows are those of one subquery. -/
theorem boundary_shares_relation_listed :
    let sql := "SELECT a, b FROM t WHERE $\x7bCONDITIONS\x7d OR NOT ($\x7bCONDITIONS\x7d)"
    let table : TableSettings := ⟨none, some sql, some "a , b", some "a", none⟩
    let boundaryQuery :=
      "SELECT MIN(sub.a), MAX(sub.a) FROM (SELECT a, b FROM t WHERE 1 = 1 OR NOT (1 = 1)) sub"
    let dataSql := "SELECT sub.a, sub.b FROM (" ++ sql ++ ") sub"
    (resolveBoundaryQuery answerless table "a" equipped).1 = .ok boundaryQuery ∧
      (resolveExtraction answerless table equipped).1 = .ok ⟨dataSql, "a , b"⟩ ∧
      SharesRelation table (.query sql) "a" boundaryQuery dataSql := by
  intro sql table boundaryQuery dataSql
  have free : NamesFree table := by
    constructor
    · intro name impossible
      cases impossible
    · intro list same
      cases same
      decide
  have asked : (resolveBoundaryQuery answerless table "a" equipped).1 = .ok boundaryQuery :=
    toOption_eq_some_iff.mp (by decide +kernel)
  have extracted : (resolveExtraction answerless table equipped).1 = .ok ⟨dataSql, "a , b"⟩ :=
    toOption_eq_some_iff.mp (by decide +kernel)
  have chosen : table.source = .ok (.query sql) := rfl
  obtain ⟨shares, _, _⟩ := boundary_shares_relation chosen free rfl answerless
  exact ⟨asked, extracted,
    shares "a" boundaryQuery ⟨dataSql, "a , b"⟩ equipped equipped asked extracted⟩

end ImportPlanning.Planner
