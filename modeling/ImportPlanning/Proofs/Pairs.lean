/-
One step taken in two sessions. A relation between two sessions that the same notes in both keep,
and asking for the engine in both too, is one that every operation and every stage of planning
keeps; the operation comes to one result in both.

Closing an executor is not among them.
-/
import ImportPlanning.Planner
import ImportPlanning.Proofs.Agreement

namespace ImportPlanning

open SessionM

/-! ### Related sessions -/

/-- A relation between two sessions that the same note in both keeps. -/
structure PairFrame (states : Session → Session → Prop) : Prop where
  noted : ∀ left right record, states left right →
    states { left with journal := left.journal ++ [record] }
      { right with journal := right.journal ++ [record] }
  executed : ∀ left right statement, states left right →
    states { left with trace := left.trace.noteExecuted statement }
      { right with trace := right.trace.noteExecuted statement }
  lookedUp : ∀ left right schema table, states left right →
    states { left with trace := left.trace.noteLookup schema table }
      { right with trace := right.trace.noteLookup schema table }

/-- From related sessions on, the step comes to one result and to related sessions. -/
abbrev Respects {α : Type} (states : Session → Session → Prop) (step : SessionM α) : Prop :=
  Agree states Eq step step

section

variable {α β : Type} {states : Session → Session → Prop}

theorem respects_pure (value : α) : Respects states (pure value) :=
  agree_pure rfl

theorem respects_throw (failure : Failure) : Respects states (throw failure : SessionM α) :=
  agree_throw _ failure

theorem respects_bind {step : SessionM α} {next : α → SessionM β}
    (begins : Respects states step) (goesOn : ∀ value, Respects states (next value)) :
    Respects states (step >>= next) := by
  refine agree_bind begins ?_
  intro value other equal
  subst equal
  exact goesOn value

theorem respects_ofExcept (result : Except Failure α) :
    Respects states (ofExcept result : SessionM α) :=
  agree_ofExcept (.of_eq (fun _ => rfl) rfl)

section

variable (frame : PairFrame states)

include frame

theorem respects_note (severity : Severity) (logger message : String) :
    Respects states (note severity logger message) :=
  agree_modify fun left right related => frame.noted left right _ related

theorem respects_noteExecuted (statement : String) :
    Respects states (record (Trace.noteExecuted statement)) :=
  agree_modify fun left right related => frame.executed left right statement related

theorem respects_noteLookup (schema : Option String) (table : String) :
    Respects states (record (Trace.noteLookup schema table)) :=
  agree_modify fun left right related => frame.lookedUp left right schema table related

end

end

/-! ### Operations -/

namespace Executor

section

variable {α : Type} {states : Session → Session → Prop} (frame : PairFrame states)

include frame

theorem respects_failOperation (operation : String) (details : List (String × Value))
    (cause : Cause) : Respects states (failOperation operation details cause : SessionM α) :=
  respects_bind (respects_note frame _ _ _) fun _ => respects_throw _

theorem respects_guarded (operation : String) (details : List (String × Value))
    (result : Except AccessFault α) : Respects states (guarded operation details result) := by
  cases result with
  | ok value =>
      exact respects_pure value
  | error fault =>
      cases fault with
      | known cause => exact respects_failOperation frame _ _ _
      | foreign fault => exact respects_throw _

theorem respects_runStatement (source : DataSource) (sql : String) :
    Respects states (runStatement source sql) := by
  rw [runStatement]
  refine respects_bind (respects_guarded frame _ _ _) ?_
  intro _
  dsimp only
  cases (Statement.prepare source.dialect sql).parameter with
  | some name =>
      exact respects_failOperation frame _ _ _
  | none =>
      exact respects_bind (respects_noteExecuted frame _) fun _ => respects_guarded frame _ _ _

end

section

variable {states : Session → Session → Prop} {source : DataSource} (frame : PairFrame states)
  (engine : Respects states (requireEngine source))

include frame engine

theorem respects_query (sql : String) : Respects states (query source sql) := by
  rw [query]
  refine respects_bind (respects_note frame _ _ _) ?_
  intro _
  refine respects_bind engine ?_
  intro _
  refine respects_bind (respects_runStatement frame source sql) ?_
  intro fetched
  exact respects_bind (respects_note frame _ _ _) fun _ => respects_pure _

theorem respects_columnNames (sql : String) : Respects states (columnNames source sql) := by
  rw [columnNames]
  exact respects_bind (respects_query frame engine sql) fun _ => respects_pure _

theorem respects_primaryKey (table : String) : Respects states (primaryKey source table) := by
  rw [primaryKey]
  refine respects_bind engine ?_
  intro _
  refine respects_bind (respects_guarded frame _ _ _) ?_
  intro _
  refine respects_bind (respects_noteLookup frame _ _) ?_
  intro _
  refine respects_bind (respects_guarded frame _ _ _) ?_
  intro columns
  cases columns with
  | nil => exact respects_pure _
  | cons column others =>
      cases others with
      | nil => exact respects_pure _
      | cons second rest =>
          exact respects_bind (respects_note frame _ _ _) fun _ => respects_pure _

omit frame in
theorem respects_delimit (name : String) : Respects states (delimit source name) := by
  rw [delimit]
  exact respects_bind engine fun _ => respects_pure _

end

theorem respects_thenClose {α : Type} {states : Session → Session → Prop} {step : SessionM α}
    (closing : Respects states close) (begins : Respects states step) :
    Respects states (thenClose step) := by
  intro left right related
  obtain ⟨results, after⟩ := begins left right related
  exact ⟨results, (closing _ _ after).2⟩

end Executor

/-! ### Stages of planning -/

namespace Planner

theorem respects_ofPlanning {α : Type} {states : Session → Session → Prop}
    (result : Except PlannerError α) : Respects states (ofPlanning result) := by
  cases result with
  | ok value => exact respects_pure value
  | error error => exact respects_throw _

section

variable {states : Session → Session → Prop} {source : DataSource} (frame : PairFrame states)
  (engine : Respects states (Executor.requireEngine source))

include frame engine

theorem respects_resolvePartitionColumn (table : TableSettings) :
    Respects states (resolvePartitionColumn source table) := by
  rw [resolvePartitionColumn.eq_def]
  split
  · exact respects_pure _
  · exact respects_throw _
  · refine respects_bind (Executor.respects_primaryKey frame engine _) ?_
    intro found
    dsimp only
    split
    · exact respects_throw _
    · exact respects_bind (respects_note frame _ _ _) fun _ => respects_pure _

omit frame in
theorem respects_resolveBoundaryQuery (table : TableSettings) (column : String) :
    Respects states (resolveBoundaryQuery source table column) := by
  rw [resolveBoundaryQuery]
  split
  · exact respects_pure _
  · refine respects_bind (respects_ofPlanning _) ?_
    intro origin
    cases origin with
    | table name =>
        exact respects_bind (Executor.respects_delimit engine name) fun _ =>
          respects_pure _
    | query sql => exact respects_pure _

theorem respects_findBoundary (sql : String) : Respects states (findBoundary source sql) := by
  rw [findBoundary]
  refine respects_bind (respects_note frame _ _ _) ?_
  intro _
  refine respects_bind (Executor.respects_query frame engine sql) ?_
  intro result
  refine respects_bind (respects_ofExcept _) ?_
  intro boundary
  exact respects_bind (respects_note frame _ _ _) fun _ => respects_pure _

theorem respects_discoverFieldNames (sql : String) :
    Respects states (discoverFieldNames source sql) := by
  rw [discoverFieldNames]
  exact respects_bind (Executor.respects_columnNames frame engine _) fun _ => respects_pure _

theorem respects_extractionOf (table : TableSettings) (origin : Source) :
    Respects states (extractionOf source table origin) := by
  rw [extractionOf.eq_def]
  split
  · refine respects_bind (Executor.respects_delimit engine _) ?_
    intro quoted
    exact respects_bind (respects_discoverFieldNames frame engine _) fun _ => respects_pure _
  · exact respects_bind (Executor.respects_delimit engine _) fun _ => respects_pure _
  · exact respects_bind (respects_discoverFieldNames frame engine _) fun _ => respects_pure _
  · exact respects_pure _

theorem respects_resolveExtraction (table : TableSettings) :
    Respects states (resolveExtraction source table) := by
  rw [resolveExtraction]
  refine respects_bind (respects_ofPlanning _) ?_
  intro origin
  refine respects_bind (respects_ofPlanning _) ?_
  intro _
  refine respects_bind (respects_extractionOf frame engine table origin) ?_
  intro extraction
  refine respects_bind (respects_note frame _ _ _) ?_
  intro _
  exact respects_bind (respects_note frame _ _ _) fun _ => respects_pure _

theorem respects_inspect (table : TableSettings) : Respects states (inspect source table) := by
  rw [inspect]
  refine respects_bind (respects_resolvePartitionColumn frame engine table) ?_
  intro column
  refine respects_bind (respects_resolveBoundaryQuery engine table column) ?_
  intro sql
  refine respects_bind (respects_findBoundary frame engine sql) ?_
  intro boundary
  exact respects_bind (respects_resolveExtraction frame engine table) fun _ => respects_pure _

end

end Planner
end ImportPlanning
