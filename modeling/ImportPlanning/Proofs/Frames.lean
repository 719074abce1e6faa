/-
What the operations leave alone. Beside asking for its engine, an operation of an executor only
writes into the journal and notes statements and lookups in the trace; so does each stage of
planning. A relation between sessions that these notes stay within, and asking for the engine too, is
one that every operation and every stage stays within, whether it succeeds or not.

Closing an executor is not among them.
-/
import ImportPlanning.Planner
import ImportPlanning.Proofs.Session

namespace ImportPlanning

/-! ### Relations between sessions -/

/-- A relation between a session and a later one that notes stay within. -/
structure Frame (relation : Session → Session → Prop) : Prop where
  refl : ∀ session, relation session session
  trans : ∀ {first second third}, relation first second → relation second third →
    relation first third
  noted : ∀ session record,
    relation session { session with journal := session.journal ++ [record] }
  executed : ∀ session statement,
    relation session { session with trace := session.trace.noteExecuted statement }
  lookedUp : ∀ session schema table,
    relation session { session with trace := session.trace.noteLookup schema table }

namespace SessionM

variable {α β : Type} {relation : Session → Session → Prop}

/-- From any session on, the step stays within a relation, whatever it comes to. -/
def Keeps (relation : Session → Session → Prop) (step : SessionM α) : Prop :=
  ∀ session, relation session (step session).2

section

variable (frame : Frame relation)

include frame

theorem keeps_pure (value : α) : Keeps relation (pure value) :=
  frame.refl

theorem keeps_throw (failure : Failure) : Keeps relation (throw failure : SessionM α) :=
  frame.refl

theorem keeps_ofExcept (result : Except Failure α) :
    Keeps relation (ofExcept result : SessionM α) := by
  cases result with
  | ok value => exact keeps_pure frame value
  | error failure => exact keeps_throw frame failure

theorem keeps_note (severity : Severity) (logger message : String) :
    Keeps relation (note severity logger message) :=
  fun session => frame.noted session _

theorem keeps_noteExecuted (statement : String) :
    Keeps relation (record (Trace.noteExecuted statement)) :=
  fun session => frame.executed session _

theorem keeps_noteLookup (schema : Option String) (table : String) :
    Keeps relation (record (Trace.noteLookup schema table)) :=
  fun session => frame.lookedUp session _ _

theorem keeps_bind {step : SessionM α} {next : α → SessionM β} (first : Keeps relation step)
    (later : ∀ value, Keeps relation (next value)) : Keeps relation (step >>= next) := by
  intro session
  have begins := first session
  rw [run_bind]
  revert begins
  rcases step session with ⟨result, between⟩
  intro begins
  cases result with
  | error failure => exact begins
  | ok value => exact frame.trans begins (later value between)

end

end SessionM

open SessionM

/-! ### Operations -/

namespace Executor

section

variable {α : Type} {relation : Session → Session → Prop} (frame : Frame relation)

include frame

theorem keeps_failOperation (operation : String) (details : List (String × Value))
    (cause : Cause) : Keeps relation (failOperation operation details cause : SessionM α) := by
  rw [failOperation]
  exact keeps_bind frame (keeps_note frame _ _ _) fun _ => keeps_throw frame _

theorem keeps_guarded (operation : String) (details : List (String × Value))
    (result : Except AccessFault α) : Keeps relation (guarded operation details result) := by
  cases result with
  | ok value =>
      exact keeps_pure frame value
  | error fault =>
      cases fault with
      | known cause => exact keeps_failOperation frame operation details cause
      | foreign fault => exact keeps_throw frame _

theorem keeps_runStatement (source : DataSource) (sql : String) :
    Keeps relation (runStatement source sql) := by
  rw [runStatement]
  apply keeps_bind frame (keeps_guarded frame _ _ _)
  intro _
  dsimp only
  cases (Statement.prepare source.dialect sql).parameter with
  | some name =>
      exact keeps_failOperation frame _ _ _
  | none =>
      exact keeps_bind frame (keeps_noteExecuted frame _) fun _ => keeps_guarded frame _ _ _

end

section

variable {relation : Session → Session → Prop} {source : DataSource} (frame : Frame relation)
  (engine : Keeps relation (requireEngine source))

include frame engine

theorem keeps_query (sql : String) : Keeps relation (query source sql) := by
  rw [query]
  apply keeps_bind frame (keeps_note frame _ _ _)
  intro _
  apply keeps_bind frame engine
  intro _
  apply keeps_bind frame (keeps_runStatement frame source sql)
  intro _
  exact keeps_bind frame (keeps_note frame _ _ _) fun _ => keeps_pure frame _

theorem keeps_columnNames (sql : String) : Keeps relation (columnNames source sql) := by
  rw [columnNames]
  exact keeps_bind frame (keeps_query frame engine sql) fun _ => keeps_pure frame _

theorem keeps_primaryKey (table : String) : Keeps relation (primaryKey source table) := by
  rw [primaryKey]
  apply keeps_bind frame engine
  intro _
  apply keeps_bind frame (keeps_guarded frame _ _ _)
  intro _
  apply keeps_bind frame (keeps_noteLookup frame _ _)
  intro _
  apply keeps_bind frame (keeps_guarded frame _ _ _)
  intro columns
  cases columns with
  | nil =>
      exact keeps_pure frame none
  | cons column others =>
      cases others with
      | nil =>
          exact keeps_pure frame (some column)
      | cons second rest =>
          exact keeps_bind frame (keeps_note frame _ _ _) fun _ => keeps_pure frame _

theorem keeps_delimit (name : String) : Keeps relation (delimit source name) := by
  rw [delimit]
  exact keeps_bind frame engine fun _ => keeps_pure frame _

end

end Executor

/-! ### Stages of planning -/

namespace Planner

theorem keeps_ofPlanning {α : Type} {relation : Session → Session → Prop} (frame : Frame relation)
    (result : Except PlannerError α) : Keeps relation (ofPlanning result) := by
  cases result with
  | ok value => exact keeps_pure frame value
  | error error => exact keeps_throw frame _

section

variable {relation : Session → Session → Prop} {source : DataSource} (frame : Frame relation)
  (engine : Keeps relation (Executor.requireEngine source))

include frame engine

theorem keeps_resolvePartitionColumn (table : TableSettings) :
    Keeps relation (resolvePartitionColumn source table) := by
  rw [resolvePartitionColumn.eq_def]
  cases table.partitionColumn with
  | some column =>
      exact keeps_pure frame column
  | none =>
      cases table.tableName with
      | none =>
          exact keeps_throw frame _
      | some name =>
          apply keeps_bind frame (Executor.keeps_primaryKey frame engine name)
          intro found
          dsimp only
          split
          · exact keeps_throw frame _
          · exact keeps_bind frame (keeps_note frame _ _ _) fun _ => keeps_pure frame _

theorem keeps_resolveBoundaryQuery (table : TableSettings) (column : String) :
    Keeps relation (resolveBoundaryQuery source table column) := by
  rw [resolveBoundaryQuery]
  cases table.boundaryQuery with
  | some sql =>
      exact keeps_pure frame sql
  | none =>
      apply keeps_bind frame (keeps_ofPlanning frame _)
      intro origin
      cases origin with
      | table name =>
          exact keeps_bind frame (Executor.keeps_delimit frame engine name) fun _ =>
            keeps_pure frame _
      | query sql =>
          exact keeps_pure frame _

theorem keeps_findBoundary (sql : String) : Keeps relation (findBoundary source sql) := by
  rw [findBoundary]
  apply keeps_bind frame (keeps_note frame _ _ _)
  intro _
  apply keeps_bind frame (Executor.keeps_query frame engine sql)
  intro _
  apply keeps_bind frame (keeps_ofExcept frame _)
  intro _
  exact keeps_bind frame (keeps_note frame _ _ _) fun _ => keeps_pure frame _

theorem keeps_discoverFieldNames (template : String) :
    Keeps relation (discoverFieldNames source template) := by
  rw [discoverFieldNames]
  exact keeps_bind frame (Executor.keeps_columnNames frame engine _) fun _ => keeps_pure frame _

theorem keeps_extractionOf (table : TableSettings) (origin : Source) :
    Keeps relation (extractionOf source table origin) := by
  rw [extractionOf.eq_def]
  cases origin with
  | table name =>
      cases table.columns with
      | none =>
          apply keeps_bind frame (Executor.keeps_delimit frame engine name)
          intro _
          exact keeps_bind frame (keeps_discoverFieldNames frame engine _) fun _ =>
            keeps_pure frame _
      | some columns =>
          exact keeps_bind frame (Executor.keeps_delimit frame engine name) fun _ =>
            keeps_pure frame _
  | query sql =>
      cases table.columns with
      | none =>
          exact keeps_bind frame (keeps_discoverFieldNames frame engine sql) fun _ =>
            keeps_pure frame _
      | some columns =>
          exact keeps_pure frame _

theorem keeps_resolveExtraction (table : TableSettings) :
    Keeps relation (resolveExtraction source table) := by
  rw [resolveExtraction]
  apply keeps_bind frame (keeps_ofPlanning frame _)
  intro origin
  apply keeps_bind frame (keeps_ofPlanning frame _)
  intro _
  apply keeps_bind frame (keeps_extractionOf frame engine table origin)
  intro _
  apply keeps_bind frame (keeps_note frame _ _ _)
  intro _
  exact keeps_bind frame (keeps_note frame _ _ _) fun _ => keeps_pure frame _

theorem keeps_inspect (table : TableSettings) : Keeps relation (inspect source table) := by
  rw [inspect]
  apply keeps_bind frame (keeps_resolvePartitionColumn frame engine table)
  intro column
  apply keeps_bind frame (keeps_resolveBoundaryQuery frame engine table column)
  intro boundaryQuery
  apply keeps_bind frame (keeps_findBoundary frame engine boundaryQuery)
  intro boundary
  exact keeps_bind frame (keeps_resolveExtraction frame engine table) fun _ => keeps_pure frame _

end

end Planner
end ImportPlanning
