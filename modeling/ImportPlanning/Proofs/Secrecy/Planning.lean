/-
Planning with executors that differ in secrets only. No step tells anything by them: the address of
a data source has the same parts but for the password, and the password itself is never looked at, so
every step comes to the same result and reports the same.

The addresses of the engines that are created are not compared.
-/
import ImportPlanning.Proofs.Pairs
import ImportPlanning.Proofs.Secrecy.Settings

namespace ImportPlanning

open SessionM

/-! ### Sessions -/

/-- Two executors differ in secrets only. -/
structure SameExecutor (left right : Executor) : Prop where
  driver : left.driver = right.driver
  connectionString : left.connectionString = right.connectionString ∨
    Url.SameButPassword left.connectionString right.connectionString
  username : left.username = right.username
  isBorrowed : left.isBorrowed = right.isBorrowed
  hasEngine : left.hasEngine = right.hasEngine
  isClosed : left.isClosed = right.isClosed

/-- Two sessions have executors that differ in secrets only, and one journal. -/
structure SameSession (left right : Session) : Prop where
  executor : SameExecutor left.executor right.executor
  journal : left.journal = right.journal

theorem pairFrame_sameSession : PairFrame SameSession where
  noted _ _ _ same := ⟨same.executor, by rw [same.journal]⟩
  executed _ _ _ same := ⟨same.executor, same.journal⟩
  lookedUp _ _ _ _ same := ⟨same.executor, same.journal⟩

/-- From sessions that differ in secrets only, the step comes to one result and to such sessions. -/
abbrev Discreet {α : Type} (step : SessionM α) : Prop :=
  Respects SameSession step

theorem discreet_note (severity : Severity) (logger message : String) :
    Discreet (note severity logger message) :=
  respects_note pairFrame_sameSession severity logger message

theorem agree_record (first second : Trace → Trace) :
    Agree SameSession Eq (record first) (record second) := by
  refine agree_modify ?_
  intro left right same
  exact ⟨same.executor, same.journal⟩

theorem discreet_update {change : Executor → Executor}
    (kept : ∀ left right, SameExecutor left right → SameExecutor (change left) (change right)) :
    Discreet (update change) := by
  refine agree_modify ?_
  intro left right same
  exact ⟨kept _ _ same.executor, same.journal⟩

theorem agree_executor : Agree SameSession SameExecutor executor executor := by
  intro left right same
  exact ⟨.ok same.executor, same⟩

namespace Executor

/-! ### Engines -/

/-- The addresses of the data source can both be read, or neither can. -/
theorem alike_address {left right : Executor} (same : SameExecutor left right) :
    Alike (fun _ _ => True) left.address right.address := by
  rw [address, address]
  rcases same.connectionString with equal | passwords
  · have readings : Alike Eq (Url.read left.connectionString) (Url.read right.connectionString) :=
      .of_eq (fun _ => rfl) (by rw [equal])
    exact readings.map fun _ _ _ => trivial
  · obtain ⟨url, first, second, leftRead, rightRead⟩ := passwords.read
    rw [leftRead, rightRead]
    exact .ok trivial

theorem agree_createEngineAt (source : DataSource) {left right : Executor}
    (same : SameExecutor left right) (url other : DatabaseUrl) :
    Agree SameSession Eq (createEngineAt source left url) (createEngineAt source right other) := by
  rw [createEngineAt, createEngineAt, same.driver]
  refine agree_then (agree_record _ _) ?_
  cases source.createFault with
  | some fault =>
      show Discreet (if isImportFault fault then failImport right.driver fault else _)
      split
      · exact respects_bind (discreet_note _ _ _) fun _ => respects_throw _
      · exact respects_guarded pairFrame_sameSession _ _ _
  | none =>
      refine respects_bind (discreet_update ?_) fun _ => discreet_note _ _ _
      intro left right executors
      exact { executors with hasEngine := rfl }

theorem agree_createEngine (source : DataSource) {left right : Executor}
    (same : SameExecutor left right) :
    Agree SameSession Eq (createEngine source left) (createEngine source right) := by
  rw [createEngine, createEngine]
  have addresses := alike_address same
  revert addresses
  generalize left.address = first
  generalize right.address = second
  intro addresses
  cases addresses with
  | ok _ => exact agree_createEngineAt source same _ _
  | error flaw =>
      cases flaw with
      | unreadable => exact respects_failOperation pairFrame_sameSession _ _ _
      | badPort port flaw => exact respects_throw _

theorem discreet_requireEngine (source : DataSource) : Discreet (requireEngine source) := by
  rw [requireEngine]
  refine agree_bind agree_executor ?_
  intro left right same
  rw [same.isClosed, same.hasEngine]
  split
  · exact respects_throw _
  · split
    · exact respects_pure _
    · exact agree_createEngine source same

/-! ### Closing -/

theorem discreet_close : Discreet close := by
  rw [close]
  refine agree_bind agree_executor ?_
  intro left right same
  rw [same.isClosed, same.hasEngine, same.isBorrowed, same.driver]
  split
  · exact respects_pure _
  · refine respects_bind (discreet_update ?_) ?_
    · intro left right executors
      exact { executors with isClosed := rfl, hasEngine := rfl }
    · intro _
      split
      · exact respects_bind (agree_record _ _) fun _ => discreet_note _ _ _
      · exact respects_pure _

theorem sameExecutor_ofConnection {left right : ConnectionSettings}
    (same : SameConnection left right) (isBorrowed : Bool) :
    SameExecutor (ofConnection left isBorrowed) (ofConnection right isBorrowed) where
  driver := congrArg (·.getD "") same.driver
  connectionString := same.connectionString.getD
  username := same.username
  isBorrowed := rfl
  hasEngine := rfl
  isClosed := rfl

end Executor

theorem Planner.discreet_inspect (source : DataSource) (table : TableSettings) :
    Discreet (inspect source table) :=
  respects_inspect pairFrame_sameSession (Executor.discreet_requireEngine source) table

end ImportPlanning
