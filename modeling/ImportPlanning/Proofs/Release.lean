/-
Executors made for one task. Whatever the task comes to, its executor is closed after it and every
engine that was given to it is disposed of, unless it is borrowed; so it is with planning, at whichever
stage it ends, and with the test of a connection. A plan is only made with an engine, since it takes
the answer to a statement.

Which failures end a task is left open.
-/
import ImportPlanning.Proofs.Lifecycle
import ImportPlanning.Proofs.Stages

namespace ImportPlanning

open SessionM

namespace Executor

/-! ### Released engines -/

/-- What a task leaves of the engines between two traces: a borrowed one as it was, and of its own at
most one, disposed of. -/
structure Released (source : DataSource) (isBorrowed : Bool) (before after : Trace) : Prop where
  borrowed : isBorrowed = true →
    after.created = before.created ∧ after.disposed = before.disposed
  givenOnce : enginesGiven source before after ≤ 1
  disposed : isBorrowed = false →
    after.disposed = before.disposed + enginesGiven source before after

theorem released_of_untouched (source : DataSource) (isBorrowed : Bool) (trace : Trace) :
    Released source isBorrowed trace trace := by
  have none : enginesGiven source trace trace = 0 := enginesGiven_same rfl
  constructor
  · exact fun _ => ⟨rfl, rfl⟩
  · omega
  · omega

/-- A task taken with an executor made for it, which is closed after it. -/
theorem released_thenClose {α : Type} {source : DataSource} {step : SessionM α}
    (keeps : Keeps (Opens source) step) (connection : ConnectionSettings) (isBorrowed : Bool)
    (trace : Trace) (journal : List LogRecord) :
    let last := (thenClose step ⟨ofConnection connection isBorrowed, trace, journal⟩).2
    last.executor.isClosed = true ∧ Released source isBorrowed trace last.trace := by
  intro last
  -- the accounts of a fresh executor, carried through the task and then through its closing
  have opens := keeps ⟨ofConnection connection isBorrowed, trace, journal⟩
  have closing : Closing _ last := closing_close _
  have accounts : Accounts trace (enginesGiven source trace last.trace) last := by
    rw [closing.enginesGiven_eq, ← Nat.zero_add (enginesGiven _ _ _)]
    exact ((accounts_ofConnection connection isBorrowed trace journal).opens opens).closing closing
  have kind : last.executor.isBorrowed = isBorrowed := closing.isBorrowed.trans opens.isBorrowed
  refine ⟨closing.isClosed, ?_⟩
  cases isBorrowed with
  | true =>
      obtain ⟨created, disposed, _⟩ := accounts.borrowed kind
      have none : enginesGiven source trace last.trace = 0 := enginesGiven_same created
      exact
        { borrowed := fun _ => ⟨created, disposed⟩
          givenOnce := by omega
          disposed := fun impossible => by cases impossible }
  | false =>
      have balanced := accounts.balanced kind
      obtain ⟨noneHeld, _⟩ := accounts.settled kind closing.isClosed
      exact
        { borrowed := fun impossible => by cases impossible
          givenOnce := accounts.engines_le_one kind
          disposed := fun _ => by omega }

/-! ### Steps that need an engine -/

/-- The step leaves the executor with an engine if it succeeds. -/
def Equips {α : Type} (step : SessionM α) : Prop :=
  ∀ session value after, step session = (.ok value, after) → after.executor.hasEngine = true

section

variable {α β : Type} {step : SessionM α} {next : α → SessionM β}

theorem equips_first {source : DataSource} (equips : Equips step)
    (keeps : ∀ value, Keeps (Opens source) (next value)) : Equips (step >>= next) := by
  intro session result last ended
  obtain ⟨value, between, begun, ended⟩ := run_bind_eq_ok_iff.mp ended
  have opens := keeps value between
  rw [ended] at opens
  exact opens.hasEngine (equips session value between begun)

theorem equips_later (equips : ∀ value, Equips (next value)) : Equips (step >>= next) := by
  intro session result last ended
  obtain ⟨value, between, _, ended⟩ := run_bind_eq_ok_iff.mp ended
  exact equips value between result last ended

end

section

variable (source : DataSource)

theorem equips_requireEngine : Equips (requireEngine source) := by
  intro session value after ended
  have step := requireEngine_step source session
  rw [ended] at step
  cases step with
  | ready isOpen hasEngine => exact hasEngine
  | given journal isOpen hasNone url isAddress faultless => rfl

theorem equips_query (sql : String) : Equips (query source sql) := by
  have frame := frame_opens source
  rw [query]
  apply equips_later
  intro _
  apply equips_first (equips_requireEngine source)
  intro _
  apply keeps_bind frame (keeps_runStatement frame source sql)
  intro _
  exact keeps_bind frame (keeps_note frame _ _ _) fun _ => keeps_pure frame _

end

/-- A task that needs an engine, begins with none and succeeds was given one. -/
theorem given_of_equips {α : Type} {source : DataSource} {step : SessionM α} {value : α}
    (keeps : Keeps (Opens source) step) (equips : Equips step) {start : Session}
    (none : start.held = 0) (ended : (thenClose step start).1 = .ok value) :
    enginesGiven source start.trace (thenClose step start).2.trace = 1 := by
  have closing : Closing (step start).2 (thenClose step start).2 := closing_close _
  have held := (keeps start).held
  have equipped := equips start value (step start).2 (Prod.ext ended rfl)
  have atMost := Session.held_le_one (step start).2
  -- held at the end of the task, none at its start: the engine was given between, and only once
  rw [← Session.held_pos_iff] at equipped
  rw [closing.enginesGiven_eq]
  omega

/-! ### Testing a connection -/

/-- Apart from what it reports, the test of a connection does what its statement and the closing
do. -/
theorem run_testConnection (source : DataSource) (raises : Bool) (session : Session) :
    ∃ journal, testConnection source raises session =
      (match (query source "SELECT 1" session).1 with
        | .ok _ => .ok true
        | .error failure => if raises then .error failure else .ok false,
        { (probe source session).2 with journal }) := by
  have probed : probe source session =
      ((query source "SELECT 1" session).1, (probe source session).2) := rfl
  rw [testConnection, run_tryCatch, run_bind, probed]
  cases (query source "SELECT 1" session).1 with
  | ok result =>
      exact ⟨_, rfl⟩
  | error failure =>
      cases raises with
      | true => exact ⟨_, rfl⟩
      | false => exact ⟨_, rfl⟩

theorem testConnection_answer (source : DataSource) (session : Session) :
    (testConnection source false session).1 =
        .ok (query source "SELECT 1" session).1.isOk ∧
      (testConnection source true session).1 =
        (query source "SELECT 1" session).1.map fun _ => true := by
  obtain ⟨_, quiet⟩ := run_testConnection source false session
  obtain ⟨_, raised⟩ := run_testConnection source true session
  rw [quiet, raised]
  cases (query source "SELECT 1" session).1 with
  | ok result => exact ⟨rfl, rfl⟩
  | error failure => exact ⟨rfl, rfl⟩

end Executor

namespace Planner

/-! ### Planning -/

theorem equips_inspect (source : DataSource) (table : TableSettings) :
    Executor.Equips (inspect source table) := by
  have frame := Executor.frame_opens source
  have engine := Executor.keeps_requireEngine source
  have equipsBoundary : ∀ sql, Executor.Equips (findBoundary source sql) := by
    intro sql
    rw [findBoundary]
    apply Executor.equips_later
    intro _
    apply Executor.equips_first (Executor.equips_query source sql)
    intro _
    apply keeps_bind frame (keeps_ofExcept frame _)
    intro _
    exact keeps_bind frame (keeps_note frame _ _ _) fun _ => keeps_pure frame _
  rw [inspect]
  apply Executor.equips_later
  intro column
  apply Executor.equips_later
  intro boundaryQuery
  apply Executor.equips_first (equipsBoundary boundaryQuery)
  intro boundary
  exact keeps_bind frame (keeps_resolveExtraction frame engine table) fun _ => keeps_pure frame _

/-- What planning leaves of the executors and engines that it used. -/
structure Leaves (source : DataSource) (isBorrowed : Bool) (before after : Workspace) : Prop where
  /-- At most one executor was made, and it is closed. -/
  executors : ∃ used, after.executors = before.executors ++ used ∧ used.length ≤ 1 ∧
    ∀ executor ∈ used, executor.isClosed = true
  /-- Every engine that was given to it is disposed of. -/
  engines : Executor.Released source isBorrowed before.trace after.trace

section

variable (source : DataSource) (connection : ConnectionSettings) (table : TableSettings)
  (workspace : Workspace)

private theorem opens_inspect : Keeps (Executor.Opens source) (inspect source table) :=
  keeps_inspect (Executor.frame_opens source) (Executor.keeps_requireEngine source) table

theorem leaves_planInto (isBorrowed : Bool) :
    Leaves source isBorrowed workspace
      (planInto source isBorrowed connection table workspace).2 := by
  cases checked : firstFailure (checks connection table) with
  | some error =>
      rw [planInto_of_failure checked]
      refine ⟨⟨[], (List.append_nil _).symm, Nat.zero_le 1, ?_⟩,
        Executor.released_of_untouched source isBorrowed workspace.trace⟩
      intro executor impossible
      cases impossible
  | none =>
      obtain ⟨trace, executors, _, _⟩ := planInto_of_checks checked source isBorrowed workspace
      obtain ⟨isClosed, released⟩ := Executor.released_thenClose (opens_inspect source table)
        connection isBorrowed workspace.trace workspace.journal
      refine ⟨⟨_, executors, Nat.le_refl 1, ?_⟩, ?_⟩
      · intro executor member
        rw [List.mem_singleton.mp member]
        exact isClosed
      · rw [trace]
        exact released

/-- A plan is only made with an engine that was given for it, where none is borrowed. -/
theorem given_of_plan {plan : ImportPlan}
    (planned : (planInto source false connection table workspace).1 = .ok plan) :
    Executor.enginesGiven source workspace.trace
      (planInto source false connection table workspace).2.trace = 1 := by
  cases checked : firstFailure (checks connection table) with
  | some error =>
      rw [planInto_of_failure checked] at planned
      cases planned
  | none =>
      obtain ⟨trace, _, _, succeeded⟩ := planInto_of_checks checked source false workspace
      obtain ⟨findings, found, _⟩ := succeeded plan planned
      have noneHeld : (startOf false connection workspace).held = 0 := rfl
      rw [trace]
      exact Executor.given_of_equips (opens_inspect source table) (equips_inspect source table)
        noneHeld found

end

/-- Planning and testing a connection leave no executor open and no engine of theirs behind, whatever
they come to. A plan takes just one engine, if none is borrowed. The test raises nothing unless asked
to, and tells whether its statement has a result. -/
theorem nothing_leaks :
    (∀ source isBorrowed connection table workspace,
      let run := planInto source isBorrowed connection table workspace
      Leaves source isBorrowed workspace run.2 ∧
        (isBorrowed = false → ∀ plan, run.1 = .ok plan →
          Executor.enginesGiven source workspace.trace run.2.trace = 1)) ∧
    ∀ source connection trace journal,
      let fresh : Session := ⟨.ofConnection connection false, trace, journal⟩
      let selected := (Executor.query source "SELECT 1" fresh).1
      (Executor.testConnection source false fresh).1 = .ok selected.isOk ∧
        (Executor.testConnection source true fresh).1 = selected.map (fun _ => true) ∧
        ∀ raises, (Executor.testConnection source raises fresh).2.executor.isClosed = true ∧
          Executor.Released source false trace
            (Executor.testConnection source raises fresh).2.trace := by
  constructor
  · intro source isBorrowed connection table workspace run
    refine ⟨leaves_planInto source connection table workspace isBorrowed, ?_⟩
    rintro rfl plan planned
    exact given_of_plan source connection table workspace planned
  · intro source connection trace journal fresh selected
    obtain ⟨quiet, raised⟩ := Executor.testConnection_answer source fresh
    refine ⟨quiet, raised, ?_⟩
    intro raises
    obtain ⟨_, tested⟩ := Executor.run_testConnection source raises fresh
    rw [tested]
    exact Executor.released_thenClose
      (Executor.keeps_query (Executor.frame_opens source) (Executor.keeps_requireEngine source)
        "SELECT 1") connection false trace journal

/-- A data source that gives a boundary for every statement. -/
private def bounded : DataSource :=
  { dialect := .sqlite
    typeObjects := .none
    queries :=
      [⟨none, .ok ⟨some [("low", .null), ("high", .null)], [[.integer 1, .integer 9]], none⟩⟩]
    primaryKeys := []
    connectFault := none
    createFault := none }

/-- A plan is made, and its one engine is disposed of; the test of the connection succeeds. -/
theorem nothing_leaks_planned :
    let connection : ConnectionSettings := ⟨some "sqlite", some "sqlite:///shop.db", none, none⟩
    let table : TableSettings := ⟨some "orders", none, some "id", some "id", none⟩
    let run := planInto bounded false connection table (.ofContext .empty)
    let fresh : Session := ⟨.ofConnection connection false, .empty, []⟩
    run.1.isOk = true ∧ run.2.trace.disposed = 1 ∧
      (Executor.testConnection bounded false fresh).1 = .ok true := by
  intro connection table run fresh
  have isPlanned : run.1.isOk = true := by decide +kernel
  obtain ⟨planning, testing⟩ := nothing_leaks
  obtain ⟨leaves, given⟩ := planning bounded false connection table (.ofContext .empty)
  obtain ⟨tested, _⟩ := testing bounded connection .empty []
  have disposed : run.2.trace.disposed = 0 + 1 := by
    cases planned : run.1 with
    | error failure =>
        rw [planned] at isPlanned
        cases isPlanned
    | ok plan =>
        rw [leaves.engines.disposed rfl, given rfl plan planned]
        rfl
  have selects : (Executor.query bounded "SELECT 1" fresh).1.isOk = true := by decide +kernel
  exact ⟨isPlanned, disposed, tested.trans (congrArg Except.ok selects)⟩

end Planner
end ImportPlanning
