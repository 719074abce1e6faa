/-
The life of an executor under any run of operations, however many of them fail. Each engine that a
data source gives is held by the executor or was disposed of, at most one is given to an executor that
borrows none, and a closed executor holds none; these accounts are kept by every operation and so by
every run. Each operation may meet another data source: an engine that was refused once may be given
later.

The answers are left open here, except those of an executor that is closed or refused its engine.
-/
import ImportPlanning.Proofs.Engines

namespace ImportPlanning.Executor

open SessionM

/-! ### Operations -/

inductive Operation where
  | query (sql : String)
  | columnNames (sql : String)
  | primaryKey (table : String)
  | delimit (name : String)
  | engine
  | qualify (column relation : String)
  | close
  /-- A query in a block at whose end the executor is closed. -/
  | queryAndClose (sql : String)
  deriving DecidableEq, Repr

inductive Reply where
  | result (result : QueryResult)
  | names (names : List String)
  | column (name : Option String)
  | text (text : String)
  | done
  deriving Repr

namespace Operation

def needsEngine : Operation → Bool
  | qualify _ _ => false
  | close => false
  | _ => true

/-- Is the executor closed after the operation? -/
def closes : Operation → Bool
  | close => true
  | queryAndClose _ => true
  | _ => false

def run (source : DataSource) : Operation → SessionM Reply
  | query sql => do return .result (← Executor.query source sql)
  | columnNames sql => do return .names (← Executor.columnNames source sql)
  | primaryKey table => do return .column (← Executor.primaryKey source table)
  | delimit name => do return .text (← Executor.delimit source name)
  | engine => do
    requireEngine source
    return .done
  | qualify column relation => return .text (Executor.qualify column relation)
  | close => do
    Executor.close
    return .done
  | queryAndClose sql => do return .result (← thenClose (Executor.query source sql))

end Operation

theorem after_return {α β : Type} (step : SessionM α) (wrap : α → β) (session : Session) :
    (step >>= fun value => pure (wrap value)) session =
      ((step session).1.map wrap, (step session).2) := by
  rw [run_bind]
  rcases step session with ⟨result, after⟩
  cases result <;> rfl

/-- Without the engine a column is qualified, or the executor closed. -/
theorem Operation.cases_of_idle {operation : Operation} (idle : operation.needsEngine = false) :
    (∃ column relation, operation = .qualify column relation) ∨ operation = .close := by
  cases operation with
  | qualify column relation => exact Or.inl ⟨column, relation, rfl⟩
  | close => exact Or.inr rfl
  | query sql => cases idle
  | columnNames sql => cases idle
  | primaryKey table => cases idle
  | delimit name => cases idle
  | engine => cases idle
  | queryAndClose sql => cases idle

/-- An operation stays within every relation that asking for the engine stays within, until it closes
the executor, if it does. -/
theorem Operation.run_cases {relation : Session → Session → Prop} {source : DataSource}
    (frame : Frame relation) (engine : Keeps relation (requireEngine source))
    (operation : Operation) (session : Session) :
    ∃ between, relation session between ∧
      ((operation.closes = false ∧ (operation.run source session).2 = between) ∨
        (operation.closes = true ∧ Closing between (operation.run source session).2)) := by
  cases operation with
  | query sql =>
      rw [run, after_return]
      exact ⟨_, keeps_query frame engine sql session, Or.inl ⟨rfl, rfl⟩⟩
  | columnNames sql =>
      rw [run, after_return]
      exact ⟨_, keeps_columnNames frame engine sql session, Or.inl ⟨rfl, rfl⟩⟩
  | primaryKey table =>
      rw [run, after_return]
      exact ⟨_, keeps_primaryKey frame engine table session, Or.inl ⟨rfl, rfl⟩⟩
  | delimit name =>
      rw [run, after_return]
      exact ⟨_, keeps_delimit frame engine name session, Or.inl ⟨rfl, rfl⟩⟩
  | engine =>
      rw [run, after_return]
      exact ⟨_, engine session, Or.inl ⟨rfl, rfl⟩⟩
  | qualify column relation =>
      exact ⟨session, frame.refl session, Or.inl ⟨rfl, rfl⟩⟩
  | close =>
      rw [run, after_return]
      exact ⟨session, frame.refl session, Or.inr ⟨rfl, closing_close session⟩⟩
  | queryAndClose sql =>
      rw [run, after_return]
      exact ⟨_, keeps_query frame engine sql session, Or.inr ⟨rfl, closing_close _⟩⟩

/-! ### Engines refused -/

section

variable {failure : Failure} {source : DataSource} {executor : Executor} {trace : Trace}
  (fails : ∀ journal, FailsWith failure ⟨executor, trace, journal⟩ (requireEngine source))
  (journal : List LogRecord)

include fails

theorem failsWith_query (sql : String) :
    FailsWith failure ⟨executor, trace, journal⟩ (query source sql) := by
  rw [query]
  apply failsWith_afterNote
  intro later
  exact failsWith_bind (fails later) _

theorem failsWith_primaryKey (table : String) :
    FailsWith failure ⟨executor, trace, journal⟩ (primaryKey source table) :=
  failsWith_bind (fails journal) _

theorem failsWith_delimit (name : String) :
    FailsWith failure ⟨executor, trace, journal⟩ (delimit source name) :=
  failsWith_bind (fails journal) _

/-- Where the engine is refused, an operation that needs it fails with the same failure. The executor
is closed after it just if it would be anyway. -/
theorem Operation.run_of_refused {operation : Operation} (needs : operation.needsEngine = true) :
    ∃ later, operation.run source ⟨executor, trace, journal⟩ =
      (.error failure,
        if operation.closes = true then (Executor.close ⟨executor, trace, later⟩).2
        else ⟨executor, trace, later⟩) := by
  cases operation with
  | query sql => exact failsWith_bind (failsWith_query fails journal sql) _
  | columnNames sql =>
      exact failsWith_bind (failsWith_bind (failsWith_query fails journal sql) _) _
  | primaryKey table => exact failsWith_bind (failsWith_primaryKey fails journal table) _
  | delimit name => exact failsWith_bind (failsWith_delimit fails journal name) _
  | engine => exact failsWith_bind (fails journal) _
  | qualify column relation => cases needs
  | close => cases needs
  | queryAndClose sql =>
      obtain ⟨later, failed⟩ := failsWith_query fails journal sql
      refine ⟨later, ?_⟩
      rw [run, after_return, thenClose, failed]
      rfl

end

/-! ### Closed executors -/

/-- The step refuses because the executor is closed, and does nothing but report. -/
def Refuses {α : Type} (session : Session) (step : SessionM α) : Prop :=
  ∃ journal, step session = (.error .executorClosed, { session with journal })

section

variable {session : Session} (closed : session.executor.isClosed = true) (source : DataSource)

include closed

theorem refuses_requireEngine : Refuses session (requireEngine source) := by
  refine ⟨session.journal, ?_⟩
  rw [requireEngine_eq, if_pos closed]

theorem Operation.refuses_of_needsEngine {operation : Operation}
    (needs : operation.needsEngine = true) : Refuses session (operation.run source) := by
  obtain ⟨executor, trace, journal⟩ := session
  have fails : ∀ other,
      FailsWith .executorClosed ⟨executor, trace, other⟩ (requireEngine source) := by
    intro other
    have still : (Session.mk executor trace other).executor.isClosed = true := closed
    exact refuses_requireEngine still source
  obtain ⟨later, failed⟩ := Operation.run_of_refused fails journal needs
  refine ⟨later, ?_⟩
  -- closing a closed executor changes nothing, so the two ways to end agree
  have stays : Executor.close ⟨executor, trace, later⟩ = (.ok (), ⟨executor, trace, later⟩) :=
    close_of_closed closed
  rw [failed, stays, ite_self]

/-- No operation changes a closed executor, and none reaches the data source through it. -/
theorem Operation.run_of_closed (operation : Operation) :
    (operation.run source session).2.executor = session.executor ∧
      (operation.run source session).2.trace = session.trace := by
  cases needs : operation.needsEngine with
  | true =>
      obtain ⟨journal, refused⟩ := Operation.refuses_of_needsEngine closed source needs
      rw [refused]
      exact ⟨rfl, rfl⟩
  | false =>
      rcases Operation.cases_of_idle needs with ⟨column, relation, rfl⟩ | rfl
      · exact ⟨rfl, rfl⟩
      · rw [run, after_return, close_of_closed closed]
        exact ⟨rfl, rfl⟩

end

/-! ### Accounts -/

/-- The accounts of an executor since a trace, with the number of engines given to it. A borrowed
engine is there until the executor is closed. -/
structure Accounts (start : Trace) (engines : Nat) (session : Session) : Prop where
  borrowed : session.executor.isBorrowed = true →
    session.trace.created = start.created ∧ session.trace.disposed = start.disposed ∧
      (session.executor.isClosed = false → session.executor.hasEngine = true)
  balanced : session.executor.isBorrowed = false →
    start.disposed + engines = session.trace.disposed + session.held
  unsettled : session.executor.isBorrowed = false → session.executor.isClosed = false →
    session.trace.disposed = start.disposed
  settled : session.executor.isBorrowed = false → session.executor.isClosed = true →
    session.held = 0 ∧ session.trace.disposed ≤ start.disposed + 1

section

variable {start : Trace} {engines : Nat} {before after : Session}
  (accounts : Accounts start engines before)

include accounts

theorem Accounts.opens {source : DataSource} (opens : Opens source before after) :
    Accounts start (engines + enginesGiven source before.trace after.trace) after := by
  have held := opens.held
  constructor
  · intro isBorrowed
    rw [opens.isBorrowed] at isBorrowed
    obtain ⟨created, disposed, present⟩ := accounts.borrowed isBorrowed
    -- a borrowed engine is there as long as the executor is open, so none is called for
    have idle : after.trace.created = before.trace.created := by
      cases isClosed : before.executor.isClosed with
      | true => exact opens.idle (Or.inl isClosed)
      | false => exact opens.idle (Or.inr (present isClosed))
    refine ⟨idle.trans created, opens.disposed.trans disposed, ?_⟩
    intro isOpen
    rw [opens.isClosed] at isOpen
    exact opens.hasEngine (present isOpen)
  · intro isOwn
    rw [opens.isBorrowed] at isOwn
    have balanced := accounts.balanced isOwn
    rw [opens.disposed]
    omega
  · intro isOwn isOpen
    rw [opens.isBorrowed] at isOwn
    rw [opens.isClosed] at isOpen
    rw [opens.disposed, accounts.unsettled isOwn isOpen]
  · intro isOwn isClosed
    rw [opens.isBorrowed] at isOwn
    rw [opens.isClosed] at isClosed
    obtain ⟨none, once⟩ := accounts.settled isOwn isClosed
    have noCall : enginesGiven source before.trace after.trace = 0 :=
      enginesGiven_same (opens.idle (Or.inl isClosed))
    rw [opens.disposed, held, none, noCall]
    exact ⟨rfl, once⟩

theorem Accounts.engines_le_one (isOwn : before.executor.isBorrowed = false) : engines ≤ 1 := by
  have balanced := accounts.balanced isOwn
  cases isClosed : before.executor.isClosed with
  | false =>
      have unsettled := accounts.unsettled isOwn isClosed
      have atMost := before.held_le_one
      omega
  | true =>
      obtain ⟨none, once⟩ := accounts.settled isOwn isClosed
      omega

theorem Accounts.closing (closing : Closing before after) : Accounts start engines after := by
  cases isClosed : before.executor.isClosed with
  | true =>
      rw [closing.again isClosed]
      exact accounts
  | false =>
      have held := closing.held isClosed
      have disposed := closing.disposed isClosed
      have stillOpen : after.executor.isClosed = false → False := by
        intro isOpen
        rw [closing.isClosed] at isOpen
        cases isOpen
      constructor
      · intro isBorrowed
        rw [closing.isBorrowed] at isBorrowed
        obtain ⟨created, unchanged, _⟩ := accounts.borrowed isBorrowed
        rw [isBorrowed, if_pos rfl, Nat.add_zero] at disposed
        exact ⟨closing.created.trans created, disposed.trans unchanged,
          fun isOpen => (stillOpen isOpen).elim⟩
      · intro isOwn
        rw [closing.isBorrowed] at isOwn
        have balanced := accounts.balanced isOwn
        rw [isOwn, if_neg Bool.false_ne_true] at disposed
        omega
      · intro _ isOpen
        exact (stillOpen isOpen).elim
      · intro isOwn _
        rw [closing.isBorrowed] at isOwn
        have unsettled := accounts.unsettled isOwn isClosed
        have atMost := before.held_le_one
        rw [isOwn, if_neg Bool.false_ne_true] at disposed
        exact ⟨held, by omega⟩

end

theorem accounts_ofConnection (connection : ConnectionSettings) (isBorrowed : Bool) (trace : Trace)
    (journal : List LogRecord) :
    Accounts trace 0 ⟨ofConnection connection isBorrowed, trace, journal⟩ := by
  cases isBorrowed with
  | true =>
      constructor
      · exact fun _ => ⟨rfl, rfl, fun _ => rfl⟩
      · intro impossible
        cases impossible
      · intro impossible
        cases impossible
      · intro impossible
        cases impossible
  | false =>
      constructor
      · intro impossible
        cases impossible
      · exact fun _ => rfl
      · exact fun _ _ => rfl
      · intro _ impossible
        cases impossible

/-! ### Runs -/

/-- An operation, and the data source that it meets. -/
structure Call where
  source : DataSource
  operation : Operation

def Call.run (call : Call) (session : Session) : Except Failure Reply × Session :=
  call.operation.run call.source session

/-- An operation opens at most one engine, and may close the executor at its end. -/
theorem Call.run_cases (call : Call) (session : Session) :
    ∃ between, Opens call.source session between ∧
      ((call.run session).2 = between ∨ Closing between (call.run session).2) := by
  obtain ⟨between, opens, ended⟩ := call.operation.run_cases (frame_opens call.source)
    (keeps_requireEngine call.source) session
  exact ⟨between, opens, ended.imp And.right And.right⟩

/-- Serves calls one after the other, whatever each comes to. -/
def serve : List Call → Session → List (Except Failure Reply) × Session
  | [], session => ([], session)
  | call :: rest, session =>
    let (reply, after) := call.run session
    let (replies, last) := serve rest after
    (reply :: replies, last)

/-- The number of engines that the data sources give while calls are served. -/
def enginesServed : List Call → Session → Nat
  | [], _ => 0
  | call :: rest, session =>
    enginesGiven call.source session.trace (call.run session).2.trace +
      enginesServed rest (call.run session).2

theorem serve_cons (call : Call) (rest : List Call) (session : Session) :
    (serve (call :: rest) session).2 = (serve rest (call.run session).2).2 :=
  rfl

theorem Accounts.run {start : Trace} {engines : Nat} {session : Session}
    (accounts : Accounts start engines session) (call : Call) :
    Accounts start
      (engines + enginesGiven call.source session.trace (call.run session).2.trace)
      (call.run session).2 := by
  obtain ⟨between, opens, ended⟩ := call.run_cases session
  have opened := accounts.opens opens
  rcases ended with unclosed | closing
  · rw [unclosed]
    exact opened
  · rw [closing.enginesGiven_eq]
    exact opened.closing closing

theorem Accounts.serve {start : Trace} {engines : Nat} {session : Session}
    (accounts : Accounts start engines session) (calls : List Call) :
    Accounts start (engines + enginesServed calls session) (serve calls session).2 := by
  -- the accounts are the invariant, with the engines that were given before the calls that remain
  induction calls generalizing engines session with
  | nil =>
      exact accounts
  | cons call rest ih =>
      have later := ih (accounts.run call)
      rw [Nat.add_assoc] at later
      exact later

theorem serve_of_closed {session : Session} (closed : session.executor.isClosed = true)
    (calls : List Call) :
    (serve calls session).2.executor = session.executor ∧
      (serve calls session).2.trace = session.trace := by
  induction calls generalizing session with
  | nil =>
      exact ⟨rfl, rfl⟩
  | cons call rest ih =>
      obtain ⟨executor, trace⟩ := Operation.run_of_closed closed call.source call.operation
      have still : (call.run session).2.executor.isClosed = true := by
        rw [Call.run, executor, closed]
      obtain ⟨laterExecutor, laterTrace⟩ := ih still
      rw [serve_cons]
      exact ⟨laterExecutor.trans executor, laterTrace.trans trace⟩

/-- What a run of operations leaves behind, with the number of engines given in it. -/
structure Lifecycle (start : Session) (engines : Nat) (last : Session) : Prop where
  /-- A borrowed engine is not asked for and not disposed of. -/
  borrowed : start.executor.isBorrowed = true →
    last.trace.created = start.trace.created ∧ last.trace.disposed = start.trace.disposed
  /-- An executor that borrows none is given at most one. -/
  givenOnce : start.executor.isBorrowed = false → engines ≤ 1
  /-- No more engines are disposed of than were given, and all of them once it is closed. -/
  disposed : start.executor.isBorrowed = false → ∃ disposals, disposals ≤ engines ∧
    last.trace.disposed = start.trace.disposed + disposals ∧
    (last.executor.isClosed = true → disposals = engines)
  /-- A closed executor stays closed in every later run, and does nothing to the data source. -/
  staysClosed : last.executor.isClosed = true → ∀ later,
    (serve later last).2.executor.isClosed = true ∧ (serve later last).2.trace = last.trace
  /-- A closed executor refuses every operation that needs its engine. -/
  refuses : last.executor.isClosed = true → ∀ call : Call, call.operation.needsEngine = true →
    ∃ refused, call.run last = (.error .executorClosed, refused) ∧ refused.trace = last.trace
  /-- Closing a closed executor changes nothing. -/
  closesOnce : last.executor.isClosed = true → close last = (.ok (), last)

theorem isBorrowed_serve (calls : List Call) (session : Session) :
    (serve calls session).2.executor.isBorrowed = session.executor.isBorrowed := by
  induction calls generalizing session with
  | nil =>
      rfl
  | cons call rest ih =>
      obtain ⟨between, opens, ended⟩ := call.run_cases session
      have once : (call.run session).2.executor.isBorrowed = session.executor.isBorrowed := by
        rcases ended with unclosed | closing
        · rw [unclosed, opens.isBorrowed]
        · rw [closing.isBorrowed, opens.isBorrowed]
      rw [serve_cons, ih, once]

/-- The life of an executor, from its making on, under any operations. -/
theorem serve_lifecycle (connection : ConnectionSettings) (isBorrowed : Bool) (trace : Trace)
    (journal : List LogRecord) (calls : List Call) :
    let start : Session := ⟨ofConnection connection isBorrowed, trace, journal⟩
    Lifecycle start (enginesServed calls start) (serve calls start).2 := by
  intro start
  have accounts := (accounts_ofConnection connection isBorrowed trace journal).serve calls
  rw [Nat.zero_add] at accounts
  -- the accounts speak of the executor at the end, the claims of the one at the start
  have kind : (serve calls start).2.executor.isBorrowed = start.executor.isBorrowed :=
    isBorrowed_serve calls start
  constructor
  · intro borrows
    obtain ⟨created, disposed, _⟩ := accounts.borrowed (kind.trans borrows)
    exact ⟨created, disposed⟩
  · intro isOwn
    exact accounts.engines_le_one (kind.trans isOwn)
  · intro isOwn
    have balanced := accounts.balanced (kind.trans isOwn)
    cases isClosed : (serve calls start).2.executor.isClosed with
    | false =>
        have unsettled := accounts.unsettled (kind.trans isOwn) isClosed
        exact ⟨0, Nat.zero_le _, unsettled, fun impossible => (by cases impossible)⟩
    | true =>
        obtain ⟨none, _⟩ := accounts.settled (kind.trans isOwn) isClosed
        rw [none, Nat.add_zero] at balanced
        exact ⟨_, Nat.le_refl _, balanced.symm, fun _ => rfl⟩
  · intro closed later
    obtain ⟨executor, unchanged⟩ := serve_of_closed closed later
    rw [executor]
    exact ⟨closed, unchanged⟩
  · intro closed call needs
    obtain ⟨later, refused⟩ := Operation.refuses_of_needsEngine closed call.source needs
    exact ⟨_, refused, rfl⟩
  · exact close_of_closed

/-- A data source that gives one number for every statement, and its engine if there is no fault. -/
private def counting (createFault : Option Fault) : DataSource :=
  { dialect := .sqlite
    typeObjects := .none
    queries := [⟨none, .ok ⟨some [("one", .null)], [[.integer 1]], none⟩⟩]
    primaryKeys := []
    connectFault := none
    createFault }

/-- An engine that is refused at first and given later is disposed of once, however the run goes
on. -/
theorem serve_lifecycle_retried :
    let connection : ConnectionSettings := ⟨some "sqlite", some "sqlite://", none, none⟩
    let start : Session := ⟨ofConnection connection false, .empty, []⟩
    let calls : List Call :=
      [⟨counting (some ⟨.host .runtime, "busy"⟩), .engine⟩, ⟨counting none, .query "SELECT 1"⟩,
       ⟨counting none, .queryAndClose "SELECT 1"⟩, ⟨counting none, .close⟩,
       ⟨counting none, .delimit "t"⟩]
    let last := (serve calls start).2
    (serve calls start).1.map Except.isOk = [false, true, true, true, false] ∧
      enginesServed calls start = 1 ∧ last.executor.isClosed = true ∧
      ∀ later, (serve later last).2.trace.disposed = 1 := by
  intro connection start calls last
  have engines : enginesServed calls start = 1 := by decide +kernel
  have closed : last.executor.isClosed = true := by decide +kernel
  refine ⟨by decide +kernel, engines, closed, ?_⟩
  intro later
  have life : Lifecycle start (enginesServed calls start) last :=
    serve_lifecycle connection false .empty [] calls
  obtain ⟨disposals, _, disposed, all⟩ := life.disposed rfl
  rw [(life.staysClosed closed later).2, disposed, all closed, engines]
  rfl

end ImportPlanning.Executor
