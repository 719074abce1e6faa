/-
Answers that do not show where an engine comes from, nor what was done before. Two open executors
are served alike if each obtains its engine, or if neither has one and both call for it in the same
way; whatever operation both are given next, they answer it alike and are served alike after it. An
executor that lends out an engine of its own and one that borrows it are such a pair, and so are an
executor in use and a fresh one like it.

The journals and the engines that are created and disposed of do differ.
-/
import ImportPlanning.Proofs.Lifecycle
import ImportPlanning.Proofs.Pairs
import ImportPlanning.Proofs.Statements

namespace ImportPlanning

open SessionM

/-- Two traces have gone on from two others with the same statements and the same lookups. -/
structure Trace.Parallel (firstStart secondStart first second : Trace) : Prop where
  executed : ∃ sent, first.executed = firstStart.executed ++ sent ∧
    second.executed = secondStart.executed ++ sent
  lookups : ∃ looked, first.lookups = firstStart.lookups ++ looked ∧
    second.lookups = secondStart.lookups ++ looked

theorem Trace.Parallel.refl (first second : Trace) : Parallel first second first second where
  executed := ⟨[], (List.append_nil _).symm, (List.append_nil _).symm⟩
  lookups := ⟨[], (List.append_nil _).symm, (List.append_nil _).symm⟩

/-- Steps that send nothing and look nothing up do not part two traces. -/
theorem Trace.Parallel.silent {firstStart secondStart first second firstLast secondLast : Trace}
    (parallel : Parallel firstStart secondStart first second)
    (sameFirst : firstLast.lookups = first.lookups ∧ firstLast.executed = first.executed)
    (sameSecond : secondLast.lookups = second.lookups ∧ secondLast.executed = second.executed) :
    Parallel firstStart secondStart firstLast secondLast where
  executed := by
    rw [sameFirst.2, sameSecond.2]
    exact parallel.executed
  lookups := by
    rw [sameFirst.1, sameSecond.1]
    exact parallel.lookups

namespace Executor

/-! ### Executors that are served alike -/

/-- Each executor obtains its engine, or neither has one and both call for it in the same way. -/
def ServedAlike (source : DataSource) (left right : Executor) : Prop :=
  (Obtains source left ∧ Obtains source right) ∨
    (left.hasEngine = false ∧ right.hasEngine = false ∧ left.address = right.address ∧
      left.driver = right.driver)

/-- Two sessions, with the traces that they began with: both are closed, or both are open and are
served alike, and they have asked the data source for the same. -/
structure Twins (source : DataSource) (firstStart secondStart : Trace) (left right : Session) :
    Prop where
  isClosed : left.executor.isClosed = right.executor.isClosed
  served : left.executor.isClosed = false → ServedAlike source left.executor right.executor
  parallel : Trace.Parallel firstStart secondStart left.trace right.trace

section

variable {source : DataSource} {firstStart secondStart : Trace}

theorem pairFrame_twins : PairFrame (Twins source firstStart secondStart) where
  noted _ _ _ twins := ⟨twins.isClosed, twins.served, twins.parallel⟩
  executed := by
    intro left right statement twins
    obtain ⟨sent, first, second⟩ := twins.parallel.executed
    refine ⟨twins.isClosed, twins.served, ⟨sent ++ [statement], ?_, ?_⟩, twins.parallel.lookups⟩
    · rw [Trace.noteExecuted, first, List.append_assoc]
    · rw [Trace.noteExecuted, second, List.append_assoc]
  lookedUp := by
    intro left right schema table twins
    obtain ⟨looked, first, second⟩ := twins.parallel.lookups
    refine ⟨twins.isClosed, twins.served, twins.parallel.executed,
      ⟨looked ++ [(schema, table)], ?_, ?_⟩⟩
    · rw [Trace.noteLookup, first, List.append_assoc]
    · rw [Trace.noteLookup, second, List.append_assoc]

/-! ### Asking for the engine -/

theorem createEngine_congr {left right : Executor} (address : left.address = right.address)
    (driver : left.driver = right.driver) :
    createEngine source left = createEngine source right := by
  rw [createEngine, createEngine, address]
  cases right.address with
  | ok url =>
      dsimp only
      rw [createEngineAt, createEngineAt, driver]
  | error flaw =>
      cases flaw <;> rfl

theorem twins_createEngineAt (executor : Executor) (url : DatabaseUrl) :
    Respects (Twins source firstStart secondStart) (createEngineAt source executor url) := by
  rw [createEngineAt]
  refine agree_then (agree_modify ?_) ?_
  · exact fun left right twins =>
      ⟨twins.isClosed, twins.served, twins.parallel.silent ⟨rfl, rfl⟩ ⟨rfl, rfl⟩⟩
  · cases source.createFault with
    | some fault =>
        show Respects _ (if isImportFault fault then failImport executor.driver fault else _)
        split
        · exact respects_bind (respects_note pairFrame_twins _ _ _) fun _ => respects_throw _
        · exact respects_guarded pairFrame_twins _ _ _
    | none =>
        refine respects_bind (agree_modify ?_) fun _ => respects_note pairFrame_twins _ _ _
        -- with an engine in hand both obtain it
        exact fun left right twins =>
          ⟨twins.isClosed, fun _ => Or.inl ⟨Or.inl rfl, Or.inl rfl⟩, twins.parallel⟩

theorem twins_createEngine (executor : Executor) :
    Respects (Twins source firstStart secondStart) (createEngine source executor) := by
  rw [createEngine]
  cases executor.address with
  | ok url =>
      exact twins_createEngineAt executor url
  | error flaw =>
      cases flaw with
      | unreadable => exact respects_failOperation pairFrame_twins _ _ _
      | badPort port flaw => exact respects_throw _

theorem twins_requireEngine :
    Respects (Twins source firstStart secondStart) (requireEngine source) := by
  intro left right twins
  cases isClosed : left.executor.isClosed with
  | true =>
      have alsoClosed : right.executor.isClosed = true := by rw [← twins.isClosed, isClosed]
      rw [requireEngine_eq, requireEngine_eq, if_pos isClosed, if_pos alsoClosed]
      exact ⟨.error _, twins⟩
  | false =>
      have alsoOpen : right.executor.isClosed = false := by rw [← twins.isClosed, isClosed]
      rcases twins.served isClosed with ⟨obtains, alsoObtains⟩ | ⟨none, alsoNone, address, driver⟩
      · obtain ⟨first, isFirst, executor, executed, lookups⟩ :=
          requireEngine_of_obtains isClosed obtains
        obtain ⟨second, isSecond, otherExecutor, otherExecuted, otherLookups⟩ :=
          requireEngine_of_obtains alsoOpen alsoObtains
        rw [isFirst, isSecond]
        refine ⟨.ok rfl, ?_, ?_, ?_⟩
        · rw [executor, otherExecutor]
          exact twins.isClosed
        · rw [executor, otherExecutor]
          exact fun _ => Or.inl ⟨Or.inl rfl, Or.inl rfl⟩
        · exact twins.parallel.silent ⟨lookups, executed⟩ ⟨otherLookups, otherExecuted⟩
      · rw [requireEngine_eq, requireEngine_eq, isClosed, alsoOpen, none, alsoNone,
          if_neg Bool.false_ne_true, if_neg Bool.false_ne_true, if_neg Bool.false_ne_true,
          if_neg Bool.false_ne_true, createEngine_congr address driver]
        exact twins_createEngine right.executor left right twins

/-! ### Operations -/

theorem twins_close : Respects (Twins source firstStart secondStart) close := by
  intro left right twins
  have closing := closing_close left
  have alsoClosing := closing_close right
  rw [close_result, close_result]
  refine ⟨.ok rfl, ?_, ?_, ?_⟩
  · rw [closing.isClosed, alsoClosing.isClosed]
  · intro isOpen
    rw [closing.isClosed] at isOpen
    cases isOpen
  · exact twins.parallel.silent (sends_close.trace_of_nothing left)
      (sends_close.trace_of_nothing right)

theorem twins_run (operation : Operation) :
    Respects (Twins source firstStart secondStart) (operation.run source) := by
  have frame : PairFrame (Twins source firstStart secondStart) := pairFrame_twins
  have engine : Respects (Twins source firstStart secondStart) (requireEngine source) :=
    twins_requireEngine
  cases operation with
  | query sql =>
      exact respects_bind (respects_query frame engine sql) fun _ => respects_pure _
  | columnNames sql =>
      exact respects_bind (respects_columnNames frame engine sql) fun _ => respects_pure _
  | primaryKey table =>
      exact respects_bind (respects_primaryKey frame engine table) fun _ => respects_pure _
  | delimit name =>
      exact respects_bind (respects_delimit engine name) fun _ => respects_pure _
  | engine =>
      exact respects_bind engine fun _ => respects_pure _
  | qualify column relation =>
      exact respects_pure _
  | close =>
      exact respects_bind twins_close fun _ => respects_pure _
  | queryAndClose sql =>
      refine respects_bind ?_ fun _ => respects_pure _
      exact respects_thenClose twins_close (respects_query frame engine sql)

/-- The operations of one run, all with one data source behind them. -/
def callsTo (source : DataSource) (operations : List Operation) : List Call :=
  operations.map (Call.mk source)

/-- Twins answer every run of operations alike, and are twins at its end. -/
theorem Twins.serve {left right : Session} (twins : Twins source firstStart secondStart left right)
    (operations : List Operation) :
    (serve (callsTo source operations) left).1 = (serve (callsTo source operations) right).1 ∧
      Twins source firstStart secondStart (serve (callsTo source operations) left).2
        (serve (callsTo source operations) right).2 := by
  induction operations generalizing left right with
  | nil =>
      exact ⟨rfl, twins⟩
  | cons operation rest ih =>
      obtain ⟨alike, after⟩ := twins_run operation left right twins
      obtain ⟨replies, last⟩ := ih after
      exact ⟨List.cons_eq_cons.mpr ⟨alike.eq, replies⟩, last⟩

end

/-! ### Executors in use -/

/-- Between two sessions the executor stayed as it was, but for an engine that it may have
obtained. -/
def Settles (source : DataSource) (before after : Session) : Prop :=
  after.executor = before.executor ∨
    (Obtains source before.executor ∧
      after.executor = { before.executor with hasEngine := true })

theorem frame_settles (source : DataSource) : Frame (Settles source) where
  refl _ := Or.inl rfl
  trans := by
    intro first second third earlier later
    rcases earlier with same | ⟨obtains, equipped⟩
    · rw [Settles, ← same]
      exact later
    · refine Or.inr ⟨obtains, ?_⟩
      rcases later with same | ⟨_, again⟩
      · rw [same, equipped]
      · rw [again, equipped]
  noted _ _ := Or.inl rfl
  executed _ _ := Or.inl rfl
  lookedUp _ _ _ := Or.inl rfl

theorem settles_requireEngine (source : DataSource) :
    Keeps (Settles source) (requireEngine source) := by
  intro session
  have step := requireEngine_step source session
  generalize requireEngine source session = outcome at step ⊢
  cases step with
  | refused isClosed => exact Or.inl rfl
  | ready isOpen hasEngine => exact Or.inl rfl
  | unaddressed failure journal isOpen hasNone flaw isFlaw => exact Or.inl rfl
  | withheld failure journal isOpen hasNone url isAddress fault faulty => exact Or.inl rfl
  | given journal isOpen hasNone url isAddress faultless =>
      exact Or.inr ⟨Or.inr ⟨⟨url, isAddress⟩, faultless⟩, rfl⟩

theorem settles_serve {source : DataSource} {operations : List Operation}
    (unclosed : ∀ operation ∈ operations, operation.closes = false) (session : Session) :
    Settles source session (serve (callsTo source operations) session).2 := by
  induction operations generalizing session with
  | nil =>
      exact Or.inl rfl
  | cons operation rest ih =>
      rw [List.forall_mem_cons] at unclosed
      obtain ⟨between, settles, ⟨_, ended⟩ | ⟨closes, _⟩⟩ :=
        operation.run_cases (frame_settles source) (settles_requireEngine source) session
      · rw [← ended] at settles
        exact (frame_settles source).trans settles (ih unclosed.2 _)
      · rw [unclosed.1] at closes
        cases closes

theorem Settles.twins {source : DataSource} {before after fresh : Session}
    (settles : Settles source before after) (same : before.executor = fresh.executor) :
    Twins source after.trace fresh.trace after fresh := by
  rw [Settles, same] at settles
  refine ⟨?_, ?_, .refl _ _⟩
  · rcases settles with unchanged | ⟨_, equipped⟩
    · rw [unchanged]
    · rw [equipped]
  · intro _
    rcases settles with unchanged | ⟨obtains, equipped⟩
    · rw [unchanged]
      cases hasEngine : fresh.executor.hasEngine with
      | true => exact Or.inl ⟨Or.inl hasEngine, Or.inl hasEngine⟩
      | false => exact Or.inr ⟨hasEngine, hasEngine, rfl, rfl⟩
    · rw [equipped]
      exact Or.inl ⟨Or.inl rfl, obtains⟩

theorem serve_append (earlier later : List Call) (session : Session) :
    (serve (earlier ++ later) session).1 =
      (serve earlier session).1 ++ (serve later (serve earlier session).2).1 := by
  induction earlier generalizing session with
  | nil =>
      rfl
  | cons call rest ih =>
      exact congrArg (List.cons _) (ih _)

theorem length_serve (calls : List Call) (session : Session) :
    (serve calls session).1.length = calls.length := by
  induction calls generalizing session with
  | nil =>
      rfl
  | cons call rest ih =>
      exact congrArg Nat.succ (ih _)

/-! ### Answers -/

/-- An executor whose own engine can be created answers every run of operations like one that
borrows an engine of the same data source, of which both ask the same. And up to the first closing
operation every executor answers each operation of a run as a fresh one does that is given no
other. -/
theorem answers_same (source : DataSource) (operations : List Operation) :
    (∀ (own borrowing : Session) (connection other : ConnectionSettings),
      own.executor = ofConnection connection false →
      borrowing.executor = ofConnection other true →
      (Url.read (connection.connectionString.getD "")).isOk = true →
      source.createFault = none →
        (serve (callsTo source operations) own).1 =
            (serve (callsTo source operations) borrowing).1 ∧
          Trace.Parallel own.trace borrowing.trace (serve (callsTo source operations) own).2.trace
            (serve (callsTo source operations) borrowing).2.trace) ∧
    (∀ (session fresh : Session) (connection : ConnectionSettings) (isBorrowed : Bool),
      session.executor = ofConnection connection isBorrowed →
      fresh.executor = ofConnection connection isBorrowed →
      ∀ earlier operation later, operations = earlier ++ operation :: later →
        (∀ other ∈ earlier, other.closes = false) →
        (serve (callsTo source operations) session).1[earlier.length]? =
          some (operation.run source fresh).1) := by
  constructor
  · intro own borrowing connection other isOwn isBorrowing parses faultless
    have obtains : Obtains source own.executor := by
      refine Or.inr ⟨?_, faultless⟩
      rw [isOwn, address, ofConnection]
      dsimp only
      cases read : Url.read (connection.connectionString.getD "") with
      | ok url =>
          exact ⟨_, rfl⟩
      | error flaw =>
          rw [read] at parses
          cases parses
    have twins : Twins source own.trace borrowing.trace own borrowing :=
      { isClosed := by rw [isOwn, isBorrowing]; rfl
        served := fun _ => Or.inl ⟨obtains, Or.inl (by rw [isBorrowing]; rfl)⟩
        parallel := .refl _ _ }
    obtain ⟨replies, last⟩ := twins.serve operations
    exact ⟨replies, last.parallel⟩
  · rintro session fresh connection isBorrowed isUsed isFresh earlier operation later rfl unclosed
    -- what came before has left the executor a twin of the fresh one, so the next answers agree
    have settles : Settles source session (serve (callsTo source earlier) session).2 :=
      settles_serve unclosed session
    have twins := settles.twins (isUsed.trans isFresh.symm)
    obtain ⟨alike, _⟩ := twins_run operation _ _ twins
    rw [callsTo, List.map_append, serve_append, List.getElem?_append_right, length_serve,
      List.length_map, Nat.sub_self]
    · exact congrArg some alike.eq
    · exact Nat.le_of_eq (by rw [length_serve, List.length_map])

/-- A data source that gives one number for every statement and knows no primary keys. -/
private def numbering : DataSource :=
  { dialect := .sqlite
    typeObjects := .none
    queries := [⟨none, .ok ⟨some [("one", .null)], [[.integer 1]], none⟩⟩]
    primaryKeys := []
    connectFault := none
    createFault := none }

/-- An executor of one's own and a borrowing one with no address, over a lookup that fails, a
closing and a refusal. -/
theorem answers_same_closed :
    let own : Session :=
      ⟨ofConnection ⟨some "sqlite", some "sqlite://", none, none⟩ false, .empty, []⟩
    let borrowing : Session := ⟨ofConnection ⟨none, none, none, none⟩ true, .empty, []⟩
    let operations : List Operation :=
      [.engine, .query "SELECT 1", .primaryKey "t", .close, .delimit "t"]
    let calls := callsTo numbering operations
    (serve calls own).1.map Except.isOk = [true, true, false, true, false] ∧
      (serve calls own).1 = (serve calls borrowing).1 ∧
      (serve calls own).2.trace.executed = ["SELECT 1"] ∧
      (serve calls own).1[2]? = some ((Operation.primaryKey "t").run numbering own).1 := by
  intro own borrowing operations calls
  obtain ⟨alike, alone⟩ := answers_same numbering operations
  obtain ⟨replies, _⟩ := alike own borrowing _ _ rfl rfl (by decide +kernel) rfl
  refine ⟨by decide +kernel, replies, by decide +kernel, ?_⟩
  exact alone own own _ false rfl rfl [.engine, .query "SELECT 1"] (.primaryKey "t")
    [.close, .delimit "t"] rfl (by decide)

end Executor
end ImportPlanning
