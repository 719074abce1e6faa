/-
The engine of an executor: what asking for it comes to, what the steps between do to it, and what
closing does. An engine that a data source gives is held by the executor until it is closed, and then
disposed of if it is not borrowed.

Which errors are raised where no engine is given is not said here.
-/
import ImportPlanning.Proofs.Frames

namespace ImportPlanning

open SessionM

/-- The number of engines that the executor holds. -/
def Session.held (session : Session) : Nat :=
  if session.executor.hasEngine then 1 else 0

theorem Session.held_le_one (session : Session) : session.held ≤ 1 := by
  rw [held]
  split <;> omega

theorem Session.held_pos_iff (session : Session) :
    0 < session.held ↔ session.executor.hasEngine = true := by
  rw [held]
  split <;> simp_all

namespace Executor

/-! ### Asking for the engine -/

/-- What asking for the engine comes to: a closed executor refuses, one that has its engine is ready,
and one that has none calls for it at its address, if it has one. The data source gives an engine
unless it has a fault for the call. -/
inductive EngineStep (source : DataSource) (session : Session) : Except Failure Unit × Session → Prop
    where
  | refused (isClosed : session.executor.isClosed = true) :
      EngineStep source session (.error .executorClosed, session)
  | ready (isOpen : session.executor.isClosed = false)
      (hasEngine : session.executor.hasEngine = true) :
      EngineStep source session (.ok (), session)
  | unaddressed (failure : Failure) (journal : List LogRecord)
      (isOpen : session.executor.isClosed = false)
      (hasNone : session.executor.hasEngine = false)
      (flaw : UrlFlaw) (isFlaw : session.executor.address = .error flaw) :
      EngineStep source session (.error failure, { session with journal })
  | withheld (failure : Failure) (journal : List LogRecord)
      (isOpen : session.executor.isClosed = false)
      (hasNone : session.executor.hasEngine = false)
      (url : DatabaseUrl) (isAddress : session.executor.address = .ok url)
      (fault : Fault) (faulty : source.createFault = some fault) :
      EngineStep source session (.error failure,
        ⟨session.executor, session.trace.noteCreated (Url.text false url), journal⟩)
  | given (journal : List LogRecord)
      (isOpen : session.executor.isClosed = false)
      (hasNone : session.executor.hasEngine = false)
      (url : DatabaseUrl) (isAddress : session.executor.address = .ok url)
      (faultless : source.createFault = none) :
      EngineStep source session (.ok (),
        ⟨{ session.executor with hasEngine := true },
          session.trace.noteCreated (Url.text false url), journal⟩)

private theorem run_guarded_error {α : Type} (operation : String)
    (details : List (String × Value)) (fault : AccessFault) (session : Session) :
    ∃ failure journal, (guarded operation details (.error fault) : SessionM α) session =
      (.error failure, { session with journal }) := by
  cases fault with
  | known cause => exact ⟨_, _, rfl⟩
  | foreign fault => exact ⟨_, _, rfl⟩

private theorem createEngineAt_step {source : DataSource} {session : Session} {url : DatabaseUrl}
    (isOpen : session.executor.isClosed = false) (hasNone : session.executor.hasEngine = false)
    (isAddress : session.executor.address = .ok url) :
    EngineStep source session (createEngineAt source session.executor url session) := by
  rw [createEngineAt, run_bind, run_record]
  dsimp only
  cases faulty : source.createFault with
  | none =>
      exact .given _ isOpen hasNone url isAddress faulty
  | some fault =>
      dsimp only
      -- a module that is missing has a report of its own, any other fault goes through the guard
      split
      · exact .withheld _ _ isOpen hasNone url isAddress fault faulty
      · obtain ⟨failure, journal, ended⟩ :
            ∃ failure journal, (guarded "Engine creation" [] (.error (.unreported fault)) :
              SessionM Unit) { session with
                trace := session.trace.noteCreated (Url.text false url) } =
              (.error failure, ⟨session.executor,
                session.trace.noteCreated (Url.text false url), journal⟩) :=
          run_guarded_error _ _ _ _
        rw [ended]
        exact .withheld failure journal isOpen hasNone url isAddress fault faulty

/-- A closed executor refuses, and one that has its engine calls for none. -/
theorem requireEngine_eq (source : DataSource) (session : Session) :
    requireEngine source session =
      if session.executor.isClosed = true then (.error .executorClosed, session)
      else if session.executor.hasEngine = true then (.ok (), session)
      else createEngine source session.executor session := by
  rw [requireEngine, run_bind, run_executor]
  dsimp only
  split
  · rfl
  · split
    · rfl
    · rfl

theorem requireEngine_step (source : DataSource) (session : Session) :
    EngineStep source session (requireEngine source session) := by
  rw [requireEngine_eq]
  cases isClosed : session.executor.isClosed with
  | true =>
      exact .refused isClosed
  | false =>
      cases hasEngine : session.executor.hasEngine with
      | true =>
          exact .ready isClosed hasEngine
      | false =>
          rw [if_neg Bool.false_ne_true, if_neg Bool.false_ne_true, createEngine]
          cases isAddress : session.executor.address with
          | ok url =>
              exact createEngineAt_step isClosed hasEngine isAddress
          | error flaw =>
              cases flaw with
              | unreadable => exact .unaddressed _ _ isClosed hasEngine _ isAddress
              | badPort port flaw =>
                  exact .unaddressed _ session.journal isClosed hasEngine _ isAddress

/-- The executor has its engine, or is given one when it calls for it. -/
def Obtains (source : DataSource) (executor : Executor) : Prop :=
  executor.hasEngine = true ∨
    (∃ url, executor.address = .ok url) ∧ source.createFault = none

/-- An open executor that obtains its engine has it afterwards, and nothing was asked of the data
source for it. -/
theorem requireEngine_of_obtains {source : DataSource} {session : Session}
    (isOpen : session.executor.isClosed = false) (obtains : Obtains source session.executor) :
    ∃ after, requireEngine source session = (.ok (), after) ∧
      after.executor = { session.executor with hasEngine := true } ∧
      after.trace.executed = session.trace.executed ∧
      after.trace.lookups = session.trace.lookups := by
  have step := requireEngine_step source session
  generalize requireEngine source session = outcome at step ⊢
  cases step with
  | refused isClosed =>
      rw [isOpen] at isClosed
      cases isClosed
  | ready isOpen hasEngine =>
      refine ⟨session, rfl, ?_, rfl, rfl⟩
      rw [← hasEngine]
  | unaddressed failure journal isOpen hasNone flaw isFlaw =>
      rcases obtains with hasEngine | ⟨⟨url, isAddress⟩, _⟩
      · rw [hasNone] at hasEngine
        cases hasEngine
      · rw [isFlaw] at isAddress
        cases isAddress
  | withheld failure journal isOpen hasNone url isAddress fault faulty =>
      rcases obtains with hasEngine | ⟨_, faultless⟩
      · rw [hasNone] at hasEngine
        cases hasEngine
      · rw [faulty] at faultless
        cases faultless
  | given journal isOpen hasNone url isAddress faultless =>
      exact ⟨_, rfl, rfl, rfl, rfl⟩

/-! ### Engines given -/

/-- The number of engines that a data source has given between two traces: one at each call, unless
it has a fault for the calls. -/
def enginesGiven (source : DataSource) (before after : Trace) : Nat :=
  match source.createFault with
  | some _ => 0
  | none => after.created.length - before.created.length

theorem enginesGiven_same {source : DataSource} {before after : Trace}
    (same : after.created = before.created) : enginesGiven source before after = 0 := by
  rw [enginesGiven, same, Nat.sub_self]
  cases source.createFault <;> rfl

theorem enginesGiven_trans (source : DataSource) {first second third : Trace}
    (earlier : first.created.length ≤ second.created.length)
    (later : second.created.length ≤ third.created.length) :
    enginesGiven source first third =
      enginesGiven source first second + enginesGiven source second third := by
  rw [enginesGiven, enginesGiven, enginesGiven]
  cases source.createFault with
  | some fault => rfl
  | none =>
      dsimp only
      omega

/-- A session and a later one between which the executor was not closed: the engines that it holds
more are those that were given, none was disposed of, and an executor that was closed or held an
engine has called for none. -/
structure Opens (source : DataSource) (before after : Session) : Prop where
  isBorrowed : after.executor.isBorrowed = before.executor.isBorrowed
  isClosed : after.executor.isClosed = before.executor.isClosed
  disposed : after.trace.disposed = before.trace.disposed
  held : after.held = before.held + enginesGiven source before.trace after.trace
  calls : before.trace.created.length ≤ after.trace.created.length
  idle : before.executor.isClosed = true ∨ before.executor.hasEngine = true →
    after.trace.created = before.trace.created

theorem Opens.of_same {source : DataSource} {before after : Session}
    (executor : after.executor = before.executor)
    (created : after.trace.created = before.trace.created)
    (disposed : after.trace.disposed = before.trace.disposed) : Opens source before after where
  isBorrowed := by rw [executor]
  isClosed := by rw [executor]
  disposed := disposed
  held := by rw [Session.held, executor, enginesGiven_same created]; rfl
  calls := Nat.le_of_eq (by rw [created])
  idle := fun _ => created

theorem Opens.hasEngine {source : DataSource} {before after : Session}
    (opens : Opens source before after) (had : before.executor.hasEngine = true) :
    after.executor.hasEngine = true := by
  rw [← Session.held_pos_iff] at had ⊢
  rw [opens.held]
  omega

theorem Opens.trans {source : DataSource} {first second third : Session}
    (earlier : Opens source first second) (later : Opens source second third) :
    Opens source first third where
  isBorrowed := later.isBorrowed.trans earlier.isBorrowed
  isClosed := later.isClosed.trans earlier.isClosed
  disposed := later.disposed.trans earlier.disposed
  held := by
    rw [later.held, earlier.held, enginesGiven_trans source earlier.calls later.calls,
      Nat.add_assoc]
  calls := Nat.le_trans earlier.calls later.calls
  idle := by
    intro settled
    -- neither closing nor an engine can have gone between the first two
    have still : second.executor.isClosed = true ∨ second.executor.hasEngine = true := by
      rcases settled with closed | had
      · exact Or.inl (earlier.isClosed.trans closed)
      · exact Or.inr (earlier.hasEngine had)
    exact (later.idle still).trans (earlier.idle settled)

theorem frame_opens (source : DataSource) : Frame (Opens source) where
  refl _ := .of_same rfl rfl rfl
  trans := Opens.trans
  noted _ _ := .of_same rfl rfl rfl
  executed _ _ := .of_same rfl rfl rfl
  lookedUp _ _ _ := .of_same rfl rfl rfl

theorem keeps_requireEngine (source : DataSource) :
    Keeps (Opens source) (requireEngine source) := by
  intro session
  have step := requireEngine_step source session
  generalize requireEngine source session = outcome at step ⊢
  cases step with
  | refused isClosed => exact (frame_opens source).refl session
  | ready isOpen hasEngine => exact (frame_opens source).refl session
  | unaddressed failure journal isOpen hasNone flaw isFlaw => exact .of_same rfl rfl rfl
  | withheld failure journal isOpen hasNone url isAddress fault faulty =>
      exact
        { isBorrowed := rfl
          isClosed := rfl
          disposed := rfl
          held := by rw [enginesGiven, faulty]; rfl
          calls := by simp [Trace.noteCreated]
          idle := by simp [isOpen, hasNone] }
  | given journal isOpen hasNone url isAddress faultless =>
      exact
        { isBorrowed := rfl
          isClosed := rfl
          disposed := rfl
          held := by simp [enginesGiven, faultless, Session.held, hasNone, Trace.noteCreated]
          calls := by simp [Trace.noteCreated]
          idle := by simp [isOpen, hasNone] }

/-! ### Closing -/

/-- A session and the one after the executor is closed: an engine of its own is disposed of if one is
held, and none is held any more. An executor that was closed is left as it was. -/
structure Closing (before after : Session) : Prop where
  isBorrowed : after.executor.isBorrowed = before.executor.isBorrowed
  isClosed : after.executor.isClosed = true
  created : after.trace.created = before.trace.created
  held : before.executor.isClosed = false → after.held = 0
  disposed : before.executor.isClosed = false → after.trace.disposed =
    before.trace.disposed + if before.executor.isBorrowed then 0 else before.held
  again : before.executor.isClosed = true → after = before

theorem Closing.enginesGiven_eq {between after : Session} (closing : Closing between after)
    (source : DataSource) (before : Trace) :
    enginesGiven source before after.trace = enginesGiven source before between.trace := by
  rw [enginesGiven, enginesGiven, closing.created]

theorem close_of_closed {session : Session} (closed : session.executor.isClosed = true) :
    close session = (.ok (), session) := by
  rw [close, run_bind, run_executor]
  dsimp only
  rw [if_pos closed, run_pure]

theorem close_result (session : Session) : (close session).1 = .ok () := by
  cases isClosed : session.executor.isClosed with
  | true =>
      rw [close_of_closed isClosed]
  | false =>
      rw [close, run_bind, run_executor]
      dsimp only
      rw [isClosed, if_neg Bool.false_ne_true, run_bind, run_update]
      dsimp only
      split
      · rfl
      · rfl

theorem closing_close (session : Session) : Closing session (close session).2 := by
  cases isClosed : session.executor.isClosed with
  | true =>
      rw [close_of_closed isClosed]
      exact ⟨rfl, isClosed, rfl, by simp [isClosed], by simp [isClosed], fun _ => rfl⟩
  | false =>
      rw [close, run_bind, run_executor]
      dsimp only
      rw [isClosed, if_neg Bool.false_ne_true, run_bind, run_update]
      dsimp only
      -- an engine is disposed of in just one of the four cases: it is held, and it is not borrowed
      cases hasEngine : session.executor.hasEngine <;>
        cases isBorrowed : session.executor.isBorrowed <;>
        constructor <;> simp [*, Session.held, run_bind, Trace.noteDisposed]

end Executor
end ImportPlanning
