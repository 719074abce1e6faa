/-
What the steps of a session do to the trace. A step is described by the primary keys that it looks up
and the statements that it sends when it succeeds; a step that fails has done the first of them.
Descriptions of two steps join to one of both, so an operation is described by going through its
steps.

What a data source answers plays no part.
-/
import ImportPlanning.Proofs.Agreement
import ImportPlanning.Session

namespace ImportPlanning.SessionM

variable {α β : Type}

theorem run_tryCatch (step : SessionM α) (handle : Failure → SessionM α) (session : Session) :
    (tryCatch step handle : SessionM α) session =
      match step session with
      | (.ok value, after) => (.ok value, after)
      | (.error failure, after) => handle failure after := by
  have handled : (tryCatch step handle : SessionM α) session =
      ExceptT.tryCatch step handle session := rfl
  rw [handled, ExceptT.tryCatch, ExceptT.mk]
  simp only [bind, StateT.bind]
  rcases step session with ⟨result, after⟩
  cases result with
  | ok value => rfl
  | error failure => rfl

@[simp] theorem run_pure (value : α) (session : Session) :
    (pure value : SessionM α) session = (.ok value, session) :=
  rfl

@[simp] theorem run_executor (session : Session) :
    executor session = (.ok session.executor, session) :=
  rfl

@[simp] theorem run_note (severity : Severity) (logger message : String) (session : Session) :
    note severity logger message session =
      (.ok (), { session with
        journal := session.journal ++ [⟨severity, loggerName logger, message⟩] }) :=
  rfl

@[simp] theorem run_record (change : Trace → Trace) (session : Session) :
    record change session = (.ok (), { session with trace := change session.trace }) :=
  rfl

@[simp] theorem run_update (change : Executor → Executor) (session : Session) :
    update change session = (.ok (), { session with executor := change session.executor }) :=
  rfl

/-- From any session on, the step looks up the first of the given keys and sends the first of the
given statements, and all of them if it succeeds with a value, which then satisfies `answers`. -/
def Asks (keys : List (Option String × String)) (statements : List String) (answers : α → Prop)
    (step : SessionM α) : Prop :=
  ∀ session : Session, ∃ looked sent, looked <+: keys ∧ sent <+: statements ∧
    (step session).2.trace.lookups = session.trace.lookups ++ looked ∧
    (step session).2.trace.executed = session.trace.executed ++ sent ∧
    ∀ value, (step session).1 = .ok value → looked = keys ∧ sent = statements ∧ answers value

abbrev Sends (statements : List String) (answers : α → Prop) (step : SessionM α) : Prop :=
  Asks [] statements answers step

/-! ### Steps that fail -/

/-- From the session on, the step fails, and does nothing but report. -/
def FailsWith (failure : Failure) (session : Session) (step : SessionM α) : Prop :=
  ∃ journal, step session = (.error failure, { session with journal })

section

variable {failure : Failure} {session : Session}

theorem failsWith_throw : FailsWith failure session (throw failure : SessionM α) :=
  ⟨session.journal, rfl⟩

theorem failsWith_bind {step : SessionM α} (fails : FailsWith failure session step)
    (next : α → SessionM β) : FailsWith failure session (step >>= next) := by
  obtain ⟨journal, failed⟩ := fails
  refine ⟨journal, ?_⟩
  rw [run_bind, failed]

theorem failsWith_afterNote {severity : Severity} {logger message : String} {step : SessionM α}
    (fails : ∀ journal, FailsWith failure { session with journal } step) :
    FailsWith failure session (note severity logger message >>= fun _ => step) := by
  obtain ⟨journal, failed⟩ := fails _
  refine ⟨journal, ?_⟩
  rw [run_bind, run_note]
  exact failed

end

/-! ### Single steps -/

theorem sends_pure {answers : α → Prop} {value : α} (answered : answers value) :
    Sends [] answers (pure value) := by
  intro session
  refine ⟨[], [], List.nil_prefix, List.nil_prefix, (List.append_nil _).symm,
    (List.append_nil _).symm, ?_⟩
  intro other same
  have equal : value = other := Except.ok.inj same
  subst equal
  exact ⟨rfl, rfl, answered⟩

/-- A step that only fails does nothing of what was meant to be done. -/
theorem asks_throw (keys : List (Option String × String)) (statements : List String)
    (answers : α → Prop) (failure : Failure) : Asks keys statements answers (throw failure) := by
  intro session
  refine ⟨[], [], List.nil_prefix, List.nil_prefix, (List.append_nil _).symm,
    (List.append_nil _).symm, ?_⟩
  intro value impossible
  cases impossible

theorem sends_modify (change : Session → Session)
    (lookups : ∀ session, (change session).trace.lookups = session.trace.lookups)
    (executed : ∀ session, (change session).trace.executed = session.trace.executed) :
    Sends [] (fun _ => True) (modify change : SessionM Unit) := by
  intro session
  refine ⟨[], [], List.nil_prefix, List.nil_prefix, ?_, ?_, fun _ _ => ⟨rfl, rfl, trivial⟩⟩
  · rw [List.append_nil]
    exact lookups session
  · rw [List.append_nil]
    exact executed session

theorem sends_note (severity : Severity) (logger message : String) :
    Sends [] (fun _ => True) (note severity logger message) :=
  sends_modify _ (fun _ => rfl) (fun _ => rfl)

theorem sends_update (change : Executor → Executor) :
    Sends [] (fun _ => True) (update change) :=
  sends_modify _ (fun _ => rfl) (fun _ => rfl)

theorem sends_noteCreated (address : String) :
    Sends [] (fun _ => True) (record (Trace.noteCreated address)) :=
  sends_modify _ (fun _ => rfl) (fun _ => rfl)

theorem sends_noteDisposed : Sends [] (fun _ => True) (record Trace.noteDisposed) :=
  sends_modify _ (fun _ => rfl) (fun _ => rfl)

theorem sends_noteExecuted (statement : String) :
    Sends [statement] (fun _ => True) (record (Trace.noteExecuted statement)) := by
  intro session
  exact ⟨[], [statement], List.nil_prefix, List.prefix_refl _, (List.append_nil _).symm, rfl,
    fun _ _ => ⟨rfl, rfl, trivial⟩⟩

theorem asks_noteLookup (schema : Option String) (table : String) :
    Asks [(schema, table)] [] (fun _ => True) (record (Trace.noteLookup schema table)) := by
  intro session
  exact ⟨[(schema, table)], [], List.prefix_refl _, List.nil_prefix, rfl,
    (List.append_nil _).symm, fun _ _ => ⟨rfl, rfl, trivial⟩⟩

theorem sends_executor : Sends [] (fun _ => True) executor := by
  intro session
  exact ⟨[], [], List.nil_prefix, List.nil_prefix, (List.append_nil _).symm,
    (List.append_nil _).symm, fun _ _ => ⟨rfl, rfl, trivial⟩⟩

theorem sends_ofExcept (result : Except Failure α) :
    Sends [] (fun value => result = .ok value) (ofExcept result : SessionM α) := by
  cases result with
  | ok value => exact sends_pure rfl
  | error failure => exact asks_throw _ _ _ failure

/-! ### Steps in a row -/

section

variable {keys laterKeys : List (Option String × String)} {statements laterStatements : List String}
  {first : α → Prop} {second : β → Prop} {step : SessionM α} {next : α → SessionM β}

theorem asks_bind (begins : Asks keys statements first step)
    (goesOn : ∀ value, first value → Asks laterKeys laterStatements second (next value)) :
    Asks (keys ++ laterKeys) (statements ++ laterStatements) second (step >>= next) := by
  intro session
  obtain ⟨looked, sent, isLooked, isSent, lookups, executed, succeeded⟩ := begins session
  rw [run_bind]
  cases ended : step session with
  | mk result after =>
      rw [ended] at lookups executed succeeded
      cases result with
      | error failure =>
          refine ⟨looked, sent, isLooked.trans (List.prefix_append _ _),
            isSent.trans (List.prefix_append _ _), lookups, executed, ?_⟩
          intro value impossible
          cases impossible
      | ok value =>
          obtain ⟨allKeys, allStatements, answered⟩ := succeeded value rfl
          subst allKeys
          subst allStatements
          obtain ⟨moreLooked, moreSent, isMoreLooked, isMoreSent, lookupsMore, executedMore,
            succeededMore⟩ := goesOn value answered after
          refine ⟨looked ++ moreLooked, sent ++ moreSent,
            (List.prefix_append_right_inj looked).mpr isMoreLooked,
            (List.prefix_append_right_inj sent).mpr isMoreSent, ?_, ?_, ?_⟩
          · rw [lookupsMore, lookups, List.append_assoc]
          · rw [executedMore, executed, List.append_assoc]
          · intro final returned
            obtain ⟨moreKeys, moreStatements, finalAnswer⟩ := succeededMore final returned
            exact ⟨by rw [moreKeys], by rw [moreStatements], finalAnswer⟩

theorem asks_after (silent : Sends [] first step)
    (goesOn : ∀ value, first value → Asks keys statements second (next value)) :
    Asks keys statements second (step >>= next) :=
  asks_bind silent goesOn

theorem asks_before (begins : Asks keys statements first step)
    (silent : ∀ value, first value → Sends [] second (next value)) :
    Asks keys statements second (step >>= next) := by
  have both := asks_bind begins silent
  rwa [List.append_nil, List.append_nil] at both

end

theorem Asks.weaken {keys : List (Option String × String)} {statements : List String}
    {first second : α → Prop} {step : SessionM α} (asks : Asks keys statements first step)
    (implies : ∀ value, first value → second value) : Asks keys statements second step := by
  intro session
  obtain ⟨looked, sent, isLooked, isSent, lookups, executed, succeeded⟩ := asks session
  refine ⟨looked, sent, isLooked, isSent, lookups, executed, ?_⟩
  intro value returned
  obtain ⟨allKeys, allStatements, answered⟩ := succeeded value returned
  exact ⟨allKeys, allStatements, implies value answered⟩

/-- A step that asks for nothing leaves lookups and statements as they were. -/
theorem Asks.trace_of_nothing {answers : α → Prop} {step : SessionM α}
    (asks : Asks [] [] answers step) (session : Session) :
    (step session).2.trace.lookups = session.trace.lookups ∧
      (step session).2.trace.executed = session.trace.executed := by
  obtain ⟨looked, sent, isLooked, isSent, lookups, executed, _⟩ := asks session
  rw [List.prefix_nil.mp isLooked, List.append_nil] at lookups
  rw [List.prefix_nil.mp isSent, List.append_nil] at executed
  exact ⟨lookups, executed⟩

/-- What follows a step and asks for nothing leaves lookups and statements as the step has left
them. -/
theorem trace_bind_of_silent {step : SessionM α} {next : α → SessionM β}
    (silent : ∀ value, Sends [] (fun _ => True) (next value)) (session : Session) :
    ((step >>= next) session).2.trace.lookups = (step session).2.trace.lookups ∧
      ((step >>= next) session).2.trace.executed = (step session).2.trace.executed := by
  rw [run_bind]
  rcases step session with ⟨result, after⟩
  cases result with
  | ok value => exact (silent value).trace_of_nothing after
  | error failure => exact ⟨rfl, rfl⟩

end ImportPlanning.SessionM
