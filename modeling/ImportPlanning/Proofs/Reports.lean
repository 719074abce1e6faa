/-
How operations report the breakdowns of a data source. A step reports the breakdowns of its phases if
it fails with the report of one that it meets, and succeeds if it meets none; so does a row of steps,
each of which is reached only past those before it. Every operation of an open executor is such a row.
-/
import ImportPlanning.Proofs.Breakdowns

namespace ImportPlanning.Executor

open SessionM

/-! ### Steps that report breakdowns -/

/-- Taken by an executor that fits, the step fails with the report of a breakdown if there is one,
and succeeds if there is none. -/
structure Reports {α : Type} (fits : Executor → Prop) (driver : String)
    (breaks : Phase → Cause → Prop) (step : SessionM α) : Prop where
  broken : ∀ session, fits session.executor → ∀ phase cause, breaks phase cause →
    (step session).1 = .error (.planner (phase.report driver cause))
  whole : (∀ phase cause, ¬ breaks phase cause) → ∀ session, fits session.executor →
    ∃ value after, step session = (.ok value, after)

section

variable {α β : Type} {fits : Executor → Prop} {driver : String}
  {breaks laterBreaks : Phase → Cause → Prop} {step : SessionM α}

/-- A step that reports breakdowns fails just with the reports of breakdowns. -/
theorem Reports.error_iff (reports : Reports fits driver breaks step) {session : Session}
    (isFit : fits session.executor) {failure : Failure} :
    (step session).1 = .error failure ↔
      ∃ phase cause, breaks phase cause ∧ failure = .planner (phase.report driver cause) := by
  constructor
  · intro failed
    by_cases unbroken : ∀ phase cause, ¬ breaks phase cause
    · obtain ⟨value, after, succeeded⟩ := reports.whole unbroken session isFit
      rw [succeeded] at failed
      cases failed
    · obtain ⟨phase, inPhase⟩ := Classical.not_forall.mp unbroken
      obtain ⟨cause, notWhole⟩ := Classical.not_forall.mp inPhase
      have isBroken : breaks phase cause := Classical.not_not.mp notWhole
      rw [reports.broken session isFit phase cause isBroken] at failed
      exact ⟨phase, cause, isBroken, (Except.error.inj failed).symm⟩
  · rintro ⟨phase, cause, isBroken, rfl⟩
    exact reports.broken session isFit phase cause isBroken

theorem Reports.congr (reports : Reports fits driver breaks step)
    (same : ∀ phase cause, breaks phase cause ↔ laterBreaks phase cause) :
    Reports fits driver laterBreaks step where
  broken session isFit phase cause isBroken :=
    reports.broken session isFit phase cause ((same phase cause).mpr isBroken)
  whole unbroken := reports.whole fun phase cause isBroken =>
    unbroken phase cause ((same phase cause).mp isBroken)

def unbroken : Phase → Cause → Prop :=
  fun _ _ => False

theorem reports_pure (value : α) : Reports fits driver unbroken (pure value) where
  broken _ _ _ _ impossible := impossible.elim
  whole _ session _ := ⟨value, session, rfl⟩

theorem reports_after_modify {change : Session → Session}
    (kept : ∀ session, (change session).executor = session.executor)
    (reports : Reports fits driver breaks step) :
    Reports fits driver breaks ((modify change : SessionM Unit) >>= fun _ => step) where
  broken session isFit phase cause isBroken := by
    refine reports.broken (change session) ?_ phase cause isBroken
    rw [kept]
    exact isFit
  whole unbroken session isFit := by
    refine reports.whole unbroken (change session) ?_
    rw [kept]
    exact isFit

theorem reports_after_note {severity : Severity} {logger message : String}
    (reports : Reports fits driver breaks step) :
    Reports fits driver breaks (note severity logger message >>= fun _ => step) :=
  reports_after_modify (fun _ => rfl) reports

theorem reports_after_record {change : Trace → Trace} (reports : Reports fits driver breaks step) :
    Reports fits driver breaks (record change >>= fun _ => step) :=
  reports_after_modify (fun _ => rfl) reports

/-- Steps in a row break down where the first does, or else where the others do. -/
theorem reports_bind {next : α → SessionM β} (first : Reports fits driver breaks step)
    (later : ∀ value, Reports (fun _ => True) driver laterBreaks (next value)) :
    Reports fits driver
      (fun phase cause => breaks phase cause ∨
        (∀ phase cause, ¬ breaks phase cause) ∧ laterBreaks phase cause)
      (step >>= next) where
  broken session isFit phase cause isBroken := by
    rw [run_bind]
    rcases isBroken with atFirst | ⟨firstWhole, atLater⟩
    · have failed := first.broken session isFit phase cause atFirst
      revert failed
      rcases step session with ⟨result, after⟩
      rintro rfl
      rfl
    · -- the later steps are reached just because the first has no breakdown
      obtain ⟨value, after, succeeded⟩ := first.whole firstWhole session isFit
      rw [succeeded]
      exact (later value).broken after trivial phase cause atLater
  whole unbroken session isFit := by
    have firstWhole : ∀ phase cause, ¬ breaks phase cause := fun phase cause isBroken =>
      unbroken phase cause (Or.inl isBroken)
    obtain ⟨value, after, succeeded⟩ := first.whole firstWhole session isFit
    rw [run_bind, succeeded]
    exact (later value).whole
      (fun phase cause isBroken => unbroken phase cause (Or.inr ⟨firstWhole, isBroken⟩)) after trivial

/-- What follows a step and never fails adds no breakdown. -/
theorem reports_before {next : α → SessionM β} (first : Reports fits driver breaks step)
    (later : ∀ value, Reports (fun _ => True) driver unbroken (next value)) :
    Reports fits driver breaks (step >>= next) :=
  (reports_bind first later).congr fun _ _ => ⟨fun isBroken => isBroken.resolve_right And.right,
    Or.inl⟩

theorem reports_guarded {causes : Cause → Prop} {result : Except AccessFault α}
    (brokenBy : BrokenBy causes result) (noImport : ∀ cause, causes cause → cause.isImport = false)
    (phase : Phase) :
    Reports fits driver (fun other cause => other = phase ∧ causes cause)
      (guarded phase.name phase.details result) where
  broken := by
    rintro session _ other cause ⟨rfl, isBroken⟩
    rw [brokenBy.broken cause isBroken, Phase.planner_report (noImport cause isBroken)]
    rfl
  whole unbroken session _ := by
    obtain ⟨value, given⟩ := brokenBy.whole fun cause isBroken => unbroken phase cause ⟨rfl, isBroken⟩
    rw [given]
    exact ⟨value, session, rfl⟩

theorem reports_failOperation {cause : Cause} (other : cause.isImport = false) (phase : Phase) :
    Reports fits driver (fun failed reason => failed = phase ∧ reason = cause)
      (failOperation phase.name phase.details cause : SessionM α) where
  broken := by
    rintro session _ _ _ ⟨rfl, rfl⟩
    rw [Phase.planner_report other]
    rfl
  whole unbroken := absurd ⟨rfl, rfl⟩ (unbroken phase cause)

end

/-! ### Engines -/

/-- The port in a connection string, if there is one, is a number that can be read. -/
def PortReadable (connectionString : String) : Prop :=
  ∀ port flaw, Url.read connectionString ≠ .error (.badPort port flaw)

theorem portReadable_iff_of_flaw {connectionString : String} {flaw : UrlFlaw}
    (isFlaw : Url.read connectionString = .error flaw) :
    PortReadable connectionString ↔ flaw = .unreadable := by
  rw [PortReadable, isFlaw]
  cases flaw with
  | unreadable => simp
  | badPort port flaw => simp

/-- How asking for the engine breaks down: only where there is none yet. -/
def NoEngine (source : DataSource) (executor : Executor) (phase : Phase) (cause : Cause) : Prop :=
  phase = .engineCreation ∧ executor.hasEngine = false ∧ EngineBreaks source executor cause

theorem address_ne_badPort {executor : Executor} (readable : PortReadable executor.connectionString)
    (port : String) (flaw : Number.IntegerFlaw) :
    executor.address ≠ .error (.badPort port flaw) := by
  intro isFlaw
  rw [address, map_eq_error_iff] at isFlaw
  exact readable port flaw isFlaw

theorem obtains_iff {source : DataSource} {executor : Executor}
    (readable : PortReadable executor.connectionString) :
    Obtains source executor ↔ ∀ phase cause, ¬ NoEngine source executor phase cause := by
  constructor
  · rintro obtains phase cause ⟨_, hasNone, breaks⟩
    rcases obtains with hasEngine | ⟨⟨url, isAddress⟩, faultless⟩
    · rw [hasNone] at hasEngine
      cases hasEngine
    · cases breaks with
      | address unread =>
          rw [isAddress] at unread
          cases unread
      | creating _ _ fault faulty =>
          rw [faultless] at faulty
          cases faulty
  · intro none
    cases hasEngine : executor.hasEngine with
    | true => exact Or.inl hasEngine
    | false =>
        right
        cases isAddress : executor.address with
        | error flaw =>
            cases flaw with
            | unreadable => exact absurd ⟨rfl, hasEngine, .address isAddress⟩ (none _ _)
            | badPort port flaw => exact absurd isAddress (address_ne_badPort readable port flaw)
        | ok url =>
            cases faulty : source.createFault with
            | some fault =>
                exact absurd ⟨rfl, hasEngine, .creating url isAddress fault faulty⟩ (none _ _)
            | none => exact ⟨⟨url, rfl⟩, rfl⟩

section

variable {source : DataSource} (known : source.HasKnownFaults)

include known

theorem createEngineAt_of_fault {fault : Fault} (faulty : source.createFault = some fault)
    (executor : Executor) (url : DatabaseUrl) (session : Session) :
    (createEngineAt source executor url session).1 =
      .error (.planner (Phase.engineCreation.report executor.driver (.raised fault))) := by
  rw [createEngineAt, run_bind, run_record, faulty]
  dsimp only
  cases isImport : isImportFault fault with
  | true =>
      have missing : (Cause.raised fault).isImport = true := isImport
      rw [if_pos rfl, Phase.planner_report_of_import missing]
      rfl
  | false =>
      have present : (Cause.raised fault).isImport = false := isImport
      have ofAccess : fault.kind.isOfAccess = true :=
        (known.creating fault faulty).resolve_right (by simp [isImport])
      rw [if_neg Bool.false_ne_true, AccessFault.unreported_eq ofAccess,
        Phase.planner_report present]
      rfl

variable {executor : Executor} (isOpen : executor.isClosed = false)
  (readable : PortReadable executor.connectionString)

include isOpen readable

theorem reports_requireEngine :
    Reports (· = executor) executor.driver (NoEngine source executor) (requireEngine source) where
  broken := by
    rintro session rfl phase cause ⟨rfl, hasNone, breaks⟩
    rw [requireEngine_eq, isOpen, hasNone, if_neg Bool.false_ne_true, if_neg Bool.false_ne_true,
      createEngine]
    cases breaks with
    | address unread =>
        rw [unread, Phase.planner_report rfl]
        rfl
    | creating url isAddress fault faulty =>
        rw [isAddress]
        exact createEngineAt_of_fault known faulty _ url session
  whole := by
    rintro none session rfl
    obtain ⟨after, given, _⟩ :=
      requireEngine_of_obtains isOpen ((obtains_iff readable).mpr none)
    exact ⟨(), after, given⟩

/-- What is done once there is an engine breaks down only if one is obtained. -/
theorem reports_with_engine {α : Type} {laterBreaks : Phase → Cause → Prop}
    {next : Unit → SessionM α}
    (later : ∀ value, Reports (fun _ => True) executor.driver laterBreaks (next value)) :
    Reports (· = executor) executor.driver
      (fun phase cause => NoEngine source executor phase cause ∨
        Obtains source executor ∧ laterBreaks phase cause)
      (requireEngine source >>= next) :=
  (reports_bind (reports_requireEngine known isOpen readable) later).congr fun phase cause => by
    rw [obtains_iff readable]

end

/-! ### Operations -/

theorem connects_iff (source : DataSource) :
    source.connectFault = none ↔ ∀ cause, ¬ ConnectBreaks source cause := by
  constructor
  · rintro connects cause ⟨fault, faulty⟩
    rw [connects] at faulty
    cases faulty
  · intro none
    cases faulty : source.connectFault with
    | none => rfl
    | some fault => exact absurd (.connecting fault faulty) (none _)

section

variable {source : DataSource} (known : source.HasKnownFaults)

include known

/-- What is done once there is a connection breaks down in the phase that asked for it. -/
theorem reports_with_connection {α : Type} {fits : Executor → Prop} {driver : String} (phase : Phase)
    {causes : Cause → Prop} {next : Unit → SessionM α}
    (later : ∀ value,
      Reports (fun _ => True) driver (fun other cause => other = phase ∧ causes cause) (next value)) :
    Reports fits driver (fun other cause => other = phase ∧ ConnectedBreaks source causes cause)
      (guarded phase.name phase.details source.connect >>= next) := by
  have connecting : Reports fits driver
      (fun other cause => other = phase ∧ ConnectBreaks source cause)
      (guarded phase.name phase.details source.connect) :=
    reports_guarded (brokenBy_connect known) (fun _ breaks => breaks.isImport_eq known) phase
  refine (reports_bind connecting later).congr fun other cause => ?_
  constructor
  · rintro (⟨isPhase, breaks⟩ | ⟨whole, isPhase, breaks⟩)
    · exact ⟨isPhase, Or.inl breaks⟩
    · have connects := (connects_iff source).mpr fun cause breaks => whole phase cause ⟨rfl, breaks⟩
      exact ⟨isPhase, Or.inr ⟨connects, breaks⟩⟩
  · rintro ⟨isPhase, breaks | ⟨connects, breaks⟩⟩
    · exact Or.inl ⟨isPhase, breaks⟩
    · have whole := (connects_iff source).mp connects
      exact Or.inr ⟨fun _ cause broken => whole cause broken.2, isPhase, breaks⟩

/-- What is left of running a statement once there is a connection. -/
def runPrepared (source : DataSource) (sql : String) :
    SessionM (List (String × Value) × List (List Value)) :=
  match (Statement.prepare source.dialect sql).parameter with
  | some name =>
    failOperation "Query execution" [("sql", .text sql)]
      (.unboundParameter name (source.dialect.sent sql))
  | none => do
    record (Trace.noteExecuted (source.dialect.sent sql))
    guarded "Query execution" [("sql", .text sql)] (source.fetch (source.dialect.sent sql))

theorem reports_runPrepared (fits : Executor → Prop) (driver sql : String) :
    Reports fits driver
      (fun phase cause => phase = .queryExecution sql ∧ StatementBreaks source sql cause)
      (runPrepared source sql) := by
  rw [runPrepared]
  cases marked : (Statement.prepare source.dialect sql).parameter with
  | some name =>
      have fails : Reports fits driver
          (fun phase cause => phase = .queryExecution sql ∧
            cause = .unboundParameter name (source.dialect.sent sql))
          (failOperation "Query execution" [("sql", .text sql)]
            (.unboundParameter name (source.dialect.sent sql)) :
            SessionM (List (String × Value) × List (List Value))) :=
        reports_failOperation rfl (.queryExecution sql)
      refine fails.congr fun phase cause => and_congr_right fun _ => ?_
      constructor
      · rintro rfl
        exact .parameter name marked
      · intro breaks
        cases breaks with
        | parameter other isOther =>
            rw [marked] at isOther
            cases isOther
            rfl
        | driver unmarked =>
            rw [marked] at unmarked
            cases unmarked
  | none =>
      refine (reports_after_record (reports_guarded (brokenBy_fetch known _)
        (fun _ breaks => breaks.isImport_eq known) (.queryExecution sql))).congr
        fun phase cause => and_congr_right fun _ => ?_
      constructor
      · intro breaks
        exact .driver marked cause breaks
      · intro breaks
        cases breaks with
        | parameter other isOther =>
            rw [marked] at isOther
            cases isOther
        | driver unmarked cause breaks => exact breaks

theorem reports_runStatement (fits : Executor → Prop) (driver sql : String) :
    Reports fits driver
      (fun phase cause =>
        phase = .queryExecution sql ∧ ConnectedBreaks source (StatementBreaks source sql) cause)
      (runStatement source sql) :=
  reports_with_connection known (.queryExecution sql) fun _ =>
    reports_runPrepared known _ driver sql

theorem reports_lookUp {α : Type} (fits : Executor → Prop) (driver table : String)
    {next : List String → SessionM α}
    (later : ∀ value, Reports (fun _ => True) driver unbroken (next value)) :
    Reports fits driver
      (fun phase cause =>
        phase = .primaryKeyLookup ∧ ConnectedBreaks source (LookupBreaks source table) cause)
      (guarded "Primary key lookup" [] source.connect >>= fun _ =>
        record (Trace.noteLookup (splitTable table).1 (splitTable table).2) >>= fun _ =>
          guarded "Primary key lookup" []
            (source.lookUpKey (splitTable table).1 (splitTable table).2) >>= next) :=
  reports_with_connection known .primaryKeyLookup fun _ => reports_after_record <|
    reports_before (reports_guarded (brokenBy_lookUpKey known table)
      (fun _ breaks => breaks.isImport_eq known) .primaryKeyLookup) later

variable {executor : Executor} (isOpen : executor.isClosed = false)
  (readable : PortReadable executor.connectionString)

include isOpen readable

theorem reports_query (sql : String) :
    Reports (· = executor) executor.driver
      (fun phase cause => NoEngine source executor phase cause ∨ Obtains source executor ∧
        phase = .queryExecution sql ∧ ConnectedBreaks source (StatementBreaks source sql) cause)
      (query source sql) :=
  reports_after_note <| reports_with_engine known isOpen readable fun _ =>
    reports_before (reports_runStatement known _ _ sql) fun _ => reports_after_note (reports_pure _)

theorem reports_primaryKey (table : String) :
    Reports (· = executor) executor.driver
      (fun phase cause => NoEngine source executor phase cause ∨ Obtains source executor ∧
        phase = .primaryKeyLookup ∧ ConnectedBreaks source (LookupBreaks source table) cause)
      (primaryKey source table) := by
  refine reports_with_engine known isOpen readable fun _ => reports_lookUp known _ _ table ?_
  intro columns
  cases columns with
  | nil => exact reports_pure none
  | cons column others =>
      cases others with
      | nil => exact reports_pure (some column)
      | cons second rest => exact reports_after_note (reports_pure (some column))

end

theorem breaks_iff {source : DataSource} {executor : Executor} {operation : Operation}
    {phase : Phase} {cause : Cause} :
    Breaks source executor operation phase cause ↔
      operation.needsEngine = true ∧ NoEngine source executor phase cause ∨
      Obtains source executor ∧
        ((∃ sql, operation.statement? = some sql ∧ phase = .queryExecution sql ∧
          ConnectedBreaks source (StatementBreaks source sql) cause) ∨
        ∃ table, operation = .primaryKey table ∧ phase = .primaryKeyLookup ∧
          ConnectedBreaks source (LookupBreaks source table) cause) := by
  constructor
  · intro breaks
    cases breaks with
    | engine needs hasNone cause breaks => exact Or.inl ⟨needs, rfl, hasNone, breaks⟩
    | statement obtains sql runs cause breaks =>
        exact Or.inr ⟨obtains, Or.inl ⟨sql, runs, rfl, breaks⟩⟩
    | lookup obtains table looksUp cause breaks =>
        exact Or.inr ⟨obtains, Or.inr ⟨table, looksUp, rfl, breaks⟩⟩
  · rintro (⟨needs, rfl, hasNone, breaks⟩ | ⟨obtains, ⟨sql, runs, rfl, breaks⟩ |
      ⟨table, looksUp, rfl, breaks⟩⟩)
    · exact .engine needs hasNone cause breaks
    · exact .statement obtains sql runs cause breaks
    · exact .lookup obtains table looksUp cause breaks

theorem reports_thenClose {α : Type} {fits : Executor → Prop} {driver : String}
    {breaks : Phase → Cause → Prop} {step : SessionM α} (reports : Reports fits driver breaks step) :
    Reports fits driver breaks (thenClose step) where
  broken := reports.broken
  whole unbroken session isFit := by
    obtain ⟨value, after, succeeded⟩ := reports.whole unbroken session isFit
    refine ⟨value, (close after).2, ?_⟩
    rw [thenClose, succeeded]

theorem reports_close (fits : Executor → Prop) (driver : String) :
    Reports fits driver unbroken close where
  broken _ _ _ _ impossible := impossible.elim
  whole _ session _ := ⟨(), (close session).2, Prod.ext (close_result session) rfl⟩

/-- Each operation of an open executor reports its breakdowns, and fails with nothing else. -/
theorem Operation.reports_run {source : DataSource} (known : source.HasKnownFaults)
    {executor : Executor} (isOpen : executor.isClosed = false)
    (readable : PortReadable executor.connectionString) (operation : Operation) :
    Reports (· = executor) executor.driver (Breaks source executor operation)
      (operation.run source) := by
  have engine := reports_requireEngine known isOpen readable
  cases operation with
  | query sql =>
      refine (reports_before (reports_query known isOpen readable sql)
        fun _ => reports_pure _).congr fun phase cause => ?_
      simp [breaks_iff, needsEngine, statement?]
  | columnNames sql =>
      refine (reports_before (reports_before (reports_query known isOpen readable sql)
        fun _ => reports_pure _) fun _ => reports_pure _).congr fun phase cause => ?_
      simp [breaks_iff, needsEngine, statement?]
  | primaryKey table =>
      refine (reports_before (reports_primaryKey known isOpen readable table)
        fun _ => reports_pure _).congr fun phase cause => ?_
      simp [breaks_iff, needsEngine, statement?]
  | delimit name =>
      refine (reports_before (reports_before engine fun _ => reports_pure _)
        fun _ => reports_pure _).congr fun phase cause => ?_
      simp [breaks_iff, needsEngine, statement?]
  | engine =>
      refine (reports_before engine fun _ => reports_pure _).congr fun phase cause => ?_
      simp [breaks_iff, needsEngine, statement?]
  | qualify column relation =>
      refine (reports_pure _).congr fun phase cause => ?_
      simp [breaks_iff, needsEngine, statement?, unbroken]
  | close =>
      refine (reports_before (reports_close _ _) fun _ => reports_pure _).congr
        fun phase cause => ?_
      simp [breaks_iff, needsEngine, statement?, unbroken]
  | queryAndClose sql =>
      refine (reports_before (reports_thenClose (reports_query known isOpen readable sql))
        fun _ => reports_pure _).congr fun phase cause => ?_
      simp [breaks_iff, needsEngine, statement?]

end ImportPlanning.Executor
