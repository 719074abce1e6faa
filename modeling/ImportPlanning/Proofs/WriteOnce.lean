/-
A run context is written once, key by key. A setter whose value has the right kind and whose key is
free adds one entry at the end; every other operation leaves the context as it is. A run of
operations therefore only adds entries, one for each setter that succeeds, and what is set stays in
its place.

What reading gives is left open.
-/
import ImportPlanning.Proofs.Publication

namespace ImportPlanning.RunContext

/-! ### Operations -/

/-- The kinds of values that setters take. -/
inductive EntryKind where
  | text
  | integer
  deriving DecidableEq, Repr

inductive Operation where
  | set (kind : EntryKind) (key : String) (value : Value)
  | get (kind : EntryKind) (key : String) (fallback : Value)
  | contains (key : String)
  | entries (redacts : Bool)
  | shown
  deriving Repr

inductive Answer where
  | done
  | text (found : Option String)
  | integer (found : Option Int)
  | truth (holds : Bool)
  | entries (entries : Entries)
  | shown (text : String)
  deriving Repr

namespace EntryKind

def Admits : EntryKind → Value → Prop
  | text, value => value = .null ∨ ∃ content, value = .text content
  | integer, value => ∃ number, value = .integer number

/-- The failure for a value of another kind. -/
def refusal (key : String) (value : Value) : EntryKind → Failure
  | text => .notText key value.kindName
  | integer => .notInteger key value.kindName

def set : EntryKind → String → Value → RunContext → Except Failure RunContext
  | text => setText
  | integer => setInteger

def get : EntryKind → String → Value → RunContext → Except Failure Answer
  | text, key, fallback, context => (getText key fallback context).map .text
  | integer, key, fallback, context => (getInteger key fallback context).map .integer

end EntryKind

/-- What an operation answers, and the context after it. Only what a setter gives replaces the
context. -/
def Operation.run : Operation → RunContext → Except Failure Answer × RunContext
  | set kind key value, context =>
    match kind.set key value context with
    | .ok after => (.ok .done, after)
    | .error failure => (.error failure, context)
  | get kind key fallback, context => (kind.get key fallback context, context)
  | contains key, context => (.ok (.truth (context.contains key)), context)
  | entries true, context => (context.redacted.map .entries, context)
  | entries false, context => (.ok (.entries context.entries), context)
  | shown, context => (context.shown.map .shown, context)

/-- The entry that an operation is asked to write, if it is a setter. -/
def Operation.addition? : Operation → Option (String × Value)
  | set _ key value => some (key, value)
  | _ => none

/-- Runs operations one after the other, whatever each comes to. -/
def serve : List Operation → RunContext → List (Except Failure Answer) × RunContext
  | [], context => ([], context)
  | operation :: rest, context =>
    let (answer, after) := operation.run context
    let (answers, last) := serve rest after
    (answer :: answers, last)

/-- The entries of the setters that succeeded, in order. -/
def written (operations : List Operation) (answers : List (Except Failure Answer)) :
    List (String × Value) :=
  (operations.zip answers).filterMap fun step => if step.2.isOk then step.1.addition? else none

/-! ### Single operations -/

/-- A value of another kind is refused before the key is looked at. -/
theorem EntryKind.set_eq (kind : EntryKind) (key : String) (value : Value)
    (context : RunContext) :
    (kind.Admits value → kind.set key value context = context.set key value) ∧
      (¬ kind.Admits value → kind.set key value context = .error (kind.refusal key value)) := by
  cases kind <;> cases value <;> simp [Admits, EntryKind.set, setText, setInteger, refusal]

/-- What a setter comes to. -/
inductive SetStep (kind : EntryKind) (key : String) (value : Value) (context : RunContext) :
    Except Failure Answer × RunContext → Prop where
  | wrongKind (refused : ¬ kind.Admits value) :
      SetStep kind key value context (.error (kind.refusal key value), context)
  | taken (admitted : kind.Admits value) (isTaken : context.contains key = true) :
      SetStep kind key value context (.error (.keyTaken key), context)
  | added (admitted : kind.Admits value) (free : context.contains key = false) :
      SetStep kind key value context (.ok .done, context.extend [(key, value)])

theorem set_step (kind : EntryKind) (key : String) (value : Value) (context : RunContext) :
    SetStep kind key value context ((Operation.set kind key value).run context) := by
  obtain ⟨ofAdmitted, ofRefused⟩ := kind.set_eq key value context
  rw [Operation.run]
  by_cases admitted : kind.Admits value
  · rw [ofAdmitted admitted]
    cases isTaken : context.contains key with
    | true =>
        rw [RunContext.set, isTaken]
        exact .taken admitted isTaken
    | false =>
        rw [set_of_free isTaken]
        exact .added admitted isTaken
  · rw [ofRefused admitted]
    exact .wrongKind admitted

theorem run_of_no_entry {operation : Operation} (reads : operation.addition? = none)
    (context : RunContext) : (operation.run context).2 = context := by
  cases operation with
  | set kind key value => cases reads
  | entries redacts => cases redacts <;> rfl
  | _ => rfl

/-- What one operation does to a context. -/
structure Writes (operation : Operation) (before : RunContext) (answer : Except Failure Answer)
    (after : RunContext) : Prop where
  failed : ∀ failure, answer = .error failure → after = before
  reads : operation.addition? = none → after = before
  succeeds : ∀ kind key value, operation = .set kind key value →
    ((∃ reply, answer = .ok reply) ↔ kind.Admits value ∧ before.contains key = false)
  added : ∀ kind key value, operation = .set kind key value → ∀ reply, answer = .ok reply →
    after.entries = before.entries ++ [(.text key, value)]
  wrongKind : ∀ kind key value, operation = .set kind key value → ¬ kind.Admits value →
    answer = .error (kind.refusal key value)
  taken : ∀ kind key value, operation = .set kind key value → kind.Admits value →
    before.contains key = true → answer = .error (.keyTaken key)

theorem SetStep.writes {kind : EntryKind} {key : String} {value : Value} {before after : RunContext}
    {answer : Except Failure Answer} (step : SetStep kind key value before (answer, after)) :
    Writes (.set kind key value) before answer after := by
  cases step with
  | wrongKind refused =>
      constructor <;> simp_all [Operation.addition?]
  | taken admitted isTaken =>
      constructor <;> simp_all [Operation.addition?]
  | added admitted free =>
      constructor <;> simp_all [Operation.addition?, extend]

theorem writes_run (operation : Operation) (context : RunContext) :
    Writes operation context (operation.run context).1 (operation.run context).2 := by
  cases reads : operation.addition? with
  | none =>
      have same := run_of_no_entry reads context
      have noSetter : ∀ kind key value, operation ≠ .set kind key value := by
        rintro kind key value rfl
        cases reads
      constructor <;> simp_all
  | some entry =>
      cases operation with
      | set kind key value => exact (set_step kind key value context).writes
      | _ => cases reads

/-! ### Runs of operations -/

theorem written_cons (operation : Operation) (rest : List Operation)
    (answer : Except Failure Answer) (answers : List (Except Failure Answer)) :
    written (operation :: rest) (answer :: answers) =
      written [operation] [answer] ++ written rest answers := by
  simp only [written, List.zip_cons_cons, List.zip_nil_left]
  rw [← List.filterMap_append, List.singleton_append]

/-- An operation adds what it wrote, and nothing else. -/
theorem run_eq_extend (operation : Operation) (context : RunContext) :
    (operation.run context).2 =
      context.extend (written [operation] [(operation.run context).1]) := by
  cases reads : operation.addition? with
  | none =>
      have nothing : written [operation] [(operation.run context).1] = [] := by
        simp [written, reads]
      rw [nothing, extend_nil, run_of_no_entry reads]
  | some entry =>
      cases operation with
      | set kind key value =>
          have step := set_step kind key value context
          generalize (Operation.set kind key value).run context = outcome at step ⊢
          cases step with
          | wrongKind refused => exact (extend_nil context).symm
          | taken admitted isTaken => exact (extend_nil context).symm
          | added admitted free => rfl
      | _ => cases reads

theorem serve_eq_extend (operations : List Operation) (context : RunContext) :
    (serve operations context).2 =
      context.extend (written operations (serve operations context).1) := by
  induction operations generalizing context with
  | nil =>
      exact (extend_nil context).symm
  | cons operation rest ih =>
      have later := ih (operation.run context).2
      rw [serve, written_cons, extend_append, ← run_eq_extend]
      exact later

/-- What a run of operations does to a context. -/
structure Grows (operations : List Operation) (start : RunContext)
    (answers : List (Except Failure Answer)) (last : RunContext) : Prop where
  appended : last.entries = start.entries ++
    (written operations answers).map fun entry => (.text entry.1, entry.2)
  size : last.size = start.size + (written operations answers).length
  kept : ∀ (index : Nat) (entry : Value × Value), start.entries[index]? = some entry →
    last.entries[index]? = some entry
  found : ∀ key value, Entries.find? key start.entries = some value →
    Entries.find? key last.entries = some value

theorem grows_serve (operations : List Operation) (start : RunContext) :
    Grows operations start (serve operations start).1 (serve operations start).2 := by
  have appended := congrArg entries (serve_eq_extend operations start)
  refine ⟨appended, ?_, ?_, ?_⟩
  · rw [RunContext.size, appended]
    simp [extend, RunContext.size]
  · intro index entry present
    rw [appended, extend, List.getElem?_append_left (List.getElem?_eq_some_iff.mp present).1]
    exact present
  · intro key value found
    rw [appended, extend, Entries.find?_append, found, Option.some_or]

/-- Wherever a run from an initial mapping has come to, each single operation writes its entry or
leaves the context as it is, and whatever is done later adds entries to those that are there. -/
theorem writes_once (initial : Entries) (earlier later : List Operation) :
    let context := (serve earlier (ofEntries initial)).2
    (∀ operation, Writes operation context (operation.run context).1 (operation.run context).2) ∧
      Grows later context (serve later context).1 (serve later context).2 :=
  ⟨fun operation => writes_run operation _, grows_serve later _⟩

/-- A null that is set is there to stay. -/
example :
    let operations : List Operation :=
      [.set .text "k" .null, .set .text "k" (.text "v"), .set .integer "k" (.boolean true),
        .contains "k", .set .integer "n" (.integer 1)]
    (serve operations empty).2.entries = [(.text "k", .null), (.text "n", .integer 1)] := by
  cbv

end ImportPlanning.RunContext
