/-
Publication is all or nothing. The keys of a plan differ from each other and each value has the kind
that its key asks for, so a plan none of whose keys is taken is written whole; a plan with a taken
key is not written at all. No other stage of planning touches the run context, and a plan that is
written takes the keys of every later one.
-/
import ImportPlanning.Planner
import ImportPlanning.Proofs.Overlay

namespace ImportPlanning

/-! ### Contexts with more entries -/

namespace RunContext

/-- The context with values under new keys at its end. -/
def extend (values : List (String × Value)) (context : RunContext) : RunContext :=
  ⟨context.entries ++ values.map fun entry => (.text entry.1, entry.2)⟩

theorem extend_nil (context : RunContext) : context.extend [] = context := by
  rw [extend, List.map_nil, List.append_nil]

theorem extend_append (earlier later : List (String × Value)) (context : RunContext) :
    context.extend (earlier ++ later) = (context.extend earlier).extend later := by
  simp [extend]

theorem extend_cons (entry : String × Value) (rest : List (String × Value))
    (context : RunContext) :
    context.extend (entry :: rest) = (context.extend [entry]).extend rest :=
  extend_append [entry] rest context

theorem contains_extend (key : String) (values : List (String × Value)) (context : RunContext) :
    (context.extend values).contains key = true ↔
      context.contains key = true ∨ key ∈ values.map Prod.fst := by
  rw [contains, contains, extend, Entries.holds_append, Bool.or_eq_true]
  refine or_congr Iff.rfl ?_
  induction values with
  | nil =>
      simp [Entries.holds, Entries.find?]
  | cons entry rest ih =>
      rw [Entries.holds] at ih ⊢
      rw [List.map_cons, List.map_cons, List.mem_cons, ← ih, Entries.find?,
        Value.sameAs_text]
      cases same : key == entry.1 with
      | true => simp [beq_iff_eq.mp same]
      | false => simp [beq_eq_false_iff_ne.mp same]

theorem set_of_free {key : String} {context : RunContext} (free : context.contains key = false)
    (value : Value) : context.set key value = .ok (context.extend [(key, value)]) := by
  rw [set, free]
  rfl

end RunContext

namespace ImportPlan

/-! ### Writing a plan -/

/-- Has the value the kind that its key asks for? -/
def Fits (entry : String × Value) : Prop :=
  if entry.1 = ContextKey.partitionType then ∃ number, entry.2 = .integer number
  else entry.2 = .null ∨ ∃ text, entry.2 = .text text

theorem writeValue_of_fits {entry : String × Value} (fits : Fits entry) (context : RunContext) :
    writeValue entry.1 entry.2 context = context.set entry.1 entry.2 := by
  rw [Fits] at fits
  rw [writeValue]
  split at fits
  · rename_i isType
    obtain ⟨number, integer⟩ := fits
    rw [if_pos isType, integer, RunContext.setInteger]
  · rename_i isOther
    rw [if_neg isOther]
    rcases fits with null | ⟨text, isText⟩
    · rw [null, RunContext.setText]
    · rw [isText, RunContext.setText]

/-- Values under different keys, of which none is taken, are all written. -/
theorem writeAll_of_free {values : List (String × Value)} (fits : ∀ entry ∈ values, Fits entry)
    (distinct : (values.map Prod.fst).Nodup) {context : RunContext}
    (free : ∀ key ∈ values.map Prod.fst, context.contains key = false) :
    writeAll values context = (.ok (), context.extend values) := by
  induction values generalizing context with
  | nil =>
      rw [writeAll, RunContext.extend_nil]
  | cons entry rest ih =>
      rw [List.map_cons, List.nodup_cons] at distinct
      have written : writeValue entry.1 entry.2 context = .ok (context.extend [entry]) := by
        rw [writeValue_of_fits (fits entry List.mem_cons_self)]
        exact RunContext.set_of_free (free entry.1 List.mem_cons_self) entry.2
      have restFree : ∀ key ∈ rest.map Prod.fst, (context.extend [entry]).contains key = false := by
        intro key later
        rw [← Bool.not_eq_true, RunContext.contains_extend]
        rintro (taken | same)
        · rw [free key (List.mem_cons_of_mem _ later)] at taken
          cases taken
        · rw [List.map_singleton, List.mem_singleton] at same
          exact distinct.1 (same ▸ later)
      rw [RunContext.extend_cons entry rest context, writeAll, written]
      exact ih (fun other later => fits other (List.mem_cons_of_mem _ later))
        distinct.2 restFree

theorem fits_contextValues (plan : ImportPlan) : ∀ entry ∈ plan.contextValues, Fits entry := by
  have ofOption : ∀ key, key ≠ ContextKey.partitionType → ∀ bound : Option String,
      Fits (key, Value.ofOption bound) := by
    intro key isOther bound
    rw [Fits, if_neg isOther]
    cases bound with
    | none => exact Or.inl rfl
    | some text => exact Or.inr ⟨text, rfl⟩
  have optional : ∀ key, key ≠ ContextKey.partitionType → ∀ value : Option String,
      ∀ entry ∈ optionalEntry key value, Fits entry := by
    intro key isOther value entry present
    cases value with
    | none => cases present
    | some text =>
        rw [List.mem_singleton.mp present]
        exact ofOption key isOther (some text)
  intro entry present
  simp only [contextValues, List.mem_append, List.mem_cons, List.not_mem_nil, or_false]
    at present
  rcases present with (((rfl | rfl) | username) | password) |
    (rfl | rfl | rfl | rfl | rfl | rfl)
  · exact ofOption ContextKey.driver (by decide) (some plan.driver)
  · exact ofOption ContextKey.url (by decide) (some plan.connectionString)
  · exact optional ContextKey.username (by decide) plan.username entry username
  · exact optional ContextKey.password (by decide) plan.password entry password
  · exact ofOption ContextKey.partitionColumn (by decide) (some plan.partitionColumn)
  · exact ⟨plan.boundary.columnType, rfl⟩
  · exact ofOption ContextKey.minValue (by decide) plan.boundary.minValue
  · exact ofOption ContextKey.maxValue (by decide) plan.boundary.maxValue
  · exact ofOption ContextKey.dataSql (by decide) (some plan.extraction.dataSql)
  · exact ofOption ContextKey.fieldNames (by decide) (some plan.extraction.fieldNames)

theorem nodup_contextKeys (plan : ImportPlan) : (plan.contextValues.map Prod.fst).Nodup := by
  rw [contextValues]
  cases plan.username with
  | none =>
      cases plan.password with
      | none => exact of_decide_eq_true rfl
      | some password => exact of_decide_eq_true rfl
  | some username =>
      cases plan.password with
      | none => exact of_decide_eq_true rfl
      | some password => exact of_decide_eq_true rfl

theorem conflicts_eq_nil_iff (plan : ImportPlan) (context : RunContext) :
    plan.conflicts context = [] ↔
      ∀ key ∈ plan.contextValues.map Prod.fst, context.contains key = false := by
  rw [conflicts, ← List.length_eq_zero_iff, List.length_mergeSort, List.length_eq_zero_iff,
    List.filter_eq_nil_iff]
  simp only [Bool.not_eq_true]

/-- A plan is published whole, or not at all and then because a key is taken. -/
theorem publish_eq (plan : ImportPlan) (context : RunContext) :
    plan.publish context =
      if plan.conflicts context = [] then (.ok (), context.extend plan.contextValues)
      else (.error (.keysTaken (plan.conflicts context)), context) := by
  show (if (plan.conflicts context).isEmpty then _ else _) = _
  by_cases free : plan.conflicts context = []
  · rw [if_pos (List.isEmpty_iff.mpr free), if_pos free]
    exact writeAll_of_free plan.fits_contextValues plan.nodup_contextKeys
      ((plan.conflicts_eq_nil_iff context).mp free)
  · rw [if_neg (mt List.isEmpty_iff.mp free), if_neg free]

theorem driver_mem_contextKeys (plan : ImportPlan) :
    ContextKey.driver ∈ plan.contextValues.map Prod.fst :=
  List.mem_cons_self

end ImportPlan

namespace Planner

/-! ### One attempt -/

/-- What an attempt at planning is given. -/
structure Attempt where
  source : DataSource
  isBorrowed : Bool
  connection : ConnectionSettings
  table : TableSettings

def Attempt.run (attempt : Attempt) (workspace : Workspace) :
    Except Failure ImportPlan × Workspace :=
  planInto attempt.source attempt.isBorrowed attempt.connection attempt.table workspace

private theorem publishInto_cases (plan : ImportPlan) (workspace : Workspace) :
    (∃ published after, publishInto plan workspace = (.ok published, after) ∧
        published.conflicts workspace.context = [] ∧
        after.context = workspace.context.extend published.contextValues) ∨
      ∃ failure after, publishInto plan workspace = (.error failure, after) ∧
        after.context = workspace.context := by
  rw [publishInto, plan.publish_eq]
  by_cases free : plan.conflicts workspace.context = []
  · rw [if_pos free]
    exact Or.inl ⟨plan, _, rfl, free, rfl⟩
  · rw [if_neg free]
    exact Or.inr ⟨_, _, rfl, rfl⟩

/-- An attempt publishes its whole plan, whose keys were free, or leaves the context alone. -/
theorem Attempt.run_cases (attempt : Attempt) (workspace : Workspace) :
    (∃ plan after, attempt.run workspace = (.ok plan, after) ∧
        plan.conflicts workspace.context = [] ∧
        after.context = workspace.context.extend plan.contextValues) ∨
      ∃ failure after, attempt.run workspace = (.error failure, after) ∧
        after.context = workspace.context := by
  rw [run, planInto]
  cases precheck attempt.connection attempt.table with
  | error error => exact Or.inr ⟨_, _, rfl, rfl⟩
  | ok done =>
      rw [inspectWith]
      rcases Executor.thenClose (inspect attempt.source attempt.table)
        ⟨.ofConnection attempt.connection attempt.isBorrowed, workspace.trace,
          workspace.journal⟩ with ⟨result, session⟩
      cases result with
      | error failure => exact Or.inr ⟨_, _, rfl, rfl⟩
      | ok findings => exact publishInto_cases (planOf attempt.connection findings) _

/-- Once the driver of a plan is in the context, every attempt fails. -/
theorem Attempt.fails_of_driver (attempt : Attempt) {workspace : Workspace}
    (taken : workspace.context.contains ContextKey.driver = true) :
    ∃ failure after, attempt.run workspace = (.error failure, after) ∧
      after.context = workspace.context := by
  rcases attempt.run_cases workspace with ⟨plan, after, _, free, _⟩ | failed
  · have untaken := (plan.conflicts_eq_nil_iff workspace.context).mp free ContextKey.driver
      plan.driver_mem_contextKeys
    rw [taken] at untaken
    cases untaken
  · exact failed

/-! ### Attempts in turn -/

/-- Makes attempts one after the other on the same context, whatever each comes to. -/
def planAll : List Attempt → Workspace → List (Except Failure ImportPlan) × Workspace
  | [], workspace => ([], workspace)
  | attempt :: rest, workspace =>
    let (result, after) := attempt.run workspace
    let (results, last) := planAll rest after
    (result :: results, last)

/-- The plans among the results of attempts. -/
def plansOf (results : List (Except Failure ImportPlan)) : List ImportPlan :=
  results.filterMap Except.toOption

private theorem planAll_of_driver (attempts : List Attempt) {workspace : Workspace}
    (taken : workspace.context.contains ContextKey.driver = true) :
    plansOf (planAll attempts workspace).1 = [] ∧
      (planAll attempts workspace).2.context = workspace.context := by
  induction attempts generalizing workspace with
  | nil => exact ⟨rfl, rfl⟩
  | cons attempt rest ih =>
      obtain ⟨failure, after, failed, unchanged⟩ := attempt.fails_of_driver taken
      rw [← unchanged] at taken
      obtain ⟨none, last⟩ := ih taken
      rw [planAll, failed]
      exact ⟨none, last.trans unchanged⟩

private theorem planAll_context (attempts : List Attempt) (workspace : Workspace) :
    (plansOf (planAll attempts workspace).1 = [] ∧
        (planAll attempts workspace).2.context = workspace.context) ∨
      ∃ plan, plansOf (planAll attempts workspace).1 = [plan] ∧
        (planAll attempts workspace).2.context =
          workspace.context.extend plan.contextValues := by
  induction attempts generalizing workspace with
  | nil => exact Or.inl ⟨rfl, rfl⟩
  | cons attempt rest ih =>
      rcases attempt.run_cases workspace with
        ⟨plan, after, published, _, extended⟩ | ⟨failure, after, failed, unchanged⟩
      · -- the driver of this plan now stands in the way of every later one
        have taken : after.context.contains ContextKey.driver = true := by
          rw [extended, RunContext.contains_extend]
          exact Or.inr plan.driver_mem_contextKeys
        obtain ⟨none, last⟩ := planAll_of_driver rest taken
        rw [planAll, published]
        exact Or.inr ⟨plan, congrArg (plan :: ·) none, last.trans extended⟩
      · have later := ih after
        rw [unchanged] at later
        rw [planAll, failed]
        exact later

/-- Each attempt adds all values of its plan behind the old entries or leaves the context as it was;
and of any number of attempts on one context at most one succeeds, so that the context ends with the
values of one plan or of none. -/
theorem planAll_all_or_nothing :
    (∀ (attempt : Attempt) (workspace : Workspace),
      match attempt.run workspace with
      | (.ok plan, after) =>
        after.context.entries = workspace.context.entries ++
          plan.contextValues.map fun entry => (.text entry.1, entry.2)
      | (.error _, after) => after.context.entries = workspace.context.entries) ∧
    ∀ (attempts : List Attempt) (workspace : Workspace),
      (plansOf (planAll attempts workspace).1 = [] ∧
          (planAll attempts workspace).2.context.entries = workspace.context.entries) ∨
        ∃ plan, plansOf (planAll attempts workspace).1 = [plan] ∧
          (planAll attempts workspace).2.context.entries = workspace.context.entries ++
            plan.contextValues.map fun entry => (.text entry.1, entry.2) := by
  constructor
  · intro attempt workspace
    rcases attempt.run_cases workspace with
      ⟨plan, after, published, _, extended⟩ | ⟨failure, after, failed, unchanged⟩
    · rw [published]
      exact congrArg RunContext.entries extended
    · rw [failed]
      exact congrArg RunContext.entries unchanged
  · intro attempts workspace
    rcases planAll_context attempts workspace with ⟨none, unchanged⟩ | ⟨plan, one, extended⟩
    · exact Or.inl ⟨none, congrArg RunContext.entries unchanged⟩
    · exact Or.inr ⟨plan, one, congrArg RunContext.entries extended⟩

end Planner
end ImportPlanning
