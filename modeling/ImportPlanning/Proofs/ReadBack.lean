/-
Publication is exact. It fails just where keys are taken, and then names all of them in order; what it
writes is read back as the plan has it, so that the published values leave nothing of a plan open but
its boundary query.

That nothing is written by halves is shown with the publication itself.
-/
import ImportPlanning.Proofs.PublishedCredentials

namespace ImportPlanning.ImportPlan

/-! ### Taken keys -/

theorem mem_conflicts_iff {plan : ImportPlan} {context : RunContext} {key : String} :
    key ∈ plan.conflicts context ↔
      key ∈ plan.contextValues.map Prod.fst ∧ context.contains key = true := by
  rw [conflicts, List.mem_mergeSort, List.mem_filter]

theorem sorted_conflicts (plan : ImportPlan) (context : RunContext) :
    (plan.conflicts context).Pairwise (· < ·) := by
  have ordered : (plan.conflicts context).Pairwise fun left right =>
      decide (left ≤ right) = true := by
    apply List.pairwise_mergeSort
    · intro first second third earlier later
      exact decide_eq_true
        (String.le_trans (of_decide_eq_true earlier) (of_decide_eq_true later))
    · intro first second
      rw [Bool.or_eq_true, decide_eq_true_iff, decide_eq_true_iff]
      exact String.le_total first second
  have distinct : (plan.conflicts context).Nodup :=
    (List.mergeSort_perm _ _).nodup_iff.mpr (plan.nodup_contextKeys.filter _)
  refine ordered.imp₂ ?_ distinct
  intro left right atMost different
  refine Classical.byContradiction fun notLess => different ?_
  exact String.le_antisymm (of_decide_eq_true atMost) (String.not_lt.mp notLess)

/-! ### Reading back -/

/-- The context holds all keys that the plan publishes, and its values read as the plan has them: the
code of the column type as an integer, all others as text, with none for a bound that is missing. -/
structure ReadsFrom (plan : ImportPlan) (context : RunContext) : Prop where
  held : ∀ key ∈ plan.contextValues.map Prod.fst, context.contains key = true
  driver : ∀ fallback, context.getText ContextKey.driver fallback = .ok (some plan.driver)
  url : ∀ fallback, context.getText ContextKey.url fallback = .ok (some plan.connectionString)
  credential : ∀ kind : Credential, plan.credential kind ≠ none → ∀ fallback,
    context.getText kind.key fallback = .ok (plan.credential kind)
  partitionColumn : ∀ fallback,
    context.getText ContextKey.partitionColumn fallback = .ok (some plan.partitionColumn)
  partitionType : ∀ fallback,
    context.getInteger ContextKey.partitionType fallback = .ok (some plan.boundary.columnType)
  minValue : ∀ fallback,
    context.getText ContextKey.minValue fallback = .ok plan.boundary.minValue
  maxValue : ∀ fallback,
    context.getText ContextKey.maxValue fallback = .ok plan.boundary.maxValue
  dataSql : ∀ fallback,
    context.getText ContextKey.dataSql fallback = .ok (some plan.extraction.dataSql)
  fieldNames : ∀ fallback,
    context.getText ContextKey.fieldNames fallback = .ok (some plan.extraction.fieldNames)

theorem getText_extend {values : List (String × Value)} (distinct : (values.map Prod.fst).Nodup)
    {context : RunContext} {key : String} (free : context.contains key = false)
    {text : Option String} (member : (key, Value.ofOption text) ∈ values) (fallback : Value) :
    (context.extend values).getText key fallback = .ok text := by
  rw [RunContext.getText, RunContext.get_extend free distinct member]
  cases text with
  | none => rfl
  | some text => rfl

theorem readsFrom_extend {plan : ImportPlan} {context : RunContext}
    (free : ∀ key ∈ plan.contextValues.map Prod.fst, context.contains key = false) :
    plan.ReadsFrom (context.extend plan.contextValues) := by
  have read : ∀ key text, (key, Value.ofOption text) ∈ plan.contextValues →
      ∀ fallback, (context.extend plan.contextValues).getText key fallback = .ok text :=
    fun key text member => getText_extend plan.nodup_contextKeys
      (free key (List.mem_map_of_mem member)) member
  constructor
  · intro key published
    exact RunContext.contains_extend key _ context |>.mpr (Or.inr published)
  · exact read ContextKey.driver (some plan.driver) (by simp [contextValues, Value.ofOption])
  · exact read ContextKey.url (some plan.connectionString)
      (by simp [contextValues, Value.ofOption])
  · intro kind has
    obtain ⟨value, isValue⟩ := Option.ne_none_iff_exists'.mp has
    rw [isValue]
    exact read kind.key (some value) (credential_mem_contextValues isValue)
  · exact read ContextKey.partitionColumn (some plan.partitionColumn)
      (by simp [contextValues, Value.ofOption])
  · intro fallback
    have member : (ContextKey.partitionType, .integer plan.boundary.columnType) ∈
        plan.contextValues := by simp [contextValues]
    rw [RunContext.getInteger, RunContext.get_extend (free _ (List.mem_map_of_mem member))
      plan.nodup_contextKeys member]
    rfl
  · exact read ContextKey.minValue plan.boundary.minValue (by simp [contextValues])
  · exact read ContextKey.maxValue plan.boundary.maxValue (by simp [contextValues])
  · exact read ContextKey.dataSql (some plan.extraction.dataSql)
      (by simp [contextValues, Value.ofOption])
  · exact read ContextKey.fieldNames (some plan.extraction.fieldNames)
      (by simp [contextValues, Value.ofOption])

/-! ### Equal publications -/

/-- The plans publish the same values under the same keys, in whatever order. -/
def PublishesSame (plan other : ImportPlan) : Prop :=
  ∀ entry, entry ∈ plan.contextValues ↔ entry ∈ other.contextValues

theorem PublishesSame.symm {plan other : ImportPlan} (same : plan.PublishesSame other) :
    other.PublishesSame plan :=
  fun entry => (same entry).symm

theorem PublishesSame.value_eq {plan other : ImportPlan} (same : plan.PublishesSame other)
    {key : String} {left right : Value} (isLeft : (key, left) ∈ plan.contextValues)
    (isRight : (key, right) ∈ other.contextValues) : left = right := by
  have alsoLeft : (key, left) ∈ other.contextValues := (same (key, left)).mp isLeft
  have found := Entries.find?_of_mem other.nodup_contextKeys alsoLeft
  rw [Entries.find?_of_mem other.nodup_contextKeys isRight] at found
  exact (Option.some.inj found).symm

theorem PublishesSame.text_eq {plan other : ImportPlan} (same : plan.PublishesSame other)
    {key : String} {left right : Option String}
    (isLeft : (key, Value.ofOption left) ∈ plan.contextValues)
    (isRight : (key, Value.ofOption right) ∈ other.contextValues) : left = right := by
  have values := same.value_eq isLeft isRight
  cases left with
  | none =>
      cases right with
      | none => rfl
      | some text => cases values
  | some text =>
      cases right with
      | none => cases values
      | some other =>
          cases values
          rfl

theorem PublishesSame.credential_of_some {plan other : ImportPlan}
    (same : plan.PublishesSame other) {kind : Credential} {value : String}
    (has : plan.credential kind = some value) : other.credential kind = some value := by
  have published := credential_mem_contextValues has
  have held : kind.key ∈ other.contextValues.map Prod.fst :=
    List.mem_map_of_mem ((same _).mp published)
  obtain ⟨found, isFound⟩ :=
    Option.ne_none_iff_exists'.mp ((other.credential_mem_contextKeys_iff kind).mp held)
  have equal : some value = some found :=
    same.text_eq published (credential_mem_contextValues isFound)
  rw [isFound, equal]

theorem PublishesSame.credential_eq {plan other : ImportPlan} (same : plan.PublishesSame other)
    (kind : Credential) : plan.credential kind = other.credential kind := by
  cases has : plan.credential kind with
  | some value => exact (same.credential_of_some has).symm
  | none =>
      cases otherHas : other.credential kind with
      | none => rfl
      | some value =>
          rw [same.symm.credential_of_some otherHas] at has
          cases has

/-- Plans publish the same if and only if they agree on all but the boundary query. -/
theorem publishesSame_iff {plan other : ImportPlan} :
    plan.PublishesSame other ↔ { plan with boundaryQuery := other.boundaryQuery } = other := by
  constructor
  · intro same
    have text : ∀ key (field : ImportPlan → Option String),
        (∀ any : ImportPlan, (key, Value.ofOption (field any)) ∈ any.contextValues) →
        field plan = field other :=
      fun key field member => same.text_eq (member plan) (member other)
    have driver := text ContextKey.driver (fun any => some any.driver)
      (fun any => by simp [contextValues, Value.ofOption])
    have url := text ContextKey.url (fun any => some any.connectionString)
      (fun any => by simp [contextValues, Value.ofOption])
    have column := text ContextKey.partitionColumn (fun any => some any.partitionColumn)
      (fun any => by simp [contextValues, Value.ofOption])
    have low := text ContextKey.minValue (fun any => any.boundary.minValue)
      (fun any => by simp [contextValues])
    have high := text ContextKey.maxValue (fun any => any.boundary.maxValue)
      (fun any => by simp [contextValues])
    have dataSql := text ContextKey.dataSql (fun any => some any.extraction.dataSql)
      (fun any => by simp [contextValues, Value.ofOption])
    have fieldNames := text ContextKey.fieldNames (fun any => some any.extraction.fieldNames)
      (fun any => by simp [contextValues, Value.ofOption])
    have type : Value.integer plan.boundary.columnType = .integer other.boundary.columnType :=
      same.value_eq (by simp [contextValues] : (ContextKey.partitionType, _) ∈ _)
        (by simp [contextValues])
    have username := same.credential_eq .username
    have password := same.credential_eq .password
    rcases plan with ⟨_, _, _, _, _, _, ⟨_, _, _⟩, ⟨_, _⟩⟩
    rcases other with ⟨_, _, _, _, _, _, ⟨_, _, _⟩, ⟨_, _⟩⟩
    simp_all [credential]
  · rintro agree entry
    have unchanged : ({ plan with boundaryQuery := other.boundaryQuery } : ImportPlan).contextValues =
        plan.contextValues := rfl
    rw [← unchanged, agree]

/-! ### Exact publication -/

/-- A plan is published if and only if none of its keys is taken, and then reads back as it is. If some
are taken, the failure names just those, in order, and the context stays as it was. What a plan
publishes determines all of it but the boundary query. -/
theorem publication_exact (plan : ImportPlan) (context : RunContext) :
    ((plan.publish context).1 = .ok () ↔
      ∀ key ∈ plan.contextValues.map Prod.fst, context.contains key = false) ∧
    (∀ failure after, plan.publish context = (.error failure, after) → after = context ∧
      ∃ taken, failure = .keysTaken taken ∧
        failure.text = "Context keys already set: " ++ ", ".intercalate taken ∧
        taken.Pairwise (· < ·) ∧
        ∀ key, key ∈ taken ↔
          key ∈ plan.contextValues.map Prod.fst ∧ context.contains key = true) ∧
    (∀ after, plan.publish context = (.ok (), after) → plan.ReadsFrom after) ∧
    ∀ other, plan.PublishesSame other ↔
      { plan with boundaryQuery := other.boundaryQuery } = other := by
  rw [plan.publish_eq context, ← plan.conflicts_eq_nil_iff context]
  refine ⟨?_, ?_, ?_, fun other => publishesSame_iff⟩
  · by_cases free : plan.conflicts context = []
    · rw [if_pos free]
      exact iff_of_true rfl free
    · rw [if_neg free]
      refine iff_of_false ?_ free
      intro impossible
      cases impossible
  · intro failure after failed
    by_cases free : plan.conflicts context = []
    · rw [if_pos free] at failed
      cases failed
    · rw [if_neg free] at failed
      cases failed
      exact ⟨rfl, _, rfl, rfl, plan.sorted_conflicts context, fun key => mem_conflicts_iff⟩
  · intro after published
    by_cases free : plan.conflicts context = []
    · rw [if_pos free] at published
      cases published
      exact readsFrom_extend ((plan.conflicts_eq_nil_iff context).mp free)
    · rw [if_neg free] at published
      cases published

end ImportPlanning.ImportPlan
