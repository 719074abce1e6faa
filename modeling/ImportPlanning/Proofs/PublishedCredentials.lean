/-
The credentials that a run context holds once a plan is published. A credential that the plan has
can be read from the context as the plan has it. One that it lacks is not among the keys that must
be free, so an entry that stood there before stays beside the plan; the context holds the
credentials of the plan alone just if there was none.

Which other entries a context holds is left open.
-/
import ImportPlanning.Proofs.Publication

namespace ImportPlanning

/-! ### Reading what was added -/

theorem Entries.find?_of_mem {values : List (String × Value)}
    (distinct : (values.map Prod.fst).Nodup) {key : String} {value : Value}
    (member : (key, value) ∈ values) :
    find? (.text key) (values.map fun entry => (.text entry.1, entry.2)) = some value := by
  induction values with
  | nil => cases member
  | cons entry rest ih =>
      rw [List.map_cons, List.nodup_cons] at distinct
      rw [List.map_cons, find?, Value.sameAs_text]
      rcases List.mem_cons.mp member with rfl | later
      · rw [beq_self_eq_true, if_pos rfl]
      · have different : (key == entry.1) = false := by
          rw [beq_eq_false_iff_ne]
          intro same
          exact distinct.1 (same ▸ List.mem_map_of_mem later)
        rw [different, if_neg Bool.false_ne_true]
        exact ih distinct.2 later

theorem RunContext.get_extend {context : RunContext} {key : String}
    (free : context.contains key = false) {values : List (String × Value)}
    (distinct : (values.map Prod.fst).Nodup) {value : Value} (member : (key, value) ∈ values)
    (fallback : Value) : (context.extend values).get key fallback = value := by
  have missing : Entries.find? (.text key) context.entries = none :=
    Option.not_isSome_iff_eq_none.mp (Bool.not_eq_true _ ▸ free)
  rw [get, extend, Entries.find?_append, missing, Option.none_or,
    Entries.find?_of_mem distinct member, Option.getD_some]

/-! ### Credentials -/

/-- The credentials that a plan may have. -/
inductive Credential where
  | username
  | password
  deriving DecidableEq, Repr

def Credential.key : Credential → String
  | username => ContextKey.username
  | password => ContextKey.password

namespace ImportPlan

def credential (plan : ImportPlan) : Credential → Option String
  | .username => plan.username
  | .password => plan.password

theorem credential_mem_contextValues {plan : ImportPlan} {kind : Credential} {value : String}
    (has : plan.credential kind = some value) : (kind.key, .text value) ∈ plan.contextValues := by
  cases kind with
  | username =>
      have isUsername : plan.username = some value := has
      simp [contextValues, isUsername, optionalEntry, Credential.key]
  | password =>
      have isPassword : plan.password = some value := has
      simp [contextValues, isPassword, optionalEntry, Credential.key]

/-- A plan publishes the keys of just those credentials that it has. -/
theorem credential_mem_contextKeys_iff (plan : ImportPlan) (kind : Credential) :
    kind.key ∈ plan.contextValues.map Prod.fst ↔ plan.credential kind ≠ none := by
  cases has : plan.credential kind with
  | some value =>
      refine iff_of_true ?_ (Option.some_ne_none value)
      exact List.mem_map_of_mem (credential_mem_contextValues has)
  | none =>
      refine iff_of_false ?_ (not_not_intro rfl)
      rw [contextValues]
      cases kind with
      | username =>
          have noUsername : plan.username = none := has
          rw [noUsername]
          cases plan.password with
          | none => exact of_decide_eq_true rfl
          | some password => exact of_decide_eq_true rfl
      | password =>
          have noPassword : plan.password = none := has
          rw [noPassword]
          cases plan.username with
          | none => exact of_decide_eq_true rfl
          | some username => exact of_decide_eq_true rfl

/-- The context holds a credential just if the plan has it, and then as the plan has it. -/
def CredentialsIn (plan : ImportPlan) (context : RunContext) : Prop :=
  ∀ kind : Credential, (context.contains kind.key = true ↔ plan.credential kind ≠ none) ∧
    (plan.credential kind ≠ none →
      ∀ fallback, context.getText kind.key fallback = .ok (plan.credential kind))

end ImportPlan

namespace Planner

/-- The credentials that a published plan has are read as it has them. The context holds no others
just if those that the plan lacks were not there before. -/
theorem publishes_own_credentials_iff {attempt : Attempt} {workspace after : Workspace}
    {plan : ImportPlan} (planned : attempt.run workspace = (.ok plan, after)) :
    (∀ kind value, plan.credential kind = some value →
        ∀ fallback, after.context.getText kind.key fallback = .ok (some value)) ∧
      (plan.CredentialsIn after.context ↔
        ∀ kind, plan.credential kind = none → workspace.context.contains kind.key = false) := by
  rcases attempt.run_cases workspace with
    ⟨published, last, succeeded, free, extended⟩ | ⟨failure, last, failed, _⟩
  · obtain ⟨rfl, rfl⟩ : published = plan ∧ last = after := by
      rw [planned] at succeeded
      cases succeeded
      exact ⟨rfl, rfl⟩
    have keysFree := (published.conflicts_eq_nil_iff workspace.context).mp free
    have read : ∀ kind value, published.credential kind = some value →
        ∀ fallback, last.context.getText kind.key fallback = .ok (some value) := by
      intro kind value has fallback
      have member := ImportPlan.credential_mem_contextValues has
      have found := RunContext.get_extend (keysFree kind.key (List.mem_map_of_mem member))
        published.nodup_contextKeys member fallback
      rw [RunContext.getText, extended, found]
      rfl
    -- publishing removes nothing, so what was there before is what may be too much
    have held : ∀ kind : Credential, last.context.contains kind.key = true ↔
        workspace.context.contains kind.key = true ∨ published.credential kind ≠ none := by
      intro kind
      rw [extended, RunContext.contains_extend, published.credential_mem_contextKeys_iff]
    refine ⟨read, ?_⟩
    constructor
    · intro own kind lacks
      rw [← Bool.not_eq_true]
      intro before
      exact (own kind).1.mp ((held kind).mpr (Or.inl before)) lacks
    · intro absent kind
      constructor
      · rw [held kind]
        refine or_iff_right_of_imp ?_
        intro before lacks
        rw [absent kind lacks] at before
        cases before
      · intro has fallback
        obtain ⟨value, isValue⟩ := Option.ne_none_iff_exists'.mp has
        rw [read kind value isValue fallback, isValue]
  · rw [planned] at failed
    cases failed

/-- A data source that gives one range for every statement. -/
private def ranging : DataSource :=
  { dialect := .sqlite
    typeObjects := .none
    queries :=
      [⟨none, .ok ⟨some [("low", .null), ("high", .null)], [[.integer 1, .integer 9]], none⟩⟩]
    primaryKeys := []
    connectFault := none
    createFault := none }

private def attemptAs (username : Option String) : Attempt :=
  { source := ranging
    isBorrowed := true
    connection := ⟨some "db", some "db://host/new", username, none⟩
    table := ⟨some "t", none, some "id", some "id", none⟩ }

private theorem ok_of_toOption_map {α β : Type} {result : Except Failure α} {view : α → β}
    {value : β} (viewed : result.toOption.map view = some value) :
    ∃ found, result = .ok found ∧ view found = value := by
  cases result with
  | error failure => cases viewed
  | ok found => exact ⟨found, rfl, Option.some.inj viewed⟩

/-- A plan with a user name and no password is published into a context that holds neither. -/
theorem publishes_own_credentials_named :
    let run := (attemptAs (some "ada")).run (.ofContext .empty)
    ∃ plan, run.1 = .ok plan ∧ plan.username = some "ada" ∧ plan.CredentialsIn run.2.context := by
  intro run
  have published : run.1.toOption.map ImportPlan.username = some (some "ada") := by
    decide +kernel
  obtain ⟨plan, isPlan, username⟩ := ok_of_toOption_map published
  have planned : run = (.ok plan, run.2) := by rw [← isPlan]
  exact ⟨plan, isPlan, username, (publishes_own_credentials_iff planned).2.mpr fun _ _ => rfl⟩

/-- A plan without a user name stands beside the user name that was there before. -/
theorem foreign_username_kept :
    let context : RunContext := .ofEntries [(.text ContextKey.username, .text "other")]
    let run := (attemptAs none).run (.ofContext context)
    ∃ plan, run.1 = .ok plan ∧ plan.username = none ∧
      (run.2.context.getText ContextKey.username .null).toOption = some (some "other") ∧
      ¬ plan.CredentialsIn run.2.context := by
  intro context run
  have published : run.1.toOption.map ImportPlan.username = some none := by decide +kernel
  have held : run.2.context.contains ContextKey.username = true := by decide +kernel
  obtain ⟨plan, isPlan, lacks⟩ := ok_of_toOption_map published
  refine ⟨plan, isPlan, lacks, by decide +kernel, ?_⟩
  intro own
  exact (own .username).1.mp held lacks

end Planner
end ImportPlanning
