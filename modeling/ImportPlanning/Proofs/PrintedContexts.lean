/-
The contexts that plans were published into can be printed and read back, once they are redacted.
Redaction makes documents of documents; and where the port of the address can be read, it does not
fail.

Contexts that held something before are left out.
-/
import Mathlib.Data.List.Nodup
import ImportPlanning.Proofs.PrintedReports
import ImportPlanning.Proofs.Redaction.Paths
import ImportPlanning.Proofs.Redaction.Ports

namespace ImportPlanning

open Json

/-! ### Redaction -/

theorem isDocument_redactLeaf {value : Value} (document : IsDocument value)
    {lowered : Option String} {shown : Value} (redacted : redactLeaf lowered value = .ok shown) :
    IsDocument shown := by
  rw [redactLeaf.eq_def] at redacted
  split at redacted
  · cases redacted
    exact .null
  split at redacted
  · cases redacted
  split at redacted
  · cases redacted
    exact .text _
  split at redacted
  · split at redacted
    · rw [redactUrl] at redacted
      split at redacted
      · cases redacted
        exact .text _
      · cases redacted
    · cases redacted
      exact document
  · cases redacted
    exact document

/-- Redaction keeps the names. -/
theorem documents_of_redact {members : List (String × Value)}
    (leads : ∀ member ∈ members, ∀ lowered shown, redactValue lowered member.2 = .ok shown →
      IsDocument shown)
    {shown : Entries} (redacted : redact (entriesOf members) = .ok shown) :
    ∃ others : List (String × Value), shown = entriesOf others ∧
      others.map Prod.fst = members.map Prod.fst ∧ ∀ member ∈ others, IsDocument member.2 := by
  induction members generalizing shown with
  | nil =>
      cases redacted
      exact ⟨[], rfl, rfl, fun _ none => absurd none List.not_mem_nil⟩
  | cons member rest ih =>
      obtain ⟨name, value⟩ := member
      obtain ⟨lowered, first, later, _, isFirst, isLater, rfl⟩ := redact_cons_eq_ok_iff.mp redacted
      obtain ⟨others, rfl, names, documents⟩ :=
        ih (fun member among => leads member (List.mem_cons_of_mem _ among)) isLater
      refine ⟨(name, first) :: others, rfl, congrArg (name :: ·) names, ?_⟩
      rw [List.forall_mem_cons]
      exact ⟨leads (name, value) List.mem_cons_self lowered first isFirst, documents⟩

/-- What is shown of a document is a document. -/
theorem isDocument_redactValue {value : Value} (document : IsDocument value)
    {lowered : Option String} {shown : Value} (redacted : redactValue lowered value = .ok shown) :
    IsDocument shown := by
  have leaf : ∀ {value shown : Value} {lowered : Option String}, value.isMapping = false →
      IsDocument value → redactValue lowered value = .ok shown → IsDocument shown := by
    intro value shown lowered isLeaf document redacted
    rw [redactValue_leaf isLeaf] at redacted
    exact isDocument_redactLeaf document redacted
  induction document generalizing lowered shown with
  | null => exact leaf rfl .null redacted
  | boolean value => exact leaf rfl (.boolean value) redacted
  | integer few => exact leaf rfl (.integer few) redacted
  | text value => exact leaf rfl (.text value) redacted
  | list all => exact leaf rfl (.list all) redacted
  | mapping distinct all ih =>
      obtain ⟨entries, isRedacted, rfl⟩ := redactValue_mapping_eq_ok_iff.mp redacted
      obtain ⟨others, rfl, names, documents⟩ :=
        documents_of_redact (fun member among lowered shown => ih member among) isRedacted
      exact .mapping (names ▸ distinct) documents

/-! ### Published plans -/

namespace ImportPlan

variable {plan : ImportPlan}

/-- The values of a plan whose type is one of those of planning. -/
theorem isDocument_contextValues (isTyped : plan.boundary.IsTyped) :
    IsDocument (.mapping (entriesOf plan.contextValues)) := by
  have few : Number.exceedsDigitLimit plan.boundary.columnType = false := by
    obtain ⟨type, isType⟩ := isTyped
    rw [isType, Number.exceedsDigitLimit_eq_false_iff]
    cases type <;> decide
  have setting : ∀ bound : Option String, IsDocument (Value.ofOption bound) := by
    intro bound
    cases bound with
    | none => exact .null
    | some text => exact .text text
  have optional : ∀ (key : String) (value : Option String), ∀ entry ∈ optionalEntry key value,
      IsDocument entry.2 := by
    intro key value entry present
    cases value with
    | none => cases present
    | some text =>
        rw [List.mem_singleton.mp present]
        exact .text text
  refine .mapping plan.nodup_contextKeys ?_
  rw [contextValues]
  simp only [List.forall_mem_append, List.forall_mem_cons, List.not_mem_nil, false_implies,
    implies_true, and_true]
  exact ⟨⟨⟨⟨.text _, .text _⟩, optional _ _⟩, optional _ _⟩, .text _, .integer few, setting _,
    setting _, .text _, .text _⟩

theorem isLeaf_of_mem_entriesOf {key value : Value}
    (member : (key, value) ∈ entriesOf plan.contextValues) : value.isMapping = false := by
  obtain ⟨entry, among, same⟩ := List.mem_map.mp member
  rw [← (Prod.mk.inj same).2]
  exact plan.contextValues_leaf among

theorem entries_extend_empty (values : List (String × Value)) :
    (RunContext.empty.extend values).entries = entriesOf values :=
  List.nil_append _

theorem isDocument_redacted (isTyped : plan.boundary.IsTyped) {shown : Entries}
    (redacted : (RunContext.empty.extend plan.contextValues).redacted = .ok shown) :
    IsDocument (.mapping shown) := by
  rw [RunContext.redacted, entries_extend_empty] at redacted
  have whole : redactValue none (.mapping (entriesOf plan.contextValues)) = .ok (.mapping shown) :=
    redactValue_mapping_eq_ok_iff.mpr ⟨shown, redacted, rfl⟩
  exact isDocument_redactValue (isDocument_contextValues isTyped) whole

/-- The one URL that a plan publishes is its address. -/
theorem eq_of_holdsUrl {source : String} (holds : HoldsUrl source (entriesOf plan.contextValues)) :
    source = plan.connectionString := by
  cases holds with
  | here member noSecret isUrl =>
      obtain ⟨⟨name, value⟩, among, same⟩ := List.mem_map.mp member
      cases same
      dsimp only at noSecret isUrl
      have isAddress : (ContextKey.url, .text plan.connectionString) ∈ plan.contextValues := by
        simp [contextValues]
      by_cases isNamed : name = ContextKey.url
      · rw [isNamed] at among
        cases List.inj_on_of_nodup_map plan.nodup_contextKeys among isAddress rfl
        rfl
      · have noPassword : name ≠ ContextKey.password := by
          intro isPassword
          rw [isPassword, ← isSecretKey_lower_iff] at noSecret
          exact noSecret (by decide)
        obtain ⟨_, isOpen⟩ := publishedNames_open name
          (plan.contextKeys_subset (List.mem_map_of_mem among)) noPassword isNamed
        rw [(isUrlKey_lower_iff name).mpr isUrl] at isOpen
        cases isOpen
  | within member _ => cases isLeaf_of_mem_entriesOf member

theorem not_holdsMisfit_contextValues : ¬ HoldsMisfit (entriesOf plan.contextValues) := by
  intro holds
  cases holds with
  | key member noText _ =>
      obtain ⟨entry, _, same⟩ := List.mem_map.mp member
      exact noText entry.1 (Prod.mk.inj same).1.symm
  | bytes member _ _ =>
      obtain ⟨entry, _, same⟩ := List.mem_map.mp member
      cases (Prod.mk.inj same).1
  | within member _ => cases isLeaf_of_mem_entriesOf member

theorem exists_redacted (readable : Executor.PortReadable plan.connectionString) :
    ∃ shown, (RunContext.empty.extend plan.contextValues).redacted = .ok shown := by
  rw [RunContext.redacted, entries_extend_empty]
  refine (exists_redact_iff_ports _).mpr ⟨not_holdsMisfit_contextValues, ?_⟩
  intro source holds
  rwa [eq_of_holdsUrl holds]

end ImportPlan

/-! ### Jobs -/

namespace Planner

variable {source : DataSource} {job : JobSettings} {workspace : Workspace}

theorem legible_of_planJob {error : PlannerError}
    (failed : (planJob source job workspace).1 = .error (.planner error)) : error.IsLegible := by
  rw [planJob] at failed
  exact legible_of_planInto (map_eq_error_iff.mp failed)

/-- A fresh context into which a job was planned holds the values of one plan, for the address of the
job. -/
theorem plan_of_planJob {context : RunContext} (fresh : workspace.context = .empty)
    (planned : (planJob source job workspace).1 = .ok context) :
    ∃ plan : ImportPlan, context = RunContext.empty.extend plan.contextValues ∧
      plan.boundary.IsTyped ∧ job.connection.connectionString = some plan.connectionString := by
  have isRun : planInto source false job.connection job.table workspace =
      Attempt.run ⟨source, false, job.connection, job.table⟩ workspace := rfl
  rcases Attempt.run_cases ⟨source, false, job.connection, job.table⟩ workspace with
    ⟨plan, after, succeeded, _, extended⟩ | ⟨failure, after, failed, _⟩
  · rw [← isRun] at succeeded
    have isPlan : (planInto source false job.connection job.table workspace).1 = .ok plan :=
      congrArg Prod.fst succeeded
    obtain ⟨isTyped, isAddress⟩ := typed_of_planInto isPlan
    obtain ⟨address, given⟩ := addressed_of_passed (passed_of_plan isPlan)
    rw [planJob, succeeded] at planned
    cases planned
    refine ⟨plan, ?_, isTyped, ?_⟩
    · rw [extended, fresh]
    · rw [isAddress, given, Option.getD_some]
  · rw [← isRun] at failed
    rw [planJob, failed] at planned
    cases planned

/-- Such a context can be redacted if the port of the address can be read, and what is shown of it is
a document. -/
theorem redacted_of_planJob {context : RunContext} (fresh : workspace.context = .empty)
    (planned : (planJob source job workspace).1 = .ok context)
    (readable : ∀ address, job.connection.connectionString = some address →
      Executor.PortReadable address) :
    ∃ shown, context.redacted = .ok shown ∧ IsDocument (.mapping shown) := by
  obtain ⟨plan, rfl, isTyped, isAddress⟩ := plan_of_planJob fresh planned
  obtain ⟨shown, redacted⟩ := ImportPlan.exists_redacted (readable _ isAddress)
  exact ⟨shown, redacted, ImportPlan.isDocument_redacted isTyped redacted⟩

end Planner
end ImportPlanning
