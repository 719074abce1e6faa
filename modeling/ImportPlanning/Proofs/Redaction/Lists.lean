/-
Two runs of redaction on values that differ in secrets only, wherever these stand. Redaction goes
through mappings and stops at lists. A list under the name of a secret is hidden as a whole; any
other list is shown as it is, with the secrets in it. So what is shown is the same just if the lists
that are shown are.

Passwords in URLs are no secrets here.
-/
import ImportPlanning.Proofs.Redaction.Paths

namespace ImportPlanning

open ImportPlanning.Text

/-! ### Values that differ in secrets -/

def Value.IsScalar : Value → Prop
  | null | list _ | tuple _ | set _ | mapping _ => False
  | _ => True

theorem Value.isScalar_text (content : String) : (text content).IsScalar :=
  trivial

/-- Two values are the same but for scalars under the names of secrets, at any depth of mappings
with texts as keys and of lists. -/
inductive SameButSecrets : Value → Value → Prop where
  | same (value : Value) : SameButSecrets value value
  | item {left right : Value} {lefts rights : List Value} (values : SameButSecrets left right)
      (rest : SameButSecrets (.list lefts) (.list rights)) :
      SameButSecrets (.list (left :: lefts)) (.list (right :: rights))
  | entry (name : String) {left right : Value} {lefts rights : Entries}
      (values : SameButSecrets left right)
      (rest : SameButSecrets (.mapping lefts) (.mapping rights)) :
      SameButSecrets (.mapping ((.text name, left) :: lefts))
        (.mapping ((.text name, right) :: rights))
  | secret {name : String} (isSecret : SecretName name) {left right : Value}
      (first : left.IsScalar) (second : right.IsScalar) {lefts rights : Entries}
      (rest : SameButSecrets (.mapping lefts) (.mapping rights)) :
      SameButSecrets (.mapping ((.text name, left) :: lefts))
        (.mapping ((.text name, right) :: rights))

/-! ### Lists that are shown -/

mutual

/-- The lists in a value under a name that are shown as they are. -/
def openListsUnder (name : String) : Value → List (List Value)
  | .mapping entries => openLists entries
  | .list items => if isSecretKey (lower name) then [] else [items]
  | _ => []

def openLists : List (Value × Value) → List (List Value)
  | [] => []
  | (.text name, value) :: rest => openListsUnder name value ++ openLists rest
  | _ :: rest => openLists rest

end

/-! ### Two results -/

/-- Two results are the same failure, or are shown alike just if the lists are the same. -/
def AlikeUpTo {α : Type} (lists others : List (List Value)) (left right : Except Failure α) : Prop :=
  lists.length = others.length ∧
    Alike (fun shown other => shown = other ↔ lists = others) left right

namespace AlikeUpTo

variable {lists others : List (List Value)}

theorem refl {α : Type} (lists : List (List Value)) (result : Except Failure α) :
    AlikeUpTo lists lists result result :=
  ⟨rfl, .of_eq (fun _ => by simp) rfl⟩

theorem mapping_iff {left right : Except Failure Entries} :
    AlikeUpTo lists others (left.map Value.mapping) (right.map Value.mapping) ↔
      AlikeUpTo lists others left right := by
  refine and_congr_right fun _ => ?_
  constructor
  · intro alike
    cases left with
    | error failure =>
        cases right with
        | error other =>
            cases alike
            exact .error failure
        | ok other => cases alike
    | ok shown =>
        cases right with
        | error failure => cases alike
        | ok other =>
            cases alike with
            | ok same => exact .ok (by simpa using same)
  · intro alike
    exact alike.map fun shown other same => by simpa using same

theorem cons {name : String} {left right : Value} {lefts rights : Entries}
    {within withinOthers : List (List Value)}
    (values : AlikeUpTo within withinOthers (redactValue (some (lower name)) left)
      (redactValue (some (lower name)) right))
    (rest : AlikeUpTo lists others (redact lefts) (redact rights)) :
    AlikeUpTo (within ++ lists) (withinOthers ++ others) (redact ((.text name, left) :: lefts))
      (redact ((.text name, right) :: rights)) := by
  have opened : ∀ (value : Value) (entries : Entries), redact ((.text name, value) :: entries) =
      redactValue (some (lower name)) value >>= fun first =>
        redact entries >>= fun others => .ok ((.text name, first) :: others) := by
    intro value entries
    rw [redact, loweredKey]
    rfl
  refine ⟨by simp [values.1, rest.1], ?_⟩
  rw [opened, opened]
  refine values.2.bind fun first second sameFirst => rest.2.bind fun shown other sameRest => ?_
  refine .ok ?_
  -- as many lists come from the first entry on either side, so the joined lists can be cut again
  have apart : within ++ lists = withinOthers ++ others ↔
      within = withinOthers ∧ lists = others := by
    refine ⟨fun joined => List.append_inj joined values.1, ?_⟩
    rintro ⟨rfl, rfl⟩
    rfl
  rw [apart, ← sameFirst, ← sameRest]
  simp

end AlikeUpTo

/-! ### Two runs -/

theorem openListsUnder_of_scalar {value : Value} (scalar : value.IsScalar) (name : String) :
    openListsUnder name value = [] := by
  cases value <;> simp_all [openListsUnder, Value.IsScalar]

theorem redactValue_of_secret {name : String} (isSecret : SecretName name) {value : Value}
    (scalar : value.IsScalar) :
    redactValue (some (lower name)) value = .ok (.text Url.mask) := by
  have isLeaf : value.isMapping = false := by
    cases value <;> simp_all [Value.isMapping, Value.IsScalar]
  have present : value ≠ .null := by
    rintro rfl
    exact scalar
  rw [redactValue_leaf isLeaf, redactLeaf_secret ((isSecretKey_lower_iff name).mpr isSecret) present]

theorem redactValue_list (name : String) (items : List Value) :
    redactValue (some (lower name)) (.list items) =
      .ok (if isSecretKey (lower name) then .text Url.mask else .list items) := by
  rw [redactValue_leaf rfl]
  cases secret : isSecretKey (lower name) with
  | true => rw [redactLeaf_secret secret (by simp), if_pos rfl]
  | false => rw [redactLeaf_kept secret fun _ _ => by simp, if_neg Bool.false_ne_true]

theorem SameButSecrets.alikeUpTo {left right : Value} (same : SameButSecrets left right)
    (name : String) :
    AlikeUpTo (openListsUnder name left) (openListsUnder name right)
      (redactValue (some (lower name)) left) (redactValue (some (lower name)) right) := by
  induction same generalizing name with
  | same value => exact .refl _ _
  | item values rest =>
      rw [redactValue_list, redactValue_list, openListsUnder, openListsUnder]
      cases isSecretKey (lower name) with
      | true => exact .refl _ _
      | false => exact ⟨rfl, .ok (by simp)⟩
  | entry key values rest sameHere sameLater =>
      have later := sameLater name
      simp only [redactValue, openListsUnder, openLists, AlikeUpTo.mapping_iff] at later ⊢
      exact (sameHere key).cons later
  | @secret key isSecret left right first second lefts rights rest sameLater =>
      have later := sameLater name
      have here : AlikeUpTo (openListsUnder key left) (openListsUnder key right)
          (redactValue (some (lower key)) left) (redactValue (some (lower key)) right) := by
        rw [openListsUnder_of_scalar first, openListsUnder_of_scalar second,
          redactValue_of_secret isSecret first, redactValue_of_secret isSecret second]
        exact .refl _ _
      simp only [redactValue, openListsUnder, openLists, AlikeUpTo.mapping_iff] at later ⊢
      exact here.cons later

theorem SameButSecrets.alikeUpTo_redact {left right : Entries}
    (same : SameButSecrets (.mapping left) (.mapping right)) :
    AlikeUpTo (openLists left) (openLists right) (redact left) (redact right) := by
  have alike := same.alikeUpTo ""
  simpa only [redactValue, openListsUnder, AlikeUpTo.mapping_iff] using alike

/-- Mappings that differ in secrets only are refused alike, and shown alike just if the lists that
are shown are the same: a secret within such a list is not hidden, and every other one is. -/
theorem redact_eq_iff_openLists_eq {left right : Entries}
    (same : SameButSecrets (.mapping left) (.mapping right)) :
    (∀ failure, redact left = .error failure ↔ redact right = .error failure) ∧
      ∀ shown, redact left = .ok shown →
        (redact right = .ok shown ↔ openLists left = openLists right) := by
  have alike := same.alikeUpTo_redact.2
  generalize redact left = leftResult, redact right = rightResult at alike ⊢
  cases alike with
  | error failure =>
      exact ⟨fun _ => Iff.rfl, fun _ impossible => by cases impossible⟩
  | ok sameShown =>
      refine ⟨by simp, fun shown isShown => ?_⟩
      cases isShown
      rw [← sameShown, Except.ok.injEq]
      exact eq_comm

/-- A secret in a mapping, and another in a list under the name of a secret. -/
private def hiddenSecrets (first second : String) : Entries :=
  [(.text "db", .mapping [(.text "Admin_Password", .text first), (.text "port", .integer 1)]),
    (.text "token", .list [.mapping [(.text "secret", .text second)]]),
    (.text "hosts", .list [.text "a", .text "b"])]

private theorem sameButSecrets_hiddenSecrets (first second other another : String) :
    SameButSecrets (.mapping (hiddenSecrets first second))
      (.mapping (hiddenSecrets other another)) := by
  have isSecret : ∀ name ∈ ["Admin_Password", "secret"], SecretName name := by
    intro name member
    rw [← isSecretKey_lower_iff]
    revert name
    decide +kernel
  refine .entry "db" (.secret (isSecret _ (by simp)) (Value.isScalar_text _) (Value.isScalar_text _) (.same _)) ?_
  refine .entry "token" (.item ?_ (.same _)) (.same _)
  exact .secret (isSecret _ (by simp)) (Value.isScalar_text _) (Value.isScalar_text _) (.same _)

theorem redact_eq_iff_openLists_eq_hidden :
    ∃ shown, redact (hiddenSecrets "a" "b") = .ok shown ∧
      redact (hiddenSecrets "c" "d") = .ok shown := by
  have same := sameButSecrets_hiddenSecrets "a" "b" "c" "d"
  refine ⟨_, rfl, ?_⟩
  exact ((redact_eq_iff_openLists_eq same).2 _ rfl).mpr rfl

/-- A secret in a list that is shown. -/
private def listedSecret (secret : String) : Entries :=
  [(.text "hosts", .list [.mapping [(.text "password", .text secret)]])]

theorem listed_secret_shown :
    SameButSecrets (.mapping (listedSecret "a")) (.mapping (listedSecret "b")) ∧
      redact (listedSecret "a") = .ok (listedSecret "a") ∧
      redact (listedSecret "a") ≠ redact (listedSecret "b") := by
  have shown : ∀ secret, redact (listedSecret secret) = .ok (listedSecret secret) :=
    fun _ => rfl
  have isSecret : SecretName "password" := by
    rw [← isSecretKey_lower_iff]
    decide
  refine ⟨.entry "hosts" (.item (.secret isSecret (Value.isScalar_text _) (Value.isScalar_text _) (.same _)) (.same _)) (.same _),
    shown "a", ?_⟩
  rw [shown, shown]
  simp [listedSecret]

end ImportPlanning
