/-
Entries that differ in secrets only: texts under secret keys, and passwords in the URLs under URL
keys. Such entries stay so when they are laid over one another, have the same keys, and are the same
once they are redacted.
-/
import ImportPlanning.Proofs.Agreement
import ImportPlanning.Proofs.Url.Credentials
import ImportPlanning.Redaction
import ImportPlanning.Settings.Layers
import Mathlib.Data.List.Forall2

namespace ImportPlanning

open ImportPlanning.Text

/-- Two values under a key differ at most in a secret. -/
inductive SameUnder : (key left right : Value) → Prop where
  | same (key value : Value) : SameUnder key value value
  | secret {name : String} (first second : String) : isSecretKey (lower name) = true →
      SameUnder (.text name) (.text first) (.text second)
  | url {name first second : String} : isUrlKey (lower name) = true →
      Url.SameButPassword first second → SameUnder (.text name) (.text first) (.text second)

/-- Two entries have one key, and under it values that are related. -/
abbrev UnderOneKey (under : (key left right : Value) → Prop) (left right : Value × Value) : Prop :=
  left.1 = right.1 ∧ under left.1 left.2 right.2

/-- Two lists of entries have the same keys in the same order, and values that are related. -/
abbrev EntryWise (under : (key left right : Value) → Prop) (left right : Entries) : Prop :=
  List.Forall₂ (UnderOneKey under) left right

/-- Two lists of entries differ in secrets only. -/
abbrev SameEntries (left right : Entries) : Prop :=
  EntryWise SameUnder left right

theorem EntryWise.refl {under : (key left right : Value) → Prop}
    (reflexive : ∀ key value, under key value value) (entries : Entries) :
    EntryWise under entries entries :=
  List.forall₂_same.mpr fun entry _ => ⟨rfl, reflexive entry.1 entry.2⟩

theorem SameEntries.refl (entries : Entries) : SameEntries entries entries :=
  EntryWise.refl .same entries

theorem SameUnder.eq_or_texts {key left right : Value} (same : SameUnder key left right) :
    left = right ∨ ∃ first second, left = .text first ∧ right = .text second := by
  cases same with
  | same => exact Or.inl rfl
  | secret first second => exact Or.inr ⟨first, second, rfl, rfl⟩
  | @url _ first second => exact Or.inr ⟨first, second, rfl, rfl⟩

theorem SameUnder.isNull_eq {key left right : Value} (same : SameUnder key left right) :
    left.isNull = right.isNull := by
  rcases same.eq_or_texts with rfl | ⟨first, second, rfl, rfl⟩
  · rfl
  · rfl

/-- Under a key that is no secret and no URL nothing differs. -/
theorem SameUnder.eq_of_open {name : String} {left right : Value}
    (same : SameUnder (.text name) left right) (noSecret : isSecretKey (lower name) = false)
    (noUrl : isUrlKey (lower name) = false) : left = right := by
  cases same with
  | same => rfl
  | secret first second secret => exact absurd secret (by simp [noSecret])
  | url isUrl => exact absurd isUrl (by simp [noUrl])

/-! ### Look-up and merging -/

private theorem not_sameNumber_text (name : String) (value : Value) :
    (Value.text name).sameNumber value = false := by
  rw [Value.sameNumber]
  cases value.fraction? with
  | some fraction => rfl
  | none => rfl

theorem Value.eq_of_sameAs_text {name : String} {key : Value}
    (same : (Value.text name).sameAs key = true) : key = .text name := by
  cases key with
  | text other =>
      rw [sameAs_text] at same
      rw [beq_iff_eq.mp same]
  | _ => simp [Value.sameAs, not_sameNumber_text] at same

theorem SameUnder.of_sameAs {key candidate left right : Value} (same : SameUnder key left right)
    (equal : key.sameAs candidate = true) : SameUnder candidate left right := by
  cases same with
  | same => exact .same candidate left
  | secret first second secret =>
      rw [Value.eq_of_sameAs_text equal]
      exact .secret first second secret
  | url isUrl passwords =>
      rw [Value.eq_of_sameAs_text equal]
      exact .url isUrl passwords

/-- What is found under a text is related, also where nothing is found. -/
theorem EntryWise.get {under : (key left right : Value) → Prop} {left right : Entries}
    (same : EntryWise under left right) {name : String} (missing : under (.text name) .null .null) :
    under (.text name) (Entries.get name left) (Entries.get name right) := by
  rw [Entries.get, Entries.get]
  induction same with
  | nil => exact missing
  | @cons entry other rest others here _ ih =>
      obtain ⟨keys, values⟩ := here
      rw [Entries.find?, Entries.find?, ← keys]
      cases found : (Value.text name).sameAs entry.1 with
      | true =>
          rw [Value.eq_of_sameAs_text found] at values
          exact values
      | false => exact ih

theorem SameEntries.insert {left right : Entries} (same : SameEntries left right)
    {key first second : Value} (values : SameUnder key first second) :
    SameEntries (Entries.insert key first left) (Entries.insert key second right) := by
  induction same with
  | nil => exact .cons ⟨rfl, values⟩ .nil
  | @cons entry other rest others here later ih =>
      obtain ⟨keys, old⟩ := here
      rw [Entries.insert, Entries.insert, ← keys]
      cases found : key.sameAs entry.1 with
      | true => exact .cons ⟨rfl, values.of_sameAs found⟩ later
      | false => exact .cons ⟨rfl, old⟩ ih

theorem SameEntries.overlay {left right : Entries} (lower : SameEntries left right)
    {first second : Entries} (upper : SameEntries first second) :
    SameEntries (Entries.overlay left first) (Entries.overlay right second) := by
  rw [Entries.overlay, Entries.overlay]
  induction upper generalizing left right with
  | nil => exact lower
  | @cons entry other rest others here _ ih =>
      obtain ⟨keys, values⟩ := here
      rw [List.foldl_cons, List.foldl_cons, ← keys]
      exact ih (lower.insert values)

theorem SameEntries.ofList {left right : Entries} (same : SameEntries left right) :
    SameEntries (Entries.ofList left) (Entries.ofList right) :=
  SameEntries.overlay .nil same

theorem SameEntries.merge {left right : List Entries} (same : List.Forall₂ SameEntries left right) :
    SameEntries (Layers.merge left) (Layers.merge right) := by
  have fromLower : ∀ {first second : Entries}, SameEntries first second →
      SameEntries (left.foldl Entries.overlay first) (right.foldl Entries.overlay second) := by
    induction same with
    | nil => exact fun lower => lower
    | cons upper _ ih => exact fun lower => ih (lower.overlay upper)
  exact fromLower .nil

theorem SameEntries.withoutNulls {left right : Entries} (same : SameEntries left right) :
    SameEntries (Layers.withoutNulls left) (Layers.withoutNulls right) := by
  rw [Layers.withoutNulls, Layers.withoutNulls]
  induction same with
  | nil => exact .nil
  | @cons entry other rest others here _ ih =>
      rw [List.filter_cons, List.filter_cons, ← here.2.isNull_eq]
      cases entry.2.isNull with
      | true => exact ih
      | false => exact .cons here ih

/-! ### Redaction -/

theorem SameUnder.redactValue_eq {key left right : Value} (same : SameUnder key left right)
    {lowered : Option String} (lowering : loweredKey key = .ok lowered) :
    redactValue lowered left = redactValue lowered right := by
  cases same with
  | same => rfl
  | @secret name first second secret =>
      cases lowering
      rw [redactValue_leaf rfl, redactValue_leaf rfl, redactLeaf_secret secret (by simp),
        redactLeaf_secret secret (by simp)]
  | @url name first second isUrl passwords =>
      cases lowering
      rw [redactValue_leaf rfl, redactValue_leaf rfl]
      cases secret : isSecretKey (lower name) with
      | true =>
          rw [redactLeaf_secret secret (by simp), redactLeaf_secret secret (by simp)]
      | false =>
          rw [redactLeaf_url secret isUrl, redactLeaf_url secret isUrl, redactUrl, redactUrl,
            passwords.maskPassword]

/-- Entries that differ in secrets only are the same once they are redacted. -/
theorem SameEntries.redact_eq {left right : Entries} (same : SameEntries left right) :
    redact left = redact right := by
  induction same with
  | nil => rfl
  | @cons entry other rest others here _ ih =>
      obtain ⟨key, value⟩ := entry
      obtain ⟨otherKey, otherValue⟩ := other
      obtain ⟨rfl, values⟩ := here
      rw [redact, redact, ih]
      cases lowering : loweredKey key with
      | error failure => rfl
      | ok lowered =>
          show (redactValue lowered value >>= _) = (redactValue lowered otherValue >>= _)
          rw [values.redactValue_eq lowering]

end ImportPlanning
