/-
Where hiding a password fails. A text that is no URL is shown as it is, but a URL whose port is no
integer is refused. So a mapping is shown just if its keys have letter case and the port of every URL
in it can be read.

What the password in a URL with such a port is, is left open.
-/
import ImportPlanning.Proofs.Layers.Connection
import ImportPlanning.Proofs.Redaction.Paths
import ImportPlanning.Proofs.Reports

namespace ImportPlanning

open ImportPlanning.Text
open Executor (PortReadable)

/-! ### One URL -/

/-- The text would be a URL if its port were an integer. -/
def BadPort (source : String) (flaw : UrlFlaw) : Prop :=
  Url.read source = .error flaw ∧ flaw ≠ .unreadable

theorem not_portReadable_iff (source : String) :
    ¬ PortReadable source ↔ ∃ flaw, BadPort source flaw := by
  constructor
  · intro unread
    simp only [PortReadable, not_forall, not_not] at unread
    obtain ⟨port, flaw, found⟩ := unread
    exact ⟨.badPort port flaw, found, fun impossible => by cases impossible⟩
  · rintro ⟨flaw, found, isPort⟩ readable
    exact isPort ((Executor.portReadable_iff_of_flaw found).mp readable)

theorem maskPassword_eq_error_iff {source : String} {flaw : UrlFlaw} :
    Url.maskPassword source = .error flaw ↔ BadPort source flaw := by
  rw [Url.maskPassword, BadPort]
  cases Url.read source with
  | error found =>
      cases found with
      | unreadable =>
          constructor
          · intro impossible
            cases impossible
          · rintro ⟨same, isPort⟩
            cases same
            exact absurd rfl isPort
      | badPort port reason =>
          constructor
          · intro same
            cases same
            exact ⟨rfl, fun impossible => by cases impossible⟩
          · rintro ⟨same, _⟩
            cases same
            rfl
  | ok url =>
      dsimp only
      split
      · constructor
        · intro impossible
          cases impossible
        · rintro ⟨impossible, _⟩
          cases impossible
      · constructor
        · intro impossible
          cases impossible
        · rintro ⟨impossible, _⟩
          cases impossible

theorem exists_maskPassword_iff (source : String) :
    (∃ masked, Url.maskPassword source = .ok masked) ↔ PortReadable source := by
  rw [← not_iff_not, not_portReadable_iff]
  simp only [← maskPassword_eq_error_iff]
  cases Url.maskPassword source with
  | error flaw => simp
  | ok masked => simp

theorem maskPassword_of_unreadable {source : String} (unread : Url.read source = .error .unreadable) :
    Url.maskPassword source = .ok source := by
  rw [Url.maskPassword, unread]

/-! ### Mappings -/

/-- The text stands, in the mapping or in one within it, under the name of a URL that is not also the
name of a secret. -/
inductive HoldsUrl (source : String) : Entries → Prop where
  | here {name : String} {entries : Entries} (member : (.text name, .text source) ∈ entries)
      (noSecret : ¬ SecretName name) (isUrl : UrlName name) : HoldsUrl source entries
  | within {key : Value} {inner entries : Entries} (member : (key, .mapping inner) ∈ entries)
      (holds : HoldsUrl source inner) : HoldsUrl source entries

/-- In the mapping or in one within it there is a key without letter case, or bytes are the key of a
value that is shown by its name. -/
inductive HoldsMisfit : Entries → Prop where
  | key {key value : Value} {entries : Entries} (member : (key, value) ∈ entries)
      (noText : ∀ name, key ≠ .text name) (noBytes : ∀ bytes, key ≠ .binary .bytes bytes) :
      HoldsMisfit entries
  | bytes {bytes : List UInt8} {value : Value} {entries : Entries}
      (member : (.binary .bytes bytes, value) ∈ entries) (present : value ≠ .null)
      (isLeaf : value.isMapping = false) : HoldsMisfit entries
  | within {key : Value} {inner entries : Entries} (member : (key, .mapping inner) ∈ entries)
      (holds : HoldsMisfit inner) : HoldsMisfit entries

/-- What a mapping is refused for: a key, or the port of a URL. -/
inductive RefusedFor (entries : Entries) : Failure → Prop where
  | misfit {failure : Failure} (holds : HoldsMisfit entries) (noUrl : ∀ flaw, failure ≠ .url flaw) :
      RefusedFor entries failure
  | port {source : String} {flaw : UrlFlaw} (holds : HoldsUrl source entries)
      (bad : BadPort source flaw) : RefusedFor entries (.url flaw)

/-- A key is a text, or bytes, or has no letter case. -/
theorem loweredKey_cases (key : Value) :
    (∃ name, key = .text name ∧ loweredKey key = .ok (some (lower name))) ∨
      (∃ bytes, key = .binary .bytes bytes ∧ loweredKey key = .ok none) ∨
      ((∀ name, key ≠ .text name) ∧ (∀ bytes, key ≠ .binary .bytes bytes) ∧
        loweredKey key = .error (.keyWithoutCase key.fullKindName)) := by
  cases key with
  | text name => exact .inl ⟨name, rfl, rfl⟩
  | binary form bytes =>
      cases form with
      | bytes => exact .inr (.inl ⟨bytes, rfl, rfl⟩)
      | byteArray => exact .inr (.inr ⟨by simp, by simp, rfl⟩)
      | view => exact .inr (.inr ⟨by simp, by simp, rfl⟩)
  | _ => exact .inr (.inr ⟨by simp, by simp, rfl⟩)

/-- A leaf under a name is refused for its port only. -/
theorem redactLeaf_eq_error_iff {name : String} {value : Value} {failure : Failure} :
    redactLeaf (some (lower name)) value = .error failure ↔
      ¬ SecretName name ∧ UrlName name ∧ ∃ source flaw, value = .text source ∧
        BadPort source flaw ∧ failure = .url flaw := by
  rw [← isSecretKey_lower_iff, ← isUrlKey_lower_iff]
  by_cases missing : value = .null
  · rw [missing, redactLeaf_null]
    simp
  cases secret : isSecretKey (lower name) with
  | true =>
      rw [redactLeaf_secret secret missing]
      simp
  | false =>
      by_cases isSource : isUrlKey (lower name) = true ∧ ∃ source, value = .text source
      · obtain ⟨isUrl, source, rfl⟩ := isSource
        rw [redactLeaf_url secret isUrl, redactUrl]
        cases isMasked : Url.maskPassword source with
        | error flaw =>
            have bad := maskPassword_eq_error_iff.mp isMasked
            constructor
            · intro failed
              cases failed
              exact ⟨Bool.false_ne_true, isUrl, source, flaw, rfl, bad, rfl⟩
            · rintro ⟨_, _, other, reason, same, worse, rfl⟩
              cases same
              rw [maskPassword_eq_error_iff.mpr worse] at isMasked
              cases isMasked
              rfl
        | ok masked =>
            constructor
            · intro impossible
              cases impossible
            · rintro ⟨_, _, other, flaw, same, bad, _⟩
              cases same
              rw [maskPassword_eq_error_iff.mpr bad] at isMasked
              cases isMasked
      · rw [redactLeaf_kept secret fun isUrl source isText => isSource ⟨isUrl, source, isText⟩]
        constructor
        · intro impossible
          cases impossible
        · rintro ⟨_, isUrl, source, _, isText, _⟩
          exact absurd ⟨isUrl, source, isText⟩ isSource

theorem exists_of_redact_error {entries : Entries} {failure : Failure}
    (failed : redact entries = .error failure) :
    ∃ key value, (key, value) ∈ entries ∧ (loweredKey key = .error failure ∨
      ∃ lowered, loweredKey key = .ok lowered ∧ redactValue lowered value = .error failure) := by
  induction entries with
  | nil =>
      rw [redact] at failed
      cases failed
  | cons entry rest ih =>
      obtain ⟨key, value⟩ := entry
      rw [redact] at failed
      rcases bind_eq_error_iff.mp failed with noCase | ⟨lowered, isLowered, failed⟩
      · exact ⟨key, value, List.mem_cons_self, .inl noCase⟩
      · rcases bind_eq_error_iff.mp failed with refused | ⟨first, _, failed⟩
        · exact ⟨key, value, List.mem_cons_self, .inr ⟨lowered, isLowered, refused⟩⟩
        · rcases bind_eq_error_iff.mp failed with later | ⟨others, _, impossible⟩
          · obtain ⟨key, value, member, reason⟩ := ih later
            exact ⟨key, value, List.mem_cons_of_mem _ member, reason⟩
          · cases impossible

/-- Redaction fails for keys without letter case and for bad ports only. -/
theorem refusedFor_of_redact {entries : Entries} {failure : Failure}
    (failed : redact entries = .error failure) : RefusedFor entries failure := by
  obtain ⟨key, value, member, noCase | ⟨lowered, isLowered, refused⟩⟩ :=
    exists_of_redact_error failed
  · rcases loweredKey_cases key with ⟨name, _, isLowered⟩ | ⟨bytes, _, isLowered⟩ |
      ⟨noText, noBytes, isLowered⟩
    · rw [isLowered] at noCase
      cases noCase
    · rw [isLowered] at noCase
      cases noCase
    · rw [isLowered] at noCase
      cases noCase
      exact .misfit (.key member noText noBytes) fun flaw impossible => by cases impossible
  · cases isMapping : value.isMapping with
    | true =>
        obtain ⟨inner, rfl⟩ := Value.isMapping_iff.mp isMapping
        rw [redactValue, map_eq_error_iff] at refused
        cases refusedFor_of_redact refused with
        | misfit holds noUrl => exact .misfit (.within member holds) noUrl
        | port holds bad => exact .port (.within member holds) bad
    | false =>
        rw [redactValue_leaf isMapping] at refused
        rcases loweredKey_cases key with ⟨name, rfl, isText⟩ | ⟨bytes, rfl, isBytes⟩ |
          ⟨_, _, noCase⟩
        · rw [isText] at isLowered
          cases isLowered
          obtain ⟨noSecret, isUrl, source, flaw, rfl, bad, rfl⟩ := redactLeaf_eq_error_iff.mp refused
          exact .port (.here member noSecret isUrl) bad
        · rw [isBytes] at isLowered
          cases isLowered
          rw [redactLeaf] at refused
          split at refused
          · cases refused
          · rename_i present
            cases refused
            rw [Value.isNull_iff] at present
            exact .misfit (.bytes member present isMapping) fun flaw impossible => by
              cases impossible
        · rw [noCase] at isLowered
          cases isLowered
  termination_by sizeOf entries
  decreasing_by
    have smaller : sizeOf (key, Value.mapping inner) < sizeOf entries := List.sizeOf_lt_of_mem member
    simp only [Prod.mk.sizeOf_spec, Value.mapping.sizeOf_spec] at smaller
    omega

/-! ### Mappings that are shown -/

theorem canBeShown_of_mem {entries shown : Entries} (redacted : redact entries = .ok shown)
    {key value : Value} (member : (key, value) ∈ entries) : CanBeShown (key, value) :=
  (exists_redact_iff entries).mp ⟨shown, redacted⟩ (key, value) member

theorem exists_redact_of_mem {entries shown : Entries} (redacted : redact entries = .ok shown)
    {key : Value} {inner : Entries} (member : (key, .mapping inner) ∈ entries) :
    ∃ others, redact inner = .ok others := by
  obtain ⟨lowered, _, _, isShown⟩ := canBeShown_of_mem redacted member
  obtain ⟨others, redactedWithin, _⟩ := redactValue_mapping_eq_ok_iff.mp isShown
  exact ⟨others, redactedWithin⟩

theorem not_holdsMisfit_of_redact {entries shown : Entries} (redacted : redact entries = .ok shown) :
    ¬ HoldsMisfit entries := by
  intro holds
  induction holds generalizing shown with
  | @key key value entries member noText noBytes =>
      obtain ⟨lowered, _, isLowered, _⟩ := canBeShown_of_mem redacted member
      rcases loweredKey_cases key with ⟨name, isText, _⟩ | ⟨bytes, isBytes, _⟩ | ⟨_, _, noCase⟩
      · exact noText name isText
      · exact noBytes bytes isBytes
      · rw [noCase] at isLowered
        cases isLowered
  | bytes member present isLeaf =>
      obtain ⟨lowered, shown, isLowered, isShown⟩ := canBeShown_of_mem redacted member
      cases isLowered
      rw [redactValue_leaf isLeaf, redactLeaf, if_neg (mt Value.isNull_iff.mp present)] at isShown
      cases isShown
  | within member _ ih =>
      obtain ⟨others, redactedWithin⟩ := exists_redact_of_mem redacted member
      exact ih redactedWithin

theorem portReadable_of_redact {entries shown : Entries} (redacted : redact entries = .ok shown)
    {source : String} (holds : HoldsUrl source entries) : PortReadable source := by
  induction holds generalizing shown with
  | @here name entries member noSecret isUrl =>
      obtain ⟨lowered, other, isLowered, isShown⟩ := canBeShown_of_mem redacted member
      cases isLowered
      by_contra unread
      obtain ⟨flaw, bad⟩ := (not_portReadable_iff source).mp unread
      have refused : redactLeaf (some (lower name)) (.text source) = .error (.url flaw) :=
        redactLeaf_eq_error_iff.mpr ⟨noSecret, isUrl, source, flaw, rfl, bad, rfl⟩
      rw [redactValue_leaf rfl, refused] at isShown
      cases isShown
  | within member _ ih =>
      obtain ⟨others, redactedWithin⟩ := exists_redact_of_mem redacted member
      exact ih redactedWithin

/-- A mapping is shown just if its keys fit and the ports of its URLs can be read. -/
theorem exists_redact_iff_ports (entries : Entries) :
    (∃ shown, redact entries = .ok shown) ↔
      ¬ HoldsMisfit entries ∧ ∀ source, HoldsUrl source entries → PortReadable source := by
  constructor
  · rintro ⟨shown, redacted⟩
    exact ⟨not_holdsMisfit_of_redact redacted, fun source => portReadable_of_redact redacted⟩
  · rintro ⟨fits, readable⟩
    cases redacted : redact entries with
    | ok shown => exact ⟨shown, rfl⟩
    | error failure =>
        cases refusedFor_of_redact redacted with
        | misfit holds _ => exact absurd holds fits
        | port holds bad => exact absurd (readable _ holds) ((not_portReadable_iff _).mpr ⟨_, bad⟩)

end ImportPlanning
