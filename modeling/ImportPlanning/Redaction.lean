/-
Redaction of mappings before they are shown. Under a secret key every value but null and a nested
mapping is replaced by a mask; under a URL key a text loses the password in it. Nested mappings are
redacted in turn. Keys are compared without regard to letter case.
-/
import ImportPlanning.ContextKeys
import ImportPlanning.Failure
import ImportPlanning.Text.Casing
import ImportPlanning.Url.Mask

namespace ImportPlanning

open ImportPlanning.Text

/-! ### Keys -/

def secretKeys : List String :=
  ["password", "secret", "token", ContextKey.password]

def urlKeys : List String :=
  ["connection_string", ContextKey.url]

def isSecretKey (lowered : String) : Bool :=
  secretKeys.contains lowered || "_password".toList.isSuffixOf lowered.toList

def isUrlKey (lowered : String) : Bool :=
  urlKeys.contains lowered

/-- A key in lower case; `none` for a key of bytes, which has letter case but is no text. -/
def loweredKey : Value → Except Failure (Option String)
  | .text key => .ok (some (lower key))
  | .binary .bytes _ => .ok none
  | key => .error (.keyWithoutCase key.fullKindName)

/-! ### Values -/

def redactUrl (source : String) : Except Failure Value :=
  match Url.maskPassword source with
  | .ok masked => .ok (.text masked)
  | .error flaw => .error (.url flaw)

def redactLeaf (lowered : Option String) (value : Value) : Except Failure Value :=
  if value.isNull then .ok .null
  else
    match lowered with
    | none => .error .keyOfBytes
    | some key =>
      if isSecretKey key then .ok (.text Url.mask)
      else if isUrlKey key then
        match value with
        | .text source => redactUrl source
        | other => .ok other
      else .ok value

theorem redactLeaf_null (lowered : Option String) : redactLeaf lowered .null = .ok .null := by
  simp [redactLeaf, Value.isNull]

theorem redactLeaf_secret {key : String} (secret : isSecretKey key = true) {value : Value}
    (present : value ≠ .null) : redactLeaf (some key) value = .ok (.text Url.mask) := by
  unfold redactLeaf
  simp [Value.isNull_iff, present, secret]

theorem redactLeaf_url {key : String} (noSecret : isSecretKey key = false)
    (isUrl : isUrlKey key = true) (source : String) :
    redactLeaf (some key) (.text source) = redactUrl source := by
  simp [redactLeaf, Value.isNull, noSecret, isUrl]

theorem redactLeaf_kept {key : String} (noSecret : isSecretKey key = false) {value : Value}
    (noUrl : isUrlKey key = true → ∀ source, value ≠ .text source) :
    redactLeaf (some key) value = .ok value := by
  by_cases isUrl : isUrlKey key = true
  · cases value with
    | text source => exact absurd rfl (noUrl isUrl source)
    | _ => simp [redactLeaf, Value.isNull, noSecret, isUrl]
  · by_cases missing : value = .null
    · rw [missing, redactLeaf_null]
    · unfold redactLeaf
      simp [Value.isNull_iff, missing, noSecret, isUrl]

mutual

def redactValue (lowered : Option String) : Value → Except Failure Value
  | .mapping entries => (redact entries).map .mapping
  | value => redactLeaf lowered value

def redact : List (Value × Value) → Except Failure (List (Value × Value))
  | [] => .ok []
  | (key, value) :: entries => do
    let lowered ← loweredKey key
    let shown ← redactValue lowered value
    let others ← redact entries
    .ok ((key, shown) :: others)

end

theorem redactValue_leaf {value : Value} (isLeaf : value.isMapping = false)
    (lowered : Option String) : redactValue lowered value = redactLeaf lowered value := by
  cases value with
  | mapping entries => cases isLeaf
  | _ => simp [redactValue]

theorem redact_cons_eq_ok_iff {key value : Value} {rest shown : Entries} :
    redact ((key, value) :: rest) = .ok shown ↔
      ∃ lowered first others, loweredKey key = .ok lowered ∧
        redactValue lowered value = .ok first ∧ redact rest = .ok others ∧
        shown = (key, first) :: others := by
  rw [redact]
  cases isLowered : loweredKey key with
  | error failure => simp [bind, Except.bind]
  | ok lowered =>
      cases isFirst : redactValue lowered value with
      | error failure => simp [bind, Except.bind, isFirst]
      | ok first =>
          cases redact rest with
          | error failure => simp [bind, Except.bind, isFirst]
          | ok others => simp [bind, Except.bind, isFirst, eq_comm]

end ImportPlanning
