/-
Redaction along paths of keys. Every mapping that a path leads to keeps its keys in their order, and
a value that is no mapping is masked under the name of a secret, loses a password under the name of
a URL, and else stays. Of what a plan publishes only its password and its URL may be shown
differently.

Keys are looked up as texts. Mappings in lists are no part of a path.
-/
import ImportPlanning.Proofs.Publication
import ImportPlanning.Proofs.Secrecy.Entries

namespace ImportPlanning

open ImportPlanning.Text

/-! ### Names of secrets -/

/-- Is what stands under this name secret? Letter case does not matter. -/
def SecretName (name : String) : Prop :=
  lower name ∈ ["password", "secret", "token", "sql_import.connection.password"] ∨
    ∃ stem, lower name = stem ++ "_password"

/-- Does a database URL stand under this name? -/
def UrlName (name : String) : Prop :=
  lower name ∈ ["connection_string", "sql_import.connection.url"]

theorem isSecretKey_lower_iff (name : String) :
    isSecretKey (lower name) = true ↔ SecretName name := by
  rw [isSecretKey, Bool.or_eq_true, List.contains_iff_mem, List.isSuffixOf_iff_suffix]
  refine or_congr Iff.rfl ?_
  constructor
  · rintro ⟨stem, written⟩
    refine ⟨String.ofList stem, String.toList_injective ?_⟩
    rw [String.toList_append, String.toList_ofList, written]
  · rintro ⟨stem, written⟩
    exact ⟨stem.toList, by rw [written, String.toList_append]⟩

theorem isUrlKey_lower_iff (name : String) : isUrlKey (lower name) = true ↔ UrlName name := by
  rw [isUrlKey, List.contains_iff_mem]
  rfl

/-! ### Paths -/

/-- The value that keys lead to, through one mapping after the other. -/
def Value.at? : List String → Value → Option Value
  | [], value => some value
  | name :: path, mapping entries => (Entries.find? (text name) entries).bind (at? path)
  | _ :: _, _ => none

theorem Value.at?_nil (value : Value) : at? [] value = some value := by
  simp [at?]

theorem Value.at?_cons_mapping (name : String) (path : List String) (entries : Entries) :
    at? (name :: path) (mapping entries) =
      (Entries.find? (text name) entries).bind (at? path) := by
  simp [at?]

theorem Value.at?_concat_of_no_mapping {value : Value} (isLeaf : value.isMapping = false)
    (path : List String) (name : String) : at? (path ++ [name]) value = none := by
  cases path <;> cases value <;> simp_all [at?, isMapping]

/-! ### One mapping -/

theorem keys_redact {entries shown : Entries} (redacted : redact entries = .ok shown) :
    Entries.keys shown = Entries.keys entries := by
  induction entries generalizing shown with
  | nil =>
      rw [redact] at redacted
      cases redacted
      rfl
  | cons entry rest ih =>
      obtain ⟨_, first, others, _, _, later, rfl⟩ := redact_cons_eq_ok_iff.mp redacted
      simpa [Entries.keys] using ih later

/-- Under a name nothing is found before and after, or a value and what is shown for it. -/
theorem find?_redact {entries shown : Entries} (redacted : redact entries = .ok shown)
    (name : String) :
    (Entries.find? (.text name) entries = none ∧ Entries.find? (.text name) shown = none) ∨
      ∃ value other, Entries.find? (.text name) entries = some value ∧
        Entries.find? (.text name) shown = some other ∧
        redactValue (some (lower name)) value = .ok other := by
  induction entries generalizing shown with
  | nil =>
      rw [redact] at redacted
      cases redacted
      exact Or.inl ⟨rfl, rfl⟩
  | cons entry rest ih =>
      obtain ⟨lowered, first, others, isLowered, isFirst, later, rfl⟩ :=
        redact_cons_eq_ok_iff.mp redacted
      rw [Entries.find?, Entries.find?]
      by_cases same : (Value.text name).sameAs entry.1 = true
      · rw [Value.eq_of_sameAs_text same, loweredKey] at isLowered
        cases isLowered
        rw [if_pos same, if_pos same]
        exact Or.inr ⟨entry.2, first, rfl, rfl, isFirst⟩
      · rw [if_neg same, if_neg same]
        exact ih later

theorem redactValue_mapping_eq_ok_iff {lowered : Option String} {entries : Entries}
    {shown : Value} :
    redactValue lowered (.mapping entries) = .ok shown ↔
      ∃ others, redact entries = .ok others ∧ .mapping others = shown := by
  rw [redactValue, map_eq_ok_iff]

/-! ### Paths under redaction -/

/-- The value at the end of a path is shown as the last key asks. -/
theorem at?_redact {entries shown : Entries} (redacted : redact entries = .ok shown)
    {path : List String} {name : String} {value : Value}
    (led : Value.at? (path ++ [name]) (.mapping entries) = some value) :
    ∃ other, Value.at? (path ++ [name]) (.mapping shown) = some other ∧
      redactValue (some (lower name)) value = .ok other := by
  induction path generalizing entries shown with
  | nil =>
      rw [List.nil_append, Value.at?_cons_mapping] at led ⊢
      rcases find?_redact redacted name with
        ⟨missing, _⟩ | ⟨found, other, isFound, isOther, isShown⟩
      · simp [missing] at led
      · rw [isFound, Option.bind_some, Value.at?_nil] at led
        cases led
        exact ⟨other, by rw [isOther, Option.bind_some, Value.at?_nil], isShown⟩
  | cons first rest ih =>
      rw [List.cons_append, Value.at?_cons_mapping] at led ⊢
      rcases find?_redact redacted first with
        ⟨missing, _⟩ | ⟨found, other, isFound, isOther, isShown⟩
      · simp [missing] at led
      · rw [isFound, Option.bind_some] at led
        rw [isOther, Option.bind_some]
        cases isMapping : found.isMapping with
        | false =>
            rw [Value.at?_concat_of_no_mapping isMapping] at led
            cases led
        | true =>
            obtain ⟨within, rfl⟩ := Value.isMapping_iff.mp isMapping
            obtain ⟨others, redactedWithin, rfl⟩ := redactValue_mapping_eq_ok_iff.mp isShown
            exact ih redactedWithin led

/-- How a value that is no mapping is shown under a name. -/
inductive ShownAs (name : String) : (leaf shown : Value) → Prop where
  | null : ShownAs name .null .null
  | secret {leaf : Value} (present : leaf ≠ .null) (isSecret : SecretName name) :
      ShownAs name leaf (.text "***")
  | url {source masked : String} (noSecret : ¬ SecretName name) (isUrl : UrlName name)
      (isMasked : Url.maskPassword source = .ok masked) :
      ShownAs name (.text source) (.text masked)
  | kept {leaf : Value} (present : leaf ≠ .null) (noSecret : ¬ SecretName name)
      (noUrl : UrlName name → ∀ source, leaf ≠ .text source) : ShownAs name leaf leaf

theorem shownAs_of_redactValue {name : String} {leaf shown : Value}
    (isLeaf : leaf.isMapping = false)
    (redacted : redactValue (some (lower name)) leaf = .ok shown) : ShownAs name leaf shown := by
  rw [redactValue_leaf isLeaf] at redacted
  by_cases missing : leaf = .null
  · rw [missing, redactLeaf_null] at redacted
    cases redacted
    rw [missing]
    exact .null
  cases secret : isSecretKey (lower name) with
  | true =>
      rw [redactLeaf_secret secret missing] at redacted
      cases redacted
      exact .secret missing ((isSecretKey_lower_iff name).mp secret)
  | false =>
      have noSecret : ¬ SecretName name := by
        rw [← isSecretKey_lower_iff, secret]
        exact Bool.false_ne_true
      by_cases isSource : UrlName name ∧ ∃ source, leaf = .text source
      · obtain ⟨isUrl, source, rfl⟩ := isSource
        rw [redactLeaf_url secret ((isUrlKey_lower_iff name).mpr isUrl), redactUrl] at redacted
        cases isMasked : Url.maskPassword source with
        | error flaw =>
            rw [isMasked] at redacted
            cases redacted
        | ok masked =>
            rw [isMasked] at redacted
            cases redacted
            exact .url noSecret isUrl isMasked
      · have noUrl : UrlName name → ∀ source, leaf ≠ .text source :=
          fun isUrl source isText => isSource ⟨isUrl, source, isText⟩
        rw [redactLeaf_kept secret fun isUrl => noUrl ((isUrlKey_lower_iff name).mp isUrl)]
          at redacted
        cases redacted
        exact .kept missing noSecret noUrl

/-- What is shown for a mapping, path by path. -/
structure ShownPathwise (entries shown : Entries) : Prop where
  mappings : ∀ path within, Value.at? path (.mapping entries) = some (.mapping within) →
    ∃ others, Value.at? path (.mapping shown) = some (.mapping others) ∧
      Entries.keys others = Entries.keys within
  leaves : ∀ path name leaf, Value.at? (path ++ [name]) (.mapping entries) = some leaf →
    leaf.isMapping = false →
    ∃ other, Value.at? (path ++ [name]) (.mapping shown) = some other ∧ ShownAs name leaf other

theorem shownPathwise_of_redact {entries shown : Entries} (redacted : redact entries = .ok shown) :
    ShownPathwise entries shown := by
  constructor
  · intro path within led
    rcases List.eq_nil_or_concat path with rfl | ⟨rest, name, rfl⟩
    · rw [Value.at?_nil] at led
      cases led
      exact ⟨shown, Value.at?_nil _, keys_redact redacted⟩
    · rw [List.concat_eq_append] at led ⊢
      obtain ⟨other, isOther, isShown⟩ := at?_redact redacted led
      obtain ⟨others, redactedWithin, rfl⟩ := redactValue_mapping_eq_ok_iff.mp isShown
      exact ⟨others, isOther, keys_redact redactedWithin⟩
  · intro path name leaf led isLeaf
    obtain ⟨other, isOther, isShown⟩ := at?_redact redacted led
    exact ⟨other, isOther, shownAs_of_redactValue isLeaf isShown⟩

/-! ### Published plans -/

namespace ImportPlan

theorem contextValues_leaf (plan : ImportPlan) {entry : String × Value}
    (member : entry ∈ plan.contextValues) : entry.2.isMapping = false := by
  have fits := plan.fits_contextValues entry member
  rw [Fits] at fits
  split at fits
  · obtain ⟨number, isNumber⟩ := fits
    rw [isNumber]
    rfl
  · rcases fits with isNull | ⟨text, isText⟩
    · rw [isNull]
      rfl
    · rw [isText]
      rfl

def publishedNames : List String :=
  [ContextKey.driver, ContextKey.url, ContextKey.username, ContextKey.password,
    ContextKey.partitionColumn, ContextKey.partitionType, ContextKey.minValue,
    ContextKey.maxValue, ContextKey.dataSql, ContextKey.fieldNames]

theorem contextKeys_subset (plan : ImportPlan) :
    plan.contextValues.map Prod.fst ⊆ publishedNames := by
  rw [contextValues, publishedNames]
  cases plan.username <;> cases plan.password <;> simp [optionalEntry]

/-- Of the names that plans use, redaction heeds those of the password and of the URL only. -/
theorem publishedNames_open : ∀ name ∈ publishedNames, name ≠ ContextKey.password →
    name ≠ ContextKey.url → isSecretKey (lower name) = false ∧ isUrlKey (lower name) = false := by
  decide +kernel

theorem mem_contextValues_of_find? {plan : ImportPlan} {context : RunContext} {name : String}
    {value : Value} (free : context.contains name = false)
    (found : Entries.find? (.text name) (context.extend plan.contextValues).entries = some value) :
    (name, value) ∈ plan.contextValues := by
  have missing : Entries.find? (.text name) context.entries = none := by
    simpa [RunContext.contains, Entries.holds] using free
  rw [RunContext.extend, Entries.find?_append, missing, Option.none_or] at found
  obtain ⟨candidate, member, same⟩ := Entries.mem_of_find? found
  rw [Value.eq_of_sameAs_text same] at member
  obtain ⟨entry, among, isEntry⟩ := List.mem_map.mp member
  cases isEntry
  exact among

/-- Published, a plan is shown as it is but for its password and its URL. -/
theorem find?_redacted_publish {plan : ImportPlan} {context after : RunContext} {shown : Entries}
    (published : plan.publish context = (.ok (), after)) (redacted : after.redacted = .ok shown)
    {name : String} (free : context.contains name = false)
    (noPassword : name ≠ ContextKey.password) (noUrl : name ≠ ContextKey.url) :
    Entries.find? (.text name) shown = Entries.find? (.text name) after.entries := by
  have extended : after = context.extend plan.contextValues := by
    rw [publish_eq] at published
    split at published
    · cases published
      rfl
    · cases published
  rcases find?_redact redacted name with
    ⟨missing, alsoMissing⟩ | ⟨value, other, found, isOther, isShown⟩
  · rw [missing, alsoMissing]
  · have member : (name, value) ∈ plan.contextValues :=
      mem_contextValues_of_find? free (extended ▸ found)
    have among := plan.contextKeys_subset (List.mem_map_of_mem member)
    obtain ⟨noSecret, isOpen⟩ := publishedNames_open name among noPassword noUrl
    rw [redactValue_leaf (plan.contextValues_leaf member),
      redactLeaf_kept noSecret fun isUrl => absurd isUrl (by simp [isOpen])] at isShown
    cases isShown
    rw [isOther, found]

end ImportPlan

/-- Redaction changes nothing but secrets: in any mapping, path by path, and in a context to which a
plan was published, where it changes the password and the URL of the plan at most. -/
theorem redact_pathwise :
    (∀ entries shown, redact entries = .ok shown → ShownPathwise entries shown) ∧
      ∀ (plan : ImportPlan) (context after : RunContext) (shown : Entries),
        plan.publish context = (.ok (), after) → after.redacted = .ok shown →
        Entries.keys shown = Entries.keys after.entries ∧
          ∀ name, context.contains name = false → name ≠ ContextKey.password →
            name ≠ ContextKey.url →
            Entries.find? (.text name) shown = Entries.find? (.text name) after.entries :=
  ⟨fun _ _ => shownPathwise_of_redact, fun _ _ _ _ published redacted =>
    ⟨keys_redact redacted, fun _ free noPassword noUrl =>
      ImportPlan.find?_redacted_publish published redacted free noPassword noUrl⟩⟩

private def nestedEntries : Entries :=
  [(.text "Connection", .mapping
      [(.text "PASSWORD", .text "pw"), (.text "connection_STRING", .text "db://u:p@host/base"),
        (.text "db_Password", .null), (.text "port", .integer 1)]),
    (.text "token", .mapping [(.text "name", .text "t")])]

private def nestedShown : Entries :=
  [(.text "Connection", .mapping
      [(.text "PASSWORD", .text "***"), (.text "connection_STRING", .text "db://u:***@host/base"),
        (.text "db_Password", .null), (.text "port", .integer 1)]),
    (.text "token", .mapping [(.text "name", .text "t")])]

private def shownPlan : ImportPlan where
  driver := "db"
  connectionString := "db://u:p@host/base"
  username := none
  password := some "pw"
  partitionColumn := "id"
  boundaryQuery := "SELECT MIN(id), MAX(id) FROM t"
  boundary := ⟨-5, some "1", none⟩
  extraction := ⟨"SELECT id FROM t", "id"⟩

private theorem redact_nestedEntries : redact nestedEntries = .ok nestedShown := by
  rfl

theorem redact_pathwise_nested :
    ShownPathwise nestedEntries nestedShown ∧
      ∃ after shown, shownPlan.publish .empty = (.ok (), after) ∧ after.redacted = .ok shown ∧
        ∀ name, name ≠ ContextKey.password → name ≠ ContextKey.url →
          Entries.find? (.text name) shown = Entries.find? (.text name) after.entries := by
  have published :
      shownPlan.publish .empty = (.ok (), RunContext.empty.extend shownPlan.contextValues) := by
    rw [ImportPlan.publish_eq]
    exact if_pos ((shownPlan.conflicts_eq_nil_iff .empty).mpr fun _ _ => rfl)
  obtain ⟨shown, redacted⟩ : ∃ shown,
      (RunContext.empty.extend shownPlan.contextValues).redacted = .ok shown :=
    exists_of_isOk (by decide +kernel)
  obtain ⟨_, same⟩ := redact_pathwise.2 shownPlan .empty _ shown published redacted
  exact ⟨redact_pathwise.1 _ _ redact_nestedEntries, _, shown, published, redacted,
    fun name => same name rfl⟩

end ImportPlanning
