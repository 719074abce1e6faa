/-
Layers of settings that differ in secrets only, and what the steps between them and a job make of
them: the entries of a section, those of the environment, those that a caller gives, and the job that
they are checked against.
-/
import ImportPlanning.Proofs.Secrecy.Entries
import ImportPlanning.Settings.Loading

namespace ImportPlanning

open ImportPlanning.Text

/-! ### Sections and roots -/

/-- Two pairs of a key and a value. -/
inductive SameItem : (left right : Value) → Prop where
  | same (item : Value) : SameItem item item
  | list {key left right : Value} : SameUnder key left right →
      SameItem (.list [key, left]) (.list [key, right])
  | tuple {key left right : Value} : SameUnder key left right →
      SameItem (.tuple [key, left]) (.tuple [key, right])

/-- Two values that stand for the settings of a connection: mappings, or lists of pairs. -/
inductive SameSection : (left right : Value) → Prop where
  | same (value : Value) : SameSection value value
  | mapping {left right : Entries} : SameEntries left right →
      SameSection (.mapping left) (.mapping right)
  | list {left right : List Value} : List.Forall₂ SameItem left right →
      SameSection (.list left) (.list right)
  | tuple {left right : List Value} : List.Forall₂ SameItem left right →
      SameSection (.tuple left) (.tuple right)

/-- Two values under a key of a whole job differ in secrets of the connection only. -/
def SameField (key left right : Value) : Prop :=
  left = right ∨ key = .text "connection" ∧ SameSection left right

/-- Two values that stand for a whole job differ in secrets of the connection only. -/
inductive SameRoot : (left right : Value) → Prop where
  | same (value : Value) : SameRoot value value
  | mapping {left right : Entries} : EntryWise SameField left right →
      SameRoot (.mapping left) (.mapping right)

theorem SameField.refl (key value : Value) : SameField key value value :=
  Or.inl rfl

theorem sameConnection_of_fields {left right : Entries} (same : EntryWise SameField left right) :
    SameSection (Entries.get "connection" left) (Entries.get "connection" right) := by
  rcases same.get (SameField.refl (.text "connection") .null) with equal | ⟨_, sections⟩
  · rw [equal]
    exact .same _
  · exact sections

theorem sameTable_of_fields {left right : Entries} (same : EntryWise SameField left right) :
    Entries.get "table" left = Entries.get "table" right := by
  rcases same.get (SameField.refl (.text "table") .null) with equal | ⟨impossible, _⟩
  · exact equal
  · exact absurd (Value.text.inj impossible) (by decide)

theorem isEmpty_eq_of_forall₂ {α β : Type} {related : α → β → Prop} {left : List α} {right : List β}
    (same : List.Forall₂ related left right) : left.isEmpty = right.isEmpty := by
  cases same with
  | nil => rfl
  | cons => rfl

theorem SameSection.isTruthy_eq {left right : Value} (same : SameSection left right) :
    left.isTruthy = right.isTruthy := by
  cases same with
  | same => rfl
  | mapping entries => exact congrArg not (isEmpty_eq_of_forall₂ entries)
  | list items => exact congrArg not (isEmpty_eq_of_forall₂ items)
  | tuple items => exact congrArg not (isEmpty_eq_of_forall₂ items)

theorem SameSection.sectionOf {left right : Entries} (same : EntryWise SameField left right) :
    Alike SameEntries (Layers.sectionOf (some "connection") left)
      (Layers.sectionOf (some "connection") right) := by
  have sections := sameConnection_of_fields same
  rw [Layers.sectionOf, Layers.sectionOf, ← sections.isTruthy_eq]
  cases (Entries.get "connection" left).isTruthy with
  | false => exact .ok .nil
  | true =>
      revert sections
      generalize Entries.get "connection" left = first
      generalize Entries.get "connection" right = second
      intro sections
      cases sections with
      | same => exact .of_eq SameEntries.refl rfl
      | mapping entries => exact .ok entries
      | list items => exact .error _
      | tuple items => exact .error _

private theorem alike_entryOfPair {left right key first second : Value}
    (ofLeft : Layers.itemsOf? left = some [key, first])
    (ofRight : Layers.itemsOf? right = some [key, second])
    (values : SameUnder key first second) (index : Nat) :
    Alike (UnderOneKey SameUnder) (Layers.entryOfItem index left)
      (Layers.entryOfItem index right) := by
  simp only [Layers.entryOfItem, ofLeft, ofRight]
  cases Layers.unhashableKind? key with
  | none => exact .ok ⟨rfl, values⟩
  | some kind => exact .error _

private theorem alike_entryOfItem {left right : Value} (same : SameItem left right) (index : Nat) :
    Alike (UnderOneKey SameUnder) (Layers.entryOfItem index left)
      (Layers.entryOfItem index right) := by
  cases same with
  | same => exact .of_eq (fun entry => ⟨rfl, .same _ _⟩) rfl
  | list values => exact alike_entryOfPair rfl rfl values index
  | tuple values => exact alike_entryOfPair rfl rfl values index

private theorem alike_entriesOfItems {left right : List Value}
    (same : List.Forall₂ SameItem left right) (index : Nat) :
    Alike SameEntries (Layers.entriesOfItems index left) (Layers.entriesOfItems index right) := by
  induction same generalizing index with
  | nil => exact .ok .nil
  | cons item _ ih =>
      refine (alike_entryOfItem item index).bind ?_
      intro entry other entries
      refine (ih (index + 1)).bind ?_
      intro rest others later
      exact .ok (.cons entries later)

theorem SameSection.givenEntries {left right : Value} (same : SameSection left right) :
    Alike SameEntries (Layers.givenEntries left) (Layers.givenEntries right) := by
  rw [Layers.givenEntries, Layers.givenEntries, ← same.isTruthy_eq]
  cases left.isTruthy with
  | false => exact .ok .nil
  | true =>
      cases same with
      | same => exact .of_eq SameEntries.refl rfl
      | mapping entries => exact .ok entries
      | list items => exact alike_entriesOfItems items 0
      | tuple items => exact alike_entriesOfItems items 0

theorem SameRoot.rootEntries {left right : Value} (same : SameRoot left right) :
    Alike (EntryWise SameField) (ConfigFile.rootEntries left) (ConfigFile.rootEntries right) := by
  cases same with
  | same => exact .of_eq (EntryWise.refl SameField.refl) rfl
  | mapping fields => exact .ok fields

theorem SameRoot.optionalMapping {left right : Value} (same : SameRoot left right)
    (operation : String) :
    Alike (EntryWise SameField) (Layers.optionalMapping operation left)
      (Layers.optionalMapping operation right) := by
  cases same with
  | same => exact .of_eq (EntryWise.refl SameField.refl) rfl
  | mapping fields =>
      cases fields with
      | nil => exact .ok .nil
      | cons first rest => exact .ok (.cons first rest)

/-! ### The environment -/

/-- Two variables differ at most in a secret that they set. -/
def SameVariable (stem : String) (left right : String × String) : Prop :=
  left.1 = right.1 ∧
    (left.2 = right.2 ∨
      ∃ key, Layers.keyOfVariable? stem left.1 = some key ∧
        SameUnder (.text key) (.text left.2) (.text right.2))

/-- Two environments differ in secrets of a group only. -/
abbrev SameEnvironment (group : String) (left right : Environment) : Prop :=
  List.Forall₂ (SameVariable (Layers.variableStem group)) left right

theorem SameEnvironment.ofEnvironment {group : String} {left right : Environment}
    (same : SameEnvironment group left right) :
    SameEntries (Layers.ofEnvironment group left) (Layers.ofEnvironment group right) := by
  rw [Layers.ofEnvironment, Layers.ofEnvironment]
  refine SameEntries.ofList ?_
  induction same with
  | nil => exact .nil
  | @cons setting other rest others here _ ih =>
      obtain ⟨names, values⟩ := here
      rw [List.filterMap_cons, List.filterMap_cons, Layers.entryOfVariable?,
        Layers.entryOfVariable?, ← names]
      cases sets : Layers.keyOfVariable? (Layers.variableStem group) setting.1 with
      | none => exact ih
      | some key =>
          refine .cons ⟨rfl, ?_⟩ ih
          rcases values with equal | ⟨found, isKey, secret⟩
          · rw [equal]
            exact .same _ _
          · rw [sets] at isKey
            cases isKey
            exact secret

/-! ### Jobs -/

theorem isSecretKey_password : isSecretKey (lower "password") = true := by
  decide

theorem isUrlKey_connectionString : isUrlKey (lower "connection_string") = true := by
  decide

/-- Two addresses are the same but for the password. -/
def SameAddress (left right : Option String) : Prop :=
  left = right ∨
    ∃ first second, left = some first ∧ right = some second ∧ Url.SameButPassword first second

/-- Two passwords are the same, or both are given. -/
def SamePassword (left right : Option String) : Prop :=
  left = right ∨ ∃ first second, left = some first ∧ right = some second

theorem SameAddress.refl (address : Option String) : SameAddress address address :=
  Or.inl rfl

theorem SamePassword.refl (password : Option String) : SamePassword password password :=
  Or.inl rfl

theorem SameAddress.sameUnder {left right : Option String} (same : SameAddress left right)
    {name : String} (isUrl : isUrlKey (lower name) = true) :
    SameUnder (.text name) (Value.ofOption left) (Value.ofOption right) := by
  rcases same with rfl | ⟨first, second, rfl, rfl, passwords⟩
  · exact .same _ _
  · exact .url isUrl passwords

theorem SameAddress.getD {left right : Option String} (same : SameAddress left right) :
    left.getD "" = right.getD "" ∨ Url.SameButPassword (left.getD "") (right.getD "") := by
  rcases same with rfl | ⟨first, second, rfl, rfl, passwords⟩
  · exact Or.inl rfl
  · exact Or.inr passwords

theorem SamePassword.sameUnder {left right : Option String} (same : SamePassword left right)
    {name : String} (isSecret : isSecretKey (lower name) = true) :
    SameUnder (.text name) (Value.ofOption left) (Value.ofOption right) := by
  rcases same with rfl | ⟨first, second, rfl, rfl⟩
  · exact .same _ _
  · exact .secret first second isSecret

/-- Two connections differ in secrets only. -/
structure SameConnection (left right : ConnectionSettings) : Prop where
  driver : left.driver = right.driver
  connectionString : SameAddress left.connectionString right.connectionString
  username : left.username = right.username
  password : SamePassword left.password right.password

/-- Two jobs differ in secrets only. -/
structure SameJob (left right : JobSettings) : Prop where
  connection : SameConnection left.connection right.connection
  table : left.table = right.table

theorem Alike.apply {α β α' β' : Type} {related : α → α' → Prop} {others : β → β' → Prop}
    {first : Checked (α → β)} {second : Checked (α' → β')} {left : Checked α} {right : Checked α'}
    (functions : Alike (fun run other => ∀ value same, related value same →
      others (run value) (other same)) first second)
    (arguments : Alike related left right) :
    Alike others (first.apply left) (second.apply right) := by
  cases functions with
  | error earlier =>
      cases arguments with
      | error later => exact .error (earlier ++ later)
      | ok _ => exact .error earlier
  | ok run =>
      cases arguments with
      | error later => exact .error later
      | ok values => exact .ok (run _ _ values)

theorem Alike.under {α β : Type} {related : α → β → Prop} {left : Checked α} {right : Checked β}
    (alike : Alike related left right) (field : String) :
    Alike related (left.under field) (right.under field) := by
  cases alike with
  | error issues => exact .error _
  | ok values => exact .ok values

theorem Alike.report {α β : Type} {related : α → β → Prop} {left : Checked α} {right : Checked β}
    (alike : Alike related left right) (model : ModelName) :
    Alike related (left.report model) (right.report model) := by
  cases alike with
  | error issues => exact .error _
  | ok values => exact .ok values

private theorem get_eq_of_open {left right : Entries} (same : SameEntries left right)
    {field : String} (noSecret : isSecretKey (lower field) = false)
    (noUrl : isUrlKey (lower field) = false) : Entries.get field left = Entries.get field right :=
  (same.get (.same _ _)).eq_of_open noSecret noUrl

private theorem alike_connectionString {left right : Entries} (same : SameEntries left right) :
    Alike SameAddress (nonBlankText "connection_string" left)
      (nonBlankText "connection_string" right) := by
  rw [nonBlankText, nonBlankText]
  have values := same.get (SameUnder.same (.text "connection_string") .null)
  revert values
  generalize Entries.get "connection_string" left = first
  generalize Entries.get "connection_string" right = second
  intro values
  cases values with
  | same => exact .of_eq SameAddress.refl rfl
  | secret _ _ impossible => exact absurd impossible (by decide)
  | @url _ first second _ passwords =>
      obtain ⟨notBlank, otherNotBlank⟩ := passwords.not_blank
      have checked : ∀ source : String, isBlankText source = false →
          (checkOptionalText (blankToNull (.text source))).under "connection_string" =
            .ok (some source) := by
        intro source filled
        rw [blankToNull, filled]
        rfl
      rw [checked first notBlank, checked second otherNotBlank]
      exact .ok (Or.inr ⟨first, second, rfl, rfl, passwords⟩)

private theorem alike_password {left right : Entries} (same : SameEntries left right) :
    Alike SamePassword (optionalText "password" left) (optionalText "password" right) := by
  rw [optionalText, optionalText]
  rcases (same.get (SameUnder.same (.text "password") .null)).eq_or_texts with
    equal | ⟨first, second, left, right⟩
  · rw [equal]
    exact .of_eq SamePassword.refl rfl
  · rw [left, right]
    exact .ok (Or.inr ⟨first, second, rfl, rfl⟩)

theorem SameConnection.ofEntries {left right : Entries} (same : SameEntries left right) :
    Alike SameConnection (ConnectionSettings.ofEntries left)
      (ConnectionSettings.ofEntries right) := by
  have driver : Alike Eq (nonBlankText "driver" left) (nonBlankText "driver" right) := by
    rw [nonBlankText, nonBlankText, get_eq_of_open same (by decide) (by decide)]
    exact .of_eq (fun _ => rfl) rfl
  have username : Alike Eq (optionalText "username" left) (optionalText "username" right) := by
    rw [optionalText, optionalText, get_eq_of_open same (by decide) (by decide)]
    exact .of_eq (fun _ => rfl) rfl
  refine ((((Alike.ok ?_).apply driver).apply (alike_connectionString same)).apply username).apply
    (alike_password same)
  intro driver sameDriver drivers address sameAddress addresses username sameUsername usernames
    password samePassword passwords
  exact ⟨drivers, addresses, usernames, passwords⟩

/-- Layers that differ in secrets only give jobs that differ in secrets only, or the same report. -/
theorem SameJob.ofLayers {left right : Entries} (same : SameEntries left right) (table : Entries) :
    Alike SameJob (JobSettings.ofLayers left table) (JobSettings.ofLayers right table) := by
  have checked : ∀ connection : Entries,
      JobSettings.ofEntries
          [(.text "connection", .mapping connection), (.text "table", .mapping table)] =
        (Checked.apply (.ok JobSettings.mk)
          ((ConnectionSettings.ofEntries connection).under "connection")).apply
            ((TableSettings.ofEntries table).under "table") := by
    intro connection
    simp [JobSettings.ofEntries, JobSettings.part, Entries.find?]
    rfl
  rw [JobSettings.ofLayers, JobSettings.ofLayers, checked, checked]
  refine Alike.mapError (Alike.report ?_ .job) Failure.invalid
  refine ((Alike.ok ?_).apply ((SameConnection.ofEntries same).under "connection")).apply
    (Alike.of_eq (fun _ => rfl) rfl)
  intro connection sameConnection connections table sameTable tables
  exact ⟨connections, tables⟩

theorem SameConnection.toEntries {left right : ConnectionSettings}
    (same : SameConnection left right) : SameEntries left.toEntries right.toEntries := by
  have address := same.connectionString.sameUnder isUrlKey_connectionString
  have password := same.password.sameUnder isSecretKey_password
  rw [ConnectionSettings.toEntries, ConnectionSettings.toEntries, same.driver, same.username]
  exact .cons ⟨rfl, .same _ _⟩
    (.cons ⟨rfl, address⟩ (.cons ⟨rfl, .same _ _⟩ (.cons ⟨rfl, password⟩ .nil)))

theorem SameJob.redact_eq {left right : JobSettings} (same : SameJob left right) :
    redact left.toEntries = redact right.toEntries := by
  have connections := same.connection.toEntries.redact_eq
  rw [JobSettings.toEntries, JobSettings.toEntries, same.table]
  simp only [redact, redactValue, connections]

end ImportPlanning
