/-
Ports of URLs where settings are loaded and contexts are shown. Both show mappings with their passwords
hidden: what the layers of a connection come to, the fields of a job, the values of a context. So they
fail if a URL among these has a port that is no integer, before anything was connected to; and no other
text of a URL makes them fail.
-/
import ImportPlanning.Proofs.Layers.Jobs
import ImportPlanning.Proofs.Redaction.Ports
import ImportPlanning.RunContext

namespace ImportPlanning

open ImportPlanning.Text
open Executor (PortReadable)

/-- Of the texts given, those whose port is no integer let the result fail, and the result fails for
the text of a URL only if it is one of them. -/
structure FailsOnPorts {α : Type} (urls : String → Prop) (result : Except Failure α) : Prop where
  cause : ∀ flaw, result = .error (.url flaw) → ∃ source, urls source ∧ BadPort source flaw
  needed : ∀ value, result = .ok value → ∀ source, urls source → PortReadable source

theorem failsOnPorts_redact (entries : Entries) :
    FailsOnPorts (HoldsUrl · entries) (redact entries) where
  cause := by
    intro flaw failed
    cases refusedFor_of_redact failed with
    | misfit _ noUrl => exact absurd rfl (noUrl flaw)
    | port holds bad => exact ⟨_, holds, bad⟩
  needed := fun _ redacted _ holds => portReadable_of_redact redacted holds

/-! ### Other failures -/

section

variable {α : Type} {flaw : UrlFlaw}

theorem mapError_ne_url {ε : Type} {change : ε → Failure} (noUrl : ∀ found, change found ≠ .url flaw)
    (result : Except ε α) : result.mapError change ≠ .error (.url flaw) := by
  intro failed
  obtain ⟨found, _, isUrl⟩ := mapError_eq_error_iff.mp failed
  exact noUrl found isUrl

theorem Yields.ne_url {step : LoadingM α} {result : Except Failure α} (yields : Yields step result)
    (noUrl : result ≠ .error (.url flaw)) (journal : List LogRecord) :
    (step journal).1 ≠ .error (.url flaw) := by
  rw [yields journal]
  exact noUrl

theorem readAt_ne_url (surroundings : Surroundings) (path : String) (journal : List LogRecord) :
    (ConfigFile.readAt surroundings path journal).1 ≠ .error (.url flaw) := by
  rw [ConfigFile.readAt]
  cases surroundings.find path with
  | nothing =>
      intro impossible
      cases impossible
  | directory =>
      intro impossible
      cases impossible
  | file bytes =>
      refine Yields.ne_url (yields_bind (yields_ofFile _) fun value =>
        yields_after_note (yields_ofFile (ConfigFile.rootEntries value))) ?_ journal
      intro failed
      rcases bind_eq_error_iff.mp failed with unread | ⟨value, _, noRoot⟩
      · exact mapError_ne_url (fun _ impossible => by cases impossible) _ unread
      · exact mapError_ne_url (fun _ impossible => by cases impossible) _ noRoot

theorem entriesAt_ne_url (surroundings : Surroundings) (path : Option String) :
    ConfigFile.entriesAt surroundings path ≠ .error (.url flaw) := by
  rw [ConfigFile.entriesAt, ConfigFile.read]
  cases path.filter fun given => !given.isEmpty with
  | none =>
      intro impossible
      cases impossible
  | some given => exact readAt_ne_url surroundings given []

theorem fileSection_ne_url (surroundings : Surroundings) (path part : Option String) :
    Layers.fileSection surroundings path part ≠ .error (.url flaw) := by
  intro failed
  rcases bind_eq_error_iff.mp failed with unread | ⟨entries, _, noSection⟩
  · exact entriesAt_ne_url surroundings path unread
  · exact mapError_ne_url (fun _ impossible => by cases impossible) _ noSection

theorem optionalMapping_ne_url (operation : String) (value : Value) :
    Layers.optionalMapping operation value ≠ .error (.url flaw) := by
  intro failed
  unfold Layers.optionalMapping at failed
  split at failed
  · split at failed
    · cases failed
    · cases failed
  · cases failed

theorem tableEntries_ne_url (value : Value) :
    JobSettings.tableEntries value ≠ .error (.url flaw) := by
  intro failed
  unfold JobSettings.tableEntries at failed
  split at failed
  · split at failed
    · cases failed
    · cases failed
  · cases failed

theorem mergeTable_ne_url (fromFile explicit : Entries) :
    JobSettings.mergeTable fromFile explicit ≠ .error (.url flaw) := by
  intro failed
  rcases bind_eq_error_iff.mp failed with lower | ⟨_, _, failed⟩
  · exact tableEntries_ne_url _ lower
  · rcases bind_eq_error_iff.mp failed with upper | ⟨_, _, impossible⟩
    · exact tableEntries_ne_url _ upper
    · cases impossible

end

/-! ### Connections -/

/-- The text stands under the name of a URL in what the layers of a connection come to. -/
def ConnectionUrl (surroundings : Surroundings) (request : Layers.ConnectionRequest)
    (source : String) : Prop :=
  ∃ fromFile explicit overrides,
    Layers.Supplied surroundings request fromFile explicit overrides ∧
      HoldsUrl source
        (Layers.layered request.group surroundings.environment fromFile explicit overrides)

theorem failsOnPorts_loadConnection (surroundings : Surroundings) (request : Layers.ConnectionRequest)
    (journal : List LogRecord) :
    FailsOnPorts (ConnectionUrl surroundings request)
      (Layers.loadConnection surroundings request journal).1 where
  cause := by
    intro flaw failed
    rw [Layers.yields_loadConnection surroundings request journal] at failed
    rcases bind_eq_error_iff.mp failed with noFile | ⟨fromFile, isFile, failed⟩
    · exact absurd noFile (fileSection_ne_url _ _ _)
    rcases bind_eq_error_iff.mp failed with noOverrides | ⟨upper, isUpper, failed⟩
    · exact absurd (map_eq_error_iff.mp noOverrides) (optionalMapping_ne_url _ _)
    rcases bind_eq_error_iff.mp failed with notGiven | ⟨explicit, isExplicit, failed⟩
    · exact absurd notGiven (mapError_ne_url (fun _ impossible => by cases impossible) _)
    rcases bind_eq_error_iff.mp failed with refused | ⟨_, _, impossible⟩
    · obtain ⟨overrides, isOverrides, rfl⟩ := map_eq_ok_iff.mp isUpper
      obtain ⟨source, holds, bad⟩ := (failsOnPorts_redact _).cause flaw refused
      exact ⟨source, ⟨fromFile, explicit, overrides,
        ⟨isFile, mapError_eq_ok_iff.mp isExplicit, isOverrides⟩, holds⟩, bad⟩
    · cases impossible
  needed := by
    rintro merged resolved source ⟨fromFile, explicit, overrides, supplied, holds⟩
    obtain ⟨file, given, upper, others, rfl, shown, redacted⟩ :=
      (Layers.loadConnection_eq_ok_iff journal).mp resolved
    -- the layers are what the request and its surroundings make them
    obtain rfl : fromFile = file := Except.ok.inj (supplied.fromFile.symm.trans others.fromFile)
    obtain rfl : explicit = given := Except.ok.inj (supplied.explicit.symm.trans others.explicit)
    obtain rfl : overrides = upper := Except.ok.inj (supplied.overrides.symm.trans others.overrides)
    exact portReadable_of_redact redacted holds

/-! ### Jobs -/

/-- Settings as entries. -/
private def fieldsOf (settings : List (String × Option String)) : Entries :=
  settings.map fun setting => (.text setting.1, Value.ofOption setting.2)

private theorem of_holdsUrl_fieldsOf {settings : List (String × Option String)} {source : String}
    (holds : HoldsUrl source (fieldsOf settings)) :
    ∃ name, (name, some source) ∈ settings ∧ isUrlKey (lower name) = true := by
  cases holds with
  | here member _ isUrl =>
      obtain ⟨⟨name, setting⟩, among, same⟩ := List.mem_map.mp member
      cases setting with
      | none => cases same
      | some text =>
          cases same
          exact ⟨name, among, (isUrlKey_lower_iff name).mpr isUrl⟩
  | within member _ =>
      obtain ⟨⟨name, setting⟩, _, same⟩ := List.mem_map.mp member
      cases setting with
      | none => cases same
      | some text => cases same

/-- Of the fields of a job, only the address of its connection is a URL. -/
theorem holdsUrl_toEntries_iff {job : JobSettings} {source : String} :
    HoldsUrl source job.toEntries ↔ job.connection.connectionString = some source := by
  have connection : job.connection.toEntries = fieldsOf
      [("driver", job.connection.driver), ("connection_string", job.connection.connectionString),
        ("username", job.connection.username), ("password", job.connection.password)] := rfl
  have table : job.table.toEntries = fieldsOf
      [("table_name", job.table.tableName), ("sql", job.table.sql), ("columns", job.table.columns),
        ("partition_column", job.table.partitionColumn),
        ("boundary_query", job.table.boundaryQuery)] := rfl
  constructor
  · intro holds
    cases holds with
    | here member _ _ => simp [JobSettings.toEntries] at member
    | @within key inner _ member holds =>
        have isPart : inner = job.connection.toEntries ∨ inner = job.table.toEntries := by
          simp only [JobSettings.toEntries, List.mem_cons, Prod.mk.injEq, Value.mapping.injEq,
            List.not_mem_nil, or_false] at member
          exact member.imp And.right And.right
        rcases isPart with rfl | rfl
        · rw [connection] at holds
          obtain ⟨name, among, isUrl⟩ := of_holdsUrl_fieldsOf holds
          simp only [List.mem_cons, Prod.mk.injEq, List.not_mem_nil, or_false] at among
          rcases among with ⟨rfl, _⟩ | ⟨rfl, same⟩ | ⟨rfl, _⟩ | ⟨rfl, _⟩
          · exact absurd isUrl (by decide)
          · exact same.symm
          · exact absurd isUrl (by decide)
          · exact absurd isUrl (by decide)
        · rw [table] at holds
          obtain ⟨name, among, isUrl⟩ := of_holdsUrl_fieldsOf holds
          simp only [List.mem_cons, Prod.mk.injEq, List.not_mem_nil, or_false] at among
          rcases among with ⟨rfl, _⟩ | ⟨rfl, _⟩ | ⟨rfl, _⟩ | ⟨rfl, _⟩ | ⟨rfl, _⟩
          · exact absurd isUrl (by decide)
          · exact absurd isUrl (by decide)
          · exact absurd isUrl (by decide)
          · exact absurd isUrl (by decide)
          · exact absurd isUrl (by decide)
  · intro isSource
    have isAddress : UrlName "connection_string" := (isUrlKey_lower_iff _).mp (by decide)
    have noSecret : ¬ SecretName "connection_string" := by
      rw [← isSecretKey_lower_iff]
      decide
    refine .within List.mem_cons_self (.here ?_ noSecret isAddress)
    rw [ConnectionSettings.toEntries, isSource]
    exact List.mem_cons_of_mem _ List.mem_cons_self

/-- The text is a URL in what the layers of the connection of a job come to, or is the address of the
job, which may have been bytes there. -/
def JobUrl (surroundings : Surroundings) (request : JobRequest) (source : String) : Prop :=
  ∃ explicit, Layers.optionalMapping "get" request.explicit = .ok explicit ∧
    (ConnectionUrl surroundings (request.connectionRequest explicit) source ∨
      ∃ connection settings,
        (Layers.loadConnection surroundings (request.connectionRequest explicit) []).1 =
            .ok connection ∧
          ConnectionSettings.ofEntries connection = .ok settings ∧
          settings.connectionString = some source)

theorem failsOnPorts_load (surroundings : Surroundings) (request : JobRequest)
    (journal : List LogRecord) :
    FailsOnPorts (JobUrl surroundings request) (JobSettings.load surroundings request journal).1 where
  cause := by
    intro flaw failed
    rw [JobSettings.yields_load surroundings request journal] at failed
    rcases bind_eq_error_iff.mp failed with notGiven | ⟨explicit, isExplicit, failed⟩
    · exact absurd notGiven (optionalMapping_ne_url _ _)
    rcases bind_eq_error_iff.mp failed with unresolved | ⟨connection, isConnection, failed⟩
    · obtain ⟨source, isUrl, bad⟩ := (failsOnPorts_loadConnection _ _ _).cause flaw unresolved
      exact ⟨source, ⟨explicit, isExplicit, .inl isUrl⟩, bad⟩
    rcases bind_eq_error_iff.mp failed with noFile | ⟨fromFile, _, failed⟩
    · exact absurd noFile (entriesAt_ne_url _ _)
    rcases bind_eq_error_iff.mp failed with noTable | ⟨table, _, failed⟩
    · exact absurd noTable (mergeTable_ne_url _ _)
    rcases bind_eq_error_iff.mp failed with invalid | ⟨job, isJob, failed⟩
    · exact absurd invalid (mapError_ne_url (fun _ impossible => by cases impossible) _)
    rcases bind_eq_error_iff.mp failed with refused | ⟨_, _, impossible⟩
    · obtain ⟨source, holds, bad⟩ := (failsOnPorts_redact _).cause flaw refused
      exact ⟨source, ⟨explicit, isExplicit, .inr ⟨connection, job.connection, isConnection,
        (JobSettings.ofLayers_eq_ok_iff.mp isJob).1, holdsUrl_toEntries_iff.mp holds⟩⟩, bad⟩
    · cases impossible
  needed := by
    intro job loaded source isUrl
    rw [JobSettings.yields_load surroundings request journal] at loaded
    obtain ⟨explicit, isExplicit, later⟩ := bind_eq_ok_iff.mp loaded
    obtain ⟨connection, isConnection, later⟩ := bind_eq_ok_iff.mp later
    obtain ⟨fromFile, _, later⟩ := bind_eq_ok_iff.mp later
    obtain ⟨table, _, later⟩ := bind_eq_ok_iff.mp later
    obtain ⟨found, isJob, later⟩ := bind_eq_ok_iff.mp later
    obtain ⟨shown, redacted, _⟩ := bind_eq_ok_iff.mp later
    obtain ⟨given, isGiven, inLayers | ⟨resolved, settings, isResolved, fits, isSource⟩⟩ := isUrl
    · rw [isExplicit] at isGiven
      cases isGiven
      exact (failsOnPorts_loadConnection _ _ _).needed connection isConnection source inLayers
    · rw [isExplicit] at isGiven
      cases isGiven
      rw [isConnection] at isResolved
      cases isResolved
      rw [(JobSettings.ofLayers_eq_ok_iff.mp isJob).1] at fits
      cases fits
      exact portReadable_of_redact redacted (holdsUrl_toEntries_iff.mpr isSource)

/-! ### Contexts -/

theorem failsOnPorts_shown (context : RunContext) :
    FailsOnPorts (HoldsUrl · context.entries) context.shown where
  cause := by
    intro flaw failed
    rcases bind_eq_error_iff.mp failed with refused | ⟨entries, _, failed⟩
    · exact (failsOnPorts_redact context.entries).cause flaw refused
    · rcases bind_eq_error_iff.mp failed with overlong | ⟨body, _, impossible⟩
      · rw [RunContext.plainText] at overlong
        split at overlong
        · cases overlong
        · cases overlong
      · cases impossible
  needed := by
    intro shown isShown source holds
    obtain ⟨entries, redacted, _⟩ := bind_eq_ok_iff.mp isShown
    exact portReadable_of_redact redacted holds

/-- Hiding passwords fails for ports that are no integers, and for no other text. A text that is no URL
is shown as it is. A mapping is shown just if its keys fit and the ports of its URLs can be read; and
settings are loaded, or contexts shown, only if the ports of theirs can be, and fail for the text of a
URL only where one cannot. -/
theorem masking_fails_on_ports_only (source : String) (entries : Entries)
    (surroundings : Surroundings) (request : Layers.ConnectionRequest) (jobRequest : JobRequest)
    (context : RunContext) (journal : List LogRecord) :
    (((∃ masked, Url.maskPassword source = .ok masked) ↔ PortReadable source) ∧
      (Url.read source = .error .unreadable → Url.maskPassword source = .ok source) ∧
      ∀ flaw, Url.maskPassword source = .error flaw ↔ BadPort source flaw) ∧
    (FailsOnPorts (HoldsUrl · entries) (redact entries) ∧
      ((∃ shown, redact entries = .ok shown) ↔
        ¬ HoldsMisfit entries ∧ ∀ url, HoldsUrl url entries → PortReadable url)) ∧
    FailsOnPorts (ConnectionUrl surroundings request)
      (Layers.loadConnection surroundings request journal).1 ∧
    FailsOnPorts (JobUrl surroundings jobRequest)
      (JobSettings.load surroundings jobRequest journal).1 ∧
    FailsOnPorts (HoldsUrl · context.entries) context.redacted ∧
      FailsOnPorts (HoldsUrl · context.entries) context.shown :=
  ⟨⟨exists_maskPassword_iff source, maskPassword_of_unreadable, fun _ => maskPassword_eq_error_iff⟩,
    ⟨failsOnPorts_redact entries, exists_redact_iff_ports entries⟩,
    failsOnPorts_loadConnection surroundings request journal,
    failsOnPorts_load surroundings jobRequest journal,
    failsOnPorts_redact context.entries, failsOnPorts_shown context⟩

/-- The flaw of a URL for which a result fails. -/
private def urlFlaw? {α : Type} : Except Failure α → Option UrlFlaw
  | .error (.url flaw) => some flaw
  | _ => none

private theorem of_urlFlaw? {α : Type} {result : Except Failure α} {flaw : UrlFlaw}
    (found : urlFlaw? result = some flaw) : result = .error (.url flaw) := by
  unfold urlFlaw? at found
  split at found
  · cases found
    rfl
  · cases found

/-- A nested URL that is shown, a text that is no URL, and a connection that cannot be resolved. -/
theorem masking_fails_on_ports_only_nested :
    let entries : Entries :=
      [(.text "connection", .mapping
        [(.text "Connection_String", .text "db://user:secret@host:80/base")])]
    let request : Layers.ConnectionRequest :=
      { explicit := .mapping [(.text "connection_string", .text "db://host:http")]
        path := none
        part := none
        group := none
        overrides := .null }
    (∃ shown, redact entries = .ok shown) ∧ Url.maskPassword "no url" = .ok "no url" ∧
      (Layers.loadConnection ⟨[], []⟩ request []).1 = .error (.url (.badPort "http" .notANumber)) ∧
      ∃ source, ConnectionUrl ⟨[], []⟩ request source ∧
        BadPort source (.badPort "http" .notANumber) := by
  intro entries request
  obtain ⟨⟨_, unchanged, _⟩, ⟨_, shownIff⟩, resolved, _, _, _⟩ :=
    masking_fails_on_ports_only "no url" entries ⟨[], []⟩ request .empty .empty []
  have fits : ¬ HoldsMisfit entries := by
    intro holds
    cases holds with
    | key member noText _ =>
        cases List.mem_singleton.mp member
        exact noText _ rfl
    | bytes member _ _ => cases List.mem_singleton.mp member
    | within member holds =>
        cases List.mem_singleton.mp member
        cases holds with
        | key member noText _ =>
            cases List.mem_singleton.mp member
            exact noText _ rfl
        | bytes member _ _ => cases List.mem_singleton.mp member
        | within member _ => cases List.mem_singleton.mp member
  have readable : ∀ source, HoldsUrl source entries → PortReadable source := by
    intro source holds
    cases holds with
    | here member _ _ => cases List.mem_singleton.mp member
    | within member holds =>
        cases List.mem_singleton.mp member
        cases holds with
        | here member _ _ =>
            cases List.mem_singleton.mp member
            have parses : (Url.read "db://user:secret@host:80/base").isOk = true := by decide +kernel
            intro port flaw found
            rw [found] at parses
            cases parses
        | within member _ => cases List.mem_singleton.mp member
  have failed : (Layers.loadConnection ⟨[], []⟩ request []).1 =
      .error (.url (.badPort "http" .notANumber)) := of_urlFlaw? (by decide +kernel)
  exact ⟨shownIff.mpr ⟨fits, readable⟩, unchanged rfl, failed, resolved.cause _ failed⟩

/-- Not every text comes back from masking. -/
theorem bad_port_not_masked :
    Url.maskPassword "db://host:abc" = .error (.badPort "abc" .notANumber) ∧
      ¬ ∀ source, ∃ masked, Url.maskPassword source = .ok masked := by
  have failed : Url.maskPassword "db://host:abc" = .error (.badPort "abc" .notANumber) := rfl
  refine ⟨failed, fun returns => ?_⟩
  obtain ⟨masked, isMasked⟩ := returns "db://host:abc"
  rw [failed] at isMasked
  cases isMasked

end ImportPlanning
