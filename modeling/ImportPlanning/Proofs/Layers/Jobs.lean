/-
The settings of a job and where they come from. An argument decides its field of the connection
alone, whatever the layers hold, and the table depends on the tables of the file and of the
caller's entries alone.

Which requests are refused is left open.
-/
import ImportPlanning.Proofs.Layers.Connection

namespace ImportPlanning

/-! ### Fields -/

section

variable {α β : Type}

theorem Checked.apply_eq_ok_iff {function : Checked (α → β)} {argument : Checked α} {value : β} :
    function.apply argument = .ok value ↔
      ∃ run given, function = .ok run ∧ argument = .ok given ∧ run given = value := by
  cases function with
  | error issues => cases argument <;> simp [apply]
  | ok run => cases argument <;> simp [apply]

theorem Checked.under_eq_ok_iff {field : String} {result : Checked α} {value : α} :
    result.under field = .ok value ↔ result = .ok value := by
  cases result <;> simp [under]

theorem Checked.report_eq_ok_iff {model : ModelName} {result : Checked α} {value : α} :
    result.report model = .ok value ↔ result = .ok value := by
  cases result <;> simp [report]

end

/-- What entries say of a connection, field by field. -/
theorem ConnectionSettings.ofEntries_eq_ok_iff {entries : Entries}
    {connection : ConnectionSettings} :
    ofEntries entries = .ok connection ↔
      checkOptionalText (blankToNull (Entries.get "driver" entries)) = .ok connection.driver ∧
      checkOptionalText (blankToNull (Entries.get "connection_string" entries)) =
        .ok connection.connectionString ∧
      checkOptionalText (Entries.get "username" entries) = .ok connection.username ∧
      checkOptionalText (Entries.get "password" entries) = .ok connection.password := by
  simp only [ofEntries, Checked.apply_eq_ok_iff, nonBlankText, optionalText,
    Checked.under_eq_ok_iff]
  constructor
  · rintro ⟨_, password, ⟨_, username, ⟨_, address, ⟨_, driver, isMk, isDriver, rfl⟩,
      isAddress, rfl⟩, isUsername, rfl⟩, isPassword, rfl⟩
    cases isMk
    exact ⟨isDriver, isAddress, isUsername, isPassword⟩
  · rintro ⟨isDriver, isAddress, isUsername, isPassword⟩
    exact ⟨_, _, ⟨_, _, ⟨_, _, ⟨_, _, rfl, isDriver, rfl⟩, isAddress, rfl⟩, isUsername, rfl⟩,
      isPassword, rfl⟩

/-- What entries say of a table, field by field. -/
theorem TableSettings.ofEntries_eq_ok_iff {entries : Entries} {table : TableSettings} :
    ofEntries entries = .ok table ↔
      checkOptionalText (blankToNull (Entries.get "table_name" entries)) = .ok table.tableName ∧
      checkOptionalText (blankToNull (Entries.get "sql" entries)) = .ok table.sql ∧
      (∃ columns, checkOptionalText (blankToNull (Entries.get "columns" entries)) = .ok columns ∧
        columnList columns = table.columns) ∧
      checkOptionalText (blankToNull (Entries.get "partition_column" entries)) =
        .ok table.partitionColumn ∧
      checkOptionalText (blankToNull (Entries.get "boundary_query" entries)) =
        .ok table.boundaryQuery := by
  simp only [ofEntries, Checked.apply_eq_ok_iff, nonBlankText, map_eq_ok_iff,
    Checked.under_eq_ok_iff]
  constructor
  · rintro ⟨_, boundaryQuery, ⟨_, partitionColumn, ⟨_, _, ⟨_, sql, ⟨_, tableName, isMk, isTableName,
      rfl⟩, isSql, rfl⟩, ⟨columns, isColumns, rfl⟩, rfl⟩, isPartitionColumn, rfl⟩, isBoundaryQuery,
      rfl⟩
    cases isMk
    exact ⟨isTableName, isSql, ⟨columns, isColumns, rfl⟩, isPartitionColumn, isBoundaryQuery⟩
  · rintro ⟨isTableName, isSql, ⟨columns, isColumns, isList⟩, isPartitionColumn, isBoundaryQuery⟩
    exact ⟨_, _, ⟨_, _, ⟨_, _, ⟨_, _, ⟨_, _, rfl, isTableName, rfl⟩, isSql, rfl⟩,
      ⟨columns, isColumns, isList⟩, rfl⟩, isPartitionColumn, rfl⟩, isBoundaryQuery, rfl⟩

/-! ### Parts of a job -/

namespace JobSettings

open Entries

theorem ofLayers_eq_ok_iff {connection table : Entries} {job : JobSettings} :
    ofLayers connection table = .ok job ↔
      ConnectionSettings.ofEntries connection = .ok job.connection ∧
        TableSettings.ofEntries table = .ok job.table := by
  have isConnection : ConnectionSettings.ofValue (.mapping connection) =
      ConnectionSettings.ofEntries connection := rfl
  have isTable : TableSettings.ofValue (.mapping table) = TableSettings.ofEntries table := rfl
  have connectionPart : find? (.text "connection")
      [(.text "connection", .mapping connection), (.text "table", .mapping table)] =
        some (.mapping connection) := by simp [find?]
  have tablePart : find? (.text "table")
      [(.text "connection", .mapping connection), (.text "table", .mapping table)] =
        some (.mapping table) := by simp [find?]
  rw [ofLayers, mapError_eq_ok_iff, Checked.report_eq_ok_iff, ofEntries, part, part, connectionPart,
    tablePart]
  simp only [Checked.apply_eq_ok_iff, Checked.under_eq_ok_iff, isConnection, isTable]
  constructor
  · rintro ⟨_, table, ⟨_, connection, isMk, fits, rfl⟩, tableFits, rfl⟩
    cases isMk
    exact ⟨fits, tableFits⟩
  · rintro ⟨fits, tableFits⟩
    exact ⟨_, _, ⟨_, _, rfl, fits, rfl⟩, tableFits, rfl⟩

/-- The table in a file, or why there is none. -/
def fileTable (surroundings : Surroundings) (path : Option String) : Except Failure Entries :=
  (ConfigFile.entriesAt surroundings path).bind fun entries => tableEntries (get "table" entries)

/-- The table in the caller's entries, or why there is none. -/
def callerTable (explicit : Value) : Except Failure Entries :=
  (Layers.optionalMapping "get" explicit).bind fun entries => tableEntries (get "table" entries)

theorem yields_load (surroundings : Surroundings) (request : JobRequest) :
    Yields (load surroundings request)
      ((Layers.optionalMapping "get" request.explicit).bind fun explicit =>
        (Layers.loadConnection surroundings (request.connectionRequest explicit) []).1.bind
          fun connection =>
            (ConfigFile.entriesAt surroundings request.path).bind fun fromFile =>
              (mergeTable fromFile explicit).bind fun table =>
                (ofLayers connection table).bind fun job =>
                  (redact job.toEntries).bind fun _ => .ok job) := by
  rw [load]
  refine yields_bind (yields_ofExcept _) fun explicit => ?_
  refine yields_bind (Layers.yields_loadConnection surroundings _).ofEmpty fun connection => ?_
  refine yields_bind (ConfigFile.yields_read surroundings _) fun fromFile => ?_
  refine yields_bind (yields_ofExcept _) fun table => ?_
  refine yields_bind (yields_ofExcept _) fun job => ?_
  refine yields_bind (yields_ofExcept _) fun shown => ?_
  exact yields_after_note (yields_pure _)

/-- What a job that was loaded is made of: the connection that its layers come to, and a table in
which that of the caller lies over that of the file. -/
theorem of_load_eq_ok {surroundings : Surroundings} {request : JobRequest}
    {journal : List LogRecord} {job : JobSettings}
    (loaded : (load surroundings request journal).1 = .ok job) :
    (∃ explicit connection,
      (Layers.loadConnection surroundings (request.connectionRequest explicit) []).1 =
          .ok connection ∧
        ConnectionSettings.ofEntries connection = .ok job.connection) ∧
      ∃ lower upper, fileTable surroundings request.path = .ok lower ∧
        callerTable request.explicit = .ok upper ∧
        TableSettings.ofEntries (overlay lower upper) = .ok job.table := by
  rw [yields_load surroundings request journal] at loaded
  obtain ⟨explicit, isExplicit, later⟩ := bind_eq_ok_iff.mp loaded
  obtain ⟨connection, isConnection, later⟩ := bind_eq_ok_iff.mp later
  obtain ⟨fromFile, isFile, later⟩ := bind_eq_ok_iff.mp later
  obtain ⟨table, isTable, later⟩ := bind_eq_ok_iff.mp later
  obtain ⟨found, isJob, later⟩ := bind_eq_ok_iff.mp later
  obtain ⟨shown, isShown, last⟩ := bind_eq_ok_iff.mp later
  cases last
  obtain ⟨fits, tableFits⟩ := ofLayers_eq_ok_iff.mp isJob
  obtain ⟨lower, isLower, later⟩ := bind_eq_ok_iff.mp isTable
  obtain ⟨upper, isUpper, last⟩ := bind_eq_ok_iff.mp later
  cases last
  exact ⟨⟨explicit, connection, isConnection, fits⟩, lower, upper,
    bind_eq_ok_iff.mpr ⟨fromFile, isFile, isLower⟩,
    bind_eq_ok_iff.mpr ⟨explicit, isExplicit, isUpper⟩, tableFits⟩

end JobSettings

/-! ### Arguments -/

/-- Each argument that is given decides its field of the connection by itself: a blank driver or
address counts as none. -/
structure JobRequest.Decides (request : JobRequest) (connection : ConnectionSettings) : Prop where
  driver : request.driver ≠ .null →
    checkOptionalText (blankToNull request.driver) = .ok connection.driver
  connectionString : request.connectionString ≠ .null →
    checkOptionalText (blankToNull request.connectionString) = .ok connection.connectionString
  username : request.username ≠ .null →
    checkOptionalText request.username = .ok connection.username
  password : request.password ≠ .null →
    checkOptionalText request.password = .ok connection.password

theorem JobRequest.distinct_overrides (request : JobRequest) :
    Entries.Distinct request.overrides := by
  have codes : (Entries.keys request.overrides).map Value.plainCode? =
      ["driver", "connection_string", "username", "password"].map fun name => some (.inl name) :=
    rfl
  rw [Entries.Distinct, codes]
  decide

theorem JobRequest.get_of_overrides {surroundings : Surroundings} {request : JobRequest}
    {explicit connection : Entries} {journal : List LogRecord}
    (resolved : (Layers.loadConnection surroundings (request.connectionRequest explicit)
      journal).1 = .ok connection)
    {name : String} {value : Value} (member : (.text name, value) ∈ request.overrides)
    (given : value ≠ .null) : Entries.get name connection = value := by
  obtain ⟨fromFile, caller, overrides, supplied, rfl, shown, redacted⟩ :=
    (Layers.loadConnection_eq_ok_iff journal).mp resolved
  have plain := plainKeys_of_redact redacted
  have isOverrides : overrides = request.overrides :=
    (Except.ok.inj supplied.overrides).symm
  obtain ⟨_, _, plainOverrides⟩ := Layers.plainKeys_layered_iff.mp plain
  have distinct : Entries.Distinct (Layers.withoutNulls overrides) := by
    rw [isOverrides]
    exact request.distinct_overrides.filter _
  have notNull : (!value.isNull) = true := by
    cases value with
    | null => exact absurd rfl given
    | _ => rfl
  have remains : (.text name, value) ∈ Layers.withoutNulls overrides :=
    List.mem_filter.mpr ⟨isOverrides ▸ member, notNull⟩
  have found : Entries.last? (.text name) (Layers.withoutNulls overrides) = some value := by
    rw [Entries.last?_eq_find? plainOverrides distinct,
      Entries.find?_eq_some_iff plainOverrides distinct]
    exact ⟨.text name, remains, (Value.sameAs_iff (Value.isPlain_text name)).mpr rfl⟩
  rw [Entries.get, Layers.find?_layered plain, Layers.layeredValue, found]
  rfl

theorem JobRequest.decides_of_load {surroundings : Surroundings} {request : JobRequest}
    {journal : List LogRecord} {job : JobSettings}
    (loaded : (JobSettings.load surroundings request journal).1 = .ok job) :
    request.Decides job.connection := by
  obtain ⟨⟨explicit, connection, resolved, fits⟩, _⟩ := JobSettings.of_load_eq_ok loaded
  obtain ⟨driver, address, username, password⟩ := ConnectionSettings.ofEntries_eq_ok_iff.mp fits
  constructor
  · intro given
    rwa [request.get_of_overrides resolved (by simp [overrides]) given] at driver
  · intro given
    rwa [request.get_of_overrides resolved (by simp [overrides]) given] at address
  · intro given
    rwa [request.get_of_overrides resolved (by simp [overrides]) given] at username
  · intro given
    rwa [request.get_of_overrides resolved (by simp [overrides]) given] at password

/-! ### Precedence -/

/-- Every resolved connection has under each key the value of the last layer that supplies one, its
keys in the order of their first appearance, and the same values with the variables of the
environment in any order if no two of them set one key. In every job that is loaded the arguments
that are given decide their fields, and the table is that of the caller over that of the file. -/
theorem later_layers_win :
    (∀ (surroundings : Surroundings) (request : Layers.ConnectionRequest)
      (journal : List LogRecord) (merged : Entries),
      (Layers.loadConnection surroundings request journal).1 = .ok merged →
        (∃ fromFile explicit overrides,
          Layers.Supplied surroundings request fromFile explicit overrides ∧
          (∀ key, Entries.find? key merged = Layers.layeredValue request.group
            surroundings.environment fromFile explicit overrides key) ∧
          Entries.keys merged = Layers.layeredKeys request.group surroundings.environment fromFile
            explicit overrides) ∧
        ((Layers.environmentKeys request.group surroundings.environment).Nodup →
          ∀ environment : Environment, environment.Perm surroundings.environment →
            ∃ other, (Layers.loadConnection { surroundings with environment } request
                journal).1 = .ok other ∧
              ∀ key, Entries.find? key other = Entries.find? key merged)) ∧
    (∀ (surroundings : Surroundings) (request : JobRequest) (journal : List LogRecord)
      (job : JobSettings),
      (JobSettings.load surroundings request journal).1 = .ok job →
        request.Decides job.connection ∧
        (∃ lower upper, JobSettings.fileTable surroundings request.path = .ok lower ∧
          JobSettings.callerTable request.explicit = .ok upper ∧
          TableSettings.ofEntries (Entries.overlay lower upper) = .ok job.table) ∧
        ∀ (others : Surroundings) (otherRequest : JobRequest) (otherJournal : List LogRecord)
          (otherJob : JobSettings),
          (JobSettings.load others otherRequest otherJournal).1 = .ok otherJob →
          JobSettings.fileTable others otherRequest.path =
            JobSettings.fileTable surroundings request.path →
          JobSettings.callerTable otherRequest.explicit =
            JobSettings.callerTable request.explicit →
          otherJob.table = job.table) := by
  constructor
  · intro surroundings request journal merged resolved
    refine ⟨?_, fun distinct environment permuted =>
      Layers.loadConnection_perm resolved distinct permuted⟩
    obtain ⟨fromFile, explicit, overrides, supplied, rfl, shown, redacted⟩ :=
      (Layers.loadConnection_eq_ok_iff journal).mp resolved
    have plain := plainKeys_of_redact redacted
    exact ⟨fromFile, explicit, overrides, supplied, Layers.find?_layered plain,
      Layers.keys_layered plain⟩
  · intro surroundings request journal job loaded
    obtain ⟨_, lower, upper, isLower, isUpper, fits⟩ := JobSettings.of_load_eq_ok loaded
    refine ⟨request.decides_of_load loaded, ⟨lower, upper, isLower, isUpper, fits⟩, ?_⟩
    intro others otherRequest otherJournal otherJob otherLoaded sameFile sameCaller
    obtain ⟨_, otherLower, otherUpper, isOtherLower, isOtherUpper, otherFits⟩ :=
      JobSettings.of_load_eq_ok otherLoaded
    rw [sameFile, isLower] at isOtherLower
    rw [sameCaller, isUpper] at isOtherUpper
    cases isOtherLower
    cases isOtherUpper
    rw [fits] at otherFits
    exact (Except.ok.inj otherFits).symm

/-- Two variables below an entry of null and an override, and a job whose driver is an argument. -/
theorem later_layers_win_reordered :
    let surroundings : Surroundings :=
      ⟨[], [("APP_PASSWORD", "one"), ("APP_USERNAME", "eve")]⟩
    let request : Layers.ConnectionRequest :=
      { explicit := .mapping [(.text "username", .null)]
        path := none
        part := none
        group := some "app"
        overrides := .mapping [(.text "driver", .text "db")] }
    let jobRequest : JobRequest :=
      { JobRequest.empty with
        explicit := .mapping [(.text "table", .mapping [(.text "table_name", .text "t")])]
        driver := .text "db" }
    (∃ merged, (Layers.loadConnection surroundings request []).1 = .ok merged ∧
      (Entries.keys merged).map Value.shown = ["'password'", "'username'", "'driver'"] ∧
      (Entries.find? (.text "username") merged).map Value.shown = some "None" ∧
      ∃ other, (Layers.loadConnection
          { surroundings with environment := surroundings.environment.reverse } request []).1 =
          .ok other ∧
        ∀ key, Entries.find? key other = Entries.find? key merged) ∧
    ∃ job, (JobSettings.load surroundings jobRequest []).1 = .ok job ∧
      job.connection.driver = some "db" := by
  intro surroundings request jobRequest
  constructor
  · obtain ⟨merged, resolved⟩ : ∃ merged,
        (Layers.loadConnection surroundings request []).1 = .ok merged :=
      exists_of_isOk (by decide +kernel)
    obtain ⟨⟨fromFile, explicit, overrides, supplied, values, keys⟩, reordered⟩ :=
      later_layers_win.1 surroundings request [] merged resolved
    obtain rfl : [] = fromFile := Except.ok.inj supplied.fromFile
    obtain rfl : [(.text "username", .null)] = explicit := Except.ok.inj supplied.explicit
    obtain rfl : [(.text "driver", .text "db")] = overrides := Except.ok.inj supplied.overrides
    refine ⟨merged, resolved, ?_, ?_, ?_⟩
    · rw [keys]
      decide +kernel
    · rw [values]
      decide +kernel
    · exact reordered (by decide +kernel) _ (List.reverse_perm _)
  · obtain ⟨job, loaded⟩ : ∃ job, (JobSettings.load surroundings jobRequest []).1 = .ok job :=
      exists_of_isOk (by decide +kernel)
    have decides := (later_layers_win.2 surroundings jobRequest [] job loaded).1
    refine ⟨job, loaded, ?_⟩
    have given : jobRequest.driver ≠ .null := fun impossible => by cases impossible
    exact (Except.ok.inj (decides.driver given)).symm

end ImportPlanning
