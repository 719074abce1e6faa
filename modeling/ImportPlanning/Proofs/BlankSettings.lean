/-
Blank settings. A blank text counts as not given, but bytes become a text only after that was looked
at; so a setting is a blank text just where bytes of it were given. Lists of columns are looked at once
more when they are texts, and name a column if they are set.

User names and passwords may be any text, and nothing is said of them.
-/
import ImportPlanning.Proofs.SelectList

namespace ImportPlanning

open ImportPlanning.Text

/-! ### Single fields -/

/-- The text of a value that was given as bytes. A view of bytes has none. -/
def Value.bytesText? : Value → Option String
  | .binary .view _ => none
  | .binary _ bytes => (Utf8.decode bytes).toOption
  | _ => none

theorem checkText_eq_ok_iff {value : Value} {text : String} :
    checkText value = .ok text ↔ value = .text text ∨ value.bytesText? = some text := by
  cases value with
  | text given => simp [checkText, Value.bytesText?]
  | binary form bytes =>
      cases decoded : Utf8.decode bytes <;> cases form <;>
        simp [checkText, decoded, Checked.problem, Value.bytesText?, Except.toOption]
  | _ => simp [checkText, Checked.problem, Value.bytesText?]

/-- What a field comes to whose blank texts count as not given. -/
inductive ComesTo : Value → Option String → Prop
  | null : ComesTo .null none
  | blank (text : String) (isBlank : isBlankText text = true) : ComesTo (.text text) none
  | marked (text : String) (isMarked : isBlankText text = false) :
      ComesTo (.text text) (some text)
  | bytes (value : Value) (text : String) (decodes : value.bytesText? = some text) :
      ComesTo value (some text)

theorem comesTo_of_checked {value : Value} {setting : Option String}
    (checked : checkOptionalText (blankToNull value) = .ok setting) : ComesTo value setting := by
  cases value with
  | null =>
      cases checked
      exact .null
  | text text =>
      rw [blankToNull] at checked
      cases isBlank : isBlankText text with
      | true =>
          rw [isBlank, if_pos rfl] at checked
          cases checked
          exact .blank text isBlank
      | false =>
          rw [isBlank, if_neg Bool.false_ne_true] at checked
          cases checked
          exact .marked text isBlank
  | _ =>
      simp only [blankToNull, checkOptionalText, map_eq_ok_iff] at checked
      obtain ⟨text, isText, rfl⟩ := checked
      rcases checkText_eq_ok_iff.mp isText with impossible | decodes
      · cases impossible
      · exact .bytes _ text decodes

/-- A blank text is what a field comes to just where it was given as bytes. -/
theorem ComesTo.eq_blank_iff {value : Value} {setting : Option String} (comes : ComesTo value setting)
    {text : String} (isBlank : isBlankText text = true) :
    setting = some text ↔ value.bytesText? = some text := by
  cases comes with
  | null => simp [Value.bytesText?]
  | blank other _ => simp [Value.bytesText?]
  | marked other isMarked =>
      constructor
      · intro same
        cases same
        rw [isMarked] at isBlank
        cases isBlank
      · intro impossible
        cases impossible
  | bytes value other decodes => rw [decodes]

/-- At the field of a mapping, a blank text is set just where bytes of it were given. -/
def BlankAsBytes (entries : Entries) (field : String) (setting : Option String) : Prop :=
  ∀ text, isBlankText text = true →
    (setting = some text ↔ (Entries.get field entries).bytesText? = some text)

theorem blankAsBytes_of_checked {entries : Entries} {field : String} {setting : Option String}
    (checked : checkOptionalText (blankToNull (Entries.get field entries)) = .ok setting) :
    BlankAsBytes entries field setting :=
  fun _ isBlank => (comesTo_of_checked checked).eq_blank_iff isBlank

/-- A comma is no blank, so a blank list is one blank field. -/
theorem namesNoColumn_of_isBlankText {list : String} (blank : isBlankText list = true) :
    namesNoColumn list = true := by
  have noComma : ',' ∉ list.toList := by
    intro member
    have isBlankComma : isBlank ',' = true := List.all_eq_true.mp blank ',' member
    exact absurd isBlankComma (by decide)
  rw [namesNoColumn, splitFields, fields_of_not_mem noComma, List.map_singleton,
    String.ofList_toList, List.all_cons, List.all_nil, blank]
  rfl

theorem checkMapping_eq_ok_iff {model : ModelName} {value : Value} {entries : Entries} :
    checkMapping model value = .ok entries ↔ value = .mapping entries := by
  cases value with
  | mapping found => simp [checkMapping]
  | _ => simp [checkMapping, Checked.problem]

/-! ### Connections -/

theorem Planner.isMissing_eq_false_iff {setting : Option String} :
    isMissing setting = false ↔ ∃ text, setting = some text ∧ text ≠ "" := by
  cases setting <;> simp [isMissing]

theorem Planner.validateConnection_eq_ok_iff {connection : ConnectionSettings} :
    validateConnection connection = .ok () ↔
      (∃ driver, connection.driver = some driver ∧ driver ≠ "") ∧
        ∃ address, connection.connectionString = some address ∧ address ≠ "" := by
  rw [← isMissing_eq_false_iff, ← isMissing_eq_false_iff, validateConnection]
  cases isMissing connection.driver <;> cases isMissing connection.connectionString <;> simp

/-- The driver and the address of a connection to which the entries of a mapping were validated. -/
structure ConnectionSettings.DropsBlanks (entries : Entries) (connection : ConnectionSettings) :
    Prop where
  driver : BlankAsBytes entries "driver" connection.driver
  connectionString : BlankAsBytes entries "connection_string" connection.connectionString
  /-- Planning asks for both, and takes a blank one only where bytes of it were given. -/
  accepted : Planner.validateConnection connection = .ok () → ∃ driver address,
    connection.driver = some driver ∧ connection.connectionString = some address ∧
      (isBlankText driver = true → (Entries.get "driver" entries).bytesText? = some driver) ∧
      (isBlankText address = true →
        (Entries.get "connection_string" entries).bytesText? = some address)

theorem ConnectionSettings.dropsBlanks_of_valid {value : Value} {connection : ConnectionSettings}
    (valid : ofValue value = .ok connection) :
    ∃ entries, value = .mapping entries ∧ connection.DropsBlanks entries := by
  obtain ⟨entries, isMapping, fits⟩ := bind_eq_ok_iff.mp valid
  obtain ⟨isDriver, isAddress, _, _⟩ := ofEntries_eq_ok_iff.mp fits
  have driverBlank := blankAsBytes_of_checked isDriver
  have addressBlank := blankAsBytes_of_checked isAddress
  refine ⟨entries, checkMapping_eq_ok_iff.mp isMapping, driverBlank, addressBlank, ?_⟩
  intro accepted
  obtain ⟨⟨driver, hasDriver, _⟩, address, hasAddress, _⟩ :=
    Planner.validateConnection_eq_ok_iff.mp accepted
  exact ⟨driver, address, hasDriver, hasAddress,
    fun isBlank => (driverBlank driver isBlank).mp hasDriver,
    fun isBlank => (addressBlank address isBlank).mp hasAddress⟩

/-! ### Tables -/

/-- The settings of a table to which the entries of a mapping were validated. -/
structure TableSettings.DropsBlanks (entries : Entries) (table : TableSettings) : Prop where
  tableName : BlankAsBytes entries "table_name" table.tableName
  sql : BlankAsBytes entries "sql" table.sql
  partitionColumn : BlankAsBytes entries "partition_column" table.partitionColumn
  boundaryQuery : BlankAsBytes entries "boundary_query" table.boundaryQuery
  /-- A list of columns is never blank, however it was given. -/
  columns : ∀ list, table.columns = some list → isBlankText list = false
  /-- The source is a blank name or statement only where bytes of it were given. -/
  source : ∀ text, isBlankText text = true →
    (table.source = .ok (.table text) →
      (Entries.get "table_name" entries).bytesText? = some text) ∧
    (table.source = .ok (.query text) → (Entries.get "sql" entries).bytesText? = some text)

theorem TableSettings.of_source {table : TableSettings} {text : String} :
    (table.source = .ok (.table text) → table.tableName = some text) ∧
      (table.source = .ok (.query text) → table.sql = some text) := by
  rw [source.eq_def]
  cases table.tableName <;> cases table.sql <;> simp

theorem TableSettings.dropsBlanks_of_valid {value : Value} {table : TableSettings}
    (valid : ofValue value = .ok table) :
    ∃ entries, value = .mapping entries ∧ table.DropsBlanks entries := by
  obtain ⟨entries, isMapping, fits⟩ := bind_eq_ok_iff.mp valid
  obtain ⟨isName, isSql, _, isColumn, isBoundary⟩ := ofEntries_eq_ok_iff.mp fits
  have nameBlank := blankAsBytes_of_checked isName
  have sqlBlank := blankAsBytes_of_checked isSql
  refine ⟨entries, checkMapping_eq_ok_iff.mp isMapping, nameBlank, sqlBlank,
    blankAsBytes_of_checked isColumn, blankAsBytes_of_checked isBoundary, ?_, ?_⟩
  · intro list selected
    have named := namesColumn_of_valid valid selected
    cases isBlank : isBlankText list with
    | false => rfl
    | true =>
        rw [namesNoColumn_of_isBlankText isBlank] at named
        cases named
  · intro text isBlank
    obtain ⟨ofTable, ofQuery⟩ := of_source
    exact ⟨fun chosen => (nameBlank text isBlank).mp (ofTable chosen),
      fun chosen => (sqlBlank text isBlank).mp (ofQuery chosen)⟩

/-- A setting of a validated connection or table is a blank text just where bytes of it were given, and
a list of columns is none; so neither the connections that planning accepts nor the sources that it
picks are blank otherwise. -/
theorem blank_settings_given_as_bytes (value : Value) :
    (∀ connection, ConnectionSettings.ofValue value = .ok connection →
      ∃ entries, value = .mapping entries ∧ connection.DropsBlanks entries) ∧
    ∀ table, TableSettings.ofValue value = .ok table →
      ∃ entries, value = .mapping entries ∧ table.DropsBlanks entries :=
  ⟨fun _ => ConnectionSettings.dropsBlanks_of_valid, fun _ => TableSettings.dropsBlanks_of_valid⟩

/-- A blank text, blank bytes, and bytes of a list that names no column. -/
theorem blank_settings_given_as_bytes_mixed :
    let settings : Entries :=
      [(.text "driver", .text "\t"), (.text "connection_string", .binary .bytes [0x20])]
    let columns : Entries :=
      [(.text "table_name", .text "t"), (.text "columns", .binary .byteArray [0x20, 0x2C])]
    (∃ connection, ConnectionSettings.ofValue (.mapping settings) = .ok connection ∧
      connection.driver = none ∧ connection.connectionString = some " " ∧
      ∃ entries, Value.mapping settings = .mapping entries ∧ connection.DropsBlanks entries) ∧
    ∃ table, TableSettings.ofValue (.mapping columns) = .ok table ∧ table.columns = none ∧
      ∃ entries, Value.mapping columns = .mapping entries ∧ table.DropsBlanks entries := by
  intro settings columns
  obtain ⟨connections, _⟩ := blank_settings_given_as_bytes (.mapping settings)
  obtain ⟨_, tables⟩ := blank_settings_given_as_bytes (.mapping columns)
  have isConnection : ConnectionSettings.ofValue (.mapping settings) =
      .ok ⟨none, some " ", none, none⟩ := by decide +kernel
  have isTable : TableSettings.ofValue (.mapping columns) =
      .ok ⟨some "t", none, none, none, none⟩ := by decide +kernel
  exact ⟨⟨_, isConnection, rfl, rfl, connections _ isConnection⟩,
    ⟨_, isTable, rfl, tables _ isTable⟩⟩

/-- Bytes of a blank make a blank driver and a blank address, which planning accepts, and a blank name
of a table, which it picks. -/
theorem blank_bytes_kept :
    let blank : Value := .binary .bytes [0x20]
    isBlankText " " = true ∧
      (∃ connection, ConnectionSettings.ofValue
          (.mapping [(.text "driver", blank), (.text "connection_string", blank)]) =
            .ok connection ∧
        connection.driver = some " " ∧ connection.connectionString = some " " ∧
        Planner.validateConnection connection = .ok ()) ∧
      ∃ table, TableSettings.ofValue (.mapping [(.text "table_name", blank)]) = .ok table ∧
        table.source = .ok (.table " ") :=
  ⟨rfl, ⟨⟨some " ", some " ", none, none⟩, by decide +kernel, rfl, rfl, rfl⟩,
    ⟨⟨some " ", none, none, none, none⟩, by decide +kernel, rfl⟩⟩

end ImportPlanning
