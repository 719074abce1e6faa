/-
Overrides field by field. Two requests for the same layers differ in the fields that either of them
overrides, and in no other; and the port of the address that a job is loaded with can be read.

What the layers hold is left open.
-/
import ImportPlanning.Proofs.Layers.Jobs
import ImportPlanning.Proofs.Layers.Ports

namespace ImportPlanning

open Entries
open ImportPlanning.Text

/-! ### Loaded jobs -/

/-- The stages of a job that was loaded: the layers of its connection, and what was shown of it. -/
theorem JobSettings.resolved_of_load {surroundings : Surroundings} {request : JobRequest}
    {journal : List LogRecord} {job : JobSettings}
    (loaded : (load surroundings request journal).1 = .ok job) :
    ∃ explicit connection, Layers.optionalMapping "get" request.explicit = .ok explicit ∧
      (Layers.loadConnection surroundings (request.connectionRequest explicit) []).1 =
        .ok connection ∧
      ConnectionSettings.ofEntries connection = .ok job.connection ∧
      ∃ shown, redact job.toEntries = .ok shown := by
  rw [yields_load surroundings request journal] at loaded
  obtain ⟨explicit, isExplicit, later⟩ := bind_eq_ok_iff.mp loaded
  obtain ⟨connection, isConnection, later⟩ := bind_eq_ok_iff.mp later
  obtain ⟨fromFile, _, later⟩ := bind_eq_ok_iff.mp later
  obtain ⟨table, _, later⟩ := bind_eq_ok_iff.mp later
  obtain ⟨found, isJob, later⟩ := bind_eq_ok_iff.mp later
  obtain ⟨shown, isShown, last⟩ := bind_eq_ok_iff.mp later
  cases last
  exact ⟨explicit, connection, isExplicit, isConnection, (ofLayers_eq_ok_iff.mp isJob).1, shown,
    isShown⟩

theorem JobSettings.portReadable_of_load {surroundings : Surroundings} {request : JobRequest}
    {journal : List LogRecord} {job : JobSettings}
    (loaded : (load surroundings request journal).1 = .ok job) {address : String}
    (isAddress : job.connection.connectionString = some address) :
    Executor.PortReadable address := by
  obtain ⟨_, _, _, _, _, shown, isShown⟩ := resolved_of_load loaded
  exact portReadable_of_redact isShown (holdsUrl_toEntries_iff.mpr isAddress)

/-! ### Fields without an override -/

namespace JobRequest

theorem plainKeys_overrides (request : JobRequest) : PlainKeys request.overrides := by
  intro key member
  obtain ⟨entry, among, rfl⟩ := List.mem_map.mp member
  simp only [overrides, List.mem_cons, List.not_mem_nil, or_false] at among
  rcases among with rfl | rfl | rfl | rfl
  all_goals exact Value.isPlain_text _

/-- A field whose override is null has none. -/
theorem last?_of_null {request : JobRequest} {name : String}
    (isNull : (.text name, .null) ∈ request.overrides) :
    last? (.text name) (Layers.withoutNulls request.overrides) = none := by
  have plain : PlainKeys (Layers.withoutNulls request.overrides) := by
    intro key member
    obtain ⟨entry, among, rfl⟩ := List.mem_map.mp member
    exact request.plainKeys_overrides entry.1 (List.mem_map_of_mem (List.mem_filter.mp among).1)
  rw [last?_eq_find? plain (request.distinct_overrides.filter _)]
  cases found : find? (.text name) (Layers.withoutNulls request.overrides) with
  | none => rfl
  | some value =>
      obtain ⟨candidate, member, same⟩ := mem_of_find? found
      obtain ⟨among, present⟩ := List.mem_filter.mp member
      -- the entry that was found and the null one stand under one name
      have isFirst := (find?_eq_some_iff request.plainKeys_overrides request.distinct_overrides).mpr
        ⟨candidate, among, same⟩
      have isSecond := (find?_eq_some_iff request.plainKeys_overrides
        request.distinct_overrides).mpr
        ⟨.text name, isNull, (Value.sameAs_iff (Value.isPlain_text name)).mpr rfl⟩
      rw [isFirst] at isSecond
      cases isSecond
      cases present

/-- The requests ask for the same layers below their overrides. -/
structure SameLayers (left right : JobRequest) : Prop where
  explicit : left.explicit = right.explicit
  path : left.path = right.path
  group : left.group = right.group

section

variable {surroundings : Surroundings} {left right : JobRequest} (same : left.SameLayers right)

include same

theorem SameLayers.get_eq {explicit leftEntries rightEntries : Entries}
    (isLeft : (Layers.loadConnection surroundings (left.connectionRequest explicit) []).1 =
      .ok leftEntries)
    (isRight : (Layers.loadConnection surroundings (right.connectionRequest explicit) []).1 =
      .ok rightEntries)
    {name : String} (leftNull : (.text name, .null) ∈ left.overrides)
    (rightNull : (.text name, .null) ∈ right.overrides) :
    Entries.get name leftEntries = Entries.get name rightEntries := by
  obtain ⟨leftFile, leftCaller, leftOverrides, leftSupplied, rfl, _, leftShown⟩ :=
    (Layers.loadConnection_eq_ok_iff []).mp isLeft
  obtain ⟨rightFile, rightCaller, rightOverrides, rightSupplied, rfl, _, rightShown⟩ :=
    (Layers.loadConnection_eq_ok_iff []).mp isRight
  cases left
  cases right
  obtain ⟨rfl, rfl, rfl⟩ := same
  cases Except.ok.inj (leftSupplied.fromFile.symm.trans rightSupplied.fromFile)
  cases Except.ok.inj (leftSupplied.explicit.symm.trans rightSupplied.explicit)
  cases Except.ok.inj leftSupplied.overrides
  cases Except.ok.inj rightSupplied.overrides
  rw [Entries.get, Entries.get, Layers.find?_layered (plainKeys_of_redact leftShown),
    Layers.find?_layered (plainKeys_of_redact rightShown), Layers.layeredValue, Layers.layeredValue,
    last?_of_null leftNull, last?_of_null rightNull]
  rfl

theorem SameLayers.table_eq {journal otherJournal : List LogRecord} {job other : JobSettings}
    (isJob : (JobSettings.load surroundings left journal).1 = .ok job)
    (isOther : (JobSettings.load surroundings right otherJournal).1 = .ok other) :
    job.table = other.table := by
  obtain ⟨_, lower, upper, isLower, isUpper, fits⟩ := JobSettings.of_load_eq_ok isJob
  obtain ⟨_, otherLower, otherUpper, isOtherLower, isOtherUpper, otherFits⟩ :=
    JobSettings.of_load_eq_ok isOther
  rw [same.path, isOtherLower] at isLower
  rw [same.explicit, isOtherUpper] at isUpper
  cases isLower
  cases isUpper
  rw [fits] at otherFits
  exact Except.ok.inj otherFits

/-- A field that neither request overrides is the same in both jobs. -/
structure SameFields (left right : JobRequest) (job other : JobSettings) : Prop where
  driver : left.driver = .null → right.driver = .null →
    job.connection.driver = other.connection.driver
  connectionString : left.connectionString = .null → right.connectionString = .null →
    job.connection.connectionString = other.connection.connectionString
  username : left.username = .null → right.username = .null →
    job.connection.username = other.connection.username
  password : left.password = .null → right.password = .null →
    job.connection.password = other.connection.password
  table : job.table = other.table

theorem SameLayers.fields {journal otherJournal : List LogRecord} {job other : JobSettings}
    (isJob : (JobSettings.load surroundings left journal).1 = .ok job)
    (isOther : (JobSettings.load surroundings right otherJournal).1 = .ok other) :
    SameFields left right job other := by
  obtain ⟨explicit, entries, isExplicit, resolved, fits, _⟩ := JobSettings.resolved_of_load isJob
  obtain ⟨otherExplicit, others, isOtherExplicit, otherResolved, otherFits, _⟩ :=
    JobSettings.resolved_of_load isOther
  rw [same.explicit, isOtherExplicit] at isExplicit
  cases isExplicit
  obtain ⟨driver, address, username, password⟩ := ConnectionSettings.ofEntries_eq_ok_iff.mp fits
  obtain ⟨otherDriver, otherAddress, otherUsername, otherPassword⟩ :=
    ConnectionSettings.ofEntries_eq_ok_iff.mp otherFits
  have agree : ∀ {name}, (.text name, .null) ∈ left.overrides →
      (.text name, .null) ∈ right.overrides → Entries.get name entries = Entries.get name others :=
    same.get_eq resolved otherResolved
  constructor
  case driver =>
    intro isNull otherNull
    rw [agree (by simp [overrides, isNull]) (by simp [overrides, otherNull]), otherDriver] at driver
    exact (Except.ok.inj driver).symm
  case connectionString =>
    intro isNull otherNull
    rw [agree (by simp [overrides, isNull]) (by simp [overrides, otherNull]), otherAddress] at address
    exact (Except.ok.inj address).symm
  case username =>
    intro isNull otherNull
    rw [agree (by simp [overrides, isNull]) (by simp [overrides, otherNull]), otherUsername] at username
    exact (Except.ok.inj username).symm
  case password =>
    intro isNull otherNull
    rw [agree (by simp [overrides, isNull]) (by simp [overrides, otherNull]), otherPassword] at password
    exact (Except.ok.inj password).symm
  case table => exact same.table_eq isJob isOther

end

end JobRequest
end ImportPlanning
