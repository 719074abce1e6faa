/-
Loading the settings of a job twice, with different secrets in its layers. Both times the journal
says the same, and the jobs differ in secrets only or loading fails in the same way.
-/
import ImportPlanning.Proofs.Loading
import ImportPlanning.Proofs.Secrecy.Settings

namespace ImportPlanning

open ImportPlanning.Text
open LoadingM

/-! ### Files -/

/-- At a path stands the same, or two files whose values differ in secrets only. -/
def SameFile (left right : Surroundings) (path : String) : Prop :=
  left.find path = right.find path ∨
    ∃ first second firstValue secondValue,
      left.find path = .file first ∧ right.find path = .file second ∧
      ConfigFile.parse (lower (Path.suffix path)) first = .ok firstValue ∧
      ConfigFile.parse (lower (Path.suffix path)) second = .ok secondValue ∧
      SameRoot firstValue secondValue

theorem SameFile.of_files {left right : Surroundings} (files : left.files = right.files)
    (path : String) : SameFile left right path :=
  Or.inl (Surroundings.find_eq_of_files files path)

section

variable {α β : Type}

theorem agree_loading {related : α → α → Prop} (reflexive : ∀ value, related value value)
    {left right : LoadingM α} (same : left = right) : Agree Eq related left right := by
  intro first second equal
  subst same
  subst equal
  exact ⟨.of_eq reflexive rfl, rfl⟩

theorem agree_loadingNote (severity : Severity) (logger : String) {left right : String}
    (same : left = right) :
    Agree Eq Eq (LoadingM.note severity logger left) (LoadingM.note severity logger right) :=
  agree_loading (fun _ => rfl) (by rw [same])

theorem agree_ofFile {related : α → β → Prop} {left : Except FileObstacle α}
    {right : Except FileObstacle β} (alike : Alike related left right) :
    Agree Eq related (ConfigFile.ofFile left) (ConfigFile.ofFile right) := by
  cases alike with
  | error obstacle => exact agree_throw related (.file obstacle)
  | ok values => exact agree_pure values

end

theorem SameFile.readAt {left right : Surroundings} {path : String}
    (same : SameFile left right path) :
    Agree Eq (EntryWise SameField) (ConfigFile.readAt left path)
      (ConfigFile.readAt right path) := by
  rw [ConfigFile.readAt, ConfigFile.readAt]
  rcases same with equal | ⟨first, second, firstValue, secondValue, isFirst, isSecond, parsed,
    otherParsed, roots⟩
  · rw [equal]
    exact agree_loading (EntryWise.refl SameField.refl) rfl
  · rw [isFirst, isSecond]
    simp only [parsed, otherParsed]
    refine agree_bind (agree_ofFile (.ok roots)) ?_
    intro value other values
    refine agree_then (agree_loadingNote _ _ rfl) ?_
    exact agree_ofFile values.rootEntries

/-- Two sets of surroundings differ, at a path and in a group of variables, in secrets only. -/
structure SameSurroundings (path group : Option String) (left right : Surroundings) : Prop where
  file : ∀ given, path = some given → SameFile left right given
  environment : SameEnvironment (group.getD "") left.environment right.environment

section

variable {path group : Option String} {left right : Surroundings}
  (same : SameSurroundings path group left right)

include same

theorem SameSurroundings.read :
    Agree Eq (EntryWise SameField) (ConfigFile.read left path) (ConfigFile.read right path) := by
  rw [ConfigFile.read, ConfigFile.read]
  cases chosen : path.filter fun given => !given.isEmpty with
  | none => exact agree_loading (EntryWise.refl SameField.refl) rfl
  | some given => exact (same.file given (Option.filter_eq_some_iff.mp chosen).1).readAt

theorem SameSurroundings.readSection :
    Agree Eq SameEntries (Layers.readSection left path (some "connection"))
      (Layers.readSection right path (some "connection")) := by
  rw [Layers.readSection, Layers.readSection]
  refine agree_bind same.read ?_
  intro fields others entries
  exact agree_ofFile (SameSection.sectionOf entries)

theorem SameSurroundings.readEnvironment :
    Agree Eq SameEntries (Layers.readEnvironment left group)
      (Layers.readEnvironment right group) := by
  have environments := same.environment
  rw [Layers.readEnvironment, Layers.readEnvironment]
  cases chosen : group.filter fun name => !name.isEmpty with
  | none => exact agree_loading SameEntries.refl rfl
  | some name =>
      rw [(Option.filter_eq_some_iff.mp chosen).1] at environments
      have entries : SameEntries (Layers.ofEnvironment name left.environment)
          (Layers.ofEnvironment name right.environment) := environments.ofEnvironment
      refine agree_then (agree_loadingNote _ _ ?_) (agree_pure entries)
      rw [entries.length_eq]

end

/-! ### Connections -/

/-- Two requests for a connection differ in secrets only. -/
structure SameConnectionRequest (left right : Layers.ConnectionRequest) : Prop where
  explicit : SameSection left.explicit right.explicit
  path : left.path = right.path
  part : left.part = some "connection"
  otherPart : right.part = some "connection"
  group : left.group = right.group
  overrides : ∃ first second, SameEntries first second ∧
    left.overrides = .mapping first ∧ right.overrides = .mapping second

theorem SameConnectionRequest.announcement_eq {left right : Layers.ConnectionRequest}
    (same : SameConnectionRequest left right) : left.announcement = right.announcement := by
  obtain ⟨_, samePath, isPart, isOtherPart, sameGroup, _⟩ := same
  obtain ⟨_, path, part, group, _⟩ := left
  obtain ⟨_, otherPath, otherPart, otherGroup, _⟩ := right
  have paths : path = otherPath := samePath
  have parts : part = otherPart := isPart.trans isOtherPart.symm
  have groups : group = otherGroup := sameGroup
  subst paths parts groups
  rfl

private theorem overrideEntries_mapping (entries : Entries) :
    Layers.overrideEntries (.mapping entries) = .ok (Layers.withoutNulls entries) := by
  cases entries with
  | nil => rfl
  | cons entry rest => rfl

theorem agree_loadConnection {left right : Layers.ConnectionRequest}
    {surroundings others : Surroundings} (same : SameConnectionRequest left right)
    (around : SameSurroundings left.path left.group surroundings others) :
    Agree Eq SameEntries (Layers.loadConnection surroundings left)
      (Layers.loadConnection others right) := by
  obtain ⟨overrides, otherOverrides, overriding, isMapping, isOtherMapping⟩ := same.overrides
  rw [Layers.loadConnection, Layers.loadConnection, isMapping, isOtherMapping,
    overrideEntries_mapping, overrideEntries_mapping, ← same.path, ← same.group, same.part,
    same.otherPart]
  refine agree_then (agree_loadingNote _ _ same.announcement_eq) ?_
  refine agree_bind around.readEnvironment ?_
  intro fromEnvironment otherEnvironment environments
  refine agree_bind around.readSection ?_
  intro fromFile otherFile files
  refine agree_bind (agree_ofExcept (.ok overriding.withoutNulls)) ?_
  intro upper otherUpper uppers
  refine agree_bind (agree_ofExcept (same.explicit.givenEntries.mapError Failure.overlay)) ?_
  intro explicit otherExplicit explicits
  have merged : SameEntries (Layers.merge [fromFile, fromEnvironment, explicit, upper])
      (Layers.merge [otherFile, otherEnvironment, otherExplicit, otherUpper]) :=
    SameEntries.merge (.cons files (.cons environments (.cons explicits (.cons uppers .nil))))
  refine agree_then (agree_loadingNote _ _ rfl) ?_
  refine agree_bind (agree_ofExcept (.of_eq (fun _ => rfl) merged.redact_eq)) ?_
  intro redacted otherRedacted shown
  refine agree_then (agree_loadingNote _ _ ?_) (agree_pure merged)
  rw [shown]

/-! ### Jobs -/

/-- Two requests differ in secrets only. -/
structure SameRequest (left right : JobRequest) : Prop where
  explicit : SameRoot left.explicit right.explicit
  path : left.path = right.path
  group : left.group = right.group
  driver : left.driver = right.driver
  connectionString :
    SameUnder (.text "connection_string") left.connectionString right.connectionString
  username : left.username = right.username
  password : SameUnder (.text "password") left.password right.password

private theorem sameConnectionRequest {left right : JobRequest} (same : SameRequest left right)
    {explicit others : Entries} (fields : EntryWise SameField explicit others) :
    SameConnectionRequest (left.connectionRequest explicit) (right.connectionRequest others) where
  explicit := sameConnection_of_fields fields
  path := same.path
  part := rfl
  otherPart := rfl
  group := same.group
  overrides := by
    refine ⟨left.overrides, right.overrides, ?_, rfl, rfl⟩
    rw [JobRequest.overrides, JobRequest.overrides, same.driver, same.username]
    exact .cons ⟨rfl, .same _ _⟩ (.cons ⟨rfl, same.connectionString⟩
      (.cons ⟨rfl, .same _ _⟩ (.cons ⟨rfl, same.password⟩ .nil)))

theorem agree_load {left right : JobRequest} {surroundings others : Surroundings}
    (same : SameRequest left right)
    (around : SameSurroundings left.path left.group surroundings others) :
    Agree Eq SameJob (JobSettings.load surroundings left) (JobSettings.load others right) := by
  rw [JobSettings.load, JobSettings.load, ← same.path]
  refine agree_bind (agree_ofExcept (same.explicit.optionalMapping "get")) ?_
  intro explicit otherExplicit fields
  refine agree_bind (agree_loadConnection (sameConnectionRequest same fields) around) ?_
  intro connection otherConnection connections
  refine agree_bind around.read ?_
  intro fromFile otherFile files
  have tables : JobSettings.mergeTable fromFile explicit =
      JobSettings.mergeTable otherFile otherExplicit := by
    rw [JobSettings.mergeTable, JobSettings.mergeTable, sameTable_of_fields files,
      sameTable_of_fields fields]
  refine agree_bind (agree_ofExcept (.of_eq (fun _ => rfl) tables)) ?_
  intro table otherTable equal
  subst equal
  refine agree_bind (agree_ofExcept (SameJob.ofLayers connections table)) ?_
  intro job otherJob jobs
  refine agree_bind (agree_ofExcept (.of_eq (fun _ => rfl) jobs.redact_eq)) ?_
  intro redacted otherRedacted shown
  refine agree_then (agree_loadingNote _ _ ?_) (agree_pure jobs)
  rw [shown]

/-- Either loading fails twice in the same way, or it gives two jobs that differ in secrets only. -/
theorem load_cases {left right : JobRequest} {surroundings others : Surroundings}
    (same : SameRequest left right)
    (around : SameSurroundings left.path left.group surroundings others)
    (journal : List LogRecord) :
    (∃ failure after, JobSettings.load surroundings left journal = (.error failure, after) ∧
        JobSettings.load others right journal = (.error failure, after)) ∨
      ∃ job other after, JobSettings.load surroundings left journal = (.ok job, after) ∧
        JobSettings.load others right journal = (.ok other, after) ∧ SameJob job other := by
  obtain ⟨jobs, journals⟩ := agree_load same around journal journal rfl
  revert jobs journals
  rcases JobSettings.load surroundings left journal with ⟨result, after⟩
  rcases JobSettings.load others right journal with ⟨other, otherAfter⟩
  intro jobs journals
  have journals : after = otherAfter := journals
  subst journals
  cases jobs with
  | error failure => exact Or.inl ⟨failure, after, rfl, rfl⟩
  | ok jobs => exact Or.inr ⟨_, _, after, rfl, rfl, jobs⟩

end ImportPlanning
