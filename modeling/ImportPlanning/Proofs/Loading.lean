/-
What loading settings comes to. The journal is only written, never read, so each step of loading
comes to one result whatever was reported before; the result of steps in a row is that of their
results.

What the files say is left open.
-/
import ImportPlanning.Proofs.Agreement
import ImportPlanning.Settings.Loading

namespace ImportPlanning

open LoadingM

/-! ### Results -/

section

variable {α β : Type}

/-- The step comes to a result, whatever the journal says. -/
def Yields (step : LoadingM α) (result : Except Failure α) : Prop :=
  ∀ journal, (step journal).1 = result

theorem yields_pure (value : α) : Yields (pure value) (.ok value) :=
  fun _ => rfl

theorem yields_throw (failure : Failure) : Yields (throw failure : LoadingM α) (.error failure) :=
  fun _ => rfl

theorem yields_note (severity : Severity) (logger message : String) :
    Yields (note severity logger message) (.ok ()) :=
  fun _ => rfl

theorem yields_ofExcept (result : Except Failure α) : Yields (ofExcept result) result := by
  cases result with
  | ok value => exact yields_pure value
  | error failure => exact yields_throw failure

theorem yields_ofFile (result : Except FileObstacle α) :
    Yields (ConfigFile.ofFile result) (result.mapError .file) := by
  cases result with
  | ok value => exact yields_pure value
  | error obstacle => exact yields_throw (.file obstacle)

theorem yields_bind {step : LoadingM α} {result : Except Failure α} {next : α → LoadingM β}
    {later : α → Except Failure β} (begins : Yields step result)
    (goesOn : ∀ value, Yields (next value) (later value)) :
    Yields (step >>= next) (result >>= later) := by
  intro journal
  rw [run_bind, ← begins journal]
  generalize step journal = outcome
  obtain ⟨failure | value, after⟩ := outcome
  · rfl
  · exact goesOn value after

theorem yields_after {step : LoadingM α} {value : α} {next : α → LoadingM β}
    {result : Except Failure β} (begins : Yields step (.ok value))
    (goesOn : Yields (next value) result) : Yields (step >>= next) result := by
  intro journal
  have begun := begins journal
  rw [run_bind]
  generalize step journal = outcome at begun ⊢
  obtain ⟨reached, after⟩ := outcome
  subst begun
  exact goesOn after

theorem yields_after_note {severity : Severity} {logger message : String} {step : LoadingM α}
    {result : Except Failure α} (goesOn : Yields step result) :
    Yields (note severity logger message >>= fun _ => step) result :=
  yields_after (yields_note severity logger message) goesOn

theorem Yields.ofEmpty {step : LoadingM α} {result : Except Failure α}
    (yields : Yields step result) : Yields step (step []).1 := by
  rw [yields []]
  exact yields

end

/-! ### Files -/

theorem Surroundings.find_eq_of_files {left right : Surroundings} (files : left.files = right.files)
    (path : String) : left.find path = right.find path := by
  have entries : ∀ place, left.entryAt place = right.entryAt place := by
    intro place
    rw [entryAt, entryAt, localFiles, localFiles, files]
  have walks : ∀ segments place, left.walk place segments = right.walk place segments := by
    intro segments
    induction segments with
    | nil => exact fun place => entries place
    | cons segment rest ih => intro place; rw [walk, walk, entries, ih, ih]
  rw [find, find, absoluteEntryAt, absoluteEntryAt, files, walks]

namespace ConfigFile

/-- The entries of a file, or why there are none. -/
def entriesAt (surroundings : Surroundings) (path : Option String) : Except Failure Entries :=
  (read surroundings path []).1

private theorem yields_readAt (surroundings : Surroundings) (path : String) :
    ∃ result, Yields (readAt surroundings path) result := by
  rw [readAt]
  cases surroundings.find path with
  | nothing =>
      exact ⟨_, yields_after_note (yields_throw _)⟩
  | directory =>
      exact ⟨_, yields_throw _⟩
  | file bytes =>
      exact ⟨_, yields_bind (yields_ofFile _) fun value =>
        yields_after_note (yields_ofFile (rootEntries value))⟩

theorem yields_read (surroundings : Surroundings) (path : Option String) :
    Yields (read surroundings path) (entriesAt surroundings path) := by
  obtain ⟨result, yields⟩ : ∃ result, Yields (read surroundings path) result := by
    rw [read]
    split
    · exact yields_readAt surroundings _
    · exact ⟨_, yields_after_note (yields_pure _)⟩
  exact yields.ofEmpty

theorem entriesAt_eq_of_files {left right : Surroundings} (files : left.files = right.files)
    (path : Option String) : entriesAt left path = entriesAt right path := by
  have same : read left path = read right path := by
    rw [read, read]
    split
    · rw [readAt, readAt, Surroundings.find_eq_of_files files]
    · rfl
  rw [entriesAt, entriesAt, same]

end ConfigFile
end ImportPlanning
