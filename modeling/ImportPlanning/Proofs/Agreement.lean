/-
Steps, one after another and two side by side. Two results are alike if they are the same failure
or related values. Two steps agree if from related states on they come to alike results and to
related states again; steps in a row agree if each of them does.

Which states and values are related is left open here.
-/
import ImportPlanning.Failure

namespace ImportPlanning

/-! ### Results -/

section

variable {ε α β α' β' : Type}

theorem bind_eq_ok_iff {first : Except ε α} {next : α → Except ε β} {result : β} :
    first >>= next = .ok result ↔ ∃ value, first = .ok value ∧ next value = .ok result := by
  cases first with
  | error failure =>
      constructor
      · intro found
        cases found
      · rintro ⟨value, failed, _⟩
        cases failed
  | ok value =>
      constructor
      · intro found
        exact ⟨value, rfl, found⟩
      · rintro ⟨other, isOther, found⟩
        cases isOther
        exact found

theorem bind_eq_error_iff {first : Except ε α} {next : α → Except ε β} {failure : ε} :
    first >>= next = .error failure ↔
      first = .error failure ∨ ∃ value, first = .ok value ∧ next value = .error failure := by
  cases first with
  | error found =>
      constructor
      · intro failed
        cases failed
        exact .inl rfl
      · rintro (same | ⟨value, isValue, _⟩)
        · cases same
          rfl
        · cases isValue
  | ok value =>
      constructor
      · intro failed
        exact .inr ⟨value, rfl, failed⟩
      · rintro (same | ⟨other, isOther, failed⟩)
        · cases same
        · cases isOther
          exact failed

theorem map_eq_ok_iff {result : Except ε α} {change : α → β} {value : β} :
    result.map change = .ok value ↔ ∃ found, result = .ok found ∧ change found = value := by
  cases result with
  | error failure => simp [Except.map]
  | ok found => simp [Except.map]

theorem map_eq_error_iff {result : Except ε α} {change : α → β} {failure : ε} :
    result.map change = .error failure ↔ result = .error failure := by
  cases result with
  | error found => simp [Except.map]
  | ok value => simp [Except.map]

theorem toOption_eq_some_iff {result : Except ε α} {value : α} :
    result.toOption = some value ↔ result = .ok value := by
  cases result with
  | error failure => simp [Except.toOption]
  | ok found => simp [Except.toOption]

theorem exists_of_isOk {result : Except ε α} (isOk : result.isOk = true) :
    ∃ value, result = .ok value := by
  cases result with
  | error failure => cases isOk
  | ok value => exact ⟨value, rfl⟩

theorem mapError_eq_ok_iff {ε' : Type} {result : Except ε α} {change : ε → ε'} {value : α} :
    result.mapError change = .ok value ↔ result = .ok value := by
  constructor
  · intro kept
    cases result with
    | error failure => cases kept
    | ok found =>
        cases kept
        rfl
  · rintro rfl
    rfl

theorem mapError_eq_error_iff {ε' : Type} {result : Except ε α} {change : ε → ε'} {failure : ε'} :
    result.mapError change = .error failure ↔
      ∃ found, result = .error found ∧ change found = failure := by
  constructor
  · intro failed
    cases result with
    | error found => exact ⟨found, rfl, Except.error.inj failed⟩
    | ok value => cases failed
  · rintro ⟨found, rfl, rfl⟩
    rfl

/-- The same failure, or values that are related. -/
inductive Alike (related : α → β → Prop) : Except ε α → Except ε β → Prop where
  | error (failure : ε) : Alike related (.error failure) (.error failure)
  | ok {left : α} {right : β} : related left right → Alike related (.ok left) (.ok right)

theorem Alike.of_eq {related : α → α → Prop} (reflexive : ∀ value, related value value)
    {left right : Except ε α} (same : left = right) : Alike related left right := by
  subst same
  cases left with
  | error failure => exact .error failure
  | ok value => exact .ok (reflexive value)

theorem Alike.eq {left right : Except ε α} (alike : Alike Eq left right) : left = right := by
  cases alike with
  | error failure => rfl
  | ok same => rw [same]

theorem Alike.map {related : α → β → Prop} {others : α' → β' → Prop} {left : Except ε α}
    {right : Except ε β} (alike : Alike related left right) {first : α → α'} {second : β → β'}
    (mapped : ∀ left right, related left right → others (first left) (second right)) :
    Alike others (left.map first) (right.map second) := by
  cases alike with
  | error failure => exact .error failure
  | ok values => exact .ok (mapped _ _ values)

theorem Alike.mapError {ε' : Type} {related : α → β → Prop} {left : Except ε α}
    {right : Except ε β} (alike : Alike related left right) (change : ε → ε') :
    Alike related (left.mapError change) (right.mapError change) := by
  cases alike with
  | error failure => exact .error (change failure)
  | ok values => exact .ok values

theorem Alike.bind {related : α → β → Prop} {others : α' → β' → Prop} {left : Except ε α}
    {right : Except ε β} (alike : Alike related left right) {first : α → Except ε α'}
    {second : β → Except ε β'}
    (goesOn : ∀ left right, related left right → Alike others (first left) (second right)) :
    Alike others (left >>= first) (right >>= second) := by
  cases alike with
  | error failure => exact .error failure
  | ok values => exact goesOn _ _ values

end

/-! ### Steps -/

section

variable {σ α β : Type}

theorem run_bind (step : ExceptT Failure (StateM σ) α) (next : α → ExceptT Failure (StateM σ) β)
    (state : σ) :
    (step >>= next) state =
      match step state with
      | (.ok value, after) => next value after
      | (.error failure, after) => (.error failure, after) := by
  have continued : (step >>= next) state =
      ExceptT.bindCont next (step state).1 (step state).2 := rfl
  rw [continued]
  cases step state with
  | mk result after =>
      cases result with
      | ok value => rfl
      | error failure => rfl

/-- Steps in a row succeed if the first does and then the others do. -/
theorem run_bind_eq_ok_iff {step : ExceptT Failure (StateM σ) α}
    {next : α → ExceptT Failure (StateM σ) β} {state last : σ} {result : β} :
    (step >>= next) state = (.ok result, last) ↔
      ∃ value between, step state = (.ok value, between) ∧
        next value between = (.ok result, last) := by
  rw [run_bind]
  rcases step state with ⟨outcome, after⟩
  cases outcome with
  | error failure =>
      constructor
      · intro impossible
        cases impossible
      · rintro ⟨value, between, impossible, _⟩
        cases impossible
  | ok value =>
      constructor
      · intro ended
        exact ⟨value, after, rfl, ended⟩
      · rintro ⟨other, between, same, ended⟩
        cases same
        exact ended

end

/-! ### Two steps -/

section

variable {σ α β α' β' : Type} {states : σ → σ → Prop}

/-- From related states on, the two steps come to alike results and to related states. -/
def Agree (states : σ → σ → Prop) (related : α → β → Prop) (left : ExceptT Failure (StateM σ) α)
    (right : ExceptT Failure (StateM σ) β) : Prop :=
  ∀ first second, states first second →
    Alike related (left first).1 (right second).1 ∧ states (left first).2 (right second).2

theorem agree_pure {related : α → β → Prop} {left : α} {right : β} (values : related left right) :
    Agree states related (pure left) (pure right) :=
  fun _ _ start => ⟨.ok values, start⟩

theorem agree_throw (related : α → β → Prop) (failure : Failure) :
    Agree states related (throw failure) (throw failure) :=
  fun _ _ start => ⟨.error failure, start⟩

theorem agree_modify {first second : σ → σ}
    (kept : ∀ left right, states left right → states (first left) (second right)) :
    Agree states Eq (modify first : ExceptT Failure (StateM σ) Unit) (modify second) :=
  fun _ _ start => ⟨.ok rfl, kept _ _ start⟩

theorem agree_ofExcept {related : α → β → Prop} {left : Except Failure α}
    {right : Except Failure β} (alike : Alike related left right) :
    Agree states related (ofExcept left) (ofExcept right) := by
  cases alike with
  | error failure => exact agree_throw related failure
  | ok values => exact agree_pure values

theorem agree_bind {related : α → β → Prop} {others : α' → β' → Prop}
    {left : ExceptT Failure (StateM σ) α} {right : ExceptT Failure (StateM σ) β}
    {first : α → ExceptT Failure (StateM σ) α'} {second : β → ExceptT Failure (StateM σ) β'}
    (begins : Agree states related left right)
    (goesOn : ∀ left right, related left right → Agree states others (first left) (second right)) :
    Agree states others (left >>= first) (right >>= second) := by
  intro start other related
  rw [run_bind, run_bind]
  obtain ⟨alike, after⟩ := begins start other related
  revert alike after
  rcases left start with ⟨leftResult, leftAfter⟩
  rcases right other with ⟨rightResult, rightAfter⟩
  intro alike after
  cases alike with
  | error failure => exact ⟨.error failure, after⟩
  | ok values => exact goesOn _ _ values _ _ after

theorem agree_then {related : α → β → Prop} {left right : ExceptT Failure (StateM σ) Unit}
    {first : ExceptT Failure (StateM σ) α} {second : ExceptT Failure (StateM σ) β}
    (begins : Agree states Eq left right) (goesOn : Agree states related first second) :
    Agree states related (left >>= fun _ => first) (right >>= fun _ => second) :=
  agree_bind begins fun _ _ _ => goesOn

end

end ImportPlanning
