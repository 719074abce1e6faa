/-
Addresses on the command line. How a line is read does not depend on the password of an address that
follows its option: if the line names a job, then so does the line with another password, and the two
invocations differ in nothing else.

Addresses that stand elsewhere on the line, where they mean nothing or something else, are left out.
-/
import ImportPlanning.CommandLine.Arguments
import ImportPlanning.Proofs.Secrecy.Settings

namespace ImportPlanning.CommandLine

/-- Two lines differ at most in the passwords of addresses that follow their option. -/
inductive SameArguments : (left right : List String) → Prop where
  | nil : SameArguments [] []
  | cons (word : String) {left right : List String} :
      SameArguments left right → SameArguments (word :: left) (word :: right)
  | address {first second : String} {left right : List String} :
      Url.SameButPassword first second → SameArguments left right →
      SameArguments ("--connection-string" :: first :: left)
        ("--connection-string" :: second :: right)

/-- Two lines of classified words differ at most in the passwords of addresses. -/
inductive SameWords : (left right : List Word) → Prop where
  | nil : SameWords [] []
  | cons (word : Word) {left right : List Word} :
      SameWords left right → SameWords (word :: left) (word :: right)
  | address {kind : WordKind} {first second : String} {left right : List Word} :
      kind = .unknownOption ∨ (∃ name, kind = .option ⟨.connectionString, name, .nothing⟩) →
      Url.SameButPassword first second → SameWords left right →
      SameWords (("--connection-string", kind) :: (first, .operand) :: left)
        (("--connection-string", kind) :: (second, .operand) :: right)
  | separated {left right : List Word} :
      SameArguments (left.map Prod.fst) (right.map Prod.fst) →
      SameWords ((separatorWord, .separator) :: left) ((separatorWord, .separator) :: right)

theorem SameWords.arguments {left right : List Word} (same : SameWords left right) :
    SameArguments (left.map Prod.fst) (right.map Prod.fst) := by
  induction same with
  | nil => exact .nil
  | cons word _ ih => exact .cons word.1 ih
  | address _ passwords _ ih => exact .address passwords ih
  | separated later => exact .cons separatorWord later

/-! ### Classification -/

private theorem classifyAll_address {word : String} {character : Char} {rest : List Char}
    (begins : word.toList = character :: rest) (noHyphen : character ≠ '-') {scope : Scope}
    {kind : WordKind} (classified : classify scope "--connection-string" = .ok kind)
    (words : List String) :
    classifyAll scope ("--connection-string" :: word :: words) =
      (classifyAll scope words).map (("--connection-string", kind) :: (word, .operand) :: ·) := by
  have noSeparator : word ≠ separatorWord := by
    rintro rfl
    exact noHyphen (List.cons.inj begins).1.symm
  have isOperand : classify scope word = .ok .operand := by
    rw [classify, begins]
    split
    · rename_i same
      exact absurd (List.cons.inj same).1 noHyphen
    · rfl
  rw [classifyAll, if_neg (by decide), classified, classifyAll, if_neg noSeparator, isOperand]
  cases classifyAll scope words with
  | error problem => rfl
  | ok kinds => rfl

/-- The option of an address names nothing in the program's own scope. -/
private theorem classify_option (scope : Scope) :
    ∃ kind, classify scope "--connection-string" = .ok kind ∧
      (kind = .unknownOption ∨
        ∃ name, kind = .option ⟨.connectionString, name, .nothing⟩) := by
  cases scope with
  | program => exact ⟨.unknownOption, by rfl, Or.inl rfl⟩
  | command command => exact ⟨_, by rfl, Or.inr ⟨_, rfl⟩⟩

theorem alike_classifyAll {left right : List String} (same : SameArguments left right)
    (scope : Scope) : Alike SameWords (classifyAll scope left) (classifyAll scope right) := by
  induction same with
  | nil => exact .ok .nil
  | cons word later ih =>
      rw [classifyAll, classifyAll]
      by_cases separates : word = separatorWord
      · rw [if_pos separates, if_pos separates, separates]
        refine .ok (.separated ?_)
        simpa [Function.comp_def] using later
      · rw [if_neg separates, if_neg separates]
        have kinds : Alike Eq (classify scope word) (classify scope word) :=
          .of_eq (fun _ => rfl) rfl
        refine kinds.bind ?_
        intro kind other equal
        subst equal
        exact ih.bind fun _ _ words => .ok (.cons (word, kind) words)
  | address passwords later ih =>
      obtain ⟨url, one, two, firstRead, secondRead⟩ := passwords.read
      obtain ⟨character, rest, begins, noHyphen⟩ := Url.head_of_read firstRead
      obtain ⟨other, others, otherBegins, otherNoHyphen⟩ := Url.head_of_read secondRead
      obtain ⟨kind, classified, isKind⟩ := classify_option scope
      rw [classifyAll_address begins noHyphen classified,
        classifyAll_address otherBegins otherNoHyphen classified]
      exact ih.map fun _ _ words => .address isKind passwords words

/-! ### Gathering -/

/-- A value is the same, or it is an address and differs at most in the password. -/
def SameValue (left right : CommandOption × String) : Prop :=
  left.1 = right.1 ∧
    (left.2 = right.2 ∨ left.1 = .connectionString ∧ Url.SameButPassword left.2 right.2)

/-- What was gathered differs at most in the passwords of addresses. -/
structure SameGathered (left right : Gathered) : Prop where
  values : List.Forall₂ SameValue left.values right.values
  extras : left.extras = right.extras

theorem SameGathered.assign {left right : Gathered} (same : SameGathered left right)
    (option : CommandOption) (value : String) :
    SameGathered (left.assign option value) (right.assign option value) :=
  ⟨.cons ⟨rfl, Or.inl rfl⟩ same.values, same.extras⟩

theorem SameGathered.leave {left right : Gathered} (same : SameGathered left right)
    (word : String) : SameGathered (left.leave word) (right.leave word) :=
  ⟨same.values, congrArg (· ++ [word]) same.extras⟩

section

variable {scope : Scope} {gathered : Gathered} {word : String} {rest : List Word}

theorem gather_attached {found : FoundOption} (takesValue : found.option.takesValue = true)
    {text : String} (attached : found.attached.text? = some text) :
    gather scope gathered ((word, .option found) :: rest) =
      gather scope (gathered.assign found.option text) rest := by
  rw [gather.eq_def]
  simp only [takesValue, attached, if_true]

private theorem gather_next {found : FoundOption} (takesValue : found.option.takesValue = true)
    (attached : found.attached.text? = none) (value : String) :
    gather scope gathered ((word, .option found) :: (value, .operand) :: rest) =
      gather scope (gathered.assign found.option value) rest := by
  rw [gather.eq_def]
  simp only [takesValue, attached, if_true]

private theorem gather_other {kind : WordKind}
    (noOption : ∀ found, kind = .option found → False) :
    gather scope gathered ((word, kind) :: rest) =
      if endsOptions scope kind rest then .ok (gathered, (word, kind) :: rest)
      else gather scope (gathered.leave word) rest := by
  rw [gather.eq_def]
  cases kind with
  | option found => exact (noOption found rfl).elim
  | operand => rfl
  | separator => rfl
  | unknownOption => rfl

end

/-- Words that were left over stay so. -/
theorem extras_of_gather {scope : Scope} {gathered final : Gathered} {words rest : List Word}
    (found : gather scope gathered words = .ok (final, rest)) :
    gathered.extras <+: final.extras := by
  fun_induction gather scope gathered words with
  | case1 gathered =>
      cases found
      exact List.prefix_refl _
  | case2 gathered word others option takesValue text attached ih => exact ih found
  | case3 gathered word option takesValue attached value others ih => exact ih found
  | case4 => cases found
  | case5 => cases found
  | case6 gathered word kind others ends noOption =>
      rw [if_pos ends] at found
      cases found
      exact List.prefix_refl _
  | case7 gathered word kind others goesOn noOption ih =>
      rw [if_neg goesOn] at found
      exact (List.prefix_append _ _).trans (ih found)

/-- A word was left over, so something is. -/
private theorem not_nothingLeft {scope : Scope} {gathered final : Gathered} {word : String}
    {words rest : List Word}
    (found : gather scope (gathered.leave word) words = .ok (final, rest)) : final.extras ≠ [] := by
  intro nothingLeft
  have kept := extras_of_gather found
  rw [nothingLeft, List.prefix_nil] at kept
  exact List.append_ne_nil_of_right_ne_nil _ (List.cons_ne_nil word []) kept

private theorem SameArguments.isEmpty_eq {left right : List String}
    (same : SameArguments left right) : left.isEmpty = right.isEmpty := by
  cases same with
  | nil => rfl
  | cons _ _ => rfl
  | address _ _ => rfl

private theorem endsOptions_eq {left right : List Word}
    (same : SameArguments (left.map Prod.fst) (right.map Prod.fst)) (scope : Scope)
    (kind : WordKind) : endsOptions scope kind left = endsOptions scope kind right := by
  have noneLeft : left.isEmpty = right.isEmpty := by
    have words := same.isEmpty_eq
    rwa [List.isEmpty_map, List.isEmpty_map] at words
  rw [endsOptions.eq_def, endsOptions.eq_def, noneLeft]

/-- If nothing is left over, the same is gathered, but for the passwords of addresses. -/
theorem gather_same {scope : Scope} {gathered final : Gathered} {words rest : List Word}
    (found : gather scope gathered words = .ok (final, rest)) (nothingLeft : final.extras = [])
    {other : Gathered} {others : List Word} (same : SameGathered gathered other)
    (lines : SameWords words others) :
    ∃ otherFinal otherRest, gather scope other others = .ok (otherFinal, otherRest) ∧
      SameGathered final otherFinal ∧ SameWords rest otherRest := by
  fun_induction gather scope gathered words generalizing other others with
  | case1 gathered =>
      cases found
      cases lines
      exact ⟨other, [], rfl, same, .nil⟩
  | case2 gathered word later option takesValue text attached ih =>
      cases lines with
      | cons _ lines =>
          rw [gather_attached takesValue attached]
          exact ih found (same.assign _ _) lines
      | address isKind passwords lines =>
          rcases isKind with impossible | ⟨name, isOption⟩
          · cases impossible
          · cases isOption
            cases attached
  | case3 gathered word option takesValue attached value later ih =>
      cases lines with
      | cons _ lines =>
          cases lines with
          | cons _ lines =>
              rw [gather_next takesValue attached]
              exact ih found (same.assign _ _) lines
          | address isKind _ _ =>
              rcases isKind with impossible | ⟨name, impossible⟩
              · cases impossible
              · cases impossible
      | address isKind passwords lines =>
          rcases isKind with impossible | ⟨name, isOption⟩
          · cases impossible
          · cases isOption
            rw [gather_next takesValue attached]
            exact ih found ⟨.cons ⟨rfl, Or.inr ⟨rfl, passwords⟩⟩ same.values, same.extras⟩ lines
  | case4 => cases found
  | case5 => cases found
  | case6 gathered word kind later ends noOption =>
      rw [if_pos ends] at found
      cases found
      cases lines with
      | cons _ lines =>
          rw [gather_other noOption, ← endsOptions_eq lines.arguments, if_pos ends]
          exact ⟨other, _, rfl, same, .cons (word, kind) lines⟩
      | separated lines =>
          rw [gather_other noOption, ← endsOptions_eq lines, if_pos ends]
          exact ⟨other, _, rfl, same, .separated lines⟩
      | address isKind _ _ =>
          rcases isKind with rfl | ⟨name, isOption⟩
          · cases scope with
            | program => cases ends
            | command _ => cases ends
          · exact (noOption _ isOption).elim
  | case7 gathered word kind later goesOn noOption ih =>
      rw [if_neg goesOn] at found
      exact absurd nothingLeft (not_nothingLeft found)

/-! ### Invocations -/

/-- Two invocations differ in secrets only. -/
structure SameInvocation (left right : JobInvocation) : Prop where
  command : left.command = right.command
  config : left.config = right.config
  driver : left.driver = right.driver
  connectionString : SameAddress left.connectionString right.connectionString

private theorem lookup_same {left right : List (CommandOption × String)}
    (same : List.Forall₂ SameValue left right) (option : CommandOption) :
    left.lookup option = right.lookup option ∨
      option = .connectionString ∧ SameAddress (left.lookup option) (right.lookup option) := by
  induction same with
  | nil => exact Or.inl rfl
  | @cons entry other rest others here _ ih =>
      obtain ⟨options, values⟩ := here
      rw [List.lookup_cons, List.lookup_cons, ← options]
      cases found : option == entry.1 with
      | false => exact ih
      | true =>
          rcases values with equal | ⟨isAddress, passwords⟩
          · exact Or.inl (congrArg some equal)
          · exact Or.inr ⟨(beq_iff_eq.mp found).trans isAddress,
              Or.inr ⟨_, _, rfl, rfl, passwords⟩⟩

theorem SameGathered.value_eq {left right : Gathered} (same : SameGathered left right)
    {option : CommandOption} (noAddress : option ≠ .connectionString) :
    left.value? option = right.value? option := by
  rcases lookup_same same.values option with equal | ⟨isAddress, _⟩
  · exact equal
  · exact absurd isAddress noAddress

theorem SameGathered.address {left right : Gathered} (same : SameGathered left right) :
    SameAddress (left.value? .connectionString) (right.value? .connectionString) := by
  rcases lookup_same same.values .connectionString with equal | ⟨_, addresses⟩
  · exact Or.inl equal
  · exact addresses

theorem readScope_same {scope : Scope} {left right : List String} (same : SameArguments left right)
    {gathered : Gathered} {rest : List Word} (found : readScope scope left = .ok (gathered, rest))
    (nothingLeft : gathered.extras = []) :
    ∃ other otherRest, readScope scope right = .ok (other, otherRest) ∧
      SameGathered gathered other ∧ SameWords rest otherRest := by
  rw [readScope] at found ⊢
  have kinds := alike_classifyAll same scope
  revert kinds found
  generalize classifyAll scope left = words
  generalize classifyAll scope right = others
  intro found kinds
  cases kinds with
  | error problem => cases found
  | ok lines => exact gather_same found nothingLeft ⟨.nil, rfl⟩ lines

theorem jobOf_eq_ok_iff {command : Command} {gathered : Gathered} {job : JobInvocation}
    {extras : List String} :
    jobOf command gathered = .ok (job, extras) ↔
      ∃ config, gathered.value? .config = some config ∧ gathered.extras = extras ∧
        job = ⟨command, config, gathered.value? .driver, gathered.value? .connectionString⟩ := by
  rw [jobOf]
  cases gathered.value? .config with
  | none =>
      constructor
      · intro found
        cases found
      · rintro ⟨config, missing, _⟩
        cases missing
  | some config =>
      constructor
      · intro found
        cases found
        exact ⟨config, rfl, rfl, rfl⟩
      · rintro ⟨other, isOther, isExtras, isJob⟩
        cases isOther
        rw [isExtras, isJob]

theorem readJob_eq_ok_iff {word : String} {arguments : List String}
    {result : JobInvocation × List String} :
    readJob word arguments = .ok result ↔
      ∃ command gathered rest, Command.ofName? word = some command ∧
        readScope (.command command) arguments = .ok (gathered, rest) ∧
        jobOf command gathered = .ok result := by
  rw [readJob]
  cases Command.ofName? word with
  | none =>
      constructor
      · intro found
        cases found
      · rintro ⟨command, gathered, rest, missing, _⟩
        cases missing
  | some command =>
      constructor
      · intro found
        obtain ⟨⟨gathered, rest⟩, gathering, isJob⟩ := bind_eq_ok_iff.mp found
        exact ⟨command, gathered, rest, rfl, gathering, isJob⟩
      · rintro ⟨other, gathered, rest, isOther, gathering, isJob⟩
        cases isOther
        exact bind_eq_ok_iff.mpr ⟨(gathered, rest), gathering, isJob⟩

theorem readOptionalJob_eq_ok_iff {words : List Word} {job : JobInvocation}
    {extras : List String} :
    readOptionalJob words = .ok (some job, extras) ↔
      ∃ word rest, words = word :: rest ∧
        readJob word.1 (rest.map Prod.fst) = .ok (job, extras) := by
  cases words with
  | nil =>
      constructor
      · intro found
        cases found
      · rintro ⟨word, rest, impossible, _⟩
        cases impossible
  | cons word rest =>
      constructor
      · intro found
        obtain ⟨⟨other, others⟩, isJob, isResult⟩ := bind_eq_ok_iff.mp found
        cases isResult
        exact ⟨word, rest, rfl, isJob⟩
      · rintro ⟨first, later, isWords, isJob⟩
        cases isWords
        exact bind_eq_ok_iff.mpr ⟨(job, extras), isJob, rfl⟩

theorem read_eq_ok_iff {arguments : List String} {level : Option String} {job : JobInvocation} :
    read arguments = .ok ⟨level, some job⟩ ↔
      ∃ gathered word rest, readScope .program arguments = .ok (gathered, word :: rest) ∧
        readJob word.1 (rest.map Prod.fst) = .ok (job, []) ∧ gathered.extras = [] ∧
        gathered.value? .logLevel = level := by
  constructor
  · intro found
    obtain ⟨⟨gathered, words⟩, gathering, later⟩ := bind_eq_ok_iff.mp found
    obtain ⟨⟨optional, extras⟩, naming, ends⟩ := bind_eq_ok_iff.mp later
    dsimp only at ends
    cases leftOver : gathered.extras ++ extras with
    | cons word rest =>
        rw [leftOver] at ends
        cases ends
    | nil =>
        rw [leftOver] at ends
        cases ends
        obtain ⟨nothingLeft, rfl⟩ := List.append_eq_nil_iff.mp leftOver
        obtain ⟨word, rest, rfl, isJob⟩ := readOptionalJob_eq_ok_iff.mp naming
        exact ⟨gathered, word, rest, gathering, isJob, nothingLeft, rfl⟩
  · rintro ⟨gathered, word, rest, gathering, isJob, nothingLeft, rfl⟩
    have naming : readOptionalJob (word :: rest) = .ok (some job, []) :=
      readOptionalJob_eq_ok_iff.mpr ⟨word, rest, rfl, isJob⟩
    refine bind_eq_ok_iff.mpr ⟨_, gathering, bind_eq_ok_iff.mpr ⟨_, naming, ?_⟩⟩
    rw [nothingLeft]
    rfl

/-- The same job is asked for once more when only the password of its address is another. -/
theorem readJob_same {word : String} {left right : List String} (same : SameArguments left right)
    {job : JobInvocation} (found : readJob word left = .ok (job, [])) :
    ∃ other, readJob word right = .ok (other, []) ∧ SameInvocation job other := by
  obtain ⟨command, gathered, rest, named, gathering, isJob⟩ := readJob_eq_ok_iff.mp found
  obtain ⟨config, given, nothingLeft, rfl⟩ := jobOf_eq_ok_iff.mp isJob
  obtain ⟨other, otherRest, otherGathering, values, _⟩ := readScope_same same gathering nothingLeft
  have otherGiven : other.value? .config = some config := by
    rw [← values.value_eq (by decide), given]
  have otherLeft : other.extras = [] := by rw [← values.extras, nothingLeft]
  refine ⟨⟨command, config, other.value? .driver, other.value? .connectionString⟩, ?_, ?_⟩
  · rw [readJob_eq_ok_iff]
    exact ⟨command, other, otherRest, named, otherGathering,
      jobOf_eq_ok_iff.mpr ⟨config, otherGiven, otherLeft, rfl⟩⟩
  · exact ⟨rfl, rfl, values.value_eq (by decide), values.address⟩

/-- No command has the name of an option or of the separator. -/
private theorem readJob_hyphen {word : String} {arguments : List String}
    {result : JobInvocation × List String} (found : readJob word arguments = .ok result) :
    word ≠ "--connection-string" ∧ word ≠ separatorWord := by
  obtain ⟨command, _, _, named, _, _⟩ := readJob_eq_ok_iff.mp found
  constructor
  · rintro rfl
    cases named
  · rintro rfl
    cases named

/-- A line that names a job still does so with other passwords, and asks for the same otherwise. -/
theorem read_same {left right : List String} (same : SameArguments left right)
    {level : Option String} {job : JobInvocation} (found : read left = .ok ⟨level, some job⟩) :
    ∃ other, read right = .ok ⟨level, some other⟩ ∧ SameInvocation job other := by
  obtain ⟨gathered, word, rest, gathering, isJob, nothingLeft, isLevel⟩ := read_eq_ok_iff.mp found
  obtain ⟨other, words, otherGathering, values, lines⟩ := readScope_same same gathering nothingLeft
  cases lines with
  | @cons _ _ others later =>
      obtain ⟨otherJob, isOther, jobs⟩ := readJob_same later.arguments isJob
      refine ⟨otherJob, read_eq_ok_iff.mpr ⟨other, word, others, otherGathering, isOther, ?_, ?_⟩,
        jobs⟩
      · rw [← values.extras, nothingLeft]
      · rw [← values.value_eq (by decide), isLevel]
  | address _ _ _ => exact absurd rfl (readJob_hyphen isJob).1
  | separated _ => exact absurd rfl (readJob_hyphen isJob).2

end ImportPlanning.CommandLine
