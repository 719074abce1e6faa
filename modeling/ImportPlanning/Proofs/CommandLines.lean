/-
Command lines for invocations. For every log level and job there is a line that is read as them: each
option is one word, with its value behind a sign, so that no value is taken for an option.

Other lines that are read as the same invocation are left out.
-/
import ImportPlanning.Proofs.Secrecy.Arguments
import ImportPlanning.Proofs.Text.Fields

namespace ImportPlanning.CommandLine

open ImportPlanning.Text

/-! ### Words -/

/-- The long name of an option. -/
def CommandOption.longName (option : CommandOption) : String :=
  option.names.getLastD ""

/-- The word for an option with its value. -/
def settingWord (setting : CommandOption × String) : String :=
  setting.1.longName ++ "=" ++ setting.2

/-- The options that are given for a job. -/
def JobInvocation.settings (job : JobInvocation) : List (CommandOption × String) :=
  (.config, job.config) :: ((job.driver.map (CommandOption.driver, ·)).toList ++
    (job.connectionString.map (CommandOption.connectionString, ·)).toList)

/-- The option for the log level, if it is given. -/
def levelSettings (level : Option String) : List (CommandOption × String) :=
  (level.map (CommandOption.logLevel, ·)).toList

/-- A command line for an invocation. -/
def lineOf (level : Option String) (job : JobInvocation) : List String :=
  (levelSettings level).map settingWord ++ job.command.name :: job.settings.map settingWord

theorem toList_settingWord (setting : CommandOption × String) :
    (settingWord setting).toList = setting.1.longName.toList ++ '=' :: setting.2.toList := by
  rw [settingWord, String.toList_append, String.toList_append, List.append_assoc]
  rfl

theorem sign_mem_settingWord (setting : CommandOption × String) :
    '=' ∈ (settingWord setting).toList := by
  rw [toList_settingWord]
  exact List.mem_append_right _ List.mem_cons_self

theorem settingWord_ne_separator (setting : CommandOption × String) :
    settingWord setting ≠ separatorWord := by
  intro same
  have sign := sign_mem_settingWord setting
  rw [same] at sign
  exact absurd sign (by decide)

theorem sign_not_mem_longName (option : CommandOption) : '=' ∉ option.longName.toList := by
  cases option <;> decide

/-! ### Kinds of words -/

theorem optionNamed?_of_sign (scope : Scope) {word : String} (sign : '=' ∈ word.toList) :
    optionNamed? scope word = none := by
  have noSign : ∀ entry ∈ scope.optionNames, '=' ∉ entry.1.toList := by
    cases scope with
    | program => decide
    | command command => cases command <;> decide
  rw [optionNamed?, List.lookup_eq_none_iff]
  intro entry member
  rw [bne_iff_ne]
  rintro rfl
  exact noSign entry member sign

theorem cutAttached_settingWord (setting : CommandOption × String) :
    cutAttached (settingWord setting) = (setting.1.longName, .afterSign setting.2) := by
  rw [cutAttached, toList_settingWord, cutAt?_append (sign_not_mem_longName setting.1)]
  dsimp only
  rw [String.ofList_toList, String.ofList_toList]

theorem exactOption?_settingWord (scope : Scope) (setting : CommandOption × String) :
    exactOption? scope (settingWord setting) =
      (optionNamed? scope setting.1.longName).map fun option =>
        ⟨option, setting.1.longName, .afterSign setting.2⟩ := by
  rw [exactOption?, optionNamed?_of_sign scope (sign_mem_settingWord setting),
    cutAttached_settingWord]

theorem exists_longName (option : CommandOption) :
    ∃ rest, option.longName.toList = '-' :: '-' :: rest := by
  cases option <;> exact ⟨_, rfl⟩

theorem classify_settingWord (scope : Scope) (setting : CommandOption × String) :
    classify scope (settingWord setting) = classifyHyphenated scope (settingWord setting) := by
  obtain ⟨rest, isLong⟩ := exists_longName setting.1
  rw [classify, toList_settingWord, isLong]
  rfl

/-- A word for an option of the scope is read as that option with its value. -/
def kindOf (setting : CommandOption × String) : WordKind :=
  .option ⟨setting.1, setting.1.longName, .afterSign setting.2⟩

theorem classify_of_mem {scope : Scope} {setting : CommandOption × String}
    (known : setting.1 ∈ scope.options) :
    classify scope (settingWord setting) = .ok (kindOf setting) := by
  have all : ∀ option ∈ scope.options, optionNamed? scope option.longName = some option := by
    cases scope with
    | program => decide
    | command command => cases command <;> decide
  rw [classify_settingWord, classifyHyphenated, exactOption?_settingWord, all setting.1 known]
  rfl

/-- The options of a job. -/
def jobOptions : List CommandOption :=
  [.config, .driver, .connectionString]

/-- The program itself gives some kind to every word for an option of a job. -/
theorem classify_program {setting : CommandOption × String} (isJob : setting.1 ∈ jobOptions) :
    ∃ kind, classify .program (settingWord setting) = .ok kind := by
  have noName : ∀ option ∈ jobOptions, optionNamed? .program option.longName = none := by decide
  have noStart : ∀ option ∈ jobOptions, (Scope.program.optionNames.filter fun entry =>
      option.longName.toList.isPrefixOf entry.1.toList) = [] := by decide
  have noCandidate : candidates .program (settingWord setting) = [] := by
    obtain ⟨rest, isLong⟩ := exists_longName setting.1
    rw [candidates, toList_settingWord, isLong]
    show optionsFrom .program (cutAttached _).1 (cutAttached _).2 = []
    rw [cutAttached_settingWord, optionsFrom, noStart setting.1 isJob]
    rfl
  rw [classify_settingWord, classifyHyphenated, exactOption?_settingWord, noName setting.1 isJob,
    noCandidate]
  exact ⟨_, rfl⟩

/-! ### Lines -/

/-- The words for options, with their kinds. -/
def wordsOf (settings : List (CommandOption × String)) : List Word :=
  settings.map fun setting => (settingWord setting, kindOf setting)

theorem classifyAll_settings {scope : Scope} {settings : List (CommandOption × String)}
    (known : ∀ setting ∈ settings, setting.1 ∈ scope.options) {words : List String}
    {kinds : List Word} (classified : classifyAll scope words = .ok kinds) :
    classifyAll scope (settings.map settingWord ++ words) =
      .ok (wordsOf settings ++ kinds) := by
  induction settings with
  | nil => exact classified
  | cons setting rest ih =>
      rw [List.forall_mem_cons] at known
      rw [List.map_cons, List.cons_append, classifyAll, if_neg (settingWord_ne_separator setting),
        classify_of_mem known.1, ih known.2]
      rfl

theorem exists_classifyAll_program {settings : List (CommandOption × String)}
    (areJob : ∀ setting ∈ settings, setting.1 ∈ jobOptions) :
    ∃ kinds, classifyAll .program (settings.map settingWord) = .ok kinds ∧
      kinds.map Prod.fst = settings.map settingWord := by
  induction settings with
  | nil => exact ⟨[], rfl, rfl⟩
  | cons setting rest ih =>
      rw [List.forall_mem_cons] at areJob
      obtain ⟨kind, isKind⟩ := classify_program areJob.1
      obtain ⟨kinds, classified, words⟩ := ih areJob.2
      refine ⟨(settingWord setting, kind) :: kinds, ?_, congrArg (_ :: ·) words⟩
      rw [List.map_cons, classifyAll, if_neg (settingWord_ne_separator setting), isKind, classified]
      rfl

/-- What is gathered from options with values: each is assigned in its turn. -/
def assignAll (gathered : Gathered) (settings : List (CommandOption × String)) : Gathered :=
  settings.foldl (fun found setting => found.assign setting.1 setting.2) gathered

theorem gather_settings {scope : Scope} {settings : List (CommandOption × String)}
    (valued : ∀ setting ∈ settings, setting.1.takesValue = true) (gathered : Gathered)
    (words : List Word) :
    gather scope gathered (wordsOf settings ++ words) =
      gather scope (assignAll gathered settings) words := by
  induction settings generalizing gathered with
  | nil => rfl
  | cons setting rest ih =>
      rw [List.forall_mem_cons] at valued
      have first : wordsOf (setting :: rest) ++ words =
          (settingWord setting, kindOf setting) :: (wordsOf rest ++ words) := rfl
      rw [first, kindOf, gather_attached valued.1 rfl, ih valued.2]
      rfl

/-! ### Invocations -/

theorem JobInvocation.mem_jobOptions (job : JobInvocation) {setting : CommandOption × String}
    (member : setting ∈ job.settings) : setting.1 ∈ jobOptions := by
  rw [settings, List.mem_cons, List.mem_append, Option.mem_toList, Option.mem_toList,
    Option.map_eq_some_iff, Option.map_eq_some_iff] at member
  rcases member with rfl | ⟨_, _, rfl⟩ | ⟨_, _, rfl⟩
  · exact List.mem_cons_self
  · exact List.mem_cons_of_mem _ List.mem_cons_self
  · exact List.mem_cons_of_mem _ (List.mem_cons_of_mem _ List.mem_cons_self)

/-- The options of a job are gathered as they were given. -/
theorem jobOf_assignAll (job : JobInvocation) :
    jobOf job.command (assignAll .empty job.settings) = .ok (job, []) := by
  obtain ⟨command, config, driver, address⟩ := job
  cases driver with
  | none =>
      cases address with
      | none => rfl
      | some address => rfl
  | some driver =>
      cases address with
      | none => rfl
      | some address => rfl

theorem readJob_settings (job : JobInvocation) :
    readJob job.command.name (job.settings.map settingWord) = .ok (job, []) := by
  have named : Command.ofName? job.command.name = some job.command := by
    cases job.command <;> rfl
  have known : ∀ option ∈ jobOptions, option ∈ (Scope.command job.command).options := by
    cases job.command <;> decide
  have valued : ∀ option ∈ jobOptions, option.takesValue = true := by decide
  have classified : classifyAll (.command job.command) (job.settings.map settingWord ++ []) =
      .ok (wordsOf job.settings ++ []) :=
    classifyAll_settings (fun setting member => known setting.1 (job.mem_jobOptions member)) rfl
  rw [List.append_nil] at classified
  refine readJob_eq_ok_iff.mpr
    ⟨job.command, assignAll .empty job.settings, [], named, ?_, jobOf_assignAll job⟩
  rw [readScope, classified]
  exact gather_settings (fun setting member => valued setting.1 (job.mem_jobOptions member)) _ []

theorem mem_levelSettings {level : Option String} {setting : CommandOption × String}
    (member : setting ∈ levelSettings level) : setting.1 = .logLevel := by
  rw [levelSettings, Option.mem_toList, Option.map_eq_some_iff] at member
  obtain ⟨_, _, rfl⟩ := member
  rfl

/-- The line for an invocation is read as it. -/
theorem read_lineOf (level : Option String) (job : JobInvocation) :
    read (lineOf level job) = .ok ⟨level, some job⟩ := by
  obtain ⟨kinds, classified, words⟩ :=
    exists_classifyAll_program fun _ member => job.mem_jobOptions member
  have command : classifyAll .program (job.command.name :: job.settings.map settingWord) =
      .ok ((job.command.name, .operand) :: kinds) := by
    have isOperand : classify .program job.command.name = .ok .operand := by
      cases job.command <;> rfl
    have noSeparator : job.command.name ≠ separatorWord := by
      cases job.command <;> decide
    rw [classifyAll, if_neg noSeparator, isOperand, classified]
    rfl
  have known : ∀ setting ∈ levelSettings level, setting.1 ∈ Scope.program.options := by
    intro setting member
    rw [mem_levelSettings member]
    decide
  have valued : ∀ setting ∈ levelSettings level, setting.1.takesValue = true := by
    intro setting member
    rw [mem_levelSettings member]
    rfl
  refine read_eq_ok_iff.mpr
    ⟨assignAll .empty (levelSettings level), (job.command.name, .operand), kinds, ?_, ?_, ?_, ?_⟩
  · rw [readScope, lineOf, classifyAll_settings known command]
    exact gather_settings valued _ _
  · rw [words]
    exact readJob_settings job
  · cases level <;> rfl
  · cases level <;> rfl

end ImportPlanning.CommandLine
