/-
Setting up the loggers over any run of calls. The first call attaches a handler, if there is none, and
no later one does. The level is that of the last call that configures; if none does, it is that of the
first call, which configures by the environment that it finds.

Handlers that others attach or remove between two calls are left out.
-/
import Mathlib.Data.List.Induction
import ImportPlanning.LogSetup

namespace ImportPlanning

open ImportPlanning.Text

/-! ### Levels -/

/-- The level that a name stands for: that of the name in upper case, or else the default. -/
inductive LevelNamed (name : String) : Int → Prop where
  | known {level : Int} (listed : (upper name, level) ∈ levelNames) : LevelNamed name level
  | unknown (unlisted : ∀ level, (upper name, level) ∉ levelNames) : LevelNamed name 20

/-- The level that a setting resolves to in an environment: an integer is one as it is, a name is
looked up, and without a setting the variable of the environment names the level. -/
inductive LevelResolved (environment : Environment) : Option LevelSetting → Int → Prop where
  | number (level : Int) : LevelResolved environment (some (.number level)) level
  | name {name : String} {level : Int} (named : LevelNamed name level) :
      LevelResolved environment (some (.name name)) level
  | named {name : String} {level : Int}
      (isSet : environment.lookup "SQL_IMPORT_LOG_LEVEL" = some name)
      (named : LevelNamed name level) : LevelResolved environment none level
  | unset (isUnset : environment.lookup "SQL_IMPORT_LOG_LEVEL" = none) :
      LevelResolved environment none 20

private theorem lookup_eq_some_iff {entries : List (String × Int)}
    (distinct : (entries.map Prod.fst).Nodup) {name : String} {level : Int} :
    entries.lookup name = some level ↔ (name, level) ∈ entries := by
  induction entries with
  | nil => simp
  | cons entry rest ih =>
      obtain ⟨candidate, value⟩ := entry
      rw [List.map_cons, List.nodup_cons] at distinct
      rw [List.lookup_cons, List.mem_cons, Prod.mk.injEq]
      by_cases same : name = candidate
      · have onlyHere : (candidate, level) ∉ rest := fun member =>
          distinct.1 (List.mem_map.mpr ⟨_, member, rfl⟩)
        simp [same, onlyHere, eq_comm]
      · rw [beq_eq_false_iff_ne.mpr same]
        simp [same, ih distinct.2]

theorem levelNamed_iff {name : String} {level : Int} :
    LevelNamed name level ↔ levelOfName name = level := by
  have listed : ∀ found, levelNames.lookup (upper name) = some found ↔
      (upper name, found) ∈ levelNames :=
    fun _ => lookup_eq_some_iff (by decide)
  rw [levelOfName]
  cases isListed : levelNames.lookup (upper name) with
  | some found =>
      have member := (listed found).mp isListed
      constructor
      · intro named
        cases named with
        | known other =>
            rw [(listed level).mpr other] at isListed
            exact (Option.some.inj isListed).symm
        | unknown unlisted => exact absurd member (unlisted found)
      · rintro rfl
        exact .known member
  | none =>
      have unlisted : ∀ other, (upper name, other) ∉ levelNames := by
        intro other member
        rw [(listed other).mpr member] at isListed
        cases isListed
      constructor
      · intro named
        cases named with
        | known other => exact absurd other (unlisted level)
        | unknown _ => rfl
      · rintro rfl
        exact .unknown unlisted

theorem levelResolved_iff {environment : Environment} {setting : Option LevelSetting}
    {level : Int} :
    LevelResolved environment setting level ↔
      LogSetup.requestedLevel setting environment = level := by
  constructor
  · intro resolved
    cases resolved with
    | number => rfl
    | name named => exact levelNamed_iff.mp named
    | named isSet named =>
        rw [LogSetup.requestedLevel, levelVariable, isSet]
        exact levelNamed_iff.mp named
    | unset isUnset =>
        rw [LogSetup.requestedLevel, levelVariable, isUnset]
        rfl
  · rintro rfl
    match setting with
    | some (.number level) => exact .number level
    | some (.name name) => exact .name (levelNamed_iff.mpr rfl)
    | none =>
        rw [LogSetup.requestedLevel, levelVariable]
        cases found : environment.lookup "SQL_IMPORT_LOG_LEVEL" with
        | some name => exact .named found (levelNamed_iff.mpr rfl)
        | none => exact .unset found

/-- The empty name is not listed. -/
example : LevelNamed "" 20 := levelNamed_iff.mpr (by decide)

namespace LogSetup

/-! ### Calls -/

/-- What is asked of the loggers. -/
inductive Request where
  | configure (setting : Option LevelSetting)
  | askLogger (name : String)
  deriving DecidableEq, Repr

/-- A request, with the environment that is in force when it is made. -/
structure Call where
  environment : Environment
  request : Request
  deriving DecidableEq, Repr

/-- Does a call only ask for a logger? -/
def Call.OnlyAsks (call : Call) : Prop :=
  ∃ name, call.request = .askLogger name

def Call.apply (call : Call) (setup : LogSetup) : LogSetup :=
  match call.request with
  | .configure setting => setup.configure setting call.environment
  | .askLogger _ => setup.askLogger call.environment

/-- The loggers after calls in a row. -/
def run (calls : List Call) (setup : LogSetup) : LogSetup :=
  calls.foldl (fun reached call => call.apply reached) setup

theorem run_concat (calls : List Call) (call : Call) (setup : LogSetup) :
    run (calls ++ [call]) setup = call.apply (run calls setup) := by
  rw [run, run, List.foldl_append]
  rfl

/-- The call that decides on the level: the last one that configures, or the first of calls that only
ask, which configures without a setting. -/
inductive Decides : List Call → Environment → Option LevelSetting → Prop where
  | configured (earlier : List Call) (environment : Environment) (setting : Option LevelSetting)
      {later : List Call} (othersAsk : ∀ call ∈ later, call.OnlyAsks) :
      Decides (earlier ++ ⟨environment, .configure setting⟩ :: later) environment setting
  | asked (first : Call) (later : List Call) (allAsk : ∀ call ∈ first :: later, call.OnlyAsks) :
      Decides (first :: later) first.environment none

theorem Decides.concat {calls : List Call} {environment : Environment}
    {setting : Option LevelSetting} (decides : Decides calls environment setting) {call : Call}
    (asks : call.OnlyAsks) : Decides (calls ++ [call]) environment setting := by
  have allAsk : ∀ {others : List Call}, (∀ other ∈ others, other.OnlyAsks) →
      ∀ other ∈ others ++ [call], other.OnlyAsks := by
    intro others othersAsk other member
    rcases List.mem_append.mp member with among | isLast
    · exact othersAsk other among
    · rw [List.mem_singleton.mp isLast]
      exact asks
  cases decides with
  | configured earlier _ _ othersAsk =>
      rw [List.append_assoc, List.cons_append]
      exact .configured earlier environment setting (allAsk othersAsk)
  | asked first later firstAsk => exact .asked first (later ++ [call]) (allAsk firstAsk)

theorem not_onlyAsks_configure {environment : Environment} {setting : Option LevelSetting} :
    ¬ Call.OnlyAsks ⟨environment, .configure setting⟩ := by
  rintro ⟨name, impossible⟩
  cases impossible

/-- A call that does more than ask does not stand among calls that only ask. -/
theorem eq_of_later_ask {call other : Call} {later between further : List Call}
    (whole : call :: later = between ++ other :: further) (laterAsk : ∀ next ∈ later, next.OnlyAsks)
    (configures : ¬ other.OnlyAsks) : call = other := by
  cases between with
  | nil =>
      cases whole
      rfl
  | cons first between =>
      cases whole
      exact absurd (laterAsk other (List.mem_append_right _ List.mem_cons_self)) configures

/-- Only one setting decides. -/
theorem Decides.unique {calls : List Call} {environment other : Environment}
    {setting another : Option LevelSetting} (first : Decides calls environment setting)
    (second : Decides calls other another) : environment = other ∧ setting = another := by
  cases first with
  | configured earlier _ _ othersAsk =>
      generalize whole : earlier ++ ⟨environment, .configure setting⟩ :: _ = calls at second
      cases second with
      | configured others _ _ furtherAsk =>
          -- of two splits at configuring calls with none later, neither is before the other
          rcases List.append_eq_append_iff.mp whole with ⟨between, _, rest⟩ | ⟨between, _, rest⟩
          · cases eq_of_later_ask rest othersAsk not_onlyAsks_configure
            exact ⟨rfl, rfl⟩
          · cases eq_of_later_ask rest furtherAsk not_onlyAsks_configure
            exact ⟨rfl, rfl⟩
      | asked call later allAsk =>
          have among : (⟨environment, .configure setting⟩ : Call) ∈ call :: later := by
            rw [← whole]
            simp
          exact absurd (allAsk _ among) not_onlyAsks_configure
  | asked call later allAsk =>
      generalize whole : call :: later = calls at second
      cases second with
      | configured earlier _ _ _ =>
          have among : (⟨other, .configure another⟩ : Call) ∈ call :: later := by
            rw [whole]
            simp
          exact absurd (allAsk _ among) not_onlyAsks_configure
      | asked =>
          cases whole
          exact ⟨rfl, rfl⟩

/-! ### Runs -/

/-- Once the loggers are configured, asking for one changes nothing. -/
theorem apply_of_onlyAsks {call : Call} (asks : call.OnlyAsks) {setup : LogSetup}
    (configured : setup.isConfigured = true) : call.apply setup = setup := by
  obtain ⟨name, isAsk⟩ := asks
  rw [Call.apply, isAsk]
  exact if_pos configured

/-- Before they are, it configures them without a setting. -/
theorem apply_of_onlyAsks_fresh {call : Call} (asks : call.OnlyAsks) {setup : LogSetup}
    (fresh : setup.isConfigured = false) :
    call.apply setup = setup.configure none call.environment := by
  obtain ⟨name, isAsk⟩ := asks
  rw [Call.apply, isAsk]
  exact if_neg (by rw [fresh]; exact Bool.false_ne_true)

/-- The handlers once the loggers are configured: those that were there, or else one. -/
def attachedHandlers (handlers : List (Option String)) : List (Option String) :=
  if handlers = [] then [some "%(asctime)s %(levelname)-8s [%(name)s] %(message)s"] else handlers

/-- The loggers as calls leave them that found them unconfigured with some handlers. -/
structure SetUp (handlers : List (Option String)) (calls : List Call) (setup : LogSetup) :
    Prop where
  isConfigured : setup.isConfigured = true
  handlers : setup.handlers = attachedHandlers handlers
  level : ∃ environment setting, Decides calls environment setting ∧
    LevelResolved environment setting setup.level

/-- Configuring leaves the loggers set up if they were so before, and also if nothing was done. -/
theorem SetUp.configure {handlers : List (Option String)} {calls : List Call} {setup : LogSetup}
    (before : SetUp handlers calls setup ∨ setup.handlers = handlers ∧ setup.isConfigured = false)
    {environment : Environment} {setting : Option LevelSetting} {others : List Call}
    (decides : Decides others environment setting) :
    SetUp handlers others (setup.configure setting environment) := by
  have level : ∃ found given, Decides others found given ∧
      LevelResolved found given (setup.configure setting environment).level :=
    ⟨environment, setting, decides, levelResolved_iff.mpr rfl⟩
  rcases before with ⟨isConfigured, isAttached, _⟩ | ⟨rfl, fresh⟩
  · have attached : setup.attach = setup := if_pos isConfigured
    refine ⟨?_, ?_, level⟩
    · rw [LogSetup.configure, attached]
      exact isConfigured
    · rw [LogSetup.configure, attached]
      exact isAttached
  · have attached : setup.attach =
        { setup with handlers := attachedHandlers setup.handlers, isConfigured := true } := by
      rw [attach, if_neg (by rw [fresh]; exact Bool.false_ne_true), attachedHandlers]
      simp only [List.isEmpty_iff]
      rfl
    refine ⟨?_, ?_, level⟩
    · rw [LogSetup.configure, attached]
    · rw [LogSetup.configure, attached]

theorem setUp_run {start : LogSetup} (fresh : start.isConfigured = false) {calls : List Call}
    (called : calls ≠ []) : SetUp start.handlers calls (run calls start) := by
  induction calls using List.reverseRecOn with
  | nil => exact absurd rfl called
  | append_singleton earlier call ih =>
      rw [run_concat]
      have before : SetUp start.handlers earlier (run earlier start) ∨
          (run earlier start).handlers = start.handlers ∧
            (run earlier start).isConfigured = false := by
        by_cases none : earlier = []
        · subst none
          exact .inr ⟨rfl, fresh⟩
        · exact .inl (ih none)
      obtain ⟨environment, request⟩ := call
      cases request with
      | configure setting =>
          exact SetUp.configure before
            (.configured earlier environment setting fun _ none => absurd none List.not_mem_nil)
      | askLogger name =>
          have asks : Call.OnlyAsks ⟨environment, .askLogger name⟩ := ⟨name, rfl⟩
          by_cases none : earlier = []
          · subst none
            rw [run, List.foldl_nil, apply_of_onlyAsks_fresh asks fresh]
            have decides : Decides [⟨environment, .askLogger name⟩] environment none := by
              refine .asked _ [] ?_
              intro call member
              rw [List.mem_singleton.mp member]
              exact asks
            exact SetUp.configure before decides
          · obtain ⟨isConfigured, handlers, found, setting, decides, resolved⟩ := ih none
            rw [apply_of_onlyAsks asks isConfigured]
            exact ⟨isConfigured, handlers, found, setting, decides.concat asks, resolved⟩

/-- However many calls are made, whatever the environment is at each: there are the handlers that were
there before, or else one; the level is that of the last call that configures, or else of the first
call; and asking for a logger after them changes nothing. -/
theorem last_configuration_decides {start : LogSetup} (fresh : start.isConfigured = false)
    {calls : List Call} (called : calls ≠ []) :
    (run calls start).handlers =
        (if start.handlers = [] then
          [some "%(asctime)s %(levelname)-8s [%(name)s] %(message)s"]
        else start.handlers) ∧
      (∃ environment setting, Decides calls environment setting) ∧
      (∀ environment setting, Decides calls environment setting →
        ∀ level, (run calls start).level = level ↔ LevelResolved environment setting level) ∧
      ∀ (environment : Environment) (name : String),
        (run calls start).askLogger environment = run calls start ∧
          run (calls ++ [⟨environment, .askLogger name⟩]) start = run calls start := by
  obtain ⟨isConfigured, handlers, environment, setting, decides, resolved⟩ :=
    setUp_run fresh called
  refine ⟨handlers, ⟨environment, setting, decides⟩, ?_, ?_⟩
  · intro other another otherDecides level
    obtain ⟨rfl, rfl⟩ := decides.unique otherDecides
    rw [levelResolved_iff] at resolved ⊢
    rw [← resolved]
  · intro other name
    refine ⟨if_pos isConfigured, ?_⟩
    rw [run_concat, apply_of_onlyAsks ⟨name, rfl⟩ isConfigured]

/-- A logger is asked for, then a level set, and another is asked for when the environment is
changed. -/
theorem last_configuration_decides_asked :
    let calls : List Call :=
      [⟨[("SQL_IMPORT_LOG_LEVEL", "error")], .askLogger "config"⟩,
        ⟨[], .configure (some (.name "debug"))⟩,
        ⟨[("SQL_IMPORT_LOG_LEVEL", "10")], .askLogger "planning"⟩]
    (run calls (fresh 0)).handlers =
        [some "%(asctime)s %(levelname)-8s [%(name)s] %(message)s"] ∧
      (run calls (fresh 0)).level = 10 ∧
      (run (calls.take 1) (fresh 2)).handlers = [none, none] ∧
      (run (calls.take 1) (fresh 2)).level = 40 := by
  intro calls
  have debug : Decides calls [] (some (.name "debug")) := by
    have onlyAsks : ∀ call ∈ calls.drop 2, call.OnlyAsks := by
      intro call member
      rw [List.mem_singleton.mp member]
      exact ⟨_, rfl⟩
    exact .configured (calls.take 1) [] _ onlyAsks
  have asked : Decides (calls.take 1) [("SQL_IMPORT_LOG_LEVEL", "error")] none := by
    refine .asked ⟨_, .askLogger "config"⟩ [] ?_
    intro call member
    rw [List.mem_singleton.mp member]
    exact ⟨_, rfl⟩
  have untouched : ∀ handlers, (fresh handlers).isConfigured = false := fun _ => rfl
  have several : calls ≠ [] := List.cons_ne_nil _ _
  have one : calls.take 1 ≠ [] := List.cons_ne_nil _ _
  obtain ⟨handlers, _, level, _⟩ := last_configuration_decides (untouched 0) several
  obtain ⟨kept, _, first, _⟩ := last_configuration_decides (untouched 2) one
  have listed : (upper "debug", (10 : Int)) ∈ levelNames := by decide
  have alsoListed : (upper "error", (40 : Int)) ∈ levelNames := by decide
  exact ⟨handlers, (level _ _ debug 10).mpr (.name (.known listed)), kept,
    (first _ _ asked 40).mpr (.named rfl (.known alsoListed))⟩

end LogSetup
end ImportPlanning
