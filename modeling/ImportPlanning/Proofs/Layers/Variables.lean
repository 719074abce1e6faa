/-
The entries that the variables of a group set. A variable sets a key if its name is that of the
group in upper case, a low line, and a suffix that is the key in lower case; of the variables that
set one key the last one counts, so the order in which they are visited matters only where two set
one key.

What the other layers hold is left open.
-/
import ImportPlanning.Proofs.Overlay
import ImportPlanning.Settings.Layers

namespace ImportPlanning.Layers

open ImportPlanning.Text
open Entries

/-! ### Names of variables -/

/-- A variable sets a key for a group: its name is that of the group in upper case, a low line, and
a suffix that is the key in lower case. -/
def Sets (group name key : String) : Prop :=
  ∃ suffix, name = upper group ++ "_" ++ suffix ∧ lower suffix = key

theorem keyOfVariable?_eq_some_iff (group name key : String) :
    keyOfVariable? (variableStem group) name = some key ↔ Sets group name key := by
  rw [keyOfVariable?, Sets, ← variableStem]
  constructor
  · intro found
    split at found
    · rename_i begins
      obtain ⟨rest, isName⟩ := List.isPrefixOf_iff_prefix.mp begins
      refine ⟨String.ofList (name.toList.drop (variableStem group).length), ?_,
        Option.some.inj found⟩
      rw [← String.toList_inj, String.toList_append, String.toList_ofList, ← isName,
        ← String.length_toList, List.drop_left]
    · cases found
  · rintro ⟨suffix, rfl, rfl⟩
    have begins : (variableStem group).toList.isPrefixOf (variableStem group ++ suffix).toList =
        true := by
      rw [List.isPrefixOf_iff_prefix, String.toList_append]
      exact List.prefix_append _ _
    rw [if_pos begins, String.toList_append, ← String.length_toList, List.drop_left,
      String.ofList_toList]

instance (group name key : String) : Decidable (Sets group name key) :=
  decidable_of_iff _ (keyOfVariable?_eq_some_iff group name key)

/-- The group of variables that is read; none where no group is given or an empty one. -/
def readGroup (group : Option String) : Option String :=
  group.filter fun name => !name.isEmpty

/-- The value of the last visited variable that sets a key. -/
def environmentValue? (group : Option String) (environment : Environment) (key : Value) :
    Option Value :=
  match readGroup group, key with
  | some name, .text wanted =>
    (environment.reverse.find? fun setting => decide (Sets name setting.1 wanted)).map
      fun setting => .text setting.2
  | _, _ => none

/-- The keys that variables set, in the order in which they are visited. -/
def environmentKeys (group : Option String) (environment : Environment) : List String :=
  match readGroup group with
  | some name => environment.filterMap fun setting => keyOfVariable? (variableStem name) setting.1
  | none => []

/-- The entries that variables set, in the order in which they are visited. -/
def visitedEntries (group : Option String) (environment : Environment) : Entries :=
  match readGroup group with
  | some name => environment.filterMap (entryOfVariable? (variableStem name))
  | none => []

theorem keys_visitedEntries (group : Option String) (environment : Environment) :
    keys (visitedEntries group environment) =
      (environmentKeys group environment).map Value.text := by
  rw [visitedEntries, environmentKeys]
  cases readGroup group with
  | none =>
      rfl
  | some name =>
      dsimp only
      have sameKey : ∀ setting : String × String,
          (entryOfVariable? (variableStem name) setting).map Prod.fst =
            (keyOfVariable? (variableStem name) setting.1).map Value.text := by
        intro setting
        rw [entryOfVariable?, Option.map_map]
        rfl
      rw [keys, List.map_filterMap, List.map_filterMap, funext sameKey]

theorem plainKeys_visitedEntries (group : Option String) (environment : Environment) :
    PlainKeys (visitedEntries group environment) := by
  intro key member
  rw [keys_visitedEntries] at member
  obtain ⟨name, _, rfl⟩ := List.mem_map.mp member
  exact Value.isPlain_text name

private theorem find?_filterMap_entryOfVariable? (group wanted : String)
    (settings : List (String × String)) :
    find? (.text wanted) (settings.filterMap (entryOfVariable? (variableStem group))) =
      (settings.find? fun setting => decide (Sets group setting.1 wanted)).map
        fun setting => .text setting.2 := by
  induction settings with
  | nil =>
      rfl
  | cons setting rest ih =>
      rw [List.filterMap_cons, List.find?_cons, entryOfVariable?]
      cases isKey : keyOfVariable? (variableStem group) setting.1 with
      | none =>
          have sets : ¬ Sets group setting.1 wanted := by
            rw [← keyOfVariable?_eq_some_iff, isKey]
            exact (Option.some_ne_none _).symm
          rw [decide_eq_false sets]
          exact ih
      | some key =>
          have sets : Sets group setting.1 wanted ↔ wanted = key := by
            rw [← keyOfVariable?_eq_some_iff, isKey, Option.some.injEq, eq_comm]
          rw [Option.map_some, find?, Value.sameAs_text]
          by_cases same : wanted = key
          · rw [decide_eq_true (sets.mpr same), beq_iff_eq.mpr same]
            rfl
          · rw [decide_eq_false (mt sets.mp same), beq_eq_false_iff_ne.mpr same]
            exact ih

private theorem last?_visitedEntries_of_not_text (group : Option String)
    (environment : Environment) {key : Value} (noText : ∀ name, key ≠ .text name) :
    last? key (visitedEntries group environment) = none := by
  rw [last?, Option.eq_none_iff_forall_ne_some]
  intro value found
  obtain ⟨candidate, member, same⟩ := mem_of_find? found
  have isKey : candidate ∈ keys (visitedEntries group environment) :=
    List.mem_map_of_mem (List.mem_reverse.mp member)
  rw [keys_visitedEntries] at isKey
  obtain ⟨wanted, _, rfl⟩ := List.mem_map.mp isKey
  rw [Value.sameAs_iff (Value.isPlain_text wanted)] at same
  exact noText wanted (Value.plainCode?_eq_text_iff.mp same)

/-- The last entry that variables set under a key is that of the last variable that sets it. -/
theorem last?_visitedEntries (group : Option String) (environment : Environment) (key : Value) :
    last? key (visitedEntries group environment) = environmentValue? group environment key := by
  rw [environmentValue?.eq_def]
  split
  · rename_i name wanted isRead
    rw [visitedEntries, isRead]
    dsimp only
    rw [last?, ← List.filterMap_reverse, find?_filterMap_entryOfVariable?]
  · rename_i other
    cases isRead : readGroup group with
    | none =>
        rw [visitedEntries, isRead]
        rfl
    | some name =>
        exact last?_visitedEntries_of_not_text group environment fun wanted isText =>
          other name wanted isRead isText

theorem distinct_visitedEntries {group : Option String} {environment : Environment}
    (distinct : (environmentKeys group environment).Nodup) :
    Distinct (visitedEntries group environment) := by
  rw [Distinct, keys_visitedEntries, List.map_map]
  refine List.pairwise_map.mpr (distinct.imp ?_)
  intro left right different same
  exact different (Sum.inl.inj (Option.some.inj same))

theorem visitedEntries_perm (group : Option String) {environment others : Environment}
    (permuted : others.Perm environment) :
    (visitedEntries group others).Perm (visitedEntries group environment) := by
  rw [visitedEntries, visitedEntries]
  cases readGroup group with
  | none => exact .refl _
  | some name => exact permuted.filterMap _

theorem environmentValue?_eq_of_perm {group : Option String} {environment others : Environment}
    (distinct : (environmentKeys group environment).Nodup) (permuted : others.Perm environment)
    (key : Value) :
    environmentValue? group others key = environmentValue? group environment key := by
  have plain := plainKeys_visitedEntries group environment
  have distinctEntries := distinct_visitedEntries distinct
  have permutedEntries := (List.reverse_perm _).trans (visitedEntries_perm group permuted)
  rw [← last?_visitedEntries, ← last?_visitedEntries, last?_eq_find? plain distinctEntries]
  exact find?_eq_of_perm plain distinctEntries permutedEntries key

end ImportPlanning.Layers
