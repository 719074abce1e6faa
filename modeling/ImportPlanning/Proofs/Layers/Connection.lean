/-
The layers of a connection. Of the layers that have a key the last one gives its value, where an
override of null counts as none; a key stands where the first layer that has it put it. A
connection is only resolved if what its layers come to can be shown, and so its keys are texts or
bytes.

Which sections can be read from a file is left open.
-/
import ImportPlanning.Proofs.Layers.Variables
import ImportPlanning.Proofs.Loading

namespace ImportPlanning

/-! ### Redaction -/

def CanBeShown (entry : Value × Value) : Prop :=
  ∃ lowered shown, loweredKey entry.1 = .ok lowered ∧ redactValue lowered entry.2 = .ok shown

theorem CanBeShown.isPlain {entry : Value × Value} (canBeShown : CanBeShown entry) :
    entry.1.IsPlain := by
  obtain ⟨lowered, _, isLowered, _⟩ := canBeShown
  intro noCode
  cases key : entry.1 with
  | text name =>
      rw [key] at noCode
      cases noCode
  | binary kind bytes =>
      rw [key] at noCode
      cases noCode
  | _ =>
      rw [key, loweredKey] at isLowered
      · cases isLowered
      all_goals simp

theorem exists_redact_iff (entries : Entries) :
    (∃ shown, redact entries = .ok shown) ↔ ∀ entry ∈ entries, CanBeShown entry := by
  induction entries with
  | nil =>
      exact ⟨fun _ _ member => absurd member List.not_mem_nil, fun _ => ⟨[], rfl⟩⟩
  | cons entry rest ih =>
      obtain ⟨key, value⟩ := entry
      rw [List.forall_mem_cons, ← ih]
      constructor
      · rintro ⟨shown, redacted⟩
        obtain ⟨lowered, first, others, isLowered, isFirst, areOthers, _⟩ :=
          redact_cons_eq_ok_iff.mp redacted
        exact ⟨⟨lowered, first, isLowered, isFirst⟩, others, areOthers⟩
      · rintro ⟨⟨lowered, first, isLowered, isFirst⟩, others, areOthers⟩
        exact ⟨_, redact_cons_eq_ok_iff.mpr
          ⟨lowered, first, others, isLowered, isFirst, areOthers, rfl⟩⟩

theorem plainKeys_of_redact {entries shown : Entries} (redacted : redact entries = .ok shown) :
    Entries.PlainKeys entries := by
  intro key member
  obtain ⟨entry, among, rfl⟩ := List.mem_map.mp member
  exact ((exists_redact_iff entries).mp ⟨shown, redacted⟩ entry among).isPlain

namespace Layers

open Entries

/-! ### Layers -/

/-- The entries of a section of a file, or why there are none. -/
def fileSection (surroundings : Surroundings) (path part : Option String) :
    Except Failure Entries :=
  (ConfigFile.entriesAt surroundings path).bind fun entries =>
    (sectionOf part entries).mapError .file

theorem yields_readSection (surroundings : Surroundings) (path part : Option String) :
    Yields (readSection surroundings path part) (fileSection surroundings path part) :=
  yields_bind (ConfigFile.yields_read surroundings path) fun _ => yields_ofFile _

theorem yields_readEnvironment (surroundings : Surroundings) (group : Option String) :
    Yields (readEnvironment surroundings group)
      (.ok (ofList (visitedEntries group surroundings.environment))) := by
  rw [readEnvironment, visitedEntries, readGroup]
  cases group.filter fun name => !name.isEmpty with
  | none => exact yields_pure []
  | some name => exact yields_after_note (yields_pure _)

/-- What the layers of a connection hold beside the environment. -/
structure Supplied (surroundings : Surroundings) (request : ConnectionRequest)
    (fromFile explicit overrides : Entries) : Prop where
  fromFile : fileSection surroundings request.path request.part = .ok fromFile
  explicit : givenEntries request.explicit = .ok explicit
  overrides : optionalMapping "items" request.overrides = .ok overrides

/-- The layers of a connection, laid over one another. -/
def layered (group : Option String) (environment : Environment)
    (fromFile explicit overrides : Entries) : Entries :=
  merge [fromFile, ofList (visitedEntries group environment), explicit, withoutNulls overrides]

theorem yields_loadConnection (surroundings : Surroundings) (request : ConnectionRequest) :
    Yields (loadConnection surroundings request)
      ((fileSection surroundings request.path request.part).bind fun fromFile =>
        (overrideEntries request.overrides).bind fun overrides =>
          (ofOverlay (givenEntries request.explicit)).bind fun explicit =>
            let merged := merge [fromFile,
              ofList (visitedEntries request.group surroundings.environment), explicit, overrides]
            (redact merged).bind fun _ => .ok merged) := by
  rw [loadConnection]
  refine yields_after_note (yields_after (yields_readEnvironment surroundings _) ?_)
  refine yields_bind (yields_readSection surroundings _ _) fun fromFile => ?_
  refine yields_bind (yields_ofExcept _) fun overrides => ?_
  refine yields_bind (yields_ofExcept _) fun explicit => ?_
  refine yields_after_note (yields_bind (yields_ofExcept _) fun shown => ?_)
  exact yields_after_note (yields_pure _)

/-- A connection is resolved if its layers can be read and what they come to can be shown. -/
theorem loadConnection_eq_ok_iff {surroundings : Surroundings} {request : ConnectionRequest}
    (journal : List LogRecord) {merged : Entries} :
    (loadConnection surroundings request journal).1 = .ok merged ↔
      ∃ fromFile explicit overrides, Supplied surroundings request fromFile explicit overrides ∧
        merged = layered request.group surroundings.environment fromFile explicit overrides ∧
        ∃ shown, redact merged = .ok shown := by
  rw [yields_loadConnection surroundings request journal]
  constructor
  · intro resolved
    obtain ⟨fromFile, isFile, later⟩ := bind_eq_ok_iff.mp resolved
    obtain ⟨upper, isUpper, later⟩ := bind_eq_ok_iff.mp later
    obtain ⟨explicit, isExplicit, later⟩ := bind_eq_ok_iff.mp later
    obtain ⟨shown, isShown, last⟩ := bind_eq_ok_iff.mp later
    obtain ⟨overrides, isOverrides, rfl⟩ := map_eq_ok_iff.mp isUpper
    cases last
    exact ⟨fromFile, explicit, overrides,
      ⟨isFile, mapError_eq_ok_iff.mp isExplicit, isOverrides⟩, rfl, shown, isShown⟩
  · rintro ⟨fromFile, explicit, overrides, supplied, rfl, shown, isShown⟩
    refine bind_eq_ok_iff.mpr ⟨fromFile, supplied.fromFile, ?_⟩
    refine bind_eq_ok_iff.mpr ⟨_, map_eq_ok_iff.mpr ⟨overrides, supplied.overrides, rfl⟩, ?_⟩
    refine bind_eq_ok_iff.mpr ⟨explicit, mapError_eq_ok_iff.mpr supplied.explicit, ?_⟩
    exact bind_eq_ok_iff.mpr ⟨shown, isShown, rfl⟩

/-! ### The layer that decides -/

/-- The value that the layers give a key: that of an override that is not null, or else that of the
caller's entries, or else that of the environment, or else that of the file. -/
def layeredValue (group : Option String) (environment : Environment)
    (fromFile explicit overrides : Entries) (key : Value) : Option Value :=
  (last? key (withoutNulls overrides)).or
    ((last? key explicit).or
      ((environmentValue? group environment key).or (last? key fromFile)))

/-- The keys of the layers in the order of their first appearance. -/
def layeredKeys (group : Option String) (environment : Environment)
    (fromFile explicit overrides : Entries) : List Value :=
  (keys fromFile ++ (environmentKeys group environment).map Value.text ++ keys explicit ++
    keys (withoutNulls overrides)).eraseDupsBy Value.sameAs

theorem merge_eq_ofList (layers : List Entries) : merge layers = ofList layers.flatten := by
  rw [ofList, overlay, List.foldl_flatten]
  rfl

section

variable {group : Option String} {environment : Environment} {fromFile explicit overrides : Entries}

theorem layered_eq (group : Option String) (environment : Environment)
    (fromFile explicit overrides : Entries) :
    layered group environment fromFile explicit overrides =
      ofList (fromFile ++ (ofList (visitedEntries group environment) ++
        (explicit ++ withoutNulls overrides))) := by
  rw [layered, merge_eq_ofList, List.flatten_cons, List.flatten_cons, List.flatten_cons,
    List.flatten_cons, List.flatten_nil, List.append_nil]

theorem plainKeys_layered_iff :
    PlainKeys (layered group environment fromFile explicit overrides) ↔
      PlainKeys fromFile ∧ PlainKeys explicit ∧ PlainKeys (withoutNulls overrides) := by
  rw [layered_eq, plainKeys_ofList_iff, plainKeys_append_iff, plainKeys_append_iff,
    plainKeys_append_iff, plainKeys_ofList_iff,
    and_iff_right (plainKeys_visitedEntries group environment)]

variable (plain : PlainKeys (layered group environment fromFile explicit overrides))

include plain

theorem find?_layered (key : Value) :
    find? key (layered group environment fromFile explicit overrides) =
      layeredValue group environment fromFile explicit overrides key := by
  rw [layered_eq, plainKeys_ofList_iff] at plain
  rw [layered_eq, find?_ofList plain, last?_append, last?_append, last?_append,
    last?_ofList (plainKeys_visitedEntries group environment), last?_visitedEntries,
    Option.or_assoc, Option.or_assoc]
  rfl

theorem keys_layered :
    keys (layered group environment fromFile explicit overrides) =
      layeredKeys group environment fromFile explicit overrides := by
  obtain ⟨plainFile, _, _⟩ := plainKeys_layered_iff.mp plain
  have whole : keys (fromFile ++ (ofList (visitedEntries group environment) ++
      (explicit ++ withoutNulls overrides))) =
      keys fromFile ++ (keys (visitedEntries group environment)).eraseDupsBy Value.sameAs ++
        (keys explicit ++ keys (withoutNulls overrides)) := by
    rw [← keys_ofList, keys, List.map_append, List.map_append, List.map_append, List.append_assoc]
    rfl
  rw [layered_eq, keys_ofList, whole,
    eraseDupsBy_append_eraseDupsBy plainFile (plainKeys_visitedEntries group environment),
    keys_visitedEntries, layeredKeys, List.append_assoc, List.append_assoc, List.append_assoc]

theorem distinct_layered :
    Distinct (layered group environment fromFile explicit overrides) := by
  rw [layered_eq, plainKeys_ofList_iff] at plain
  rw [layered_eq]
  exact distinct_ofList plain

end

/-! ### The order of the environment -/

/-- The entries under keys that are no texts. -/
private def strange (entries : Entries) : Entries :=
  under (fun code =>
    match code with
    | some (.inl _) => false
    | _ => true) entries

private theorem strange_append (earlier later : Entries) :
    strange (earlier ++ later) = strange earlier ++ strange later :=
  List.filter_append earlier later

private theorem strange_visitedEntries (group : Option String) (environment : Environment) :
    strange (visitedEntries group environment) = [] := by
  refine List.filter_eq_nil_iff.mpr ?_
  intro entry member
  have isKey : entry.1 ∈ keys (visitedEntries group environment) := List.mem_map_of_mem member
  rw [keys_visitedEntries] at isKey
  obtain ⟨name, _, isName⟩ := List.mem_map.mp isKey
  rw [← isName]
  exact Bool.false_ne_true

section

variable {group : Option String} {environment others : Environment}
  {fromFile explicit overrides : Entries}
  (plain : PlainKeys (layered group environment fromFile explicit overrides))

include plain

/-- Variables set texts, so they change nothing under other keys. -/
private theorem strange_layered :
    strange (layered group environment fromFile explicit overrides) =
      ofList (strange fromFile ++ (strange explicit ++ strange (withoutNulls overrides))) := by
  have plainVisited := plainKeys_visitedEntries group environment
  rw [layered_eq, plainKeys_ofList_iff] at plain
  have none : strange (ofList (visitedEntries group environment)) = [] := by
    rw [strange, under_ofList plainVisited, ← strange, strange_visitedEntries]
    rfl
  rw [layered_eq, strange, under_ofList plain, ← strange, strange_append, strange_append,
    strange_append, none, List.nil_append]

theorem mem_layered_of_perm (distinct : (environmentKeys group environment).Nodup)
    (permuted : others.Perm environment) {entry : Value × Value}
    (member : entry ∈ layered group others fromFile explicit overrides) :
    entry ∈ layered group environment fromFile explicit overrides := by
  have plainOthers : PlainKeys (layered group others fromFile explicit overrides) :=
    plainKeys_layered_iff.mpr (plainKeys_layered_iff.mp plain)
  obtain ⟨key, value⟩ := entry
  -- a text is stored as it is looked up, but the same bytes are stored in several forms, so the
  -- entries under them are compared as they stand
  by_cases isText : ∃ name, key = .text name
  · obtain ⟨name, rfl⟩ := isText
    have found : find? (.text name) (layered group others fromFile explicit overrides) =
        some value :=
      (find?_eq_some_iff plainOthers (distinct_layered plainOthers)).mpr
        ⟨.text name, member, (Value.sameAs_iff (Value.isPlain_text name)).mpr rfl⟩
    rw [find?_layered plainOthers, layeredValue, environmentValue?_eq_of_perm distinct permuted,
      ← layeredValue, ← find?_layered plain] at found
    obtain ⟨candidate, among, same⟩ := mem_of_find? found
    have isPlain := plain candidate (List.mem_map_of_mem among)
    have isName := Value.plainCode?_eq_text_iff.mp ((Value.sameAs_iff isPlain).mp same).symm
    rwa [isName] at among
  · have isStrange : (key, value) ∈ strange (layered group others fromFile explicit overrides) := by
      refine List.mem_filter.mpr ⟨member, ?_⟩
      dsimp only
      split
      · rename_i name isName
        exact absurd ⟨name, Value.plainCode?_eq_text_iff.mp isName⟩ isText
      · rfl
    rw [strange_layered plainOthers, ← strange_layered plain] at isStrange
    exact (List.mem_filter.mp isStrange).1

end

theorem loadConnection_perm {surroundings : Surroundings} {request : ConnectionRequest}
    {journal : List LogRecord} {merged : Entries}
    (resolved : (loadConnection surroundings request journal).1 = .ok merged)
    (distinct : (environmentKeys request.group surroundings.environment).Nodup)
    {environment : Environment} (permuted : environment.Perm surroundings.environment) :
    ∃ other, (loadConnection { surroundings with environment } request journal).1 = .ok other ∧
      ∀ key, find? key other = find? key merged := by
  obtain ⟨fromFile, explicit, overrides, supplied, rfl, shown, redacted⟩ :=
    (loadConnection_eq_ok_iff journal).mp resolved
  have plain := plainKeys_of_redact redacted
  have plainOther : PlainKeys (layered request.group environment fromFile explicit overrides) :=
    plainKeys_layered_iff.mpr (plainKeys_layered_iff.mp plain)
  refine ⟨layered request.group environment fromFile explicit overrides,
    (loadConnection_eq_ok_iff journal).mpr
      ⟨fromFile, explicit, overrides, ⟨?_, supplied.explicit, supplied.overrides⟩, rfl, ?_⟩, ?_⟩
  · rw [← supplied.fromFile, fileSection, fileSection]
    have sameFiles : ({ surroundings with environment } : Surroundings).files =
        surroundings.files := rfl
    rw [ConfigFile.entriesAt_eq_of_files sameFiles]
  · rw [exists_redact_iff]
    intro entry member
    exact (exists_redact_iff _).mp ⟨shown, redacted⟩ entry
      (mem_layered_of_perm plain distinct permuted member)
  · intro key
    rw [find?_layered plainOther, find?_layered plain, layeredValue,
      environmentValue?_eq_of_perm distinct permuted, layeredValue]

end Layers
end ImportPlanning
