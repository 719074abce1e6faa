/-
Entries that are laid over one another. Texts and bytes are plain keys: two of them are the same
just if they say the same, so that with plain keys the last entry written under a key is the one
that is found, and each key stands where it was first written.

Keys of other kinds, such as numbers of which many are the same, are left out.
-/
import ImportPlanning.Value.Entries

namespace ImportPlanning

/-! ### Plain keys -/

namespace Value

/-- What a plain key says: the characters of a text, or bytes. -/
def plainCode? : Value → Option (String ⊕ List UInt8)
  | text name => some (.inl name)
  | binary _ bytes => some (.inr bytes)
  | _ => none

def IsPlain (key : Value) : Prop :=
  key.plainCode? ≠ none

private theorem not_sameNumber {left right : Value} (noFraction : right.fraction? = none)
    (noInfinity : right.infiniteSign? = none) : left.sameNumber right = false := by
  rw [sameNumber, noFraction, noInfinity]
  cases left.fraction? with
  | some fraction => rfl
  | none => cases left.infiniteSign? <;> rfl

/-- Only a key that says the same is the same as a plain one. -/
theorem sameAs_iff {key other : Value} (plain : other.IsPlain) :
    key.sameAs other = true ↔ key.plainCode? = other.plainCode? := by
  cases other with
  | text name =>
      have noNumber : ∀ left : Value, left.sameNumber (text name) = false :=
        fun _ => not_sameNumber rfl rfl
      cases key <;> simp [sameAs, plainCode?, noNumber]
  | binary kind bytes =>
      have noNumber : ∀ left : Value, left.sameNumber (binary kind bytes) = false :=
        fun _ => not_sameNumber rfl rfl
      cases key <;> simp [sameAs, plainCode?, noNumber]
  | _ => exact absurd rfl plain

theorem isPlain_text (name : String) : (text name).IsPlain :=
  Option.some_ne_none _

theorem IsPlain.of_sameAs {key other : Value} (plain : other.IsPlain)
    (same : key.sameAs other = true) : key.IsPlain := by
  rw [IsPlain, (sameAs_iff plain).mp same]
  exact plain

theorem plainCode?_eq_text_iff {key : Value} {name : String} :
    key.plainCode? = some (.inl name) ↔ key = text name := by
  cases key <;> simp [plainCode?]

end Value

namespace Entries

/-! ### Look-up -/

theorem find?_append (key : Value) (earlier later : Entries) :
    find? key (earlier ++ later) = (find? key earlier).or (find? key later) := by
  induction earlier with
  | nil =>
      rfl
  | cons entry rest ih =>
      rw [List.cons_append, find?, find?]
      cases key.sameAs entry.1 with
      | true => rfl
      | false => exact ih

theorem holds_append (key : Value) (earlier later : Entries) :
    holds key (earlier ++ later) = (holds key earlier || holds key later) := by
  rw [holds, find?_append, Option.isSome_or, holds, holds]

/-- The value that was written last under a key. -/
def last? (key : Value) (entries : Entries) : Option Value :=
  find? key entries.reverse

theorem last?_cons (key candidate value : Value) (rest : Entries) :
    last? key ((candidate, value) :: rest) =
      (last? key rest).or (if key.sameAs candidate then some value else none) := by
  rw [last?, List.reverse_cons, find?_append, find?, find?, last?]

theorem last?_append (key : Value) (earlier later : Entries) :
    last? key (earlier ++ later) = (last? key later).or (last? key earlier) := by
  rw [last?, List.reverse_append, find?_append, last?, last?]

theorem mem_of_find? {key value : Value} {entries : Entries}
    (found : find? key entries = some value) :
    ∃ candidate, (candidate, value) ∈ entries ∧ key.sameAs candidate = true := by
  induction entries with
  | nil =>
      cases found
  | cons entry rest ih =>
      rw [find?] at found
      cases same : key.sameAs entry.1 with
      | true =>
          rw [same, if_pos rfl] at found
          cases found
          exact ⟨entry.1, List.mem_cons_self, same⟩
      | false =>
          rw [same, if_neg Bool.false_ne_true] at found
          obtain ⟨candidate, member, isSame⟩ := ih found
          exact ⟨candidate, List.mem_cons_of_mem entry member, isSame⟩

/-! ### Keys -/

def keys (entries : Entries) : List Value :=
  entries.map Prod.fst

def PlainKeys (entries : Entries) : Prop :=
  ∀ key ∈ keys entries, key.IsPlain

theorem plainKeys_nil : PlainKeys [] :=
  fun _ member => absurd member List.not_mem_nil

theorem plainKeys_cons_iff {key value : Value} {rest : Entries} :
    PlainKeys ((key, value) :: rest) ↔ key.IsPlain ∧ PlainKeys rest :=
  List.forall_mem_cons

/-- No two plain keys say the same. -/
def Distinct (entries : Entries) : Prop :=
  ((keys entries).map Value.plainCode?).Nodup

theorem Distinct.filter {entries : Entries} (distinct : Distinct entries)
    (wanted : Value × Value → Bool) : Distinct (entries.filter wanted) :=
  distinct.sublist ((List.filter_sublist.map Prod.fst).map Value.plainCode?)

/-- Adds a key to those that were seen, if it is new. -/
def addKey (seen : List Value) (key : Value) : List Value :=
  if seen.any key.sameAs then seen else seen ++ [key]

theorem mem_addKey_of_mem {seen : List Value} {known : Value} (member : known ∈ seen)
    (key : Value) : known ∈ addKey seen key := by
  rw [addKey]
  split
  · exact member
  · exact List.mem_append_left [key] member

theorem mem_or_eq_of_mem_addKey {seen : List Value} {key known : Value}
    (member : known ∈ addKey seen key) : known ∈ seen ∨ known = key := by
  rw [addKey] at member
  split at member
  · exact Or.inl member
  · rcases List.mem_append.mp member with old | new
    · exact Or.inl old
    · exact Or.inr (List.mem_singleton.mp new)

theorem exists_mem_addKey (seen : List Value) (key : Value) :
    ∃ known ∈ addKey seen key, key = known ∨ key.sameAs known = true := by
  rw [addKey]
  cases found : seen.any key.sameAs with
  | true =>
      obtain ⟨known, member, same⟩ := List.any_eq_true.mp found
      exact ⟨known, member, Or.inr same⟩
  | false =>
      exact ⟨key, List.mem_append_right seen (List.mem_singleton.mpr rfl), Or.inl rfl⟩

theorem mem_foldl_addKey_of_mem {seen : List Value} {known : Value} (member : known ∈ seen)
    (added : List Value) : known ∈ added.foldl addKey seen := by
  induction added generalizing seen with
  | nil => exact member
  | cons key rest ih => exact ih (mem_addKey_of_mem member key)

theorem mem_or_mem_of_mem_foldl_addKey {seen added : List Value} {known : Value}
    (member : known ∈ added.foldl addKey seen) : known ∈ seen ∨ known ∈ added := by
  induction added generalizing seen with
  | nil => exact Or.inl member
  | cons key rest ih =>
      rcases ih member with old | new
      · rcases mem_or_eq_of_mem_addKey old with before | rfl
        · exact Or.inl before
        · exact Or.inr List.mem_cons_self
      · exact Or.inr (List.mem_cons_of_mem key new)

theorem exists_mem_foldl_addKey {added : List Value} {key : Value} (member : key ∈ added)
    (seen : List Value) :
    ∃ known ∈ added.foldl addKey seen, key = known ∨ key.sameAs known = true := by
  induction added generalizing seen with
  | nil => cases member
  | cons first rest ih =>
      rcases List.mem_cons.mp member with rfl | later
      · obtain ⟨known, among, same⟩ := exists_mem_addKey seen key
        exact ⟨known, mem_foldl_addKey_of_mem among rest, same⟩
      · exact ih later (addKey seen first)

private theorem foldl_addKey_addKey {seen before : List Value} {key : Value}
    (plainSeen : ∀ key ∈ seen, key.IsPlain) (plainBefore : ∀ key ∈ before, key.IsPlain) :
    (addKey before key).foldl addKey seen = addKey (before.foldl addKey seen) key := by
  cases found : before.any key.sameAs with
  | false =>
      rw [addKey, found, if_neg Bool.false_ne_true, List.foldl_append]
      rfl
  | true =>
      -- what is the same as the key is still among the keys that were added up
      obtain ⟨twin, member, same⟩ := List.any_eq_true.mp found
      obtain ⟨known, among, alike⟩ := exists_mem_foldl_addKey member seen
      have isKnown : key.sameAs known = true := by
        rcases alike with rfl | alike
        · exact same
        · have plainKnown : known.IsPlain :=
            (mem_or_mem_of_mem_foldl_addKey among).elim (plainSeen known) (plainBefore known)
          rw [Value.sameAs_iff plainKnown, ← (Value.sameAs_iff plainKnown).mp alike]
          exact (Value.sameAs_iff (plainBefore twin member)).mp same
      have stays : (before.foldl addKey seen).any key.sameAs = true :=
        List.any_eq_true.mpr ⟨known, among, isKnown⟩
      rw [addKey, addKey, if_pos found, if_pos stays]

/-- Adding up what was added up before is adding it at once. -/
theorem foldl_addKey_foldl {seen before added : List Value}
    (plainSeen : ∀ key ∈ seen, key.IsPlain) (plainBefore : ∀ key ∈ before, key.IsPlain)
    (plainAdded : ∀ key ∈ added, key.IsPlain) :
    (added.foldl addKey before).foldl addKey seen =
      added.foldl addKey (before.foldl addKey seen) := by
  induction added generalizing before with
  | nil =>
      rfl
  | cons key rest ih =>
      obtain ⟨isPlain, plainRest⟩ := List.forall_mem_cons.mp plainAdded
      have plainOne : ∀ known ∈ addKey before key, known.IsPlain := by
        intro known member
        rcases mem_or_eq_of_mem_addKey member with old | rfl
        · exact plainBefore known old
        · exact isPlain
      rw [List.foldl_cons, ih plainOne plainRest, foldl_addKey_addKey plainSeen plainBefore]
      rfl

/-- The keys that are added up are those of first appearance. -/
theorem foldl_addKey_eq_eraseDupsBy (added : List Value) :
    added.foldl addKey [] = added.eraseDupsBy Value.sameAs := by
  have fromSeen : ∀ seen : List Value,
      added.foldl addKey seen.reverse = List.eraseDupsBy.loop Value.sameAs added seen := by
    induction added with
    | nil =>
        exact fun _ => rfl
    | cons key rest ih =>
        intro seen
        rw [List.foldl_cons, List.eraseDupsBy.loop, addKey, List.any_reverse]
        cases seen.any key.sameAs with
        | true =>
            exact ih seen
        | false =>
            rw [if_neg Bool.false_ne_true, ← List.reverse_cons]
            exact ih (key :: seen)
  exact fromSeen []

theorem keys_insert (key value : Value) (entries : Entries) :
    keys (insert key value entries) = addKey (keys entries) key := by
  induction entries with
  | nil =>
      rfl
  | cons entry rest ih =>
      obtain ⟨candidate, old⟩ := entry
      rw [insert]
      cases same : key.sameAs candidate with
      | true =>
          simp [keys, addKey, same]
      | false =>
          have inRest : (candidate :: keys rest).any key.sameAs = (keys rest).any key.sameAs := by
            rw [List.any_cons, same, Bool.false_or]
          have later : keys ((candidate, old) :: insert key value rest) =
              candidate :: addKey (keys rest) key := congrArg (List.cons candidate) ih
          have before : keys ((candidate, old) :: rest) = candidate :: keys rest := rfl
          rw [if_neg Bool.false_ne_true, later, before, addKey, addKey, inRest]
          split
          · rfl
          · rfl

theorem overlay_cons (lower : Entries) (key value : Value) (rest : Entries) :
    overlay lower ((key, value) :: rest) = overlay (insert key value lower) rest :=
  rfl

theorem keys_overlay (lower upper : Entries) :
    keys (overlay lower upper) = (keys upper).foldl addKey (keys lower) := by
  induction upper generalizing lower with
  | nil =>
      rfl
  | cons entry rest ih =>
      obtain ⟨key, value⟩ := entry
      rw [overlay_cons, ih, keys_insert]
      rfl

theorem plainKeys_insert_iff (key value : Value) (entries : Entries) :
    PlainKeys (insert key value entries) ↔ key.IsPlain ∧ PlainKeys entries := by
  rw [PlainKeys, keys_insert]
  constructor
  · intro plain
    refine ⟨?_, fun known member => plain known (mem_addKey_of_mem member key)⟩
    obtain ⟨known, member, rfl | same⟩ := exists_mem_addKey (keys entries) key
    · exact plain key member
    · exact (plain known member).of_sameAs same
  · rintro ⟨isPlain, plain⟩ known member
    rcases mem_or_eq_of_mem_addKey member with old | rfl
    · exact plain known old
    · exact isPlain

theorem plainKeys_overlay_iff (lower upper : Entries) :
    PlainKeys (overlay lower upper) ↔ PlainKeys lower ∧ PlainKeys upper := by
  induction upper generalizing lower with
  | nil =>
      exact (and_iff_left plainKeys_nil).symm
  | cons entry rest ih =>
      obtain ⟨key, value⟩ := entry
      rw [overlay_cons, ih, plainKeys_insert_iff, plainKeys_cons_iff]
      constructor
      · rintro ⟨⟨isPlain, below⟩, above⟩
        exact ⟨below, isPlain, above⟩
      · rintro ⟨below, isPlain, above⟩
        exact ⟨⟨isPlain, below⟩, above⟩

theorem Distinct.insert {entries : Entries} (distinct : Distinct entries)
    (plain : PlainKeys entries) (key value : Value) : Distinct (insert key value entries) := by
  rw [Distinct, keys_insert, addKey]
  split
  · exact distinct
  · rename_i isNew
    rw [List.map_append, List.nodup_append]
    refine ⟨distinct, List.pairwise_singleton _ _, ?_⟩
    intro code member other isOther isCode
    obtain ⟨known, among, isKnown⟩ := List.mem_map.mp member
    have same : key.plainCode? = known.plainCode? := by
      rw [isKnown, isCode, List.mem_singleton.mp isOther]
    exact isNew (List.any_eq_true.mpr
      ⟨known, among, (Value.sameAs_iff (plain known among)).mpr same⟩)

theorem distinct_overlay {lower upper : Entries} (distinct : Distinct lower)
    (below : PlainKeys lower) (above : PlainKeys upper) : Distinct (overlay lower upper) := by
  induction upper generalizing lower with
  | nil =>
      exact distinct
  | cons entry rest ih =>
      obtain ⟨key, value⟩ := entry
      obtain ⟨isPlain, later⟩ := plainKeys_cons_iff.mp above
      have inserted := (plainKeys_insert_iff key value lower).mpr ⟨isPlain, below⟩
      exact ih (distinct.insert below key value) inserted later

/-! ### Values -/

theorem find?_insert {key value : Value} {entries : Entries} (isPlain : key.IsPlain)
    (plain : PlainKeys entries) (wanted : Value) :
    find? wanted (insert key value entries) =
      if wanted.sameAs key then some value else find? wanted entries := by
  induction entries with
  | nil =>
      rfl
  | cons entry rest ih =>
      obtain ⟨candidate, old⟩ := entry
      obtain ⟨here, later⟩ := plainKeys_cons_iff.mp plain
      rw [insert]
      by_cases same : key.sameAs candidate = true
      · -- the wanted key is the same as both keys or as neither
        have alike : wanted.sameAs candidate = wanted.sameAs key := by
          rw [Bool.eq_iff_iff, Value.sameAs_iff here, Value.sameAs_iff isPlain,
            (Value.sameAs_iff here).mp same]
        rw [if_pos same, find?, find?, alike]
        split
        · rfl
        · rfl
      · rw [if_neg same, find?, find?, ih later]
        by_cases found : wanted.sameAs candidate = true
        · have other : ¬ wanted.sameAs key = true := by
            intro isKey
            rw [Value.sameAs_iff isPlain, (Value.sameAs_iff here).mp found] at isKey
            exact same ((Value.sameAs_iff here).mpr isKey.symm)
          rw [if_pos found, if_neg other, if_pos found]
        · rw [if_neg found, if_neg found]

theorem find?_overlay {lower upper : Entries} (below : PlainKeys lower) (above : PlainKeys upper)
    (wanted : Value) :
    find? wanted (overlay lower upper) = (last? wanted upper).or (find? wanted lower) := by
  induction upper generalizing lower with
  | nil =>
      rfl
  | cons entry rest ih =>
      obtain ⟨key, value⟩ := entry
      obtain ⟨isPlain, later⟩ := plainKeys_cons_iff.mp above
      have inserted := (plainKeys_insert_iff key value lower).mpr ⟨isPlain, below⟩
      rw [overlay_cons, ih inserted later, find?_insert isPlain below, last?_cons, Option.or_assoc]
      split
      · rfl
      · rfl

theorem find?_eq_some_iff {entries : Entries} (plain : PlainKeys entries)
    (distinct : Distinct entries) {wanted value : Value} :
    find? wanted entries = some value ↔
      ∃ key, (key, value) ∈ entries ∧ wanted.sameAs key = true := by
  constructor
  · exact mem_of_find?
  · rintro ⟨key, member, found⟩
    induction entries with
    | nil => cases member
    | cons entry rest ih =>
        obtain ⟨isPlain, plainLater⟩ := List.forall_mem_cons.mp plain
        obtain ⟨isNew, distinctLater⟩ := List.nodup_cons.mp distinct
        rw [find?]
        rcases List.mem_cons.mp member with rfl | later
        · rw [if_pos found]
        · have among : key ∈ keys rest := List.mem_map_of_mem later
          have other : ¬ wanted.sameAs entry.1 = true := by
            intro isFirst
            have same : key.plainCode? = entry.1.plainCode? := by
              rw [← (Value.sameAs_iff (plainLater key among)).mp found,
                (Value.sameAs_iff isPlain).mp isFirst]
            exact isNew (same ▸ List.mem_map_of_mem among)
          rw [if_neg other]
          exact ih plainLater distinctLater later

/-- Where no key stands twice, look-up does not depend on the order. -/
theorem find?_eq_of_perm {entries others : Entries} (plain : PlainKeys entries)
    (distinct : Distinct entries) (permuted : others.Perm entries) (wanted : Value) :
    find? wanted others = find? wanted entries := by
  have permutedKeys : (keys others).Perm (keys entries) := permuted.map Prod.fst
  have plainOthers : PlainKeys others := fun key member =>
    plain key (permutedKeys.mem_iff.mp member)
  have distinctOthers : Distinct others :=
    (permutedKeys.map Value.plainCode?).nodup_iff.mpr distinct
  refine Option.ext fun value => ?_
  rw [find?_eq_some_iff plain distinct, find?_eq_some_iff plainOthers distinctOthers]
  exact exists_congr fun key => and_congr_left fun _ => permuted.mem_iff

theorem last?_eq_find? {entries : Entries} (plain : PlainKeys entries) (distinct : Distinct entries)
    (wanted : Value) : last? wanted entries = find? wanted entries :=
  find?_eq_of_perm plain distinct (List.reverse_perm entries) wanted

/-! ### Some of the keys -/

/-- The entries under keys of which a code says that they are wanted. -/
def under (wanted : Option (String ⊕ List UInt8) → Bool) (entries : Entries) : Entries :=
  entries.filter fun entry => wanted entry.1.plainCode?

theorem under_cons (wanted : Option (String ⊕ List UInt8) → Bool) (key value : Value)
    (rest : Entries) :
    under wanted ((key, value) :: rest) =
      if wanted key.plainCode? then (key, value) :: under wanted rest else under wanted rest := by
  rw [under, List.filter_cons]
  rfl

theorem under_insert (wanted : Option (String ⊕ List UInt8) → Bool) {entries : Entries}
    (plain : PlainKeys entries) (key value : Value) :
    under wanted (insert key value entries) =
      if wanted key.plainCode? then insert key value (under wanted entries)
      else under wanted entries := by
  induction entries with
  | nil =>
      exact under_cons wanted key value []
  | cons entry rest ih =>
      obtain ⟨candidate, old⟩ := entry
      obtain ⟨isPlain, later⟩ := plainKeys_cons_iff.mp plain
      rw [insert]
      by_cases same : key.sameAs candidate = true
      · rw [if_pos same, under_cons, under_cons, (Value.sameAs_iff isPlain).mp same]
        split
        · rw [insert, if_pos same]
        · rfl
      · rw [if_neg same, under_cons, under_cons, ih later]
        split
        · split
          · rw [insert, if_neg same]
          · rfl
        · rfl

theorem under_overlay (wanted : Option (String ⊕ List UInt8) → Bool) {lower upper : Entries}
    (below : PlainKeys lower) (above : PlainKeys upper) :
    under wanted (overlay lower upper) = overlay (under wanted lower) (under wanted upper) := by
  induction upper generalizing lower with
  | nil =>
      rfl
  | cons entry rest ih =>
      obtain ⟨key, value⟩ := entry
      obtain ⟨isPlain, later⟩ := plainKeys_cons_iff.mp above
      have inserted := (plainKeys_insert_iff key value lower).mpr ⟨isPlain, below⟩
      rw [overlay_cons, ih inserted later, under_insert wanted below, under_cons]
      split
      · rfl
      · rfl

/-! ### Entries from nothing -/

theorem plainKeys_append_iff (earlier later : Entries) :
    PlainKeys (earlier ++ later) ↔ PlainKeys earlier ∧ PlainKeys later := by
  rw [PlainKeys, keys, List.map_append, List.forall_mem_append]
  rfl

theorem plainKeys_ofList_iff (entries : Entries) :
    PlainKeys (ofList entries) ↔ PlainKeys entries := by
  rw [ofList, plainKeys_overlay_iff, and_iff_right plainKeys_nil]

theorem keys_ofList (entries : Entries) :
    keys (ofList entries) = (keys entries).eraseDupsBy Value.sameAs := by
  rw [ofList, keys_overlay, ← foldl_addKey_eq_eraseDupsBy]
  rfl

section

variable {entries : Entries} (plain : PlainKeys entries)

include plain

theorem distinct_ofList : Distinct (ofList entries) :=
  distinct_overlay List.nodup_nil plainKeys_nil plain

theorem find?_ofList (wanted : Value) : find? wanted (ofList entries) = last? wanted entries := by
  rw [ofList, find?_overlay plainKeys_nil plain, find?, Option.or_none]

theorem last?_ofList (wanted : Value) : last? wanted (ofList entries) = last? wanted entries := by
  rw [last?_eq_find? ((plainKeys_ofList_iff entries).mpr plain) (distinct_ofList plain),
    find?_ofList plain]

theorem under_ofList (wanted : Option (String ⊕ List UInt8) → Bool) :
    under wanted (ofList entries) = ofList (under wanted entries) :=
  under_overlay wanted plainKeys_nil plain

end

theorem eraseDupsBy_append_eraseDupsBy {before within after : List Value}
    (plainBefore : ∀ key ∈ before, key.IsPlain) (plainWithin : ∀ key ∈ within, key.IsPlain) :
    (before ++ within.eraseDupsBy Value.sameAs ++ after).eraseDupsBy Value.sameAs =
      (before ++ within ++ after).eraseDupsBy Value.sameAs := by
  have plainSeen : ∀ key ∈ before.foldl addKey [], key.IsPlain := by
    intro key member
    rcases mem_or_mem_of_mem_foldl_addKey member with impossible | added
    · cases impossible
    · exact plainBefore key added
  have collapsed := foldl_addKey_foldl plainSeen plainKeys_nil plainWithin
  rw [← foldl_addKey_eq_eraseDupsBy, ← foldl_addKey_eq_eraseDupsBy, ← foldl_addKey_eq_eraseDupsBy,
    List.foldl_append, List.foldl_append, List.foldl_append, List.foldl_append]
  exact congrArg (after.foldl addKey) collapsed

end Entries
end ImportPlanning
