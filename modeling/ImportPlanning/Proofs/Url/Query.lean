/-
The query of a URL, written and read. Reading puts the values of one key together, in their order, so
that the keys are distinct, each has a value and no value is empty. A query like this is read from the
text it is written as, but for the order of its keys: they are written in ascending order, and a query
in that order is read as it is.

The order of the keys has no meaning here.
-/
import ImportPlanning.Proofs.Text.Fields
import ImportPlanning.Proofs.Url.Percent
import ImportPlanning.Url.Printer
import ImportPlanning.Url.Reader

namespace ImportPlanning.Url

open ImportPlanning.Text

/-- The keys and values of a query. -/
abbrev Query : Type :=
  List (String × List String)

/-- A query as reading makes it: the keys are distinct, and each has values, none of them empty. -/
structure Gathered (query : Query) : Prop where
  distinct : (query.map Prod.fst).Nodup
  filled : ∀ entry ∈ query, entry.2 ≠ []
  written : ∀ entry ∈ query, "" ∉ entry.2

/-! ### What is read -/

theorem keys_addQueryPair (query : Query) (pair : String × String) :
    (addQueryPair query pair).map Prod.fst =
      if pair.1 ∈ query.map Prod.fst then query.map Prod.fst
      else query.map Prod.fst ++ [pair.1] := by
  induction query with
  | nil => rfl
  | cons entry rest ih =>
      obtain ⟨key, values⟩ := entry
      rw [addQueryPair]
      by_cases same : key = pair.1
      · rw [if_pos same, List.map_cons, List.map_cons,
          if_pos (same ▸ List.mem_cons_self)]
      · rw [if_neg same, List.map_cons, ih, List.map_cons]
        simp only [List.mem_cons, Ne.symm same, false_or]
        split
        · rfl
        · rfl

theorem mem_addQueryPair {query : Query} {pair : String × String} {entry : String × List String}
    (member : entry ∈ addQueryPair query pair) :
    entry ∈ query ∨ ∃ values, entry.2 = values ++ [pair.2] ∧
      ∀ value ∈ values, ∃ before ∈ query, value ∈ before.2 := by
  induction query with
  | nil =>
      rw [addQueryPair, List.mem_singleton] at member
      refine .inr ⟨[], by rw [member]; rfl, ?_⟩
      exact fun value none => absurd none List.not_mem_nil
  | cons first rest ih =>
      obtain ⟨key, values⟩ := first
      rw [addQueryPair] at member
      split at member
      · rcases List.mem_cons.mp member with rfl | later
        · exact .inr ⟨values, rfl, fun value isValue =>
            ⟨(key, values), List.mem_cons_self, isValue⟩⟩
        · exact .inl (List.mem_cons_of_mem _ later)
      · rcases List.mem_cons.mp member with rfl | later
        · exact .inl List.mem_cons_self
        · rcases ih later with old | ⟨values, whole, before⟩
          · exact .inl (List.mem_cons_of_mem _ old)
          · refine .inr ⟨values, whole, fun value isValue => ?_⟩
            obtain ⟨entry, present, inEntry⟩ := before value isValue
            exact ⟨entry, List.mem_cons_of_mem _ present, inEntry⟩

/-- One more value keeps a query as it has to be. -/
theorem Gathered.add {query : Query} (gathered : Gathered query) {pair : String × String}
    (filled : pair.2 ≠ "") : Gathered (addQueryPair query pair) where
  distinct := by
    rw [keys_addQueryPair]
    split
    · exact gathered.distinct
    · rename_i fresh
      rw [List.nodup_append]
      refine ⟨gathered.distinct, List.nodup_cons.mpr ⟨List.not_mem_nil, List.nodup_nil⟩, ?_⟩
      intro key old other isNew
      rw [List.mem_singleton.mp isNew]
      rintro rfl
      exact fresh old
  filled := by
    intro entry member
    rcases mem_addQueryPair member with old | ⟨values, whole, _⟩
    · exact gathered.filled entry old
    · rw [whole]
      exact List.append_ne_nil_of_right_ne_nil _ (List.cons_ne_nil _ _)
  written := by
    intro entry member
    rcases mem_addQueryPair member with old | ⟨values, whole, before⟩
    · exact gathered.written entry old
    · rw [whole, List.mem_append, List.mem_singleton]
      rintro (inside | isLast)
      · obtain ⟨entry, present, inEntry⟩ := before "" inside
        exact gathered.written entry present inEntry
      · exact filled isLast.symm

theorem Gathered.nil : Gathered [] where
  distinct := List.nodup_nil
  filled := fun _ member => absurd member List.not_mem_nil
  written := fun _ member => absurd member List.not_mem_nil

theorem value_of_queryPair? {characters : List Char} {pair : String × String}
    (read : queryPair? characters = some pair) : pair.2 ≠ "" := by
  rw [queryPair?] at read
  split at read
  · split at read
    · cases read
    · rename_i filled
      cases read
      exact decodeQueryPart_ne_empty fun empty => filled (List.isEmpty_iff.mpr empty)
  · cases read

theorem gathered_readQuery (characters : List Char) : Gathered (readQuery characters) := by
  have run : ∀ (pairs : List (String × String)) (query : Query), Gathered query →
      (∀ pair ∈ pairs, pair.2 ≠ "") → Gathered (pairs.foldl addQueryPair query) := by
    intro pairs
    induction pairs with
    | nil => exact fun query gathered _ => gathered
    | cons pair rest ih =>
        intro query gathered filled
        exact ih _ (gathered.add (filled pair List.mem_cons_self)) fun other member =>
          filled other (List.mem_cons_of_mem pair member)
  refine run _ [] Gathered.nil ?_
  intro pair member
  obtain ⟨field, _, read⟩ := List.mem_filterMap.mp member
  exact value_of_queryPair? read

theorem Gathered.perm {left right : Query} (same : left.Perm right) (gathered : Gathered left) :
    Gathered right where
  distinct := (same.map Prod.fst).nodup_iff.mp gathered.distinct
  filled := fun entry member => gathered.filled entry (same.mem_iff.mpr member)
  written := fun entry member => gathered.written entry (same.mem_iff.mpr member)

/-! ### Pairs -/

/-- The pairs of a query, each key with each of its values. -/
def pairsOf (query : Query) : List (String × String) :=
  query.flatMap fun entry => entry.2.map fun value => (entry.1, value)

theorem addQueryPair_append {before : Query} {pair : String × String}
    (other : pair.1 ∉ before.map Prod.fst) (rest : Query) :
    addQueryPair (before ++ rest) pair = before ++ addQueryPair rest pair := by
  induction before with
  | nil => rfl
  | cons entry others ih =>
      rw [List.map_cons, List.mem_cons, not_or] at other
      rw [List.cons_append, addQueryPair, if_neg fun same => other.1 same.symm, ih other.2,
        List.cons_append]

theorem foldl_addQueryPair_values {before : Query} {key : String}
    (other : key ∉ before.map Prod.fst) (values more : List String) :
    (more.map fun value => (key, value)).foldl addQueryPair (before ++ [(key, values)]) =
      before ++ [(key, values ++ more)] := by
  induction more generalizing values with
  | nil => rw [List.append_nil, List.map_nil, List.foldl_nil]
  | cons value rest ih =>
      rw [List.map_cons, List.foldl_cons, addQueryPair_append other, addQueryPair, if_pos rfl, ih,
        List.append_assoc, List.singleton_append]

/-- The pairs of a query, put together again, are the query. -/
theorem foldl_pairsOf {query : Query} (gathered : Gathered query) :
    (pairsOf query).foldl addQueryPair [] = query := by
  have run : ∀ (rest before : Query), ((before ++ rest).map Prod.fst).Nodup →
      (∀ entry ∈ rest, entry.2 ≠ []) →
      (pairsOf rest).foldl addQueryPair before = before ++ rest := by
    intro rest
    induction rest with
    | nil => exact fun before _ _ => (List.append_nil before).symm
    | cons entry others ih =>
        intro before distinct filled
        obtain ⟨key, values⟩ := entry
        obtain ⟨first, more, isValues⟩ :=
          List.exists_cons_of_ne_nil (filled (key, values) List.mem_cons_self)
        have other : key ∉ before.map Prod.fst := by
          rw [List.map_append, List.map_cons, List.nodup_append] at distinct
          exact fun present => distinct.2.2 key present key List.mem_cons_self rfl
        have opened : addQueryPair before (key, first) = before ++ [(key, [first])] := by
          have added : addQueryPair (before ++ []) (key, first) = before ++ [(key, [first])] :=
            addQueryPair_append other []
          rwa [List.append_nil] at added
        have later := ih (before ++ [(key, values)])
          (by rwa [List.append_assoc, List.singleton_append])
          (fun next member => filled next (List.mem_cons_of_mem _ member))
        rw [List.append_assoc, List.singleton_append] at later
        rw [pairsOf, List.flatMap_cons, List.foldl_append, ← pairsOf]
        dsimp only at isValues ⊢
        rw [isValues, List.map_cons, List.foldl_cons, opened, foldl_addQueryPair_values other,
          List.singleton_append, ← isValues, later]
  exact run query [] gathered.distinct gathered.filled

/-! ### What is written -/

/-- A key and a value as they are written. -/
def pairText (pair : String × String) : String :=
  encodeQueryPart pair.1 ++ "=" ++ encodeQueryPart pair.2

theorem toList_pairText (pair : String × String) :
    (pairText pair).toList =
      (encodeQueryPart pair.1).toList ++ '=' :: (encodeQueryPart pair.2).toList := by
  rw [pairText, String.toList_append, String.toList_append, List.append_assoc]
  rfl

theorem not_mem_pairText {mark : Char} (isCoded : isUnreserved mark = false) (notPercent : mark ≠ '%')
    (notPlus : mark ≠ '+') (notEquals : mark ≠ '=') (pair : String × String) :
    mark ∉ (pairText pair).toList := by
  rw [toList_pairText, List.mem_append, List.mem_cons]
  rintro (inKey | isEquals | inValue)
  · exact not_mem_encodeQueryPart isCoded notPercent notPlus pair.1 inKey
  · exact notEquals isEquals
  · exact not_mem_encodeQueryPart isCoded notPercent notPlus pair.2 inValue

theorem queryPair?_pairText {pair : String × String} (filled : pair.2 ≠ "") :
    queryPair? (pairText pair).toList = some pair := by
  have noMark : '=' ∉ (encodeQueryPart pair.1).toList :=
    not_mem_encodeQueryPart (by decide) (by decide) (by decide) pair.1
  rw [queryPair?, toList_pairText, cutAt?_append noMark]
  dsimp only
  rw [if_neg fun empty => encodeQueryPart_ne_empty filled (List.isEmpty_iff.mp empty),
    decodeQueryPart_encodeQueryPart, decodeQueryPart_encodeQueryPart]

theorem filterMap_queryPair? {pairs : List (String × String)}
    (filled : ∀ pair ∈ pairs, pair.2 ≠ "") :
    (pairs.map fun pair => (pairText pair).toList).filterMap queryPair? = pairs := by
  induction pairs with
  | nil => rfl
  | cons pair rest ih =>
      have first : queryPair? (pairText pair).toList = some pair :=
        queryPair?_pairText (filled pair List.mem_cons_self)
      rw [List.map_cons, List.filterMap_cons_some first,
        ih fun other member => filled other (List.mem_cons_of_mem pair member)]

/-- A query with its keys in ascending order. -/
def sorted (query : Query) : Query :=
  query.mergeSort fun left right => left.1 ≤ right.1

/-- A query as it is written, without the question mark. -/
def bodyText (query : Query) : String :=
  "&".intercalate ((pairsOf (sorted query)).map pairText)

theorem queryText_eq (query : Query) :
    queryText query = if query.isEmpty then "" else "?" ++ bodyText query := by
  rw [queryText, bodyText, pairsOf, sorted, List.map_flatMap]
  simp only [List.map_map]
  rfl

theorem perm_sorted (query : Query) : (sorted query).Perm query :=
  List.mergeSort_perm query _

theorem sorted_sorted (query : Query) : sorted (sorted query) = sorted query := by
  apply List.mergeSort_of_pairwise
  apply List.pairwise_mergeSort
  · intro first second third
    simp only [decide_eq_true_eq]
    exact String.le_trans
  · intro first second
    simp only [Bool.or_eq_true, decide_eq_true_eq]
    exact String.le_total first.1 second.1

theorem queryText_sorted (query : Query) : queryText (sorted query) = queryText query := by
  rw [queryText_eq, queryText_eq, (perm_sorted query).isEmpty_eq, bodyText, sorted_sorted, ← bodyText]

private theorem toList_bodyText (query : Query) :
    (bodyText query).toList =
      ['&'].intercalate ((pairsOf (sorted query)).map fun pair => (pairText pair).toList) := by
  rw [bodyText, String.toList_intercalate, List.map_map]
  rfl

theorem not_mem_bodyText {mark : Char} (isCoded : isUnreserved mark = false) (notPercent : mark ≠ '%')
    (notPlus : mark ≠ '+') (notEquals : mark ≠ '=') (notAnd : mark ≠ '&') (query : Query) :
    mark ∉ (bodyText query).toList := by
  rw [toList_bodyText]
  intro member
  rcases mem_intercalate member with isAnd | ⟨part, isPart, inPart⟩
  · exact notAnd isAnd
  · obtain ⟨pair, _, rfl⟩ := List.mem_map.mp isPart
    exact not_mem_pairText isCoded notPercent notPlus notEquals pair inPart

theorem pairsOf_ne_nil {query : Query} (gathered : Gathered query) (filled : query ≠ []) :
    pairsOf query ≠ [] := by
  obtain ⟨entry, rest, rfl⟩ := List.exists_cons_of_ne_nil filled
  rw [pairsOf, List.flatMap_cons]
  apply List.append_ne_nil_of_left_ne_nil
  exact mt List.map_eq_nil_iff.mp (gathered.filled entry List.mem_cons_self)

theorem value_of_mem_pairsOf {query : Query} (gathered : Gathered query) {pair : String × String}
    (member : pair ∈ pairsOf query) : pair.2 ≠ "" := by
  obtain ⟨entry, isEntry, inEntry⟩ := List.mem_flatMap.mp member
  obtain ⟨value, isValue, rfl⟩ := List.mem_map.mp inEntry
  rintro rfl
  exact gathered.written entry isEntry isValue

/-- A query is read from the text it is written as, with its keys in ascending order. -/
theorem readQuery_bodyText {query : Query} (gathered : Gathered query) (filled : query ≠ []) :
    readQuery (bodyText query).toList = sorted query := by
  have gatheredSorted : Gathered (sorted query) := gathered.perm (perm_sorted query).symm
  have someSorted : sorted query ≠ [] := by
    intro empty
    have none := perm_sorted query
    rw [empty] at none
    exact filled none.nil_eq.symm
  have cut : fields '&' (bodyText query).toList =
      (pairsOf (sorted query)).map fun pair => (pairText pair).toList := by
    rw [toList_bodyText]
    apply fields_intercalate
    · exact mt List.map_eq_nil_iff.mp (pairsOf_ne_nil gatheredSorted someSorted)
    · intro part isPart
      obtain ⟨pair, _, rfl⟩ := List.mem_map.mp isPart
      exact not_mem_pairText (by decide) (by decide) (by decide) (by decide) pair
  rw [readQuery, cut, filterMap_queryPair? fun pair => value_of_mem_pairsOf gatheredSorted,
    foldl_pairsOf gatheredSorted]

end ImportPlanning.Url
