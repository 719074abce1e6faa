/-
The two ways in which the name of a table is cut. For the look-up of its primary key the name is cut
at its last point, and what stands before that is the schema, unless it is empty; between the quotes of
a statement the name is cut at every point. Both speak of one table for every name but those that
begin with their only point.

Whether a data source has such a table is left open.
-/
import ImportPlanning.Proofs.Identifiers
import ImportPlanning.Proofs.Verbatim

namespace ImportPlanning

open SessionM
open ImportPlanning.Text

/-! ### Cuts at the last occurrence -/

namespace Text

theorem cutAtLast?_eq_none_iff {mark : Char} {text : List Char} :
    cutAtLast? mark text = none ↔ mark ∉ text := by
  induction text with
  | nil =>
      simp [cutAtLast?]
  | cons character rest ih =>
      rw [cutAtLast?, List.mem_cons, not_or, ← ih]
      cases cutAtLast? mark rest with
      | some cut => simp
      | none => simp [eq_comm]

/-- A cut leaves out one occurrence, and behind it there is no other. -/
theorem of_cutAtLast?_eq_some {mark : Char} {text front last : List Char}
    (found : cutAtLast? mark text = some (front, last)) :
    text = front ++ mark :: last ∧ mark ∉ last := by
  induction text generalizing front with
  | nil =>
      cases found
  | cons character rest ih =>
      rw [cutAtLast?] at found
      cases later : cutAtLast? mark rest with
      | some cut =>
          rw [later] at found
          cases found
          obtain ⟨isRest, missing⟩ := ih later
          exact ⟨congrArg (character :: ·) isRest, missing⟩
      | none =>
          rw [later] at found
          obtain ⟨isMark, same⟩ := Option.ite_none_right_eq_some.mp found
          cases same
          exact ⟨congrArg (· :: _) isMark, cutAtLast?_eq_none_iff.mp later⟩

private theorem intercalate_concat (separator : Char) {parts : List (List Char)}
    (several : parts ≠ []) (last : List Char) :
    [separator].intercalate (parts ++ [last]) =
      [separator].intercalate parts ++ separator :: last := by
  induction parts with
  | nil =>
      exact absurd rfl several
  | cons part others ih =>
      by_cases ended : others = []
      · subst ended
        rw [List.singleton_append, List.intercalate_cons_cons, List.intercalate_singleton,
          List.intercalate_singleton, List.append_assoc, List.singleton_append]
      · have later : others ++ [last] ≠ [] := by simp
        rw [List.cons_append, List.intercalate_cons_of_ne_nil later, ih ended,
          List.intercalate_cons_of_ne_nil ended, List.append_assoc, List.append_assoc,
          List.append_assoc]

end Text

/-! ### Names between quotes -/

namespace Dialect

/-- A text between the quotes of a name, its points included. -/
def quotedText (dialect : Dialect) (name : String) : String :=
  String.ofList (dialect.quoteName name.toList)

/-- A table that is looked up between quotes: its name, behind that of its schema if it has one. -/
def delimitLookup (dialect : Dialect) : Option String × String → String
  | (none, table) => dialect.quotedText table
  | (some schema, table) => dialect.delimit schema ++ "." ++ dialect.quotedText table

variable (dialect : Dialect)

theorem delimit_of_pointless {name : String} (pointless : '.' ∉ name.toList) :
    dialect.delimit name = dialect.quotedText name := by
  rw [delimit, fields_of_not_mem pointless, List.map_singleton, List.intercalate_singleton,
    quotedText]

theorem delimit_append {table : String} (pointless : '.' ∉ table.toList) (schema : String) :
    dialect.delimit (schema ++ "." ++ table) =
      dialect.delimit schema ++ "." ++ dialect.quotedText table := by
  have cut : fields '.' (schema ++ "." ++ table).toList =
      fields '.' schema.toList ++ [table.toList] := by
    rw [← fields_of_not_mem pointless, ← fields_append, String.toList_append,
      String.toList_append, List.append_assoc]
    rfl
  have several : (fields '.' schema.toList).map dialect.quoteName ≠ [] :=
    mt List.map_eq_nil_iff.mp (fields_ne_nil '.' schema.toList)
  apply String.toList_injective
  rw [delimit, delimit, quotedText, cut, List.map_append, List.map_singleton,
    intercalate_concat '.' several, String.toList_ofList, String.toList_append,
    String.toList_append, String.toList_ofList, String.toList_ofList, String.toList_ofList,
    List.append_assoc]
  rfl

end Dialect

namespace Executor

/-! ### Look-ups -/

/-- A name without points is looked up as it is; one with points is cut at the last of them, and an
empty schema is none. -/
theorem splitTable_cases (name : String) :
    ('.' ∉ name.toList ∧ splitTable name = (none, name)) ∨
      ∃ schema table, name = schema ++ "." ++ table ∧ '.' ∉ table.toList ∧
        splitTable name = (if schema = "" then none else some schema, table) := by
  rw [splitTable]
  cases found : cutAtLast? '.' name.toList with
  | none =>
      exact Or.inl ⟨cutAtLast?_eq_none_iff.mp found, rfl⟩
  | some cut =>
      obtain ⟨isName, pointless⟩ := of_cutAtLast?_eq_some found
      refine Or.inr ⟨String.ofList cut.1, String.ofList cut.2, ?_, ?_, ?_⟩
      · apply String.toList_injective
        simpa using isName
      · rwa [String.toList_ofList]
      · dsimp only
        simp only [List.isEmpty_iff, ← String.ofList_eq_empty_iff]

/-- An executor that reaches its data source looks up a table by its schema and its name there. -/
theorem lookups_primaryKey {source : DataSource} {session : Session}
    (reaches : Reaches source session) (table : String) :
    (primaryKey source table session).2.trace.lookups =
      session.trace.lookups ++ [splitTable table] := by
  obtain ⟨ready, isReady, _, _, lookups⟩ :=
    requireEngine_of_obtains reaches.isOpen reaches.obtains
  have connected : source.connect = .ok () := by rw [DataSource.connect, reaches.connects]
  rw [primaryKey]
  dsimp only
  rw [run_bind, isReady]
  dsimp only
  rw [connected, run_bind]
  dsimp only [guarded]
  rw [run_pure]
  dsimp only
  rw [run_bind, run_record]
  dsimp only
  rw [← lookups]
  refine (@Asks.trace_of_nothing _ (fun _ => True) _ ?_ _).1
  apply asks_after (sends_guarded _ _ _)
  intro columns _
  split
  · exact sends_pure trivial
  · exact sends_pure trivial
  · exact asks_after (sends_note _ _ _) fun _ _ => sends_pure trivial

/-- A text behind its first point holds another point where something stood before the last one. -/
private theorem ne_point_append {schema table other : String} (nonempty : schema ≠ "")
    (pointless : '.' ∉ other.toList) : schema ++ "." ++ table ≠ "." ++ other := by
  intro same
  obtain ⟨first, others, isSchema⟩ :=
    List.exists_cons_of_ne_nil (mt String.toList_eq_nil_iff.mp nonempty)
  have lists := congrArg String.toList same
  simp only [String.toList_append, isSchema, List.cons_append] at lists
  have isOther : others ++ ".".toList ++ table.toList = other.toList := (List.cons.inj lists).2
  apply pointless
  rw [← isOther]
  simp

/-- The name has no points, or something stands before the last of them. -/
def IsAnchored (name : String) : Prop :=
  '.' ∉ name.toList ∨
    ∃ schema table, name = schema ++ "." ++ table ∧ '.' ∉ table.toList ∧ schema ≠ ""

/-- Of all names, only those that begin with their only point are not anchored. -/
theorem not_isAnchored_iff (name : String) :
    ¬ IsAnchored name ↔ ∃ table, name = "." ++ table ∧ '.' ∉ table.toList := by
  constructor
  · intro loose
    rw [IsAnchored, not_or] at loose
    rcases splitTable_cases name with ⟨pointless, _⟩ | ⟨schema, table, isName, pointless, _⟩
    · exact absurd pointless loose.1
    · by_cases empty : schema = ""
      · exact ⟨table, by rw [isName, empty, String.empty_append], pointless⟩
      · exact absurd ⟨schema, table, isName, pointless, empty⟩ loose.2
  · rintro ⟨table, rfl, pointless⟩ (missing | ⟨schema, other, same, _, nonempty⟩)
    · exact missing (by simp)
    · exact ne_point_append nonempty pointless same.symm

/-- What is looked up stands between quotes as the whole name does just if the name is anchored:
otherwise the empty schema is left out. -/
theorem delimit_eq_delimitLookup_iff (dialect : Dialect) (name : String) :
    dialect.delimit name = dialect.delimitLookup (splitTable name) ↔ IsAnchored name := by
  rcases splitTable_cases name with ⟨pointless, isSplit⟩ | ⟨schema, table, rfl, pointless, isSplit⟩
  · rw [isSplit, dialect.delimit_of_pointless pointless]
    exact iff_of_true rfl (Or.inl pointless)
  · rw [isSplit]
    by_cases empty : schema = ""
    · subst empty
      rw [if_pos rfl, Dialect.delimitLookup, ← dialect.delimit_of_pointless pointless,
        dialect.delimit_injective.eq_iff]
      refine iff_of_false ?_ ?_
      · -- the name has a point, and the table has none
        intro same
        exact pointless (same ▸ by simp)
      · rw [not_isAnchored_iff]
        exact ⟨table, by rw [String.empty_append], pointless⟩
    · rw [if_neg empty, dialect.delimit_append pointless]
      exact iff_of_true rfl (Or.inr ⟨schema, table, rfl, pointless, empty⟩)

end Executor

namespace Planner

open Executor

/-! ### Statements -/

/-- The statements that are written for a table set its name between quotes as `quoted`. -/
structure WritesTable (source : DataSource) (table : TableSettings) (quoted : String) : Prop where
  boundary : table.boundaryQuery = none → ∀ column session sql,
    (resolveBoundaryQuery source table column session).1 = .ok sql →
      sql = "SELECT MIN(" ++ column ++ "), MAX(" ++ column ++ ") FROM " ++ quoted
  template : ∀ session extraction,
    (resolveExtraction source table session).1 = .ok extraction →
      extraction.dataSql =
        "SELECT " ++ table.columns.getD "*" ++ " FROM " ++ quoted ++ " WHERE $\x7bCONDITIONS\x7d"

theorem writesTable {table : TableSettings} {name : String}
    (chosen : table.source = .ok (.table name)) (source : DataSource) :
    WritesTable source table (source.dialect.delimit name) where
  boundary := by
    intro unset column session sql resolved
    rw [boundaryQuery_of_resolved chosen resolved, boundaryStatement, unset, Option.getD_none]
    rfl
  template := by
    intro session extraction resolved
    rw [(extracts_of_resolved chosen resolved).1, template_table]

/-- At most one key is looked up for a table, and it is by schema and name, of which the schema is
never empty. The statements written for the table name what is looked up, with its schema before it if
it has one, if and only if the name is anchored, which only a name is not that begins with its only
point. -/
theorem lookup_agrees_iff (source : DataSource) (name : String) :
    (∀ session, ∃ looked, looked <+: [splitTable name] ∧
      (primaryKey source name session).2.trace.lookups = session.trace.lookups ++ looked ∧
      (Reaches source session → looked = [splitTable name])) ∧
    (splitTable name).1 ≠ some "" ∧
    (∀ table : TableSettings, table.source = .ok (.table name) →
      WritesTable source table (source.dialect.delimit name)) ∧
    (source.dialect.delimit name = source.dialect.delimitLookup (splitTable name) ↔
      IsAnchored name) ∧
    (¬ IsAnchored name ↔ ∃ table, name = "." ++ table ∧ '.' ∉ table.toList) := by
  refine ⟨?_, ?_, fun _ chosen => writesTable chosen source,
    delimit_eq_delimitLookup_iff source.dialect name, not_isAnchored_iff name⟩
  · intro session
    obtain ⟨looked, _, isLooked, _, lookups, _, _⟩ := asks_primaryKey source name session
    refine ⟨looked, isLooked, lookups, ?_⟩
    intro reaches
    rw [lookups_primaryKey reaches] at lookups
    exact (List.append_cancel_left lookups).symm
  · rcases splitTable_cases name with ⟨_, isSplit⟩ | ⟨schema, table, _, _, isSplit⟩
    · rw [isSplit]
      exact nofun
    · rw [isSplit]
      dsimp only
      split
      · exact nofun
      next nonempty =>
        intro same
        exact nonempty (Option.some.inj same)

/-- A data source with one key, and without answers to statements. -/
private def keyed : DataSource :=
  { dialect := .sqlite
    typeObjects := .none
    queries := []
    primaryKeys := [⟨some "shop.eu", "orders", .ok ["id"]⟩]
    connectFault := none
    createFault := none }

private def keyReader : Session :=
  ⟨⟨"sqlite", "sqlite://", none, none, true, true, false⟩, .empty, []⟩

/-- With two points the schema is what stands before the second, and the statement names the same
table; where the only point comes first the empty schema is quoted but not looked up. -/
theorem lookup_agrees_iff_nested :
    let table : TableSettings := ⟨some "shop.eu.orders", none, some "id", none, none⟩
    let boundaryQuery := "SELECT MIN(id), MAX(id) FROM \"shop\".\"eu\".\"orders\""
    (primaryKey keyed "shop.eu.orders" keyReader).2.trace.lookups = [(some "shop.eu", "orders")] ∧
      (resolveBoundaryQuery keyed table "id" keyReader).1 = .ok boundaryQuery ∧
      boundaryQuery = "SELECT MIN(id), MAX(id) FROM " ++
        keyed.dialect.delimitLookup (some "shop.eu", "orders") ∧
      keyed.dialect.delimit ".orders" ≠
        keyed.dialect.delimitLookup (splitTable ".orders") := by
  intro table boundaryQuery
  obtain ⟨looksUp, _, writes, agrees, _⟩ := lookup_agrees_iff keyed "shop.eu.orders"
  obtain ⟨_, _, _, looseAgrees, loose⟩ := lookup_agrees_iff keyed ".orders"
  have isSplit : splitTable "shop.eu.orders" = (some "shop.eu", "orders") := by decide
  have resolved : (resolveBoundaryQuery keyed table "id" keyReader).1 = .ok boundaryQuery :=
    toOption_eq_some_iff.mp (by decide +kernel)
  refine ⟨?_, resolved, ?_, ?_⟩
  · obtain ⟨looked, _, lookups, reached⟩ := looksUp keyReader
    rw [lookups, reached ⟨rfl, Or.inl rfl, rfl⟩, isSplit]
    rfl
  · have anchored : IsAnchored "shop.eu.orders" :=
      Or.inr ⟨"shop.eu", "orders", by decide, by decide, by decide⟩
    have written := (writes table rfl).boundary rfl "id" keyReader boundaryQuery resolved
    rw [written, agrees.mpr anchored, isSplit]
    rfl
  · rw [Ne, looseAgrees, loose]
    exact ⟨"orders", by decide, by decide⟩

end Planner
end ImportPlanning
