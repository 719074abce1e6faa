/-
The table that a statement names, as a data source reads it: without the quotes around each part, and
with the closing quotes between them taken back to one. A published statement names the configured
table unless percent signs are doubled in it. A boundary query that reaches the data source has had
its percent signs doubled once more, of which the driver takes back one doubling, and has lost its
escapes; so it names the table just if the name has neither such a sign nor an escape.

Whether there is such a table is left open.
-/
import Mathlib.Data.List.Count
import ImportPlanning.Proofs.Stages
import ImportPlanning.Proofs.TableNames

namespace ImportPlanning

open SessionM
open ImportPlanning.Text

/-! ### Characters made single -/

namespace Text

/-- A text with every two of a mark made one, from left to right. -/
def undouble (mark : Char) : List Char → List Char
  | first :: second :: rest =>
    if first = mark ∧ second = mark then mark :: undouble mark rest
    else first :: undouble mark (second :: rest)
  | short => short

private theorem undouble_cons_other {mark character : Char} (other : character ≠ mark)
    (rest : List Char) : undouble mark (character :: rest) = character :: undouble mark rest := by
  cases rest with
  | nil =>
      rfl
  | cons second others =>
      rw [undouble, if_neg fun both => other both.1]

theorem undouble_double (mark : Char) (text : List Char) :
    undouble mark (double mark text) = text := by
  induction text with
  | nil =>
      rfl
  | cons character rest ih =>
      by_cases same : character = mark
      · rw [same, double_cons_self, undouble, if_pos ⟨rfl, rfl⟩, ih]
      · rw [double_cons_other same, undouble_cons_other same, ih]

theorem count_double (mark : Char) (text : List Char) :
    (double mark text).count mark = 2 * text.count mark := by
  induction text with
  | nil =>
      rfl
  | cons character rest ih =>
      by_cases same : character = mark
      · rw [same, double_cons_self, List.count_cons_self, List.count_cons_self, ih,
          List.count_cons_self]
        omega
      · rw [double_cons_other same, List.count_cons_of_ne same, List.count_cons_of_ne same, ih]

/-- The fields of a changed text are the changed fields, where a change goes on neither over a
separator nor makes one. -/
theorem fields_of_kept {separator : Char} {change : List Char → List Char}
    (kept : ∀ left right, change (left ++ separator :: right) =
      change left ++ separator :: change right)
    (free : ∀ text, separator ∉ text → separator ∉ change text) (text : List Char) :
    fields separator (change text) = (fields separator text).map change := by
  induction text using induction_at separator with
  | free text missing =>
      rw [fields_of_not_mem missing, fields_of_not_mem (free text missing), List.map_singleton]
  | joined left right missing ih =>
      rw [kept, fields_append, fields_append, List.map_append, ih, fields_of_not_mem missing,
        fields_of_not_mem (free left missing), List.map_singleton]

end Text

/-! ### Percent signs -/

namespace Dialect

variable (dialect : Dialect)

/-- A statement as the driver hands it on: where percent signs are doubled, each two of them are
made one. -/
def collapsed (statement : String) : String :=
  if dialect.doublesPercent then String.ofList (undouble '%' statement.toList) else statement

theorem collapsed_escapePercent (text : List Char) :
    dialect.collapsed (String.ofList (dialect.escapePercent text)) = String.ofList text := by
  rw [collapsed, escapePercent]
  split
  · rw [String.toList_ofList, undouble_double]
  · rfl

theorem fields_escapePercent (text : List Char) :
    fields '.' (dialect.escapePercent text) = (fields '.' text).map dialect.escapePercent := by
  refine fields_of_kept ?_ ?_ text
  · intro left right
    rw [escapePercent, escapePercent, escapePercent]
    split
    · rw [double, List.flatMap_append, ← double, ← double, double_cons_other (by decide)]
    · rfl
  · intro part missing
    rw [escapePercent]
    split
    · rw [double, List.mem_flatMap]
      rintro ⟨character, member, isPoint⟩
      have same : '.' = character := by
        split at isPoint <;> simpa using isPoint
      exact missing (same ▸ member)
    · exact missing

/-- The name has no percent sign that the dialect would double. -/
def HasPlainPercents (name : String) : Prop :=
  dialect.doublesPercent = true → '%' ∉ name.toList

/-- A text with as many percent signs as the name is the name once they are doubled just if none are
and it was the name before. -/
theorem escapePercent_eq_iff {text : List Char} {name : String}
    (sameCount : text.count '%' = name.toList.count '%') :
    dialect.escapePercent text = name.toList ↔
      dialect.HasPlainPercents name ∧ text = name.toList := by
  rw [escapePercent, HasPlainPercents]
  by_cases doubles : dialect.doublesPercent = true
  · rw [if_pos doubles]
    constructor
    · intro same
      have counted := congrArg (List.count '%') same
      rw [count_double, sameCount] at counted
      have missing : '%' ∉ name.toList := List.count_eq_zero.mp (by omega)
      have alsoMissing : '%' ∉ text := List.count_eq_zero.mp (by omega)
      rw [double_of_not_mem alsoMissing] at same
      exact ⟨fun _ => missing, same⟩
    · rintro ⟨missing, rfl⟩
      exact double_of_not_mem (missing doubles)
  · rw [if_neg doubles]
    exact ⟨fun same => ⟨fun impossible => absurd impossible doubles, same⟩, And.right⟩

/-! ### Tables -/

/-- The relation is read to its end as quoted identifiers, and they are the parts of the name. -/
def Denotes (relation name : String) : Prop :=
  Identifiers.read dialect.quotes .outside relation.toList = some (fields '.' name.toList)

theorem denotes_delimit_iff (name : String) :
    dialect.Denotes (dialect.delimit name) name ↔ dialect.HasPlainPercents name := by
  rw [Denotes, dialect.read_delimit, Option.some_inj, ← dialect.fields_escapePercent,
    (fields_injective '.').eq_iff, dialect.escapePercent_eq_iff rfl, and_iff_left rfl]

end Dialect

namespace Statement

/-! ### Escapes -/

/-- A statement without its escapes. -/
def unescaped (sql : String) : String :=
  String.ofList (dropEscapes sql.toList)

private theorem toList_unescaped (sql : String) : (unescaped sql).toList = dropEscapes sql.toList :=
  String.toList_ofList

private theorem isNeutral_point : IsNeutral '.' := by decide +kernel

private theorem isNeutral_opening : IsNeutral '(' := by decide +kernel

private theorem isNeutral_closing : IsNeutral ')' := by decide +kernel

private theorem isNeutral_blank : IsNeutral ' ' := by decide +kernel

private theorem isNeutral_quotes (dialect : Dialect) :
    IsNeutral dialect.quotes.1 ∧ IsNeutral dialect.quotes.2 := by
  cases dialect <;> decide +kernel

theorem count_dropEscapes {character : Char} (noBackslash : character ≠ '\\') (text : List Char) :
    (dropEscapes text).count character = text.count character := by
  induction text using dropEscapes.induct with
  | case1 =>
      rfl
  | case2 rest kept ih =>
      rw [dropEscapes.eq_2, if_pos kept, List.count_cons_of_ne noBackslash.symm,
        List.count_cons_of_ne noBackslash.symm, List.count_cons, List.count_cons, ih]
  | case3 rest dropped ih =>
      rw [dropEscapes.eq_2, if_neg dropped, List.count_cons_of_ne noBackslash.symm,
        List.count_cons, List.count_cons, ih]
  | case4 first rest other ih =>
      rw [dropEscapes.eq_3 first rest other, List.count_cons, List.count_cons, ih]

theorem fields_dropEscapes (text : List Char) :
    fields '.' (dropEscapes text) = (fields '.' text).map dropEscapes :=
  fields_of_kept (dropEscapes_append isNeutral_point)
    (fun part missing => mt (dropEscapes_sublist part).mem missing) text

/-! ### Identifiers -/

private theorem dropEscapes_intercalate (texts : List (List Char)) :
    dropEscapes (['.'].intercalate texts) = ['.'].intercalate (texts.map dropEscapes) := by
  induction texts with
  | nil =>
      rfl
  | cons text others ih =>
      cases others with
      | nil =>
          rw [List.intercalate_singleton, List.map_singleton, List.intercalate_singleton]
      | cons next rest =>
          rw [List.map_cons] at ih
          rw [List.intercalate_cons_cons, List.append_assoc, List.singleton_append,
            dropEscapes_append isNeutral_point, ih, List.map_cons, List.map_cons,
            List.intercalate_cons_cons, List.append_assoc, List.singleton_append]

private theorem marksParameter_intercalate (texts : List (List Char)) :
    MarksParameter none (['.'].intercalate texts) ↔ ∃ text ∈ texts, MarksParameter none text := by
  induction texts with
  | nil =>
      simp [not_marksParameter_nil]
  | cons text others ih =>
      cases others with
      | nil =>
          simp
      | cons next rest =>
          rw [List.intercalate_cons_cons, List.append_assoc, List.singleton_append,
            marksParameter_append isNeutral_point, ih]
          simp only [List.mem_cons, exists_eq_or_imp]

section

variable {quotes : Char × Char} (opening : IsNeutral quotes.1) (closing : IsNeutral quotes.2)

include opening closing

private theorem dropEscapes_quoted (body : List Char) :
    dropEscapes (Identifiers.quoted quotes body) = Identifiers.quoted quotes (dropEscapes body) := by
  rw [Identifiers.quoted, Identifiers.quoted, ← List.nil_append (quotes.1 :: _),
    dropEscapes_append opening, dropEscapes_append closing, dropEscapes_double closing]
  rfl

private theorem marksParameter_quoted (body : List Char) :
    MarksParameter none (Identifiers.quoted quotes body) ↔ MarksParameter none body := by
  rw [Identifiers.quoted, ← List.nil_append (quotes.1 :: _), marksParameter_append opening,
    marksParameter_append closing, marksParameter_double closing]
  simp [not_marksParameter_nil]

end

/-- A quoted name loses the escapes of its parts. -/
theorem dropEscapes_delimit (dialect : Dialect) (name : String) :
    dropEscapes (dialect.delimit name).toList =
      Identifiers.sequence dialect.quotes
        (fields '.' (dialect.escapePercent (dropEscapes name.toList))) := by
  obtain ⟨opening, closing⟩ := isNeutral_quotes dialect
  rw [dialect.toList_delimit, Identifiers.sequence, dropEscapes_intercalate, Identifiers.sequence,
    dialect.fields_escapePercent, fields_dropEscapes, List.map_map, List.map_map, List.map_map,
    List.map_map]
  congr 1
  apply List.map_congr_left
  intro field _
  rw [Function.comp_apply, Function.comp_apply, Function.comp_apply, Function.comp_apply,
    dropEscapes_quoted opening closing, dropEscapes_escapePercent]

/-- A quoted name marks a parameter just if the name does. -/
theorem marksParameter_delimit_iff (dialect : Dialect) (name : String) :
    MarksParameter none (dialect.delimit name).toList ↔ MarksParameter none name.toList := by
  obtain ⟨opening, closing⟩ := isNeutral_quotes dialect
  have ofName := marksParameter_intercalate (fields '.' name.toList)
  rw [intercalate_fields] at ofName
  rw [ofName, dialect.toList_delimit, Identifiers.sequence, marksParameter_intercalate]
  simp only [List.mem_map, exists_exists_and_eq_and, marksParameter_quoted opening closing,
    marksParameter_escapePercent]

/-! ### Boundary queries -/

section

variable (column relation : String)

open Planner (rangeQuery)

private theorem toList_rangeQuery :
    (rangeQuery column relation).toList =
      "SELECT MIN".toList ++ '(' :: (column.toList ++ ')' :: (", MAX".toList ++
        '(' :: (column.toList ++ ')' :: (" FROM".toList ++ ' ' :: relation.toList)))) := by
  show ("SELECT MIN(" ++ column ++ "), MAX(" ++ column ++ ") FROM " ++ relation).toList = _
  simp only [String.toList_append, List.append_assoc]
  rfl

/-- The column and the relation of a boundary query lose their escapes, and nothing else does. -/
theorem unescaped_rangeQuery :
    unescaped (rangeQuery column relation) =
      rangeQuery (unescaped column) (unescaped relation) := by
  have select : dropEscapes "SELECT MIN".toList = "SELECT MIN".toList := by decide
  have second : dropEscapes ", MAX".toList = ", MAX".toList := by decide
  have source : dropEscapes " FROM".toList = " FROM".toList := by decide
  apply String.toList_injective
  rw [toList_unescaped, toList_rangeQuery, toList_rangeQuery, toList_unescaped, toList_unescaped,
    dropEscapes_append isNeutral_opening, dropEscapes_append isNeutral_closing,
    dropEscapes_append isNeutral_opening, dropEscapes_append isNeutral_closing,
    dropEscapes_append isNeutral_blank, select, second, source]

theorem marksParameter_rangeQuery :
    MarksParameter none (rangeQuery column relation).toList ↔
      MarksParameter none column.toList ∨ MarksParameter none relation.toList := by
  have select : ¬ MarksParameter none "SELECT MIN".toList :=
    not_marksParameter_of_noColon none (by decide)
  have second : ¬ MarksParameter none ", MAX".toList :=
    not_marksParameter_of_noColon none (by decide)
  have source : ¬ MarksParameter none " FROM".toList :=
    not_marksParameter_of_noColon none (by decide)
  rw [toList_rangeQuery, marksParameter_append isNeutral_opening,
    marksParameter_append isNeutral_closing, marksParameter_append isNeutral_opening,
    marksParameter_append isNeutral_closing, marksParameter_append isNeutral_blank,
    or_iff_right select, or_iff_right second, or_iff_right source, ← or_assoc, or_self]

end

theorem collapsed_sent (dialect : Dialect) {sql : String}
    (unmarked : ¬ MarksParameter none sql.toList) :
    dialect.collapsed (dialect.sent sql) = unescaped sql := by
  rw [Dialect.sent, text_prepare_of_unmarked dialect unmarked, dropEscapes_escapePercent,
    dialect.collapsed_escapePercent, unescaped]

/-- What is left of a quoted name without its escapes denotes the name just if the name held none, and
no percent sign that the dialect doubles. -/
theorem denotes_unescaped_iff (dialect : Dialect) (name : String) :
    dialect.Denotes (unescaped (dialect.delimit name)) name ↔
      dialect.HasPlainPercents name ∧ ¬ HoldsEscape name.toList := by
  have isRead : Identifiers.read dialect.quotes .outside
      (unescaped (dialect.delimit name)).toList =
        some (fields '.' (dialect.escapePercent (dropEscapes name.toList))) := by
    rw [Identifiers.read_eq_some_iff dialect.quote_ne_point, toList_unescaped]
    exact ⟨fields_ne_nil '.' _, dropEscapes_delimit dialect name⟩
  rw [Dialect.Denotes, isRead, Option.some_inj, (fields_injective '.').eq_iff,
    dialect.escapePercent_eq_iff (count_dropEscapes (by decide) name.toList),
    dropEscapes_eq_self_iff]

end Statement

namespace Executor

open Statement

/-- A statement that marks a parameter is not sent, and gives no result. -/
theorem sends_query_of_marked {sql : String} (marks : MarksParameter none sql.toList)
    (source : DataSource) : Sends [] (fun _ => False) (query source sql) := by
  have running : Sends [] (fun _ => False) (runStatement source sql) := by
    rw [runStatement]
    apply asks_after (sends_guarded _ _ _)
    intro _ _
    dsimp only
    cases marked : (prepare source.dialect sql).parameter with
    | some name =>
        exact asks_failOperation _ _ _ _ _ _
    | none =>
        exact absurd marks ((parameter_prepare_eq_none_iff source.dialect sql).mp marked)
  rw [query]
  apply asks_after (sends_note _ _ _)
  intro _ _
  apply asks_after (sends_requireEngine source)
  intro _ _
  exact asks_before running fun _ impossible => impossible.elim

end Executor

namespace Planner

open Executor Statement

/-! ### Statements that are sent -/

theorem unmarked_of_found {source : DataSource} {sql : String} {session : Session}
    {boundary : Boundary} (found : (findBoundary source sql session).1 = .ok boundary) :
    ¬ MarksParameter none sql.toList := by
  intro marks
  have failing : Sends [] (fun _ => False) (findBoundary source sql) := by
    rw [findBoundary]
    apply asks_after (sends_note _ _ _)
    intro _ _
    exact asks_before (sends_query_of_marked marks source) fun _ impossible => impossible.elim
  obtain ⟨_, _, _, _, _, _, answered⟩ := failing session
  exact (answered boundary found).2.2

/-- What a data source is sent for the range of a column of a table: nothing if the column or the name
marks a parameter, and else one statement, which the driver hands on as the query for a relation that
denotes the table just if the name has no percent sign that is doubled, and no escape. -/
structure AsksTable (dialect : Dialect) (name column : String) (sent : List String) : Prop where
  refused : MarksParameter none column.toList ∨ MarksParameter none name.toList → sent = []
  asked : ¬ MarksParameter none column.toList → ¬ MarksParameter none name.toList →
    ∃ statement relation, sent = [statement] ∧
      dialect.collapsed statement = rangeQuery (unescaped column) relation ∧
      (dialect.Denotes relation name ↔
        dialect.HasPlainPercents name ∧ ¬ HoldsEscape name.toList)

private theorem marks_range_iff (dialect : Dialect) (name column : String) :
    MarksParameter none (rangeQuery column (dialect.delimit name)).toList ↔
      MarksParameter none column.toList ∨ MarksParameter none name.toList := by
  rw [marksParameter_rangeQuery, marksParameter_delimit_iff]

private theorem asksTable_of_unmarked {dialect : Dialect} {name column : String}
    (unmarked : ¬ MarksParameter none (rangeQuery column (dialect.delimit name)).toList) :
    AsksTable dialect name column [dialect.sent (rangeQuery column (dialect.delimit name))] where
  refused := fun marks => absurd ((marks_range_iff dialect name column).mpr marks) unmarked
  asked := by
    intro _ _
    refine ⟨_, unescaped (dialect.delimit name), rfl, ?_, denotes_unescaped_iff dialect name⟩
    rw [collapsed_sent dialect unmarked, unescaped_rangeQuery]

private theorem asksTable_of_marked {dialect : Dialect} {name column : String}
    (marks : MarksParameter none (rangeQuery column (dialect.delimit name)).toList) :
    AsksTable dialect name column [] where
  refused := fun _ => rfl
  asked := by
    intro columnUnmarked nameUnmarked
    rcases (marks_range_iff dialect name column).mp marks with inColumn | inName
    · exact absurd inColumn columnUnmarked
    · exact absurd inName nameUnmarked

theorem asksTable_query {source : DataSource} {session : Session}
    (reaches : Reaches source session) (name column : String) :
    ∃ sent, (query source (rangeQuery column (source.dialect.delimit name)) session).2.trace.executed =
        session.trace.executed ++ sent ∧
      AsksTable source.dialect name column sent := by
  refine ⟨_, executed_query reaches _, ?_⟩
  cases marked : (prepare source.dialect
      (rangeQuery column (source.dialect.delimit name))).parameter with
  | some parameter =>
      apply asksTable_of_marked
      have named : (prepare source.dialect
          (rangeQuery column (source.dialect.delimit name))).parameter ≠ none := by
        rw [marked]
        exact Option.some_ne_none parameter
      rwa [Ne, parameter_prepare_eq_none_iff, Classical.not_not] at named
  | none =>
      exact asksTable_of_unmarked ((parameter_prepare_eq_none_iff source.dialect _).mp marked)

/-- The statements of a plan for a table set its name between quotes, and the boundary query is the
first that the data source is sent. -/
structure PlansTable (source : DataSource) (table : TableSettings) (name : String)
    (plan : ImportPlan) (sent : List String) : Prop where
  boundary : plan.boundaryQuery = "SELECT MIN(" ++ plan.partitionColumn ++ "), MAX(" ++
    plan.partitionColumn ++ ") FROM " ++ source.dialect.delimit name
  template : plan.extraction.dataSql = "SELECT " ++ table.columns.getD "*" ++ " FROM " ++
    source.dialect.delimit name ++ " WHERE $\x7bCONDITIONS\x7d"
  asked : ∃ statement others, sent = statement :: others ∧
    AsksTable source.dialect name plan.partitionColumn [statement]

private theorem plansTable_of_plan {table : TableSettings} {name : String}
    (chosen : table.source = .ok (.table name)) (unset : table.boundaryQuery = none)
    {source : DataSource} {isBorrowed : Bool} {connection : ConnectionSettings}
    {workspace : Workspace} {plan : ImportPlan}
    (planned : (planInto source isBorrowed connection table workspace).1 = .ok plan) :
    ∃ sent, (planInto source isBorrowed connection table workspace).2.trace.executed =
        workspace.trace.executed ++ sent ∧
      PlansTable source table name plan sent := by
  have passed := passed_of_plan planned
  obtain ⟨_, isBoundary, isTemplate, executed⟩ :=
    (inspects_of_checks passed chosen source isBorrowed workspace).sentAll plan planned
  obtain ⟨_, _, _, succeeded⟩ := planInto_of_checks passed source isBorrowed workspace
  obtain ⟨findings, found, rfl⟩ := succeeded plan planned
  obtain ⟨⟨start, ranged⟩, _⟩ := steps_of_inspect found
  have written : (planOf connection findings).boundaryQuery =
      rangeQuery findings.partitionColumn (source.dialect.delimit name) := by
    rw [isBoundary, boundaryStatement, unset, Option.getD_none]
    rfl
  have unmarked := unmarked_of_found ranged
  refine ⟨_, executed, ?_, ?_, ?_⟩
  · rw [written]
    rfl
  · rw [isTemplate, template_table]
  · refine ⟨_, _, List.map_cons, ?_⟩
    rw [written]
    have isQuery : findings.boundaryQuery = _ := written
    rw [isQuery] at unmarked
    exact asksTable_of_unmarked unmarked

/-- The statements that are written for a table set its name between quotes, where it denotes the
table just if no percent sign is doubled in it. Of the boundary query that reaches the data source the
same holds but for the escapes of the name, which are lost; it does not get there at all if the column
or the name marks a parameter. So it is with every plan. -/
theorem table_denoted_iff {table : TableSettings} {name : String}
    (chosen : table.source = .ok (.table name)) (source : DataSource) :
    WritesTable source table (source.dialect.delimit name) ∧
    (source.dialect.Denotes (source.dialect.delimit name) name ↔
      source.dialect.HasPlainPercents name) ∧
    (table.boundaryQuery = none →
      (∀ (column sql : String) (start session : Session),
        (resolveBoundaryQuery source table column start).1 = .ok sql → Reaches source session →
        ∃ sent, (query source sql session).2.trace.executed = session.trace.executed ++ sent ∧
          AsksTable source.dialect name column sent) ∧
      ∀ (isBorrowed : Bool) (connection : ConnectionSettings) (workspace : Workspace)
        (plan : ImportPlan),
        (planInto source isBorrowed connection table workspace).1 = .ok plan →
        ∃ sent, (planInto source isBorrowed connection table workspace).2.trace.executed =
            workspace.trace.executed ++ sent ∧
          PlansTable source table name plan sent) := by
  refine ⟨writesTable chosen source, source.dialect.denotes_delimit_iff name, ?_⟩
  intro unset
  constructor
  · intro column sql start session resolved reaches
    have isRange : sql = rangeQuery column (source.dialect.delimit name) := by
      rw [boundaryQuery_of_resolved chosen resolved, boundaryStatement, unset, Option.getD_none]
      rfl
    rw [isRange]
    exact asksTable_query reaches name column
  · intro isBorrowed connection workspace plan planned
    exact plansTable_of_plan chosen unset planned

/-- A data source that gives one range for every statement. -/
private def denoting (dialect : Dialect) : DataSource :=
  { dialect
    typeObjects := .none
    queries :=
      [⟨none, .ok ⟨some [("low", .null), ("high", .null)], [[.integer 1, .integer 9]], none⟩⟩]
    primaryKeys := []
    connectFault := none
    createFault := none }

private def denotingConnection : ConnectionSettings :=
  ⟨some "db", some "db://host/base", none, none⟩

/-- A table of which one column is extracted and ranged over. -/
private def tableNamed (name : String) : TableSettings :=
  ⟨some name, none, some "id", some "id", none⟩

/-- Plans a table in a fresh workspace. -/
private def planNamed (dialect : Dialect) (name : String) : Except Failure ImportPlan × Workspace :=
  planInto (denoting dialect) true denotingConnection (tableNamed name) (.ofContext .empty)

/-- In brackets a closing bracket is doubled and a percent sign is not; the boundary query is read as
the parts of the name, before it is sent and as it was sent. -/
theorem table_denoted_iff_bracket :
    let name := "shop.50%]off"
    let boundaryQuery := "SELECT MIN(id), MAX(id) FROM [shop].[50%]]off]"
    (planNamed .mssql name).1.toOption.map ImportPlan.boundaryQuery = some boundaryQuery ∧
      (planNamed .mssql name).2.trace.executed = [boundaryQuery] ∧
      Dialect.mssql.Denotes "[shop].[50%]]off]" name ∧
      ∃ relation, Dialect.mssql.collapsed boundaryQuery = rangeQuery "id" relation ∧
        Dialect.mssql.Denotes relation name := by
  intro name boundaryQuery
  let plan : ImportPlan :=
    { driver := "db"
      connectionString := "db://host/base"
      username := none
      password := none
      partitionColumn := "id"
      boundaryQuery
      boundary := ⟨-5, some "1", some "9"⟩
      extraction := ⟨"SELECT id FROM [shop].[50%]]off] WHERE $\x7bCONDITIONS\x7d", "id"⟩ }
  have planned : (planNamed .mssql name).1 = .ok plan :=
    toOption_eq_some_iff.mp (by decide +kernel)
  have executed : (planNamed .mssql name).2.trace.executed = [boundaryQuery] := by decide +kernel
  have plain : Dialect.mssql.HasPlainPercents name := nofun
  have noEscape : ¬ HoldsEscape name.toList := by
    rw [← dropEscapes_eq_self_iff]
    decide +kernel
  have chosen : (tableNamed name).source = .ok (.table name) := rfl
  obtain ⟨_, published, received⟩ := table_denoted_iff chosen (denoting .mssql)
  have shown : (planNamed .mssql name).1.toOption.map ImportPlan.boundaryQuery =
      some boundaryQuery := by
    rw [planned]
    rfl
  have quoted : (denoting .mssql).dialect.delimit name = "[shop].[50%]]off]" := by decide +kernel
  rw [quoted] at published
  refine ⟨shown, executed, published.mpr plain, ?_⟩
  rw [planNamed] at planned executed
  obtain ⟨sent, isSent, plans⟩ := (received rfl).2 true _ _ plan planned
  obtain ⟨statement, others, isFirst, asks⟩ := plans.asked
  rw [executed, isFirst] at isSent
  have isStatement : boundaryQuery = statement := (List.cons.inj isSent).1
  obtain ⟨_, relation, same, isRange, denotes⟩ := asks.asked
    (not_marksParameter_of_noColon none (by decide))
    (not_marksParameter_of_noColon none (by decide))
  have column : unescaped plan.partitionColumn = "id" := by decide +kernel
  rw [← (List.cons.inj same).1, ← isStatement, column] at isRange
  exact ⟨relation, isRange, denotes.mpr ⟨plain, noEscape⟩⟩

/-- A percent sign that the dialect doubles: the published statements name another table, and so does
the boundary query, in which the sign is doubled twice and made single once. An escape in a name is
lost on the way to the data source. -/
theorem percent_sign_not_denoted :
    let boundaryQuery := "SELECT MIN(id), MAX(id) FROM \"50%%off\""
    (planNamed .postgresql "50%off").1.toOption.map ImportPlan.boundaryQuery =
        some boundaryQuery ∧
      (planNamed .postgresql "50%off").1.toOption.map (fun plan => plan.extraction.dataSql) =
        some "SELECT id FROM \"50%%off\" WHERE $\x7bCONDITIONS\x7d" ∧
      (planNamed .postgresql "50%off").2.trace.executed =
        ["SELECT MIN(id), MAX(id) FROM \"50%%%%off\""] ∧
      Dialect.postgresql.collapsed "SELECT MIN(id), MAX(id) FROM \"50%%%%off\"" =
        boundaryQuery ∧
      Identifiers.read Dialect.postgresql.quotes .outside "\"50%%off\"".toList =
        some ["50%%off".toList] ∧
      ¬ Dialect.postgresql.Denotes "\"50%%off\"" "50%off" ∧
      (planNamed .sqlite "a\\:").2.trace.executed = ["SELECT MIN(id), MAX(id) FROM \"a:\""] ∧
      ¬ Dialect.sqlite.Denotes "\"a:\"" "a\\:" := by
  intro boundaryQuery
  refine ⟨by decide +kernel, by decide +kernel, by decide +kernel, by decide +kernel,
    by decide +kernel, ?_, by decide +kernel, ?_⟩
  · rw [Dialect.Denotes]
    decide +kernel
  · rw [Dialect.Denotes]
    decide +kernel

end Planner
end ImportPlanning
