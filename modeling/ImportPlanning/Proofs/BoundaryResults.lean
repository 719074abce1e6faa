/-
What a result comes to as the answer to a boundary query. A result whose rows are as long as its
columns gives a range if it has two columns and one row, and else an error that counts its columns, or
its rows where the columns are right. Each bound is made of its own cell.

A cell with an integer that is too long to be written fails in its own way, and nothing else does.
-/
import Mathlib.Data.List.Basic
import ImportPlanning.Proofs.Statements

namespace ImportPlanning

open SessionM
open ImportPlanning.Text

/-! ### Results -/

namespace QueryResult

/-- Each row has one cell for each column. -/
def IsRectangular (result : QueryResult) : Prop :=
  ∀ row ∈ result.rows, row.length = result.columns.length

/-- No cell is an integer that is too long to be written, or holds one. -/
def IsWritable (result : QueryResult) : Prop :=
  ∀ row ∈ result.rows, ∀ cell ∈ row, cell.isOverlong = false

end QueryResult

namespace Planner

/-! ### Bounds -/

/-- A cell as a bound: none for null, bytes decoded, and any other value in its plain form. -/
def boundOfCell : Value → Option String
  | .null => none
  | .binary _ bytes => some (Utf8.decodeLenient bytes)
  | value => some value.plain

theorem boundOfCell_eq_none_iff (cell : Value) : boundOfCell cell = none ↔ cell = .null := by
  cases cell <;> simp [boundOfCell]

theorem boundText_eq (cell : Value) :
    boundText cell =
      if cell.isOverlong = true then .error .overlongInteger else .ok (boundOfCell cell) := by
  unfold boundText
  split
  · rfl
  · rfl
  · rename_i notNull notBinary
    rw [RunContext.plainText, boundOfCell.eq_3 cell notNull notBinary]
    split
    · rfl
    · rfl

/-! ### Outcomes -/

/-- The error for a result with a wrong number of columns or rows. -/
def malformed (message : String) (details : Entries) : Failure :=
  .planner ⟨.malformedBoundaryResult, message, details, none⟩

/-- What a result with rows of the right length comes to. -/
inductive Judged (sql : String) (result : QueryResult) : Except Failure Boundary → Prop where
  | wrongColumns (count : result.columns.length ≠ 2) :
      Judged sql result (.error (malformed
        ("Boundary query returned " ++ toString result.columns.length ++ " columns, expected 2")
        [(.text "sql", .text sql),
          (.text "columns", .list (result.columnNames.map .text))]))
  | wrongRows (twoColumns : result.columns.length = 2) (count : result.rows.length ≠ 1) :
      Judged sql result (.error (malformed
        ("Boundary query returned " ++ toString result.rows.length ++ " rows, expected 1")
        [(.text "sql", .text sql)]))
  | unwritable (row : List Value) (cell : Value) (isRow : row ∈ result.rows)
      (isCell : cell ∈ row) (overlong : cell.isOverlong = true) :
      Judged sql result (.error .overlongInteger)
  | accepted (first second : ResultColumn) (low high : Value)
      (isColumns : result.columns = [first, second]) (isRows : result.rows = [[low, high]]) :
      Judged sql result (.ok ⟨first.typeCode, boundOfCell low, boundOfCell high⟩)

private theorem wrongColumns_eq (sql : String) (result : QueryResult) :
    Failure.planner (wrongColumns sql result) = malformed
      ("Boundary query returned " ++ toString result.columns.length ++ " columns, expected 2")
      [(.text "sql", .text sql), (.text "columns", .list (result.columnNames.map .text))] := by
  simp [wrongColumns, malformed, PlannerError.plain, PlannerError.create]

private theorem wrongRows_eq (sql : String) (result : QueryResult) :
    Failure.planner (wrongRows sql result) = malformed
      ("Boundary query returned " ++ toString result.rows.length ++ " rows, expected 1")
      [(.text "sql", .text sql)] := by
  simp [wrongRows, malformed, PlannerError.plain, PlannerError.create]

private theorem judged_pair {sql : String} {result : QueryResult} {first second : ResultColumn}
    {low high : Value} (isColumns : result.columns = [first, second])
    (isRows : result.rows = [[low, high]]) : Judged sql result (boundaryOf sql result) := by
  have isRow : [low, high] ∈ result.rows := by simp [isRows]
  rw [boundaryOf, isColumns, isRows]
  show Judged sql result (boundText low >>= fun minValue => boundText high >>= fun maxValue =>
    .ok ⟨first.typeCode, minValue, maxValue⟩)
  rw [boundText_eq, boundText_eq]
  by_cases lowOverlong : low.isOverlong = true
  · rw [if_pos lowOverlong]
    exact .unwritable _ low isRow (by simp) lowOverlong
  · by_cases highOverlong : high.isOverlong = true
    · rw [if_neg lowOverlong, if_pos highOverlong]
      exact .unwritable _ high isRow (by simp) highOverlong
    · rw [if_neg lowOverlong, if_neg highOverlong]
      exact .accepted first second low high isColumns isRows

/-- The columns are counted before the rows, and where both are right there is a row of two cells. -/
theorem judged_boundaryOf {result : QueryResult} (rectangular : result.IsRectangular)
    (sql : String) : Judged sql result (boundaryOf sql result) := by
  by_cases columns : result.columns.length = 2
  · obtain ⟨first, second, isColumns⟩ := List.length_eq_two.mp columns
    by_cases rows : result.rows.length = 1
    · obtain ⟨row, isRows⟩ := List.length_eq_one_iff.mp rows
      have twoCells : row.length = 2 := by
        rw [rectangular row (by simp [isRows]), columns]
      obtain ⟨low, high, rfl⟩ := List.length_eq_two.mp twoCells
      exact judged_pair isColumns isRows
    · have failing : boundaryOf sql result = .error (.planner (wrongRows sql result)) := by
        rw [boundaryOf, isColumns]
        split
        · simp_all
        · rfl
        · simp_all
      rw [failing, wrongRows_eq]
      exact .wrongRows columns rows
  · have failing : boundaryOf sql result = .error (.planner (wrongColumns sql result)) := by
      rw [boundaryOf]
      split
      · simp_all
      · simp_all
      · rfl
    rw [failing, wrongColumns_eq]
    exact .wrongColumns columns

/-- A result is accepted just if it has two columns and one row, and is refused with the number of its
columns, or else of its rows. What is accepted has the type of the first column, and its bounds are
those of the two cells. -/
structure AcceptsWellFormed (sql : String) (result : QueryResult)
    (outcome : Except Failure Boundary) : Prop where
  accepted : (∃ boundary, outcome = .ok boundary) ↔
    result.columns.length = 2 ∧ result.rows.length = 1
  refused : ∀ failure, outcome = .error failure →
    ∃ message details, failure = malformed message details
  wrongColumns : result.columns.length ≠ 2 → outcome = .error (malformed
    ("Boundary query returned " ++ toString result.columns.length ++ " columns, expected 2")
    [(.text "sql", .text sql), (.text "columns", .list (result.columnNames.map .text))])
  wrongRows : result.columns.length = 2 → result.rows.length ≠ 1 → outcome = .error (malformed
    ("Boundary query returned " ++ toString result.rows.length ++ " rows, expected 1")
    [(.text "sql", .text sql)])
  bounds : ∀ boundary, outcome = .ok boundary → ∃ first second low high,
    result.columns = [first, second] ∧ result.rows = [[low, high]] ∧
      boundary = ⟨first.typeCode, boundOfCell low, boundOfCell high⟩ ∧
      (boundary.minValue = none ↔ low = .null) ∧ (boundary.maxValue = none ↔ high = .null)

theorem Judged.acceptsWellFormed {sql : String} {result : QueryResult}
    {outcome : Except Failure Boundary} (judged : Judged sql result outcome)
    (writable : result.IsWritable) : AcceptsWellFormed sql result outcome := by
  cases judged with
  | wrongColumns count =>
      constructor
      · refine iff_of_false ?_ fun shape => count shape.1
        rintro ⟨boundary, impossible⟩
        cases impossible
      · intro failure same
        cases same
        exact ⟨_, _, rfl⟩
      · exact fun _ => rfl
      · exact fun columns => absurd columns count
      · intro boundary impossible
        cases impossible
  | wrongRows twoColumns count =>
      constructor
      · refine iff_of_false ?_ fun shape => count shape.2
        rintro ⟨boundary, impossible⟩
        cases impossible
      · intro failure same
        cases same
        exact ⟨_, _, rfl⟩
      · exact fun columns => absurd twoColumns columns
      · exact fun _ _ => rfl
      · intro boundary impossible
        cases impossible
  | unwritable row cell isRow isCell overlong =>
      have writes := writable row isRow cell isCell
      rw [overlong] at writes
      cases writes
  | accepted first second low high isColumns isRows =>
      have twoColumns : result.columns.length = 2 := by rw [isColumns]; rfl
      have oneRow : result.rows.length = 1 := by rw [isRows]; rfl
      constructor
      · exact iff_of_true ⟨_, rfl⟩ ⟨twoColumns, oneRow⟩
      · intro failure impossible
        cases impossible
      · exact fun columns => absurd twoColumns columns
      · exact fun _ rows => absurd oneRow rows
      · intro boundary same
        cases same
        exact ⟨first, second, low, high, isColumns, isRows, rfl, boundOfCell_eq_none_iff low,
          boundOfCell_eq_none_iff high⟩

/-! ### Boundary queries -/

/-- A session in whose journal a boundary query is noted. -/
def noting (sql : String) (session : Session) : Session :=
  { session with
    journal := session.journal ++
      [⟨.debug, loggerName logger, "Using boundary query: " ++ sql⟩] }

/-- The range is that of the result of the query; noting it does nothing to it. -/
theorem findBoundary_eq (source : DataSource) (sql : String) (session : Session) :
    (findBoundary source sql session).1 =
      (Executor.query source sql (noting sql session)).1 >>= boundaryOf sql := by
  have noted : findBoundary source sql session = _ := run_bind _ _ session
  rw [noted, run_note, noting]
  dsimp only
  rw [run_bind]
  cases Executor.query source sql { session with journal := _ } with
  | mk queried after =>
      cases queried with
      | error failure =>
          rfl
      | ok result =>
          dsimp only
          rw [run_bind]
          show _ = boundaryOf sql result
          cases boundaryOf sql result with
          | error failure => rfl
          | ok boundary => rfl

/-- Of the results that have one cell for each column in every row, a boundary query accepts those
that have two columns and one row, and no others. -/
theorem boundary_accepted_iff {result : QueryResult} (rectangular : result.IsRectangular)
    (writable : result.IsWritable) (sql : String) :
    AcceptsWellFormed sql result (boundaryOf sql result) ∧
    ∀ (source : DataSource) (session : Session),
      (Executor.query source sql (noting sql session)).1 = .ok result →
      AcceptsWellFormed sql result (findBoundary source sql session).1 := by
  have accepts := (judged_boundaryOf rectangular sql).acceptsWellFormed writable
  refine ⟨accepts, ?_⟩
  intro source session queried
  rw [findBoundary_eq, queried]
  exact accepts

/-- A data source that gives a range from bytes that are no UTF-8 to null, for every statement. -/
private def halfOpen : DataSource :=
  { dialect := .sqlite
    typeObjects := .none
    queries :=
      [⟨none, .ok ⟨some [("low", .null), ("high", .null)],
        [[.binary .bytes [0x61, 0xFF], .null]], none⟩⟩]
    primaryKeys := []
    connectFault := none
    createFault := none }

private def asking : Session :=
  ⟨⟨"sqlite", "sqlite://", none, none, true, true, false⟩, .empty, []⟩

/-- The bytes are decoded with a replacement character, and null is no bound; three columns are
counted although there are no rows. -/
theorem boundary_accepted_iff_half_open :
    let sql := "SELECT low, high FROM ranges"
    let wide : QueryResult := ⟨[⟨"a", 4⟩, ⟨"b", 4⟩, ⟨"c", 4⟩], []⟩
    (findBoundary halfOpen sql asking).1 = .ok ⟨-2, some "a\uFFFD", none⟩ ∧
      boundaryOf sql wide = .error (malformed "Boundary query returned 3 columns, expected 2"
        [(.text "sql", .text sql), (.text "columns", .list [.text "a", .text "b", .text "c"])]) := by
  intro sql wide
  constructor
  · have succeeds : (Executor.query halfOpen sql (noting sql asking)).1.toOption.isSome = true := by
      decide +kernel
    obtain ⟨result, isResult⟩ := Option.isSome_iff_exists.mp succeeds
    have queried := toOption_eq_some_iff.mp isResult
    obtain ⟨_, _, _, _, _, _, answered⟩ := Executor.sends_query halfOpen sql (noting sql asking)
    obtain ⟨columns, fetched, described⟩ := (answered result queried).2.2
    obtain ⟨rfl, isRows⟩ := Prod.mk.inj (Except.ok.inj fetched)
    rw [← isRows] at described
    have isColumns : result.columns = [⟨"low", -2⟩, ⟨"high", 0⟩] :=
      described.trans (by decide +kernel)
    have rectangular : result.IsRectangular := by
      intro row member
      rw [← isRows, List.mem_singleton] at member
      rw [member, isColumns]
      rfl
    have writable : result.IsWritable := by
      intro row member cell isCell
      rw [← isRows, List.mem_singleton] at member
      rw [member, List.mem_pair] at isCell
      rcases isCell with rfl | rfl
      · rfl
      · rfl
    have accepts := (boundary_accepted_iff rectangular writable sql).2 halfOpen asking queried
    obtain ⟨boundary, isBoundary⟩ := accepts.accepted.mpr (by rw [isColumns, ← isRows]; exact ⟨rfl, rfl⟩)
    obtain ⟨first, second, low, high, areColumns, areRows, rfl, _⟩ :=
      accepts.bounds boundary isBoundary
    cases isColumns.symm.trans areColumns
    cases isRows.trans areRows
    have decoded : boundOfCell (.binary .bytes [0x61, 0xFF]) = some "a\uFFFD" := by decide +kernel
    rw [isBoundary, decoded, boundOfCell]
  · have empty : wide.IsRectangular := nofun
    have plain : wide.IsWritable := nofun
    have counted : "Boundary query returned " ++ toString wide.columns.length ++
        " columns, expected 2" = "Boundary query returned 3 columns, expected 2" := by
      decide +kernel
    have refused := (boundary_accepted_iff empty plain sql).1.wrongColumns (by decide)
    rw [counted] at refused
    exact refused

end Planner
end ImportPlanning
