/-
How the columns of a result are described. A result has one column for each column of the header,
under the name that the dialect gives back, and all rows. The type of a column is that of the first
type object that equals the driver's code, or else that of the class of the cell in the first row;
later rows play no part.

Which rows a statement gives is left to the data source.
-/
import ImportPlanning.Proofs.Verbatim

namespace ImportPlanning

/-! ### Classes of cells -/

/-- The classes by which cells are told apart. They overlap: a truth value is an integer too, and a
moment is a date. -/
inductive CellClass where
  | boolean
  | integer
  | float
  | decimal
  | moment
  | date
  | time
  | text
  | binary
  deriving DecidableEq, Repr

def Value.isOf : Value → CellClass → Bool
  | .boolean _, .boolean => true
  | .boolean _, .integer => true
  | .integer _, .integer => true
  | .float _, .float => true
  | .decimal _, .decimal => true
  | .moment _, .moment => true
  | .moment _, .date => true
  | .date _, .date => true
  | .time _, .time => true
  | .text _, .text => true
  | .binary _ _, .binary => true
  | _, _ => false

namespace ColumnType

/-- The classes in the order in which they are tried, with their column types. -/
def classesInOrder : List (CellClass × ColumnType) :=
  [(.boolean, boolean), (.integer, bigInt), (.float, double), (.decimal, decimal),
   (.moment, timestamp), (.date, date), (.time, time), (.text, varchar), (.binary, binary)]

/-- The column type of the first class that a cell is of. -/
def ofClass (cell : Value) : ColumnType :=
  match classesInOrder.find? fun entry => cell.isOf entry.1 with
  | some entry => entry.2
  | none => other

theorem ofValue_eq_ofClass (cell : Value) : ofValue cell = ofClass cell := by
  cases cell <;> rfl

end ColumnType

/-! ### Declared types -/

namespace TypeObjects

/-- A type object that the driver has equals a code. -/
def Equals (object : Option (List Value)) (code : Value) : Prop :=
  ∃ codes, object = some codes ∧ ∃ candidate ∈ codes, candidate.sameAs code = true

theorem equals_iff (code : Value) (object : Option (List Value)) :
    equals code object = true ↔ Equals object code := by
  cases object with
  | none => simp [equals, Equals]
  | some codes => simp [equals, Equals]

/-- A code is declared to be of the type of the first type object that equals it. -/
def Declares (objects : TypeObjects) (code : Value) (type : ColumnType) : Prop :=
  ∃ earlier object later,
    [(objects.moments, ColumnType.timestamp), (objects.numbers, .numeric),
      (objects.texts, .varchar), (objects.binaries, .binary)] =
        earlier ++ (object, type) :: later ∧
      Equals object code ∧ ∀ other ∈ earlier, ¬ Equals other.1 code

theorem declares_iff {objects : TypeObjects} {code : Value} {type : ColumnType} :
    Declares objects code type ↔ objects.match? code = some type := by
  rw [match?, Option.map_eq_some_iff]
  constructor
  · rintro ⟨earlier, object, later, ordered, equal, none⟩
    refine ⟨(object, type), List.find?_eq_some_iff_append.mpr ?_, rfl⟩
    refine ⟨(equals_iff code object).mpr equal, earlier, later, ordered, ?_⟩
    intro other before
    simpa [← equals_iff] using none other before
  · rintro ⟨⟨object, found⟩, first, rfl⟩
    obtain ⟨equal, earlier, later, ordered, none⟩ := List.find?_eq_some_iff_append.mp first
    refine ⟨earlier, object, later, ordered, (equals_iff code object).mp equal, ?_⟩
    intro other before
    simpa [← equals_iff] using none other before

end TypeObjects

namespace ColumnType

/-- The type of a column by the driver's code, null where it has none, and by the cell in the first
row, null where there is none. A declared type stands whatever the cell is. -/
inductive TypedBy (objects : TypeObjects) (code cell : Value) : ColumnType → Prop where
  | declared {type : ColumnType} (hasCode : code ≠ .null) (declares : objects.Declares code type) :
      TypedBy objects code cell type
  | sampled (undeclared : code = .null ∨ ∀ type, ¬ objects.Declares code type)
      (hasCell : cell ≠ .null) : TypedBy objects code cell (ofClass cell)
  | null (noCode : code = .null) (noCell : cell = .null) : TypedBy objects code cell .null
  | other (hasCode : code ≠ .null) (undeclared : ∀ type, ¬ objects.Declares code type)
      (noCell : cell = .null) : TypedBy objects code cell .other

theorem declared?_eq_none_iff {objects : TypeObjects} {code : Value} :
    declared? (some objects) code = none ↔
      code = .null ∨ ∀ type, ¬ objects.Declares code type := by
  simp only [TypeObjects.declares_iff, ← Option.eq_none_iff_forall_ne_some]
  cases code <;> simp [declared?, Value.isNull]

theorem declared?_eq_some_iff {objects : TypeObjects} {code : Value} {type : ColumnType} :
    declared? (some objects) code = some type ↔ code ≠ .null ∧ objects.Declares code type := by
  rw [TypeObjects.declares_iff]
  cases code <;> simp [declared?, Value.isNull]

theorem TypedBy.resolve_eq {objects : TypeObjects} {code cell : Value} {type : ColumnType}
    (typed : TypedBy objects code cell type) : resolve (some objects) code cell = type := by
  cases typed with
  | declared hasCode declares =>
      rw [resolve, declared?_eq_some_iff.mpr ⟨hasCode, declares⟩]
  | sampled undeclared hasCell =>
      rw [resolve, declared?_eq_none_iff.mpr undeclared, ← ofValue_eq_ofClass]
      simp [Value.isNull_iff, hasCell]
  | null noCode noCell =>
      rw [resolve, declared?_eq_none_iff.mpr (Or.inl noCode), noCode, noCell]
      rfl
  | other hasCode undeclared noCell =>
      rw [resolve, declared?_eq_none_iff.mpr (Or.inr undeclared), noCell]
      simp [Value.isNull]

theorem typedBy_resolve (objects : TypeObjects) (code cell : Value) :
    TypedBy objects code cell (resolve (some objects) code cell) := by
  cases found : declared? (some objects) code with
  | some type =>
      obtain ⟨hasCode, declares⟩ := declared?_eq_some_iff.mp found
      have typed : TypedBy objects code cell type := .declared hasCode declares
      rwa [typed.resolve_eq]
  | none =>
      have undeclared := declared?_eq_none_iff.mp found
      by_cases noCell : cell = .null
      · by_cases noCode : code = .null
        · have typed : TypedBy objects code cell .null := .null noCode noCell
          rwa [typed.resolve_eq]
        · have typed : TypedBy objects code cell .other :=
            .other noCode (undeclared.resolve_left noCode) noCell
          rwa [typed.resolve_eq]
      · have typed : TypedBy objects code cell (ofClass cell) := .sampled undeclared noCell
        rwa [typed.resolve_eq]

end ColumnType

namespace Executor

open SessionM

/-! ### Results -/

/-- The data source gives rows under a header for a statement. -/
def Gives (source : DataSource) (sql : String) (header : List (String × Value))
    (rows : List (List Value)) : Prop :=
  source.answer (source.dialect.sent sql) = .ok ⟨some header, rows, none⟩

/-- The cell of the first row at an index; null if there is none. -/
def firstCell (rows : List (List Value)) (index : Nat) : Value :=
  (rows.head?.bind fun row => row[index]?).getD .null

/-- A result has all rows, and one column for each column of the header: under its name in the
dialect, and typed by its code and the cell in the first row. -/
structure Describes (source : DataSource) (header : List (String × Value))
    (given : List (List Value)) (result : QueryResult) : Prop where
  rows : result.rows = given
  names : result.columnNames = header.map fun column => source.dialect.columnName column.1
  types : ∀ index name code, header[index]? = some (name, code) →
    ∃ type, ColumnType.TypedBy source.typeObjects code (firstCell given index) type ∧
      result.columns[index]? = some ⟨source.dialect.columnName name, type.code⟩

theorem fetch_eq_ok_iff {source : DataSource} {statement : String}
    {header : List (String × Value)} {rows : List (List Value)} :
    source.fetch statement = .ok (header, rows) ↔
      source.answer statement = .ok ⟨some header, rows, none⟩ := by
  rw [DataSource.fetch]
  cases source.answer statement with
  | error fault => simp
  | ok result =>
      obtain ⟨columns, given, fetchFault⟩ := result
      cases columns <;> cases fetchFault <;> simp

theorem cellAt_first (rows : List (List Value)) (index : Nat) :
    cellAt (rows.head?.getD []) index = firstCell rows index := by
  cases rows with
  | nil => rfl
  | cons row rest => rfl

theorem describes_describeColumns (source : DataSource) (header : List (String × Value))
    (rows : List (List Value)) :
    Describes source header rows ⟨describeColumns source header rows, rows⟩ where
  rows := rfl
  names := columnNames_describeColumns source header rows
  types := by
    intro index name code isColumn
    refine ⟨_, ColumnType.typedBy_resolve _ _ _, ?_⟩
    rw [describeColumns, List.getElem?_mapIdx, isColumn, cellAt_first]
    rfl

section

variable {source other : DataSource} {header otherHeader : List (String × Value)}
  {rows otherRows : List (List Value)} {result otherResult : QueryResult}

theorem Describes.length_columns (describes : Describes source header rows result) :
    result.columns.length = header.length := by
  have lengths := congrArg List.length describes.names
  rwa [QueryResult.columnNames, List.length_map, List.length_map] at lengths

/-- Columns with one code have one type if the cells in the first row are the same, or if the code is
declared. -/
theorem Describes.typeCode_same (describes : Describes source header rows result)
    (otherDescribes : Describes other otherHeader otherRows otherResult)
    (objects : other.typeObjects = source.typeObjects) {index : Nat} {name otherName : String}
    {code : Value} (isColumn : header[index]? = some (name, code))
    (isOther : otherHeader[index]? = some (otherName, code))
    (same : firstCell otherRows index = firstCell rows index ∨
      code ≠ .null ∧ ∃ type, source.typeObjects.Declares code type) :
    otherResult.columns[index]?.map ResultColumn.typeCode =
      result.columns[index]?.map ResultColumn.typeCode := by
  obtain ⟨type, typed, isType⟩ := describes.types index name code isColumn
  obtain ⟨otherType, otherTyped, isOtherType⟩ := otherDescribes.types index otherName code isOther
  have one : otherType = type := by
    rw [objects] at otherTyped
    rcases same with cells | ⟨hasCode, declared, declares⟩
    · rw [cells] at otherTyped
      rw [← otherTyped.resolve_eq, typed.resolve_eq]
    · have stands : ∀ cell, ColumnType.TypedBy source.typeObjects code cell declared :=
        fun _ => .declared hasCode declares
      rw [← otherTyped.resolve_eq, (stands _).resolve_eq, ← typed.resolve_eq,
        (stands _).resolve_eq]
  rw [isType, isOtherType, one]
  rfl

/-- Rows after the first do nothing to the columns. -/
theorem Describes.columns_eq (describes : Describes source header rows result)
    (otherDescribes : Describes other header otherRows otherResult)
    (objects : other.typeObjects = source.typeObjects) (dialect : other.dialect = source.dialect)
    (first : otherRows.head? = rows.head?) : otherResult.columns = result.columns := by
  apply List.ext_getElem?
  intro index
  cases isColumn : header[index]? with
  | none =>
      rw [List.getElem?_eq_none_iff] at isColumn
      have none : result.columns.length ≤ index := describes.length_columns ▸ isColumn
      have otherNone : otherResult.columns.length ≤ index :=
        otherDescribes.length_columns ▸ isColumn
      rw [List.getElem?_eq_none none, List.getElem?_eq_none otherNone]
  | some column =>
      have cells : firstCell otherRows index = firstCell rows index := by
        rw [firstCell, firstCell, first]
      have types := describes.typeCode_same otherDescribes objects isColumn isColumn
        (Or.inl cells)
      obtain ⟨type, _, isType⟩ := describes.types index column.1 column.2 isColumn
      obtain ⟨otherType, _, isOther⟩ := otherDescribes.types index column.1 column.2 isColumn
      rw [isType, isOther] at types ⊢
      have codes : otherType.code = type.code := Option.some.inj types
      rw [dialect, codes]

end

/-! ### Queries -/

theorem query_of_gives {source : DataSource} {session : Session} (reaches : Reaches source session)
    {sql : String} (unmarked : (Statement.prepare source.dialect sql).parameter = none)
    {header : List (String × Value)} {rows : List (List Value)}
    (gives : Gives source sql header rows) :
    ∃ after, query source sql session =
      (.ok ⟨describeColumns source header rows, rows⟩, after) := by
  have connected : source.connect = .ok () := by rw [DataSource.connect, reaches.connects]
  have fetched := fetch_eq_ok_iff.mpr gives
  have noted := reaches.noted
    (session.journal ++ [⟨.debug, loggerName logger, "Executing query: " ++ sql⟩])
  obtain ⟨ready, isReady, _⟩ := requireEngine_of_obtains noted.isOpen noted.obtains
  have ran : ∃ after, runStatement source sql ready = (.ok (header, rows), after) := by
    rw [runStatement, connected]
    dsimp only [guarded]
    rw [run_bind, run_pure]
    dsimp only
    rw [unmarked]
    dsimp only
    rw [run_bind, run_record]
    dsimp only
    rw [Dialect.sent] at fetched
    rw [fetched]
    exact ⟨_, rfl⟩
  obtain ⟨after, isAfter⟩ := ran
  rw [query, run_bind, run_note]
  dsimp only
  rw [run_bind, isReady]
  dsimp only
  rw [run_bind, isAfter]
  exact ⟨_, rfl⟩

/-- A query that succeeds describes the rows that the data source gives, and it does succeed where
there is nothing else to fail. Each type hangs on the driver's code and the cell in the first row
alone, that of a declared code on the code alone, and no column on later rows. -/
theorem columns_described (source : DataSource) (sql : String) :
    (∀ (session : Session) (result : QueryResult), (query source sql session).1 = .ok result →
      ∃ header rows, Gives source sql header rows ∧ Describes source header rows result) ∧
    (∀ (session : Session) (header : List (String × Value)) (rows : List (List Value)),
      Reaches source session → (Statement.prepare source.dialect sql).parameter = none →
      Gives source sql header rows →
      ∃ result after, query source sql session = (.ok result, after) ∧
        Describes source header rows result) ∧
    (∀ (other : DataSource) (header otherHeader : List (String × Value))
      (rows otherRows : List (List Value)) (result otherResult : QueryResult),
      other.typeObjects = source.typeObjects → Describes source header rows result →
      Describes other otherHeader otherRows otherResult →
      ∀ index name otherName code, header[index]? = some (name, code) →
        otherHeader[index]? = some (otherName, code) →
        firstCell otherRows index = firstCell rows index ∨
          code ≠ .null ∧ (∃ type, source.typeObjects.Declares code type) →
        otherResult.columns[index]?.map ResultColumn.typeCode =
          result.columns[index]?.map ResultColumn.typeCode) ∧
    ∀ (other : DataSource) (header : List (String × Value)) (rows otherRows : List (List Value))
      (result otherResult : QueryResult),
      other.typeObjects = source.typeObjects → other.dialect = source.dialect →
      Describes source header rows result → Describes other header otherRows otherResult →
      otherRows.head? = rows.head? → otherResult.columns = result.columns := by
  refine ⟨?_, ?_, ?_, ?_⟩
  · intro session result queried
    obtain ⟨_, _, _, _, _, _, succeeded⟩ := sends_query source sql session
    obtain ⟨header, fetched, described⟩ := (succeeded result queried).2.2
    refine ⟨header, result.rows, fetch_eq_ok_iff.mp fetched, ?_⟩
    obtain ⟨columns, rows⟩ := result
    obtain rfl : columns = describeColumns source header rows := described
    exact describes_describeColumns source header rows
  · intro session header rows reaches unmarked gives
    obtain ⟨after, queried⟩ := query_of_gives reaches unmarked gives
    exact ⟨_, after, queried, describes_describeColumns source header rows⟩
  · intro other header otherHeader rows otherRows result otherResult objects describes
      otherDescribes index name otherName code isColumn isOther same
    exact describes.typeCode_same otherDescribes objects isColumn isOther same
  · intro other header rows otherRows result otherResult objects dialect describes otherDescribes
      first
    exact describes.columns_eq otherDescribes objects dialect first

/-- A data source with a code that two type objects equal, and with columns without a code. -/
private def overlapping (rows : List (List Value)) : DataSource :=
  { dialect := .sqlite
    typeObjects := ⟨some [.integer 7], some [.integer 7, .integer 2], none, some [.integer 9]⟩
    queries :=
      [⟨none, .ok ⟨some [("a", .integer 7), ("b", .null), ("c", .integer 5), ("d", .null)], rows,
        none⟩⟩]
    primaryKeys := []
    connectFault := none
    createFault := none }

private def reading : Session :=
  ⟨⟨"sqlite", "sqlite://", none, none, true, true, false⟩, .empty, []⟩

private theorem reaches_overlapping (rows : List (List Value)) :
    Reaches (overlapping rows) reading :=
  ⟨rfl, Or.inl rfl, rfl⟩

/-- A first row that is null under the doubly equal code and ends before the last two columns, alone
and with a longer row behind it. -/
theorem columns_described_overlapping :
    let short : List Value := [.null, .boolean true]
    let long : List Value := [.text "x", .integer 3, .date ⟨2024, 1, 1⟩, .text "y"]
    let columns : List ResultColumn := [⟨"a", 93⟩, ⟨"b", 16⟩, ⟨"c", 1111⟩, ⟨"d", 0⟩]
    (∃ result after, query (overlapping [short]) "SELECT 1" reading = (.ok result, after) ∧
      result.rows = [short] ∧ result.columns = columns) ∧
    ∃ result after, query (overlapping [short, long]) "SELECT 1" reading = (.ok result, after) ∧
      result.rows = [short, long] ∧ result.columns = columns := by
  intro short long columns
  obtain ⟨_, returns, _, later⟩ := columns_described (overlapping [short]) "SELECT 1"
  obtain ⟨_, alsoReturns, _⟩ := columns_described (overlapping [short, long]) "SELECT 1"
  obtain ⟨result, after, queried, describes⟩ :=
    returns reading _ _ (reaches_overlapping _) (by decide +kernel) rfl
  obtain ⟨other, otherAfter, otherQueried, otherDescribes⟩ :=
    alsoReturns reading _ _ (reaches_overlapping _) (by decide +kernel) rfl
  have known : (query (overlapping [short]) "SELECT 1" reading).1.toOption.map
      QueryResult.columns = some columns := by decide +kernel
  rw [queried] at known
  have isColumns : result.columns = columns := Option.some.inj known
  refine ⟨⟨result, after, queried, describes.rows, isColumns⟩,
    ⟨other, otherAfter, otherQueried, otherDescribes.rows, ?_⟩⟩
  rw [later (overlapping [short, long]) _ _ _ _ _ rfl rfl describes otherDescribes rfl,
    isColumns]

end Executor
end ImportPlanning
