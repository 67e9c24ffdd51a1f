import PgAnalytics.Basics

/-! Record batches and the rows read from them. Both the FDW scan and the
executor hook read a batch by column position and tell the cell reader the type
and the name Postgres declares for that position. The array type and its cell
reader are left open; a cell stands for the datum that is made of it. -/

namespace PgAnalytics.RecordBatches
open Basics

abbrev Oid := UInt32

class GetCell (ArrayRef : Type) (Cell : outParam Type) where
  DataType : Type
  dataType : ArrayRef → DataType
  len : ArrayRef → ℕ
  getCell : ArrayRef → ℕ → Oid → String → Except Fault (Option Cell)

structure Column where
  name : String
  typeOid : Oid
  deriving DecidableEq, Repr

variable {ArrayRef Cell : Type} [GetCell ArrayRef Cell]

structure RecordBatch (ArrayRef : Type) {Cell : Type} [GetCell ArrayRef Cell] where
  columns : List ArrayRef
  numRows : ℕ
  lengths : ∀ array ∈ columns, GetCell.len array = numRows

/-- A row as it is handed to Postgres: one entry for each column, none for null. -/
abbrev Tuple (Cell : Type) := List (Option Cell)

/-- `batch.column(i)` panics past the last column. -/
def columnAt (batch : RecordBatch ArrayRef) (columnIndex : ℕ) : Except Fault ArrayRef :=
  match batch.columns[columnIndex]? with
  | some array => .ok array
  | none => .error (.panic "index out of bounds")

def readCell (batch : RecordBatch ArrayRef) (rowIndex : ℕ) (column : Column) (columnIndex : ℕ) :
    Except Fault (Option Cell) := do
  let array ← columnAt batch columnIndex
  GetCell.getCell array rowIndex column.typeOid column.name

/-- The loop over the columns, from `columnIndex` on. -/
def readRowFrom (batch : RecordBatch ArrayRef) (rowIndex : ℕ) :
    List Column → ℕ → Except Fault (Tuple Cell)
  | [], _ => .ok []
  | column :: columns, columnIndex => do
    let cell ← readCell batch rowIndex column columnIndex
    let cells ← readRowFrom batch rowIndex columns (columnIndex + 1)
    return cell :: cells

def readRow (columns : List Column) (batch : RecordBatch ArrayRef) (rowIndex : ℕ) :
    Except Fault (Tuple Cell) :=
  readRowFrom batch rowIndex columns 0

/-- The rows up to the first that cannot be read. -/
def collect : List (Except Fault (Tuple Cell)) → Except Fault (List (Tuple Cell))
  | [] => .ok []
  | .error fault :: _ => .error fault
  | .ok row :: rows => (collect rows).map (row :: ·)

def readable : List (Except Fault (Tuple Cell)) → List (Tuple Cell)
  | [] => []
  | .error _ :: _ => []
  | .ok row :: rows => row :: readable rows

/-- What DuckDB answers to a query: batches of at least one row each. -/
structure QueryResult (ArrayRef : Type) {Cell : Type} [GetCell ArrayRef Cell] where
  batches : List (RecordBatch ArrayRef)
  nonempty : ∀ batch ∈ batches, 0 < batch.numRows

def QueryResult.empty : QueryResult ArrayRef := ⟨[], by simp⟩

def QueryResult.tail (result : QueryResult ArrayRef) : QueryResult ArrayRef where
  batches := result.batches.tail
  nonempty batch h := result.nonempty batch (List.mem_of_mem_tail h)

theorem readRowFrom_congr {batch batch' : RecordBatch ArrayRef} {columns : List Column} {first : ℕ}
    (same : ∀ i, i < columns.length → batch.columns[first + i]? = batch'.columns[first + i]?)
    (rowIndex : ℕ) :
    (readRowFrom batch rowIndex columns first : Except Fault (Tuple Cell)) =
      readRowFrom batch' rowIndex columns first := by
  induction columns generalizing first with
  | nil => rfl
  | cons column columns ih =>
    have here : columnAt batch first = columnAt batch' first := by
      have at' : batch.columns[first]? = batch'.columns[first]? := by simpa using same 0 (by simp)
      rw [columnAt, columnAt, at']
    have rest : (readRowFrom batch rowIndex columns (first + 1) : Except Fault (Tuple Cell)) =
        readRowFrom batch' rowIndex columns (first + 1) := ih fun i h => by
      have moved := same (i + 1) (by simpa using h)
      rwa [show first + 1 + i = first + (i + 1) by omega]
    simp only [readRowFrom, readCell, here, rest]

theorem readRow_congr {batch batch' : RecordBatch ArrayRef} {columns : List Column}
    (same : ∀ i, i < columns.length → batch.columns[i]? = batch'.columns[i]?) (rowIndex : ℕ) :
    (readRow columns batch rowIndex : Except Fault (Tuple Cell)) =
      readRow columns batch' rowIndex := by
  have from0 : ∀ i, i < columns.length → batch.columns[0 + i]? = batch'.columns[0 + i]? := by
    simpa using same
  exact readRowFrom_congr from0 rowIndex

theorem readRowFrom_cons_ok {batch : RecordBatch ArrayRef} {rowIndex : ℕ} {head : Column}
    {columns : List Column} {first : ℕ} {tuple : Tuple Cell}
    (h : readRowFrom batch rowIndex (head :: columns) first = .ok tuple) :
    ∃ cell cells, readCell batch rowIndex head first = .ok cell ∧
      readRowFrom batch rowIndex columns (first + 1) = .ok cells ∧ tuple = cell :: cells := by
  rw [readRowFrom] at h
  cases one : readCell batch rowIndex head first with
  | error fault => rw [one] at h; cases h
  | ok cell =>
    cases later : readRowFrom batch rowIndex columns (first + 1) with
    | error fault => rw [one, later] at h; cases h
    | ok cells =>
      rw [one, later] at h
      cases h
      exact ⟨cell, cells, rfl, rfl, rfl⟩

theorem length_readRowFrom {batch : RecordBatch ArrayRef} {rowIndex : ℕ} {columns : List Column}
    {first : ℕ} {tuple : Tuple Cell} (h : readRowFrom batch rowIndex columns first = .ok tuple) :
    tuple.length = columns.length := by
  induction columns generalizing first tuple with
  | nil =>
    cases h
    rfl
  | cons head columns ih =>
    obtain ⟨cell, cells, -, later, rfl⟩ := readRowFrom_cons_ok h
    rw [List.length_cons, List.length_cons, ih later]

theorem readRowFrom_ok {batch : RecordBatch ArrayRef} {rowIndex : ℕ} {columns : List Column}
    {first : ℕ} {tuple : Tuple Cell} (h : readRowFrom batch rowIndex columns first = .ok tuple)
    {i : ℕ} {column : Column} (at' : columns[i]? = some column) :
    ∃ cell, readCell batch rowIndex column (first + i) = .ok cell ∧ tuple[i]? = some cell := by
  induction columns generalizing first tuple i with
  | nil => cases at'
  | cons head columns ih =>
    obtain ⟨cell, cells, one, later, rfl⟩ := readRowFrom_cons_ok h
    cases i with
    | zero =>
      cases at'
      exact ⟨cell, one, rfl⟩
    | succ i =>
      obtain ⟨cell', read, found⟩ := ih later (by simpa using at')
      refine ⟨cell', ?_, by simpa using found⟩
      rwa [show first + (i + 1) = first + 1 + i by omega]

theorem readRow_ok {batch : RecordBatch ArrayRef} {rowIndex : ℕ} {columns : List Column}
    {tuple : Tuple Cell} (h : readRow columns batch rowIndex = .ok tuple) {i : ℕ} {column : Column}
    (at' : columns[i]? = some column) :
    ∃ cell, readCell batch rowIndex column i = .ok cell ∧ tuple[i]? = some cell := by
  simpa using readRowFrom_ok h at'

theorem readRowFrom_of_cells {batch : RecordBatch ArrayRef} {rowIndex : ℕ} {columns : List Column}
    {first : ℕ} (cells : ∀ (i : ℕ) column, columns[i]? = some column →
      ∃ cell : Option Cell, readCell batch rowIndex column (first + i) = .ok cell) :
    ∃ tuple : Tuple Cell, readRowFrom batch rowIndex columns first = .ok tuple := by
  induction columns generalizing first with
  | nil => exact ⟨[], rfl⟩
  | cons head columns ih =>
    obtain ⟨cell, one⟩ := cells 0 head rfl
    obtain ⟨tuple, later⟩ : ∃ tuple : Tuple Cell,
        readRowFrom batch rowIndex columns (first + 1) = .ok tuple := ih fun i column at' => by
      obtain ⟨cell, read⟩ := cells (i + 1) column (by simpa using at')
      exact ⟨cell, by rwa [show first + 1 + i = first + (i + 1) by omega]⟩
    rw [Nat.add_zero] at one
    exact ⟨cell :: tuple, by rw [readRowFrom, one, later]; rfl⟩

theorem readRow_of_cells {batch : RecordBatch ArrayRef} {rowIndex : ℕ} {columns : List Column}
    (cells : ∀ (i : ℕ) column, columns[i]? = some column →
      ∃ cell : Option Cell, readCell batch rowIndex column i = .ok cell) :
    ∃ tuple : Tuple Cell, readRow columns batch rowIndex = .ok tuple :=
  readRowFrom_of_cells (by simpa using cells)

theorem collect_singleton_ok {r : Except Fault (Tuple Cell)} {row : Tuple Cell}
    (h : collect [r] = .ok [row]) : r = .ok row := by
  cases r with
  | error fault => cases h
  | ok row' =>
    cases h
    rfl

theorem readable_of_collect {read : List (Except Fault (Tuple Cell))} {rows : List (Tuple Cell)}
    (h : collect read = .ok rows) : readable read = rows := by
  induction read generalizing rows with
  | nil =>
    cases h
    rfl
  | cons r read ih =>
    cases r with
    | error fault => cases h
    | ok row =>
      rw [collect] at h
      cases later : collect read with
      | error fault =>
        rw [later] at h
        cases h
      | ok rows' =>
        rw [later] at h
        cases h
        rw [readable, ih later]

structure Int32Array where
  values : List (Option Int32)
  deriving DecidableEq, Repr

inductive IntegerCell where
  | i16 (value : Int16)
  | i32 (value : Int32)
  | i64 (value : Int64)
  deriving DecidableEq, Repr

def INT8OID : Oid := 20
def INT2OID : Oid := 21
def INT4OID : Oid := 23

/-- `get_primitive_value::<Int32Array>`. -/
def Int32Array.getPrimitiveValue (array : Int32Array) (index : ℕ) :
    Except Fault (Option Int32) :=
  match array.values[index]? with
  | some value => .ok value
  | none => .error (.panic "Trying to access an element past the end of a PrimitiveArray")

instance : GetCell Int32Array IntegerCell where
  DataType := Unit
  dataType _ := ()
  len array := array.values.length
  getCell array index oid name := do
    let value ← array.getPrimitiveValue index
    if oid = INT2OID then
      return value.map fun v => .i16 v.toInt16
    else if oid = INT4OID then
      return value.map .i32
    else if oid = INT8OID then
      return value.map fun v => .i64 v.toInt64
    else
      throw (.error ("Column " ++ name ++ " is not mapped to an integer type"))

def int32Batch (values : List (Option Int32)) : RecordBatch Int32Array where
  columns := [⟨values⟩]
  numRows := values.length
  lengths := by simp [GetCell.len]

end PgAnalytics.RecordBatches
