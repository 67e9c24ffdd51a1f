import Mathlib.Data.Fin.VecNotation
import PgAnalytics.CellAccess
import PgAnalytics.QueryHook

/-! Nulls on their way to a destination: the bits of validity become missing cells, and these
the null flags of the slots that are sent. -/

namespace PgAnalytics.NullCells
open Basics Commands RecordBatches CellReader ArrowArrays ArrowArray CellAccess QueryHook

variable {σ β Datum : Type} {n : ℕ}

/-- `logical_nulls`: the entries of an array of nulls are null without any bits. -/
def isLogicallyNull : ArrowArray σ n → Fin n → Bool
  | .null _, _ => true
  | array, index => array.isNull index

theorem ite_eq_null_iff {p : Prop} [Decidable p] {v : Value σ} (some' : v ≠ .null) :
    (if p then .null else v) = .null ↔ p := by
  by_cases h : p <;> simp [h, some']

theorem valueAt_eq_null_iff (array : ArrowArray σ n) (index : Fin n) :
    array.valueAt index = .null ↔ isLogicallyNull array index = true := by
  cases array with
  | null => exact ⟨fun _ => rfl, fun _ => rfl⟩
  | flat | list | fixedSizeList | struct => exact ite_eq_null_iff (by simp)

theorem map_eq_ok {ε α γ : Type} {found : Except ε (Option α)} {f : α → γ} {result : Option γ}
    (read : found.map (Option.map f) = .ok result) :
    ∃ o, found = .ok o ∧ (result = none ↔ o = none) := by
  cases found with
  | error fault => cases read
  | ok o =>
    cases read
    exact ⟨o, rfl, Option.map_eq_none_iff⟩

theorem ne_none_of_map_some {ε α γ : Type} {found : Except ε α} {f : α → γ} {o : Option γ}
    (read : (found.map fun a => some (f a)) = .ok o) : o ≠ none := by
  cases found with
  | error fault => cases read
  | ok a =>
    cases read
    exact Option.some_ne_none (f a)

theorem list_null_iff {element : DataType} {v : Value σ} (shaped : Shaped (.list element) v)
    {o : Option (Json σ)} (read : getListValue (.list element) v = .ok o) :
    o = none ↔ v = .null := by
  cases shaped with
  | null =>
    cases read
    simp
  | single scalar => simp [DataType.arrayType, nested] at scalar
  | list _ elements =>
    rw [getListValue] at read
    exact iff_of_false (ne_none_of_map_some read) (by simp)

theorem struct_null_iff {fields : List (String × DataType)} {v : Value σ}
    (shaped : Shaped (.struct fields) v) {o : Option (Json σ)}
    (read : getStructValue (.struct fields) v = .ok o) : o = none ↔ v = .null := by
  cases shaped with
  | null =>
    cases read
    simp
  | single scalar => simp [DataType.arrayType, nested] at scalar
  | struct _ values =>
    rw [getStructValue] at read
    exact iff_of_false (ne_none_of_map_some read) (by simp)

theorem elements_null_iff {t : DataType} {v : Value σ} (shaped : Shaped t v) {target : ArrayType}
    {o : Option (List (Option σ))} (read : getPrimitiveListValue target t v = .ok o) :
    o = none ↔ v = .null := by
  cases t with
  | list element =>
    cases shaped with
    | null =>
      cases read
      simp
    | single scalar => simp [DataType.arrayType, nested] at scalar
    | list _ elements =>
      rw [getPrimitiveListValue] at read
      split at read
      · cases read
        simp
      · cases read
  | _ => cases read

theorem arm_null_iff {arm : Arm} {t : DataType} {v : Value σ} (shaped : Shaped t v)
    {result : Option (Cell σ)} (read : readArm arm t v = some (.ok result)) :
    result = none ↔ v = .null := by
  have access := access_readArm arm t v
  rw [read] at access
  generalize answered : some (Except.ok result) = answer at access
  cases access with
  | missing => cases answered
  | void own =>
    cases answered
    cases shaped with
    | null => simp
    | single scalar => simp [own, nested] at scalar
    | list | fixedSizeList | struct => cases own
  | downcast make target array scalar =>
    obtain ⟨o, found, null⟩ := map_eq_ok (Option.some.inj answered).symm
    rw [downcast] at found
    split at found
    · next own =>
      cases found
      exact null.trans (single?_eq_none_iff shaped (by rwa [own]))
    · cases found
  | primitive make own =>
    obtain ⟨o, found, null⟩ := map_eq_ok (Option.some.inj answered).symm
    rw [asPrimitive, if_pos rfl] at found
    cases found
    exact null.trans (single?_eq_none_iff shaped own)
  | uint8 _ t_eq =>
    subst t_eq
    cases answered
  | struct t_eq make =>
    subst t_eq
    obtain ⟨o, found, null⟩ := map_eq_ok (Option.some.inj answered).symm
    exact null.trans (struct_null_iff shaped found)
  | list t_eq make =>
    subst t_eq
    obtain ⟨o, found, null⟩ := map_eq_ok (Option.some.inj answered).symm
    exact null.trans (list_null_iff shaped found)
  | elements =>
    obtain ⟨o, found, null⟩ := map_eq_ok (Option.some.inj answered).symm
    exact null.trans (elements_null_iff shaped found)

structure Conversion (σ β : Type) where
  convert : DataType → CellReader.Cell σ → Except ConversionFault β
  report : ConversionFault → Fault

/-- `get_cell`, with the conversions of its getters. -/
def getCell (conversion : Conversion σ β) (array : ArrowArray σ n) (index : Fin n) (oid : Oid)
    (name : String) : Except ConversionFault (Option β) :=
  convertEntry (conversion.convert array.dataType) (ArrayReader.getCell array index oid name)

theorem convertEntry_null_iff {α : Type} {convert : α → Except ConversionFault β}
    {entry : Except ReadFault (Option α)} {result : Option β}
    (made : convertEntry convert entry = .ok result) :
    ∃ o, entry = .ok o ∧ (result = none ↔ o = none) := by
  cases entry with
  | error fault => cases made
  | ok o =>
    cases o with
    | none =>
      cases made
      exact ⟨none, rfl, by simp⟩
    | some value =>
      rw [convertEntry] at made
      cases converted : convert value with
      | error fault => rw [converted] at made; cases made
      | ok cell =>
        rw [converted] at made
        cases made
        exact ⟨some value, rfl, by simp⟩

theorem cell_null_iff {conversion : Conversion σ β} {array : ArrowArray σ n} {index : Fin n}
    {oid : Oid} {name : String} {result : Option β}
    (read : getCell conversion array index oid name = .ok result) :
    result = none ↔ isLogicallyNull array index = true := by
  obtain ⟨o, found, null⟩ := convertEntry_null_iff read
  rw [ArrayReader.getCell_eq, CellReader.getCell] at found
  rw [null, ← valueAt_eq_null_iff]
  cases arm_eq : arms.lookup oid with
  | none => rw [arm_eq] at found; cases found
  | some arm =>
    rw [arm_eq, Option.bind_some] at found
    cases answered : readArm arm array.dataType (array.valueAt index) with
    | none => rw [answered] at found; cases found
    | some answer =>
      rw [answered] at found
      cases found
      exact arm_null_iff (shaped_valueAt array index) answered

structure ConvertedArray (conversion : Conversion σ β) where
  {length : ℕ}
  array : ArrowArray σ length

instance (conversion : Conversion σ β) : GetCell (ConvertedArray conversion) β where
  DataType := DataType
  dataType column := column.array.dataType
  len column := column.length
  getCell column index oid name :=
    if valid : index < column.length then
      (getCell conversion column.array ⟨index, valid⟩ oid name).mapError conversion.report
    else .error (.panic "index out of bounds")

/-- A virtual tuple, with the datums that were stored in it and its null flags. -/
structure Slot (Datum : Type) where
  ttsValues : List (Option Datum)
  ttsIsnull : List Bool

/-- `MakeTupleTableSlot` allocates zeroes. -/
def Slot.make (natts : ℕ) : Slot Datum :=
  ⟨List.replicate natts none, List.replicate natts false⟩

variable {ArrayRef Cell : Type} [GetCell ArrayRef Cell] (intoDatum : Cell → Option Datum)

def Slot.store (slot : Slot Datum) (colIndex : ℕ) : Option Cell → Slot Datum
  | some cell =>
    match intoDatum cell with
    | some datum => { slot with ttsValues := slot.ttsValues.set colIndex (some datum) }
    | none => slot
  | none => { slot with ttsIsnull := slot.ttsIsnull.set colIndex true }

def fillFrom (batch : RecordBatch ArrayRef) (rowIndex : ℕ) :
    List Column → ℕ → Slot Datum → Except Fault (Slot Datum)
  | [], _, slot => .ok slot
  | column :: columns, colIndex, slot => do
    let cell ← readCell batch rowIndex column colIndex
    fillFrom batch rowIndex columns (colIndex + 1) (slot.store intoDatum colIndex cell)

def fillSlot (tupDesc : List Column) (batch : RecordBatch ArrayRef) (rowIndex : ℕ) :
    Except Fault (Slot Datum) :=
  fillFrom intoDatum batch rowIndex tupDesc 0 (Slot.make tupDesc.length)

def storeFrom : Tuple Cell → ℕ → Slot Datum → Slot Datum
  | [], _, slot => slot
  | cell :: cells, colIndex, slot =>
    storeFrom cells (colIndex + 1) (slot.store intoDatum colIndex cell)

theorem fillFrom_eq (batch : RecordBatch ArrayRef) (rowIndex : ℕ) (columns : List Column)
    (colIndex : ℕ) (slot : Slot Datum) :
    fillFrom intoDatum batch rowIndex columns colIndex slot =
      (readRowFrom batch rowIndex columns colIndex).map fun cells =>
        storeFrom intoDatum cells colIndex slot := by
  induction columns generalizing colIndex slot with
  | nil => rfl
  | cons column columns ih =>
    rw [fillFrom, readRowFrom]
    cases readCell batch rowIndex column colIndex with
    | error fault => rfl
    | ok cell =>
      simp only [bind, Except.bind, ih]
      cases readRowFrom batch rowIndex columns (colIndex + 1) <;> rfl

def Slot.Fresh (slot : Slot Datum) (k : ℕ) : Prop :=
  slot.ttsIsnull[k]? = some false ∧ slot.ttsValues[k]? = some none

/-- The flag and the datum of a column are those of a cell. -/
def Slot.Holds (slot : Slot Datum) (k : ℕ) (cell : Option Cell) : Prop :=
  slot.ttsIsnull[k]? = some cell.isNone ∧ slot.ttsValues[k]? = some (cell.bind intoDatum)

theorem store_holds {slot : Slot Datum} {k : ℕ} (fresh : slot.Fresh k) (cell : Option Cell) :
    (slot.store intoDatum k cell).Holds intoDatum k cell := by
  obtain ⟨flag, value⟩ := fresh
  obtain ⟨within, -⟩ := List.getElem?_eq_some_iff.mp flag
  obtain ⟨within', -⟩ := List.getElem?_eq_some_iff.mp value
  cases cell with
  | none => exact ⟨by simp [Slot.store, within], value⟩
  | some cell =>
    rw [Slot.store, Slot.Holds, Option.bind_some]
    cases intoDatum cell with
    | none => exact ⟨flag, value⟩
    | some datum => exact ⟨flag, by simp [within']⟩

theorem store_other (slot : Slot Datum) {k other : ℕ} (apart : k ≠ other) (cell : Option Cell) :
    (slot.store intoDatum k cell).ttsIsnull[other]? = slot.ttsIsnull[other]? ∧
      (slot.store intoDatum k cell).ttsValues[other]? = slot.ttsValues[other]? := by
  cases cell with
  | none => exact ⟨List.getElem?_set_ne apart, rfl⟩
  | some cell =>
    rw [Slot.store]
    cases intoDatum cell with
    | none => exact ⟨rfl, rfl⟩
    | some datum => exact ⟨rfl, List.getElem?_set_ne apart⟩

theorem storeFrom_before (cells : Tuple Cell) {colIndex k : ℕ} (before : k < colIndex)
    (slot : Slot Datum) :
    (storeFrom intoDatum cells colIndex slot).ttsIsnull[k]? = slot.ttsIsnull[k]? ∧
      (storeFrom intoDatum cells colIndex slot).ttsValues[k]? = slot.ttsValues[k]? := by
  induction cells generalizing colIndex slot with
  | nil => exact ⟨rfl, rfl⟩
  | cons cell cells ih =>
    obtain ⟨flag, value⟩ := ih (Nat.lt_succ_of_lt before) (slot.store intoDatum colIndex cell)
    obtain ⟨flag', value'⟩ := store_other intoDatum slot (Nat.ne_of_gt before) cell
    exact ⟨flag.trans flag', value.trans value'⟩

theorem storeFrom_holds {cells : Tuple Cell} {colIndex : ℕ} {slot : Slot Datum}
    (fresh : ∀ j, j < cells.length → slot.Fresh (colIndex + j)) {j : ℕ} {cell : Option Cell}
    (at' : cells[j]? = some cell) :
    (storeFrom intoDatum cells colIndex slot).Holds intoDatum (colIndex + j) cell := by
  induction cells generalizing colIndex slot j with
  | nil => cases at'
  | cons head cells ih =>
    rw [storeFrom]
    cases j with
    | zero =>
      obtain rfl : head = cell := Option.some.inj at'
      have stored := store_holds intoDatum (fresh 0 (by simp)) head
      obtain ⟨flag, value⟩ := storeFrom_before intoDatum cells (Nat.lt_succ_self colIndex)
        (slot.store intoDatum colIndex head)
      exact ⟨flag.trans stored.1, value.trans stored.2⟩
    | succ j =>
      have later : ∀ j, j < cells.length →
          (slot.store intoDatum colIndex head).Fresh (colIndex + 1 + j) := fun j within => by
        obtain ⟨flag, value⟩ := fresh (j + 1) (by simpa using within)
        obtain ⟨flag', value'⟩ := store_other intoDatum slot
          (show colIndex ≠ colIndex + (j + 1) by omega) head
        rw [show colIndex + 1 + j = colIndex + (j + 1) by omega]
        exact ⟨flag'.trans flag, value'.trans value⟩
      have held := ih later (by simpa using at')
      rwa [show colIndex + 1 + j = colIndex + (j + 1) by omega] at held

theorem fresh_make {natts k : ℕ} (within : k < natts) : (Slot.make natts : Slot Datum).Fresh k := by
  simp [Slot.Fresh, Slot.make, within]

theorem storeFrom_make {tupDesc : List Column} {batch : RecordBatch ArrayRef} {rowIndex : ℕ}
    {cells : Tuple Cell} (read : readRow tupDesc batch rowIndex = .ok cells) {i : ℕ}
    {column : Column} (at' : tupDesc[i]? = some column) :
    ∃ cell, readCell batch rowIndex column i = .ok cell ∧
      (storeFrom intoDatum cells 0 (Slot.make tupDesc.length)).Holds intoDatum i cell := by
  obtain ⟨cell, one, found⟩ := readRow_ok read at'
  have fresh : ∀ j, j < cells.length → (Slot.make tupDesc.length : Slot Datum).Fresh (0 + j) :=
    fun j within => fresh_make (by rw [← length_readRowFrom read]; omega)
  have held := storeFrom_holds intoDatum fresh found
  rw [Nat.zero_add] at held
  exact ⟨cell, one, held⟩

def rowsOf (batches : List (RecordBatch ArrayRef)) : List (RecordBatch ArrayRef × ℕ) :=
  batches.flatMap fun batch => (List.range batch.numRows).map fun rowIndex => (batch, rowIndex)

theorem rows_eq_map (tupDesc : List Column) (batches : List (RecordBatch ArrayRef)) :
    BatchCursor.rows RecordBatch.numRows (readRow tupDesc) batches =
      (rowsOf batches).map fun p => readRow tupDesc p.1 p.2 := by
  rw [BatchCursor.rows, rowsOf, List.map_flatMap]
  simp only [List.map_map]
  rfl

theorem getElem?_of_readable {read : List (Except Fault (Tuple Cell))} {k : ℕ} {row : Tuple Cell}
    (at' : (readable read)[k]? = some row) : read[k]? = some (.ok row) := by
  induction read generalizing k with
  | nil => cases at'
  | cons r read ih =>
    cases r with
    | error fault => cases at'
    | ok head =>
      cases k with
      | zero =>
        cases at'
        rfl
      | succ k => exact ih (by simpa [readable] using at')

theorem sent_writeBatchesToSlots (dest : DestReceiver) (tupDesc : List Column)
    (batches : List (RecordBatch ArrayRef)) :
    (exec (writeBatchesToSlots dest tupDesc batches) Output.empty).2.sent = [] ∨
      (exec (writeBatchesToSlots dest tupDesc batches) Output.empty).2.sent =
        readable ((rowsOf batches).map fun p => readRow tupDesc p.1 p.2) := by
  rw [← rows_eq_map]
  simp only [writeBatchesToSlots, exec_bind, exec_modify, requireCallback]
  cases dest.rStartup with
  | false => exact .inl rfl
  | true =>
    cases dest.receiveSlot with
    | false => exact .inl rfl
    | true =>
      right
      simp only [if_true, exec_pure, exec_sendBatches, exec_sendAll]
      cases collect (BatchCursor.rows RecordBatch.numRows (readRow tupDesc) batches) with
      | error fault => simp [Except.map, Output.send, Output.empty]
      | ok rows => cases dest.rShutdown <;> simp [Except.map, Output.send, Output.empty]

def sentSlots (dest : DestReceiver) (tupDesc : List Column)
    (batches : List (RecordBatch ArrayRef)) : List (Slot Datum) :=
  (exec (writeBatchesToSlots dest tupDesc batches) Output.empty).2.sent.map fun cells =>
    storeFrom intoDatum cells 0 (Slot.make tupDesc.length)

/-- The flags of a slot are those of the entries of a row, and elsewhere it has a datum. -/
def ShowsNulls {conversion : Conversion σ β} (tupDesc : List Column)
    (batch : RecordBatch (ConvertedArray conversion)) (rowIndex : ℕ) (slot : Slot Datum) : Prop :=
  ∀ (i : ℕ) column, tupDesc[i]? = some column →
    ∃ (source : ConvertedArray conversion) (valid : rowIndex < source.length),
      batch.columns[i]? = some source ∧
        slot.ttsIsnull[i]? = some (isLogicallyNull source.array ⟨rowIndex, valid⟩) ∧
        (isLogicallyNull source.array ⟨rowIndex, valid⟩ = false →
          ∃ datum, slot.ttsValues[i]? = some (some datum))

theorem readCell_converted {conversion : Conversion σ β}
    {batch : RecordBatch (ConvertedArray conversion)} {rowIndex : ℕ} {column : Column} {i : ℕ}
    {cell : Option β} (read : readCell batch rowIndex column i = .ok cell) :
    ∃ (source : ConvertedArray conversion) (valid : rowIndex < source.length),
      batch.columns[i]? = some source ∧
        getCell conversion source.array ⟨rowIndex, valid⟩ column.typeOid column.name =
          .ok cell := by
  rw [readCell, columnAt] at read
  cases found : batch.columns[i]? with
  | none => rw [found] at read; cases read
  | some source =>
    rw [found] at read
    change (if valid : rowIndex < source.length then
      (getCell conversion source.array ⟨rowIndex, valid⟩ column.typeOid column.name).mapError
        conversion.report else .error (.panic "index out of bounds")) = .ok cell at read
    split at read
    · next valid =>
      refine ⟨source, valid, rfl, ?_⟩
      cases answer : getCell conversion source.array ⟨rowIndex, valid⟩ column.typeOid
          column.name with
      | error fault => rw [answer] at read; cases read
      | ok result =>
        rw [answer] at read
        cases read
        rfl
    · cases read

/-- The cell is one that `get_cell` produces. -/
def Produced (conversion : Conversion σ β) (cell : β) : Prop :=
  ∃ (n : ℕ) (array : ArrowArray σ n) (index : Fin n) (oid : Oid) (name : String),
    getCell conversion array index oid name = .ok (some cell)

theorem showsNulls_of_holds {conversion : Conversion σ β} {intoDatum : β → Option Datum}
    (total : ∀ cell, Produced conversion cell → (intoDatum cell).isSome) {tupDesc : List Column}
    {batch : RecordBatch (ConvertedArray conversion)} {rowIndex : ℕ} {cells : Tuple β}
    (read : readRow tupDesc batch rowIndex = .ok cells) :
    ShowsNulls tupDesc batch rowIndex
      (storeFrom intoDatum cells 0 (Slot.make tupDesc.length)) := by
  intro i column at'
  obtain ⟨cell, one, flag, value⟩ := storeFrom_make intoDatum read at'
  obtain ⟨source, valid, found, answer⟩ := readCell_converted one
  have null := cell_null_iff answer
  refine ⟨source, valid, found, ?_, fun some' => ?_⟩
  · rw [flag]
    cases cell with
    | none => rw [null.mp rfl]; rfl
    | some cell =>
      cases logical : isLogicallyNull source.array ⟨rowIndex, valid⟩ with
      | false => rfl
      | true => cases null.mpr logical
  · cases cell with
    | none =>
      rw [null.mp rfl] at some'
      cases some'
    | some cell =>
      obtain ⟨datum, stored⟩ := Option.isSome_iff_exists.mp (total cell ⟨_, _, _, _, _, answer⟩)
      exact ⟨datum, by rw [value, Option.bind_some, stored]⟩

/-- A cell is missing where the entry is null and nowhere else, and so are the datums of the
slots that are sent, the `k`th of which is for the `k`th row. -/
theorem nulls_preserved (conversion : Conversion σ β) (intoDatum : β → Option Datum)
    (total : ∀ cell, Produced conversion cell → (intoDatum cell).isSome) :
    (∀ (n : ℕ) (array : ArrowArray σ n) (index : Fin n) (oid : Oid) (name : String)
        (result : Option β), getCell conversion array index oid name = .ok result →
        (result = none ↔ isLogicallyNull array index = true)) ∧
      ∀ (dest : DestReceiver) (tupDesc : List Column)
        (batches : List (RecordBatch (ConvertedArray conversion))) (k : ℕ) (slot : Slot Datum),
        (sentSlots intoDatum dest tupDesc batches)[k]? = some slot →
          ∃ batch rowIndex, (rowsOf batches)[k]? = some (batch, rowIndex) ∧
            fillSlot intoDatum tupDesc batch rowIndex = .ok slot ∧
            ShowsNulls tupDesc batch rowIndex slot := by
  refine ⟨fun _ _ _ _ _ _ => cell_null_iff, fun dest tupDesc batches k slot at' => ?_⟩
  rw [sentSlots, List.getElem?_map, Option.map_eq_some_iff] at at'
  obtain ⟨cells, sent, rfl⟩ := at'
  rcases sent_writeBatchesToSlots dest tupDesc batches with none' | all
  · rw [none'] at sent
    cases sent
  · rw [all] at sent
    have row := getElem?_of_readable sent
    rw [List.getElem?_map, Option.map_eq_some_iff] at row
    obtain ⟨⟨batch, rowIndex⟩, place, read⟩ := row
    refine ⟨batch, rowIndex, place, ?_, showsNulls_of_holds total read⟩
    rw [readRow] at read
    rw [fillSlot, fillFrom_eq, read]
    rfl

def asRead : Conversion Int32 (CellReader.Cell Int32) where
  convert _ cell := .ok cell
  report _ := .error "cannot read the cell"

def sevenAndNull : RecordBatch (ConvertedArray asRead) where
  columns := [⟨.flat .int32 (by decide) ![7, 0] (some ![true, false])⟩]
  numRows := 2
  lengths := by simp [GetCell.len]

theorem sevenAndNull_shown :
    sentSlots some ⟨true, true, true⟩ [⟨"a", INT4OID⟩] [sevenAndNull] =
        [⟨[some (.single .i32 7)], [false]⟩, ⟨[none], [true]⟩] ∧
      ShowsNulls [⟨"a", INT4OID⟩] sevenAndNull 1
        (⟨[none], [true]⟩ : Slot (CellReader.Cell Int32)) := by
  obtain ⟨batch, rowIndex, place, -, shown⟩ :=
    (nulls_preserved asRead some fun _ _ => rfl).2 ⟨true, true, true⟩ [⟨"a", INT4OID⟩]
      [sevenAndNull] 1 ⟨[none], [true]⟩ rfl
  cases place
  exact ⟨rfl, shown⟩

end PgAnalytics.NullCells
