import Mathlib.Data.Set.List
import PgAnalytics.BaseFdw
import PgAnalytics.Executor

/-! The rows that each of the two paths delivers for one query: the calls of a
foreign scan up to its end, and one run of the executor hook. Both are the rows
of the nested loop over the batches of DuckDB's answer. -/

namespace PgAnalytics.ScanDelivery
open Basics Commands DuckdbCatalog ForeignTables RecordBatches ArrowReader BatchCursor BaseFdw
open QueryHook Executor

variable {κ : Type} [DecidableEq κ] {fold : String → κ}
variable {ArrayRef Cell : Type} [GetCell ArrayRef Cell]

/-- Calls of `iter_scan_impl` until it answers no row; none when the fuel runs out. -/
def drain (answer : QueryAnswer ArrayRef) :
    ℕ → FdwScan ArrayRef × Globals ArrayRef → Option (Except Fault (List (Tuple Cell)))
  | 0, _ => none
  | fuel + 1, s =>
    match exec (iterScanImpl false answer) s with
    | (.error fault, _) => some (.error fault)
    | (.ok none, _) => some (.ok [])
    | (.ok (some row), s') => (drain answer fuel s').map (·.map (row :: ·))

def resultRows (result : QueryResult ArrayRef) (columns : List Column) :
    List (Except Fault (Tuple Cell)) :=
  BatchCursor.rows RecordBatch.numRows (readRow columns) result.batches

def lastBatchRows (result : QueryResult ArrayRef) (columns : List Column) :
    List (Except Fault (Tuple Cell)) :=
  lastRows RecordBatch.numRows (readRow columns) result.batches

inductive Reading (result : QueryResult ArrayRef) (columns : List Column) :
    List (Except Fault (Tuple Cell)) → FdwScan ArrayRef × Globals ArrayRef → Prop
  | begun (userMapping : Options) (t : ForeignTable) {request : ScanRequest}
      (target : request.columns = columns) (g : Globals ArrayRef) :
      Reading result columns (resultRows result columns) (FdwScan.begun userMapping t request, g)
  | started {scan : FdwScan ArrayRef} {g : Globals ArrayRef} {arrow : Arrow ArrayRef}
      (started : scan.scanStarted = true) (target : scan.targetColumns = columns)
      (reads : g.Reads arrow)
      (last : (scan.currentBatch.toList ++ arrow.result.batches).getLast? =
        result.batches.getLast?) :
      Reading result columns
        (scan.cursor.pending RecordBatch.numRows (readRow columns) arrow.result.batches) (scan, g)

/-- The rows to come after a call: at the end, those of the last batch again. -/
def rowsAfter (result : QueryResult ArrayRef) (columns : List Column)
    (pending : List (Except Fault (Tuple Cell))) : List (Except Fault (Tuple Cell)) :=
  if pending = [] then lastBatchRows result columns else pending.tail

theorem nextRow_reading {result : QueryResult ArrayRef} {scan : FdwScan ArrayRef}
    {g : Globals ArrayRef} {arrow : Arrow ArrayRef} (started : scan.scanStarted = true)
    (reads : g.Reads arrow)
    (last : (scan.currentBatch.toList ++ arrow.result.batches).getLast? =
      result.batches.getLast?) :
    let pending := scan.cursor.pending RecordBatch.numRows (readRow scan.targetColumns)
      arrow.result.batches
    (exec nextRow (scan, g)).1 = rowAnswer pending.head? ∧
      ((exec nextRow (scan, g)).1.isOk → Reading result scan.targetColumns
        (rowsAfter result scan.targetColumns pending) (exec nextRow (scan, g)).2) := by
  intro pending
  have head := Cursor.advance_head (c := scan.cursor) RecordBatch.numRows
    (readRow scan.targetColumns) arrow.result.nonempty
  have later := Cursor.advance_later (c := scan.cursor) RecordBatch.numRows
    (readRow scan.targetColumns) arrow.result.nonempty
  have kept := Cursor.advance_getLast RecordBatch.numRows (readRow scan.targetColumns) scan.cursor
    arrow.result.batches
  have rest := Cursor.advance_rest RecordBatch.numRows (readRow scan.targetColumns) scan.cursor
    arrow.result.batches
  obtain ⟨returned, after⟩ := nextRow_advance fun _ : scan.usedUp = true => reads
  rcases step : scan.cursor.advance RecordBatch.numRows (readRow scan.targetColumns)
    arrow.result.batches with ⟨first, cursor, remaining⟩
  rw [step] at head later kept rest
  simp only [step] at returned after
  refine ⟨returned.trans (congrArg rowAnswer head), fun ok => ?_⟩
  obtain ⟨next, reads', batches⟩ : ∃ next : Arrow ArrayRef,
      Globals.Reads (if scan.usedUp then
        { g with arrow := some { arrow with result := arrow.result.tail } } else g) next ∧
        next.result.batches = remaining := by
    split
    · rename_i usedUp
      exact ⟨_, reads.later _, (rest.trans (if_pos usedUp)).symm⟩
    · rename_i left
      exact ⟨arrow, reads, (rest.trans (if_neg left)).symm⟩
  subst batches
  have same : rowsAfter result scan.targetColumns pending =
      cursor.pending RecordBatch.numRows (readRow scan.targetColumns) next.result.batches := by
    rw [later, rowsAfter, lastBatchRows, lastRows, lastRows, ← last]
    rfl
  let scan' : FdwScan ArrayRef :=
    { scan with currentBatch := cursor.current, currentBatchIndex := cursor.index }
  rw [after ok, same]
  exact @Reading.started _ _ _ _ _ scan' _ _ started rfl reads' (kept.trans last)

theorem Reading.next {result : QueryResult ArrayRef} {columns : List Column}
    {pending : List (Except Fault (Tuple Cell))} {s : FdwScan ArrayRef × Globals ArrayRef}
    (h : Reading result columns pending s) :
    (exec (iterScanImpl false (.answered result)) s).1 = rowAnswer pending.head? ∧
      ((exec (iterScanImpl false (.answered result)) s).1.isOk →
        Reading result columns (rowsAfter result columns pending)
          (exec (iterScanImpl false (.answered result)) s).2) := by
  cases h with
  | started started target reads last =>
    subst target
    rw [exec_iterScanImpl_started started]
    exact nextRow_reading started reads last
  | begun userMapping t target g =>
    rename_i request
    subst target
    -- the first call opens the reader and then goes on as the later ones do
    let scan : FdwScan ArrayRef :=
      { FdwScan.begun userMapping t request with scanStarted := true }
    let opened : Globals ArrayRef :=
      ⟨some ⟨g.nextId, scanSql t request⟩, some ⟨g.nextId, result⟩, g.nextId + 1⟩
    have first : exec (iterScanImpl false (.answered result))
        (FdwScan.begun userMapping t request, g) = exec nextRow (scan, opened) := by
      rw [exec_iterScanImpl_first rfl rfl, exec_createArrow]
    rw [first]
    exact @nextRow_reading _ _ _ _ scan opened _ rfl ⟨rfl, rfl⟩ rfl

theorem Reading.next_none {result : QueryResult ArrayRef} {columns : List Column}
    {s : FdwScan ArrayRef × Globals ArrayRef} (h : Reading result columns [] s) :
    ∃ s', exec (iterScanImpl false (.answered result)) s = (.ok none, s') ∧
      Reading result columns (lastBatchRows result columns) s' := by
  obtain ⟨returned, after⟩ := h.next
  rcases run : exec (iterScanImpl false (.answered result)) s with ⟨r, s'⟩
  rw [run] at returned after
  cases returned
  exact ⟨s', rfl, after rfl⟩

theorem Reading.next_error {result : QueryResult ArrayRef} {columns : List Column} {fault : Fault}
    {later : List (Except Fault (Tuple Cell))} {s : FdwScan ArrayRef × Globals ArrayRef}
    (h : Reading result columns (.error fault :: later) s) :
    ∃ s', exec (iterScanImpl false (.answered result)) s = (.error fault, s') :=
  ⟨_, Prod.ext h.next.1 rfl⟩

theorem Reading.next_row {result : QueryResult ArrayRef} {columns : List Column} {row : Tuple Cell}
    {later : List (Except Fault (Tuple Cell))} {s : FdwScan ArrayRef × Globals ArrayRef}
    (h : Reading result columns (.ok row :: later) s) :
    ∃ s', exec (iterScanImpl false (.answered result)) s = (.ok (some row), s') ∧
      Reading result columns later s' := by
  obtain ⟨returned, after⟩ := h.next
  rcases run : exec (iterScanImpl false (.answered result)) s with ⟨r, s'⟩
  rw [run] at returned after
  cases returned
  exact ⟨s', rfl, after rfl⟩

theorem drain_reading {result : QueryResult ArrayRef} {columns : List Column}
    {pending : List (Except Fault (Tuple Cell))} {s : FdwScan ArrayRef × Globals ArrayRef}
    (h : Reading result columns pending s) {fuel : ℕ} (enough : pending.length < fuel) :
    drain (.answered result) fuel s = some (collect pending) := by
  induction fuel generalizing pending s with
  | zero => cases enough
  | succ fuel ih =>
    cases pending with
    | nil =>
      obtain ⟨s', run, -⟩ := h.next_none
      rw [drain, run]
      rfl
    | cons r later =>
      cases r with
      | error fault =>
        obtain ⟨s', run⟩ := h.next_error
        rw [drain, run]
        rfl
      | ok row =>
        obtain ⟨s', run, reading⟩ := h.next_row
        rw [drain, run]
        dsimp only
        rw [ih reading (Nat.lt_of_succ_lt_succ enough)]
        rfl

theorem drain_begun {userMapping : Options} {t : ForeignTable} {request : ScanRequest}
    {result : QueryResult ArrayRef} {fuel : ℕ} (g : Globals ArrayRef)
    (enough : (BatchCursor.rows RecordBatch.numRows (readRow request.columns)
      result.batches).length < fuel) :
    drain (.answered result) fuel (FdwScan.begun userMapping t request, g) =
      some (collect (BatchCursor.rows RecordBatch.numRows (readRow request.columns)
        result.batches)) :=
  drain_reading (Reading.begun userMapping t rfl g) enough

def pushdownDelivery (p : PushableQuery) (result : QueryResult ArrayRef)
    (pgSearchPath : List String) (args : RunArgs) (b : Backend fold ArrayRef) :
    Except Fault (List (Tuple Cell)) :=
  match exec (executorRun false accepting pgSearchPath (.answered result) p.desc args) b with
  | (.ok _, b') => .ok (b'.output.sent.drop b.output.sent.length)
  | (.error fault, _) => .error fault

theorem pushdownDelivery_eq (p : PushableQuery) (result : QueryResult ArrayRef)
    (pgSearchPath : List String) (args : RunArgs) (b : Backend fold ArrayRef) :
    pushdownDelivery p result pgSearchPath args b =
      collect (BatchCursor.rows RecordBatch.numRows (readRow p.desc.tupDesc) result.batches) := by
  obtain ⟨duck, globals, handed, run⟩ := executorRun_answered p result pgSearchPath args b
  rw [pushdownDelivery, run]
  dsimp only
  cases collect (BatchCursor.rows RecordBatch.numRows (readRow p.desc.tupDesc) result.batches) with
  | ok rows => simp [Output.delivered]
  | error fault => rfl

/-- The answers of successive calls of `iter_scan_impl`. -/
def callTimes (answer : QueryAnswer ArrayRef) :
    ℕ → Command (FdwScan ArrayRef × Globals ArrayRef) Fault (List (Option (Tuple Cell)))
  | 0 => return []
  | calls + 1 => do
    let row ← iterScanImpl false answer
    let rows ← callTimes answer calls
    return row :: rows

theorem callTimes_reading {result : QueryResult ArrayRef} {columns : List Column}
    {rows : List (Tuple Cell)} {s : FdwScan ArrayRef × Globals ArrayRef}
    (h : Reading result columns (rows.map .ok) s) :
    (exec (callTimes (.answered result) (rows.length + 1)) s).1 =
      .ok (rows.map some ++ [none]) := by
  induction rows generalizing s with
  | nil =>
    obtain ⟨s', run, -⟩ := h.next_none
    rw [List.length_nil, callTimes, exec_bind_ok run]
    rfl
  | cons row rows ih =>
    obtain ⟨s', run, reading⟩ := h.next_row
    rw [List.length_cons, callTimes, exec_bind_ok run, exec_bind]
    rcases later : exec (callTimes (.answered result) (rows.length + 1)) s' with ⟨r, s''⟩
    have answered := ih reading
    rw [later] at answered
    cases answered
    rfl

/-- `get_cell` reads every cell of the batch under the columns' types. -/
def Accepted (columns : List Column) (batch : RecordBatch ArrayRef) : Prop :=
  ∀ (i : ℕ) array column, batch.columns[i]? = some array → columns[i]? = some column →
    ∀ rowIndex < batch.numRows,
      ∃ cell, GetCell.getCell array rowIndex column.typeOid column.name = .ok cell

theorem readRow_accepted {columns : List Column} {batch : RecordBatch ArrayRef} {rowIndex : ℕ}
    (width : batch.columns.length = columns.length) (accepted : Accepted columns batch)
    (inside : rowIndex < batch.numRows) :
    ∃ row, readRow columns batch rowIndex = .ok row := by
  refine readRow_of_cells fun i column at' => ?_
  have bound : i < batch.columns.length := width ▸ (List.getElem?_eq_some_iff.mp at').1
  obtain ⟨array, here⟩ : ∃ array, batch.columns[i]? = some array :=
    ⟨_, List.getElem?_eq_getElem bound⟩
  obtain ⟨cell, read⟩ := accepted i array column here at' rowIndex inside
  exact ⟨cell, by rw [readCell, columnAt, here]; exact read⟩

theorem resultRows_accepted {result : QueryResult ArrayRef} {columns : List Column}
    (width : ∀ batch ∈ result.batches, batch.columns.length = columns.length)
    (accepted : ∀ batch ∈ result.batches, Accepted columns batch) :
    ∃ rows : List (Tuple Cell), resultRows result columns = rows.map .ok := by
  suffices same : resultRows result columns ∈ Set.range (List.map Except.ok) by
    obtain ⟨rows, same⟩ := same
    exact ⟨rows, same.symm⟩
  rw [Set.range_list_map]
  intro r mem
  obtain ⟨batch, within, mem⟩ := List.mem_flatMap.mp mem
  obtain ⟨rowIndex, inside, rfl⟩ := List.mem_map.mp mem
  obtain ⟨row, read⟩ := readRow_accepted (width batch within) (accepted batch within)
    (List.mem_range.mp inside)
  exact ⟨row, read.symm⟩

theorem collect_map_ok (rows : List (Tuple Cell)) : collect (rows.map .ok) = .ok rows := by
  induction rows with
  | nil => rfl
  | cons row rows ih => rw [List.map_cons, collect, ih]; rfl

/-- The cursor of a scan and the loop of the hook deliver the same rows of the
same batches: the concatenation of their rows, in order. -/
theorem cursor_refines_loop {result : QueryResult ArrayRef} {request : ScanRequest}
    {dest : DestReceiver}
    (width : ∀ batch ∈ result.batches, batch.columns.length = request.columns.length)
    (accepted : ∀ batch ∈ result.batches, Accepted request.columns batch)
    (startup : dest.rStartup = true) (receive : dest.receiveSlot = true)
    (shutdown : dest.rShutdown = true) (userMapping : Options) (t : ForeignTable)
    (g : Globals ArrayRef) (out : Output Cell) :
    ∃ rows : List (Tuple Cell),
      (result.batches.flatMap fun batch =>
        (List.range batch.numRows).map (readRow request.columns batch)) = rows.map .ok ∧
      rows.length = (result.batches.map RecordBatch.numRows).sum ∧
      (exec (callTimes (.answered result) (rows.length + 1))
        (FdwScan.begun userMapping t request, g)).1 = .ok (rows.map some ++ [none]) ∧
      exec (writeBatchesToSlots dest request.columns result.batches) out =
        (.ok (), { started := out.started + 1, sent := out.sent ++ rows,
                   shutdown := out.shutdown + 1, esProcessed := rows.length }) := by
  obtain ⟨rows, same⟩ := resultRows_accepted width accepted
  refine ⟨rows, same, ?_, ?_, ?_⟩
  · have length := BatchCursor.rows_length RecordBatch.numRows (readRow request.columns)
      result.batches
    rw [← length, ← List.length_map (f := (Except.ok : _ → Except Fault (Tuple Cell))), ← same]
    rfl
  · have reading : Reading result request.columns (resultRows result request.columns)
        (FdwScan.begun userMapping t request, g) := Reading.begun userMapping t rfl g
    rw [same] at reading
    exact callTimes_reading reading
  · have collected : collect (BatchCursor.rows RecordBatch.numRows (readRow request.columns)
        result.batches) = .ok rows := by
      rw [← collect_map_ok rows, ← same]
      rfl
    rw [exec_writeBatchesToSlots startup receive shutdown]
    simp only [collected]
    rfl

theorem accepted_int32Batch (values : List (Option Int32)) (name : String) :
    Accepted [⟨name, INT4OID⟩] (int32Batch values) := by
  intro i array column here at' rowIndex inside
  have bound : rowIndex < values.length := inside
  obtain rfl : i = 0 := by
    have := (List.getElem?_eq_some_iff.mp at').1
    simpa using this
  cases here
  cases at'
  refine ⟨values[rowIndex].map IntegerCell.i32, ?_⟩
  simp only [GetCell.getCell, Int32Array.getPrimitiveValue, List.getElem?_eq_getElem bound]
  rfl

def orderIds : QueryResult Int32Array :=
  ⟨[int32Batch [some 1, none], int32Batch [some 3]], by simp [int32Batch]⟩

theorem cursor_refines_loop_orders :
    ∃ rows : List (Tuple IntegerCell),
      (orderIds.batches.flatMap fun batch =>
        (List.range batch.numRows).map (readRow [⟨"id", INT4OID⟩] batch)) = rows.map .ok ∧
      rows.length = (orderIds.batches.map RecordBatch.numRows).sum ∧
      (exec (callTimes (.answered orderIds) (rows.length + 1))
        (FdwScan.begun [] ⟨"public", "orders", "files", .parquet, []⟩
          ⟨[], [⟨"id", INT4OID⟩], [], none⟩, Globals.init)).1 = .ok (rows.map some ++ [none]) ∧
      exec (writeBatchesToSlots ⟨true, true, true⟩ [⟨"id", INT4OID⟩] orderIds.batches) .empty =
        (.ok (), { started := 1, sent := rows, shutdown := 1, esProcessed := rows.length }) := by
  have each : ∀ batch ∈ orderIds.batches, batch.columns.length = 1 ∧
      Accepted [⟨"id", INT4OID⟩] batch := by
    intro batch mem
    rcases List.mem_pair.mp mem with rfl | rfl <;> exact ⟨rfl, accepted_int32Batch _ _⟩
  exact @cursor_refines_loop _ _ _ _ ⟨[], [⟨"id", INT4OID⟩], [], none⟩ _
    (fun batch mem => (each batch mem).1) (fun batch mem => (each batch mem).2) rfl rfl rfl
    [] ⟨"public", "orders", "files", .parquet, []⟩ Globals.init .empty

end PgAnalytics.ScanDelivery
