import PgAnalytics.BaseFdw
import PgAnalytics.RowWindows

/-! The foreign scan of the DataFusion wrappers: it begins with a data frame of the
whole table, limited as Postgres limits the query, and reads the batches of that frame
by the position of its target columns. Postgres filters and limits the rows once more. -/

namespace PgAnalytics.DatafusionScan
open Basics BatchCursor Commands RowWindows
open RecordBatches (Oid Tuple)
open BaseFdw (Limit)

structure Column where
  name : String
  typeOid : Oid
  typeMod : Int32
  deriving DecidableEq, Repr

structure FieldArray (DataType σ : Type) where
  name : String
  dataType : DataType
  values : List (Option σ)

structure Entry (DataType σ : Type) where
  name : String
  dataType : DataType
  value : Option (Option σ)

def FieldArray.entry {DataType σ : Type} (array : FieldArray DataType σ) (index : ℕ) :
    Entry DataType σ :=
  ⟨array.name, array.dataType, array.values[index]?⟩

structure RecordBatch (DataType σ : Type) where
  columns : List (FieldArray DataType σ)
  numRows : ℕ
  lengths : ∀ array ∈ columns, array.values.length = numRows

variable {DataType σ Cell : Type}

namespace RecordBatch

def row (batch : RecordBatch DataType σ) (index : ℕ) : List (Entry DataType σ) :=
  batch.columns.map (·.entry index)

def rows (batch : RecordBatch DataType σ) : List (List (Entry DataType σ)) :=
  chunkRows numRows row batch

/-- `DataFrame::limit`, of a frame that is given by all of its rows. -/
def limit (skip fetch : ℕ) (dataframe : RecordBatch DataType σ) : RecordBatch DataType σ where
  columns := dataframe.columns.map fun array =>
    { array with values := window skip (some fetch) array.values }
  numRows := min fetch (dataframe.numRows - skip)
  lengths array mem := by
    obtain ⟨whole, listed, rfl⟩ := List.mem_map.mp mem
    rw [length_window, dataframe.lengths whole listed]

theorem rows_limit (skip fetch : ℕ) (dataframe : RecordBatch DataType σ) :
    (dataframe.limit skip fetch).rows = window skip (some fetch) dataframe.rows := by
  refine List.ext_getElem ?_ fun index inside _ => ?_
  · simp [rows, chunkRows, length_window, limit]
  · have bound : index < min fetch (dataframe.numRows - skip) := by
      simpa [rows, chunkRows, limit] using inside
    have taken : index < fetch := by omega
    simp [rows, chunkRows, window, row, limit, FieldArray.entry, taken]

end RecordBatch

/-- The answer of `execute_stream`: batches, any of which may fail. -/
abbrev Stream (DataType σ : Type) := List (Except Fault (RecordBatch DataType σ))

structure FdwScan (DataType σ : Type) where
  dataframe : Option (RecordBatch DataType σ) := none
  stream : Option (Stream DataType σ) := none
  currentBatch : Option (RecordBatch DataType σ) := none
  currentBatchIndex : ℕ := 0
  targetColumns : List Column := []

structure Session (DataType σ : Type) where
  relation : String → Except Fault (String × String)
  catalog : Except Fault Unit
  table : String × String → Except Fault (RecordBatch DataType σ)

def asUsize (n : Int64) : ℕ := n.toUInt64.toNat

def limited (table : RecordBatch DataType σ) : Option Limit → RecordBatch DataType σ
  | none => table
  | some limit => table.limit (asUsize limit.offset) (asUsize limit.count)

/-- The scan as a successful `begin_scan_impl` leaves it. -/
def FdwScan.begun (table : RecordBatch DataType σ) (columns : List Column)
    (limit : Option Limit) : FdwScan DataType σ :=
  { dataframe := some (limited table limit), targetColumns := columns }

/-- `begin_scan_impl`, with the schemas that are registered in the session's catalog. It
does not look at the quals or the sort keys. -/
def beginScanImpl (session : Session DataType σ) (tableOid : Option String)
    (columns : List Column) (limit : Option Limit) :
    Command (FdwScan DataType σ × List String) Fault Unit := do
  modify fun (scan, schemas) => ({ scan with targetColumns := columns }, schemas)
  match tableOid with
  | none => throw (.error "Unexpected error: Table OID not found")
  | some oid =>
    let (schemaName, tableName) ← ofResult (session.relation oid)
    ofResult session.catalog
    modify fun (scan, schemas) =>
      (scan, if schemaName ∈ schemas then schemas else schemas ++ [schemaName])
    let table ← ofResult (session.table (schemaName, tableName))
    modify fun (scan, schemas) => ({ scan with dataframe := some (limited table limit) }, schemas)

section Reading

-- `execute_stream`, and the conversion of a single value to a type of Postgres.
variable (execute : RecordBatch DataType σ → Except Fault (Stream DataType σ))
variable (convert : DataType → Option σ → Oid → Int32 → Except Fault (Option Cell))

/-- `get_cell`. -/
def readEntry (entry : Entry DataType σ) (column : Column) : Except Fault (Option Cell) :=
  match entry.value with
  | none => .error (.panic "index out of bounds")
  | some value => convert entry.dataType value column.typeOid column.typeMod

/-- The loop over the target columns, from `columnIndex` on. -/
def readRowFrom (batch : RecordBatch DataType σ) (index : ℕ) :
    List Column → ℕ → Except Fault (Tuple Cell)
  | [], _ => .ok []
  | target :: targets, columnIndex =>
    match batch.columns[columnIndex]? with
    | none => .error (.panic "index out of bounds")
    | some array => do
      let cell ← readEntry convert (array.entry index) target
      let cells ← readRowFrom batch index targets (columnIndex + 1)
      return cell :: cells

def createStream : Command (FdwScan DataType σ) Fault Unit := do
  let scan ← get
  if scan.stream.isNone then
    match scan.dataframe with
    | none => throw (.error "Unexpected error: DataFrame not found")
    | some dataframe =>
      let stream ← ofResult (execute dataframe)
      modify fun scan => { scan with stream := some stream }

def getNextBatch : Command (FdwScan DataType σ) Fault (Option (RecordBatch DataType σ)) := do
  let scan ← get
  match scan.stream with
  | none =>
    throw (.error "Unexpected error: Expected SendableRecordBatchStream but found None")
  | some [] => return none
  | some (.ok batch :: stream) =>
    modify fun scan => { scan with stream := some stream }
    return some batch
  | some (.error fault :: stream) =>
    modify fun scan => { scan with stream := some stream }
    throw fault

def FdwScan.cursor (scan : FdwScan DataType σ) : Cursor (RecordBatch DataType σ) :=
  ⟨scan.currentBatch, scan.currentBatchIndex⟩

def currentOrNextBatch : Command (FdwScan DataType σ) Fault (Option (RecordBatch DataType σ)) := do
  let scan ← get
  if scan.cursor.usedUp RecordBatch.numRows then
    modify fun scan => { scan with currentBatchIndex := 0 }
    match ← getNextBatch with
    | none => return none
    | some batch =>
      modify fun scan => { scan with currentBatch := some batch }
      return some batch
  else
    return scan.currentBatch

def iterScanImpl : Command (FdwScan DataType σ) Fault (Option (Tuple Cell)) := do
  createStream execute
  match ← currentOrNextBatch with
  | none => return none
  | some batch =>
    let scan ← get
    let cells ← ofResult
      (readRowFrom convert batch scan.currentBatchIndex scan.targetColumns 0)
    modify fun scan => { scan with currentBatchIndex := scan.currentBatchIndex + 1 }
    return some cells

/-- The calls of a scan until it answers no row; none when the fuel runs out. -/
def drain : ℕ → FdwScan DataType σ → Option (Except Fault (List (Tuple Cell)))
  | 0, _ => none
  | fuel + 1, scan =>
    match exec (iterScanImpl execute convert) scan with
    | (.error fault, _) => some (.error fault)
    | (.ok none, _) => some (.ok [])
    | (.ok (some row), scan') => (drain fuel scan').map (·.map (row :: ·))

theorem exec_createStream_started {scan : FdwScan DataType σ} (started : scan.stream.isSome) :
    exec (createStream execute) scan = (.ok (), scan) := by
  obtain ⟨stream, open'⟩ := Option.isSome_iff_exists.mp started
  simp [createStream, exec_bind, open']

theorem exec_createStream_first {scan : FdwScan DataType σ}
    {dataframe : RecordBatch DataType σ} {stream : Stream DataType σ}
    (fresh : scan.stream = none) (begun : scan.dataframe = some dataframe)
    (executed : execute dataframe = .ok stream) :
    exec (createStream execute) scan = (.ok (), { scan with stream := some stream }) := by
  simp [createStream, exec_bind, fresh, begun, executed]

theorem exec_iterScanImpl_current {scan : FdwScan DataType σ} {batch : RecordBatch DataType σ}
    (started : scan.stream.isSome) (left : scan.cursor.usedUp RecordBatch.numRows = false)
    (current : scan.currentBatch = some batch) :
    exec (iterScanImpl execute convert) scan =
      match readRowFrom convert batch scan.currentBatchIndex scan.targetColumns 0 with
      | .error fault => (.error fault, scan)
      | .ok row =>
        (.ok (some row), { scan with currentBatchIndex := scan.currentBatchIndex + 1 }) := by
  rw [iterScanImpl, exec_bind_ok (exec_createStream_started execute started)]
  obtain ⟨dataframe, stream, currentBatch, currentBatchIndex, targetColumns⟩ := scan
  cases current
  simp only [currentOrNextBatch, exec_bind, exec_get, left, Bool.false_eq_true, if_false,
    exec_pure, exec_ofResult]
  cases readRowFrom convert batch currentBatchIndex targetColumns 0 <;> rfl

theorem exec_iterScanImpl_end {scan : FdwScan DataType σ} (open' : scan.stream = some [])
    (usedUp : scan.cursor.usedUp RecordBatch.numRows = true) :
    exec (iterScanImpl execute convert) scan =
      (.ok none, { scan with currentBatchIndex := 0 }) := by
  have started : scan.stream.isSome := by rw [open']; rfl
  rw [iterScanImpl, exec_bind_ok (exec_createStream_started execute started)]
  simp only [currentOrNextBatch, getNextBatch, exec_bind, exec_get, usedUp, if_true, exec_modify,
    open', exec_pure]

theorem exec_iterScanImpl_fetch {scan : FdwScan DataType σ} {batch : RecordBatch DataType σ}
    {stream : Stream DataType σ} (open' : scan.stream = some (.ok batch :: stream))
    (usedUp : scan.cursor.usedUp RecordBatch.numRows = true) :
    exec (iterScanImpl execute convert) scan =
      let scan' := { scan with stream := some stream, currentBatch := some batch }
      match readRowFrom convert batch 0 scan.targetColumns 0 with
      | .error fault => (.error fault, { scan' with currentBatchIndex := 0 })
      | .ok row => (.ok (some row), { scan' with currentBatchIndex := 1 }) := by
  have started : scan.stream.isSome := by rw [open']; rfl
  rw [iterScanImpl, exec_bind_ok (exec_createStream_started execute started)]
  simp only [currentOrNextBatch, getNextBatch, exec_bind, exec_get, usedUp, if_true, exec_modify,
    open', exec_pure, exec_ofResult]
  cases readRowFrom convert batch 0 scan.targetColumns 0 <;> rfl

/-- How many rows a scan reads of a batch: its rows, and of a batch without rows the first. -/
def rowsRead (batch : RecordBatch DataType σ) : ℕ := max 1 batch.numRows

theorem rowsRead_pos (batch : RecordBatch DataType σ) : 0 < rowsRead batch := by
  unfold rowsRead
  omega

inductive Reading (columns : List Column) :
    List (Except Fault (Tuple Cell)) → FdwScan DataType σ → Prop
  | started {scan : FdwScan DataType σ} {batches : List (RecordBatch DataType σ)}
      (target : scan.targetColumns = columns) (open' : scan.stream = some (batches.map .ok))
      (behind : scan.currentBatch.isSome → 0 < scan.currentBatchIndex) :
      Reading columns (scan.cursor.pending rowsRead
        (fun batch index => readRowFrom convert batch index columns 0) batches) scan

theorem usedUp_rowsRead {scan : FdwScan DataType σ}
    (behind : scan.currentBatch.isSome → 0 < scan.currentBatchIndex) :
    scan.cursor.usedUp rowsRead = scan.cursor.usedUp RecordBatch.numRows := by
  obtain ⟨dataframe, stream, currentBatch, currentBatchIndex, targetColumns⟩ := scan
  cases currentBatch with
  | none => rfl
  | some batch =>
    have past : 0 < currentBatchIndex := behind rfl
    have same : max 1 batch.numRows ≤ currentBatchIndex ↔ batch.numRows ≤ currentBatchIndex := by
      omega
    exact decide_eq_decide.mpr same

theorem Reading.next {columns : List Column} {pending : List (Except Fault (Tuple Cell))}
    {scan : FdwScan DataType σ} (h : Reading convert columns pending scan) :
    (exec (iterScanImpl execute convert) scan).1 = BaseFdw.rowAnswer pending.head? ∧
      ((exec (iterScanImpl execute convert) scan).1.isOk → pending ≠ [] →
        Reading convert columns pending.tail (exec (iterScanImpl execute convert) scan).2) := by
  obtain ⟨rfl, open', behind⟩ := h
  rename_i batches
  have started : scan.stream.isSome := by rw [open']; rfl
  have same := usedUp_rowsRead behind
  cases usedUp : scan.cursor.usedUp RecordBatch.numRows with
  | true =>
    have up : scan.cursor.usedUp rowsRead = true := same.trans usedUp
    cases batches with
    | nil =>
      rw [exec_iterScanImpl_end execute convert open' usedUp]
      simp [Cursor.pending, Cursor.unread_of_usedUp _ _ up, rows, BaseFdw.rowAnswer]
    | cons batch batches =>
      rw [exec_iterScanImpl_fetch execute convert open' usedUp,
        Cursor.pending_of_chunk _ _ up (rowsRead_pos batch), List.head?_cons, List.tail_cons]
      dsimp only
      cases readRowFrom convert batch 0 scan.targetColumns 0 with
      | error fault => exact ⟨rfl, fun ok => by cases ok⟩
      | ok row =>
        refine ⟨rfl, fun _ _ => ?_⟩
        exact @Reading.started _ _ _ convert scan.targetColumns
          { scan with
            stream := some (batches.map .ok), currentBatch := some batch, currentBatchIndex := 1 }
          _ rfl rfl fun _ => Nat.one_pos
  | false =>
    cases current : scan.currentBatch with
    | none => simp [FdwScan.cursor, Cursor.usedUp, current] at usedUp
    | some batch =>
      have here : scan.cursor.current = some batch := current
      rw [exec_iterScanImpl_current execute convert started usedUp current,
        Cursor.pending_of_unused _ _ here (same.trans usedUp), List.head?_cons, List.tail_cons]
      dsimp only [FdwScan.cursor]
      cases readRowFrom convert batch scan.currentBatchIndex scan.targetColumns 0 with
      | error fault => exact ⟨rfl, fun ok => by cases ok⟩
      | ok row =>
        refine ⟨rfl, fun _ _ => ?_⟩
        have later := @Reading.started _ _ _ convert scan.targetColumns
          { scan with currentBatchIndex := scan.currentBatchIndex + 1 } _ rfl open'
          fun _ => Nat.succ_pos _
        simpa only [FdwScan.cursor, current] using later

theorem drain_of_end {scan scan' : FdwScan DataType σ}
    (run : exec (iterScanImpl execute convert) scan = (.ok none, scan'))
    {tuples : List (Tuple Cell)} :
    (∃ fuel, drain execute convert fuel scan = some (.ok tuples)) ↔ tuples = [] := by
  constructor
  · rintro ⟨fuel, drained⟩
    cases fuel with
    | zero => cases drained
    | succ fuel =>
      rw [drain, run] at drained
      cases drained
      rfl
  · rintro rfl
    exact ⟨1, by rw [drain, run]⟩

theorem drain_of_error {scan scan' : FdwScan DataType σ} {fault : Fault}
    (run : exec (iterScanImpl execute convert) scan = (.error fault, scan'))
    {tuples : List (Tuple Cell)} :
    ¬∃ fuel, drain execute convert fuel scan = some (.ok tuples) := by
  rintro ⟨fuel, drained⟩
  cases fuel with
  | zero => cases drained
  | succ fuel =>
    rw [drain, run] at drained
    cases drained

theorem drain_of_row {scan scan' : FdwScan DataType σ} {row : Tuple Cell}
    (run : exec (iterScanImpl execute convert) scan = (.ok (some row), scan'))
    {result : Except Fault (List (Tuple Cell))} :
    (∃ fuel, drain execute convert fuel scan = some result) ↔
      ∃ rest : Except Fault (List (Tuple Cell)), result = rest.map (row :: ·) ∧
        ∃ fuel, drain execute convert fuel scan' = some rest := by
  constructor
  · rintro ⟨fuel, drained⟩
    cases fuel with
    | zero => cases drained
    | succ fuel =>
      rw [drain, run] at drained
      obtain ⟨rest, found, mapped⟩ := Option.map_eq_some_iff.mp drained
      exact ⟨rest, mapped.symm, fuel, found⟩
  · rintro ⟨rest, rfl, fuel, drained⟩
    refine ⟨fuel + 1, ?_⟩
    rw [drain, run]
    simp only [drained]
    rfl

theorem Reading.drain_eq_ok_iff {columns : List Column}
    {pending : List (Except Fault (Tuple Cell))} {scan : FdwScan DataType σ}
    (h : Reading convert columns pending scan) {tuples : List (Tuple Cell)} :
    (∃ fuel, drain execute convert fuel scan = some (.ok tuples)) ↔
      pending = tuples.map .ok := by
  induction pending generalizing scan tuples with
  | nil =>
    obtain ⟨answered, -⟩ := h.next execute convert
    rw [drain_of_end execute convert (Prod.ext answered rfl), ← List.map_eq_nil_iff]
    exact eq_comm
  | cons first pending ih =>
    obtain ⟨answered, after⟩ := h.next execute convert
    cases first with
    | error fault =>
      refine iff_of_false (drain_of_error execute convert (Prod.ext answered rfl)) fun read => ?_
      cases tuples <;> cases read
    | ok row =>
      have later := after (by rw [answered]; rfl) (List.cons_ne_nil _ _)
      rw [drain_of_row execute convert (Prod.ext answered rfl)]
      constructor
      · rintro ⟨fault | rows, mapped, drained⟩
        · cases mapped
        · cases mapped
          rw [List.map_cons, (ih later).mp drained]
      · intro read
        cases tuples with
        | nil => cases read
        | cons row' rows =>
          obtain ⟨same, rest⟩ := List.cons.inj read
          cases same
          exact ⟨.ok rows, rfl, (ih later).mpr rest⟩

def readRow : List Column → List (Entry DataType σ) → Except Fault (Tuple Cell)
  | [], _ => .ok []
  | _ :: _, [] => .error (.panic "index out of bounds")
  | target :: targets, entry :: entries => do
    let cell ← readEntry convert entry target
    let cells ← readRow targets entries
    return cell :: cells

/-- A row of the table projected on the target columns: each is found by its name. -/
def projectRow (row : List (Entry DataType σ)) : List Column → Except Fault (Tuple Cell)
  | [] => .ok []
  | target :: targets =>
    match row.find? (·.name = target.name) with
    | none => .error (.error ("column not found: " ++ target.name))
    | some entry => do
      let cell ← readEntry convert entry target
      let cells ← projectRow row targets
      return cell :: cells

theorem readRowFrom_eq (batch : RecordBatch DataType σ) (index : ℕ) (targets : List Column)
    (columnIndex : ℕ) :
    readRowFrom convert batch index targets columnIndex =
      readRow convert targets ((batch.row index).drop columnIndex) := by
  induction targets generalizing columnIndex with
  | nil => rfl
  | cons target targets ih =>
    rw [readRowFrom]
    cases at' : batch.columns[columnIndex]? with
    | none =>
      have past : (batch.row index).drop columnIndex = [] := by
        simpa [RecordBatch.row] using at'
      rw [past]
      rfl
    | some array =>
      have found : (batch.row index)[columnIndex]? = some (array.entry index) := by
        simp [RecordBatch.row, at']
      obtain ⟨bound, here⟩ := List.getElem?_eq_some_iff.mp found
      rw [List.drop_eq_getElem_cons bound, here, readRow, ← ih]

theorem readRow_eq_projectRow {targets : List Column} {before row : List (Entry DataType σ)}
    (distinct : ((before ++ row).map (·.name)).Nodup)
    (ordered : targets.map (·.name) <+: row.map (·.name)) :
    readRow convert targets row = projectRow convert (before ++ row) targets := by
  induction targets generalizing before row with
  | nil => cases row <;> rfl
  | cons target targets ih =>
    cases row with
    | nil => simp at ordered
    | cons entry entries =>
      obtain ⟨same, ordered⟩ := List.cons_prefix_cons.mp ordered
      have found : (before ++ entry :: entries).find? (·.name = target.name) = some entry := by
        have absent : before.find? (·.name = target.name) = none := by
          refine List.find?_eq_none.mpr fun other mem => ?_
          rw [List.map_append, List.map_cons] at distinct
          have fresh := (List.nodup_append.mp distinct).2.2 _ (List.mem_map_of_mem mem) _
            List.mem_cons_self
          simpa [same] using fresh
        rw [List.find?_append, absent, Option.none_or, List.find?_cons_of_pos]
        simpa using same.symm
      have shift : before ++ entry :: entries = (before ++ [entry]) ++ entries := by simp
      rw [readRow, projectRow, found]
      simp only [shift] at distinct ⊢
      rw [ih distinct ordered]

end Reading

/-- Postgres's own part of a query: it filters the rows of the scan and cuts out a window
of those that pass. A count and an offset that are negative are refused. -/
structure Query (Cell : Type) where
  targetColumns : List Column
  passes : Tuple Cell → Bool
  count : Option Int64
  offset : Int64
  countNonneg : ∀ n ∈ count, 0 ≤ n
  offsetNonneg : 0 ≤ offset

namespace Query

/-- The limit that a scan is told of. -/
def limit (query : Query Cell) : Option Limit := query.count.map (⟨·, query.offset⟩)

def answer (query : Query Cell) (tuples : List (Tuple Cell)) : List (Tuple Cell) :=
  window query.offset.toNatClampNeg (query.count.map Int64.toNatClampNeg)
    (tuples.filter query.passes)

/-- The rows that are left of the table when the scan limits it. -/
def scanned {α : Type} (query : Query Cell) (rows : List α) : List α :=
  match query.count with
  | none => rows
  | some count => window query.offset.toNatClampNeg (some count.toNatClampNeg) rows

/-- How many of so many rows that all pass are in the window. -/
def shown (query : Query Cell) (rows : ℕ) : ℕ :=
  match query.count with
  | none => rows - query.offset.toNatClampNeg
  | some count => min count.toNatClampNeg (rows - query.offset.toNatClampNeg)

/-- No row is scanned, or the target columns are the first columns of the table in their
order, and no row that passes is lost by the window below the filter. For each empty batch
a row without cells is made up, if that can be: it must not pass, or not show. -/
def Unharmed (query : Query Cell) (table : RecordBatch DataType σ)
    (tuples : List (Tuple Cell)) (empty : ℕ) : Prop :=
  if empty = 0 then
    query.scanned tuples = [] ∨
      query.targetColumns.map (·.name) <+: table.columns.map (·.name) ∧
        ∀ count ∈ query.count,
          Harmless query.passes query.offset.toNatClampNeg count.toNatClampNeg tuples
  else
    query.targetColumns = [] ∧ (query.passes [] = false ∨
      query.shown ((query.scanned tuples).length + empty) = query.shown tuples.length)

theorem answer_replicate (query : Query Cell) (rows : ℕ) (tuple : Tuple Cell) :
    query.answer (List.replicate rows tuple) =
      if query.passes tuple then List.replicate (query.shown rows) tuple else [] := by
  unfold answer shown
  cases passes : query.passes tuple with
  | false =>
    rw [List.filter_replicate_of_neg (by simp [passes])]
    exact window_nil _ _
  | true =>
    rw [List.filter_replicate_of_pos passes, if_pos rfl]
    cases query.count with
    | none => simp [window]
    | some count => simp [window]

theorem answer_replicate_iff (query : Query Cell) (rows rows' : ℕ) (tuple : Tuple Cell) :
    query.answer (List.replicate rows tuple) = query.answer (List.replicate rows' tuple) ↔
      query.passes tuple = false ∨ query.shown rows = query.shown rows' := by
  rw [answer_replicate, answer_replicate]
  cases query.passes tuple with
  | false => simp
  | true => simp [List.replicate_inj]

theorem rows_limited (query : Query Cell) (table : RecordBatch DataType σ) :
    (limited table query.limit).rows = query.scanned table.rows := by
  unfold limited scanned limit
  cases count : query.count with
  | none => rfl
  | some n =>
    rw [Option.map_some]
    dsimp only
    rw [RecordBatch.rows_limit, asUsize, asUsize,
      Int64.toNat_toUInt64_of_le query.offsetNonneg,
      Int64.toNat_toUInt64_of_le (query.countNonneg n (by rw [count]; rfl))]

theorem scanned_map {α β : Type} (query : Query Cell) (f : α → β) (rows : List α) :
    query.scanned (rows.map f) = (query.scanned rows).map f := by
  unfold scanned
  cases query.count with
  | none => rfl
  | some count => exact window_map f _ _ rows

theorem answer_of_scanned_nil {query : Query Cell} {tuples : List (Tuple Cell)}
    (nothing : query.scanned tuples = []) : query.answer tuples = [] := by
  unfold scanned at nothing
  unfold answer
  cases count : query.count with
  | none =>
    rw [count] at nothing
    rw [show tuples = [] from nothing]
    exact window_nil _ _
  | some n =>
    rw [count] at nothing
    refine window_eq_nil_iff.mpr ((window_eq_nil_iff.mp nothing).imp_right fun short => ?_)
    exact Nat.le_trans (List.length_filter_le _ _) short

theorem answer_scanned_iff {query : Query Cell} {tuples : List (Tuple Cell)}
    (some' : query.scanned tuples ≠ []) :
    query.answer (query.scanned tuples) = query.answer tuples ↔
      ∀ count ∈ query.count,
        Harmless query.passes query.offset.toNatClampNeg count.toNatClampNeg tuples := by
  unfold scanned at some' ⊢
  unfold answer
  cases count : query.count with
  | none => simp
  | some n =>
    rw [count] at some'
    rw [Option.map_some]
    exact (window_filter_window_iff some').trans ⟨by rintro harmless _ ⟨⟩; exact harmless,
      fun all => all n rfl⟩

end Query

section Answers

variable (execute : RecordBatch DataType σ → Except Fault (Stream DataType σ))
variable (convert : DataType → Option σ → Oid → Int32 → Except Fault (Option Cell))

/-- A stream has the rows of its frame, in batches with the columns of the frame. -/
def Streams : Prop :=
  ∀ dataframe, ∃ batches : List (RecordBatch DataType σ),
    execute dataframe = .ok (batches.map .ok) ∧
      (∀ batch ∈ batches,
        batch.columns.map (·.name) = dataframe.columns.map (·.name)) ∧
      BatchCursor.rows RecordBatch.numRows RecordBatch.row batches = dataframe.rows

def emptyBatches (dataframe : RecordBatch DataType σ) : ℕ :=
  match execute dataframe with
  | .error _ => 0
  | .ok stream => stream.countP fun
    | .ok batch => batch.numRows = 0
    | .error _ => false

structure Answers (query : Query Cell) (tuples : List (Tuple Cell)) (scan : FdwScan DataType σ) :
    Prop where
  rows : ∃ fuel scanned, drain execute convert fuel scan = some (.ok scanned) ∧
    query.answer scanned = query.answer tuples
  named : ∀ dataframe stream batch, scan.dataframe = some dataframe →
    execute dataframe = .ok stream → .ok batch ∈ stream →
    ∀ (i : ℕ) target, query.targetColumns[i]? = some target →
      (batch.columns[i]?).map (·.name) = some target.name

theorem exec_beginScanImpl {session : Session DataType σ} {oid : String}
    {reference : String × String} {table : RecordBatch DataType σ}
    (opened : session.relation oid = .ok reference) (ready : session.catalog = .ok ())
    (found : session.table reference = .ok table) (columns : List Column) (limit : Option Limit)
    (schemas : List String) :
    (exec (beginScanImpl session (some oid) columns limit) ({}, schemas)).2.1 =
      FdwScan.begun table columns limit := by
  simp [beginScanImpl, exec_bind, opened, ready, found, FdwScan.begun]

variable {execute}

theorem drain_begun_iff {table : RecordBatch DataType σ} {query : Query Cell}
    {batches : List (RecordBatch DataType σ)}
    (executed : execute (limited table query.limit) = .ok (batches.map .ok))
    {scanned : List (Tuple Cell)} :
    (∃ fuel, drain execute convert fuel
        (FdwScan.begun table query.targetColumns query.limit) = some (.ok scanned)) ↔
      BatchCursor.rows rowsRead
        (fun batch index => readRowFrom convert batch index query.targetColumns 0) batches =
        scanned.map .ok := by
  let scan : FdwScan DataType σ := FdwScan.begun table query.targetColumns query.limit
  let opened : FdwScan DataType σ := { scan with stream := some (batches.map .ok) }
  -- the first call opens the stream and then goes on as the later ones do
  have first : exec (iterScanImpl execute convert) scan =
      exec (iterScanImpl execute convert) opened := by
    rw [iterScanImpl, exec_bind_ok (exec_createStream_first execute rfl rfl executed),
      exec_bind_ok (exec_createStream_started execute rfl)]
  have calls : ∀ fuel, drain execute convert fuel scan = drain execute convert fuel opened := by
    intro fuel
    cases fuel with
    | zero => rfl
    | succ fuel => rw [drain, drain, first]
  have reading := @Reading.started _ _ _ convert query.targetColumns opened batches rfl rfl nofun
  exact (exists_congr fun fuel => by rw [calls fuel]).trans
    (reading.drain_eq_ok_iff execute convert)

theorem rows_answered_iff {table : RecordBatch DataType σ} {query : Query Cell}
    {batches : List (RecordBatch DataType σ)} {rows tuples : List (Tuple Cell)}
    (executed : execute (limited table query.limit) = .ok (batches.map .ok))
    (read : BatchCursor.rows rowsRead
      (fun batch index => readRowFrom convert batch index query.targetColumns 0) batches =
        rows.map .ok) :
    (∃ fuel scanned, drain execute convert fuel
        (FdwScan.begun table query.targetColumns query.limit) = some (.ok scanned) ∧
      query.answer scanned = query.answer tuples) ↔ query.answer rows = query.answer tuples := by
  constructor
  · rintro ⟨fuel, scanned, drained, answered⟩
    have all := (drain_begun_iff convert executed).mp ⟨fuel, drained⟩
    rw [read] at all
    obtain rfl : rows = scanned := List.map_injective_iff.mpr (fun _ _ => Except.ok.inj) all
    exact answered
  · intro answered
    obtain ⟨fuel, drained⟩ := (drain_begun_iff convert executed).mpr read
    exact ⟨fuel, rows, drained, answered⟩

theorem rows_read_of_nonempty {targets : List Column} {dataframe : RecordBatch DataType σ}
    {batches : List (RecordBatch DataType σ)} (nonempty : ∀ batch ∈ batches, batch.numRows ≠ 0)
    (same : BatchCursor.rows RecordBatch.numRows RecordBatch.row batches = dataframe.rows) :
    BatchCursor.rows rowsRead (fun batch index => readRowFrom convert batch index targets 0)
        batches = dataframe.rows.map (readRow convert targets) := by
  rw [← same, BatchCursor.rows, BatchCursor.rows, List.map_flatMap]
  refine List.flatMap_congr fun batch mem => ?_
  have size : rowsRead batch = batch.numRows := by
    have := nonempty batch mem
    unfold rowsRead
    omega
  simp [chunkRows, size, readRowFrom_eq, Function.comp_def]

theorem targets_of_read {targets : List Column} {batches : List (RecordBatch DataType σ)}
    {batch : RecordBatch DataType σ} (mem : batch ∈ batches) (empty : batch.numRows = 0)
    {scanned : List (Tuple Cell)}
    (read : BatchCursor.rows rowsRead
      (fun batch index => readRowFrom convert batch index targets 0) batches = scanned.map .ok) :
    targets = [] := by
  have there : readRowFrom convert batch 0 targets 0 ∈ scanned.map .ok := by
    rw [← read]
    refine List.mem_flatMap.mpr ⟨batch, mem, List.mem_map.mpr ⟨0, ?_, rfl⟩⟩
    exact List.mem_range.mpr (rowsRead_pos batch)
  obtain ⟨tuple, -, ok⟩ := List.mem_map.mp there
  cases targets with
  | nil => rfl
  | cons target targets =>
    rw [readRowFrom] at ok
    cases first : batch.columns[0]? with
    | none =>
      rw [first] at ok
      cases ok
    | some array =>
      have length := batch.lengths array (List.mem_of_getElem? first)
      have nothing : array.values[0]? = none := List.getElem?_eq_none (by omega)
      simp only [first, FieldArray.entry, nothing, readEntry] at ok
      cases ok

theorem rows_read_of_noTargets (batches : List (RecordBatch DataType σ)) :
    BatchCursor.rows rowsRead (fun batch index => readRowFrom convert batch index [] 0) batches =
      (List.replicate ((batches.map RecordBatch.numRows).sum +
        batches.countP (·.numRows = 0)) ([] : Tuple Cell)).map .ok := by
  induction batches with
  | nil => rfl
  | cons batch batches ih =>
    rw [BatchCursor.rows, List.flatMap_cons]
    rw [BatchCursor.rows] at ih
    rw [ih]
    have here : chunkRows rowsRead (fun batch index => readRowFrom convert batch index [] 0)
        batch = (List.replicate (rowsRead batch) ([] : Tuple Cell)).map .ok := by
      simp [chunkRows, readRowFrom, List.map_const']
    rw [here, ← List.map_append, List.replicate_append_replicate]
    refine congrArg (fun n => (List.replicate n ([] : Tuple Cell)).map Except.ok) ?_
    rw [List.map_cons, List.sum_cons, List.countP_cons, rowsRead]
    by_cases empty : batch.numRows = 0 <;> simp [empty] <;> omega

theorem emptyBatches_eq {dataframe : RecordBatch DataType σ}
    {batches : List (RecordBatch DataType σ)}
    (executed : execute dataframe = .ok (batches.map .ok)) :
    emptyBatches execute dataframe = batches.countP (·.numRows = 0) := by
  rw [emptyBatches, executed]
  dsimp only
  rw [List.countP_map]
  rfl

theorem names_limited (table : RecordBatch DataType σ) (limit : Option Limit) :
    (limited table limit).columns.map (·.name) = table.columns.map (·.name) := by
  cases limit <;> simp [limited, RecordBatch.limit, Function.comp_def]

theorem map_readRow {query : Query Cell} {table : RecordBatch DataType σ}
    {tuples : List (Tuple Cell)} (distinct : (table.columns.map (·.name)).Nodup)
    (ordered : query.targetColumns.map (·.name) <+: table.columns.map (·.name))
    (readable : table.rows.map (projectRow convert · query.targetColumns) = tuples.map .ok) :
    (query.scanned table.rows).map (readRow convert query.targetColumns) =
      (query.scanned tuples).map .ok := by
  rw [← Query.scanned_map, ← Query.scanned_map, ← readable]
  refine congrArg _ (List.map_congr_left fun row mem => ?_)
  obtain ⟨index, -, rfl⟩ := List.mem_map.mp mem
  have names : (table.row index).map (·.name) = table.columns.map (·.name) := by
    simp [RecordBatch.row, FieldArray.entry, Function.comp_def]
  have apart : (([] ++ table.row index : List (Entry DataType σ)).map (·.name)).Nodup := by
    simpa [names] using distinct
  exact readRow_eq_projectRow convert apart (by simpa [names] using ordered)

theorem prefix_of_named {targets names : List String}
    (named : ∀ (i : ℕ) target, targets[i]? = some target → names[i]? = some target) :
    targets <+: names := by
  refine List.prefix_iff_getElem?.mpr fun i bound => ?_
  exact named i _ (List.getElem?_eq_getElem bound)

theorem scanned_rows_eq_nil_iff {query : Query Cell} {table : RecordBatch DataType σ}
    {tuples : List (Tuple Cell)}
    (readable : table.rows.map (projectRow convert · query.targetColumns) = tuples.map .ok) :
    query.scanned table.rows = [] ↔ query.scanned tuples = [] := by
  have both := congrArg query.scanned readable
  rw [Query.scanned_map, Query.scanned_map] at both
  rw [← List.map_eq_nil_iff, both, List.map_eq_nil_iff]

section Batches

variable {table : RecordBatch DataType σ} {query : Query Cell} {tuples : List (Tuple Cell)}
variable {batches : List (RecordBatch DataType σ)}

theorem answers_of_nothing
    (executed : execute (limited table query.limit) = .ok (batches.map .ok))
    (same : BatchCursor.rows RecordBatch.numRows RecordBatch.row batches =
      (limited table query.limit).rows)
    (nonempty : ∀ batch ∈ batches, batch.numRows ≠ 0)
    (readable : table.rows.map (projectRow convert · query.targetColumns) = tuples.map .ok)
    (nothing : query.scanned tuples = []) :
    Answers execute convert query tuples
      (FdwScan.begun table query.targetColumns query.limit) := by
  have empty := (scanned_rows_eq_nil_iff convert readable).mpr nothing
  rw [← query.rows_limited table, ← same] at empty
  obtain rfl : batches = [] := by
    refine List.eq_nil_iff_forall_not_mem.mpr fun batch mem => nonempty batch mem ?_
    have none' := List.flatMap_eq_nil_iff.mp empty batch mem
    simpa [chunkRows] using none'
  refine ⟨(@rows_answered_iff _ _ _ _ convert table query [] [] tuples executed rfl).mpr ?_, ?_⟩
  · rw [Query.answer_of_scanned_nil nothing]
    exact window_nil _ _
  · rintro _ stream batch ⟨⟩ answered mem
    cases executed.symm.trans answered
    cases mem

theorem answers_iff_of_some
    (executed : execute (limited table query.limit) = .ok (batches.map .ok))
    (named : ∀ batch ∈ batches,
      batch.columns.map (·.name) = (limited table query.limit).columns.map (·.name))
    (same : BatchCursor.rows RecordBatch.numRows RecordBatch.row batches =
      (limited table query.limit).rows)
    (nonempty : ∀ batch ∈ batches, batch.numRows ≠ 0)
    (distinct : (table.columns.map (·.name)).Nodup)
    (readable : table.rows.map (projectRow convert · query.targetColumns) = tuples.map .ok)
    (some' : query.scanned tuples ≠ []) :
    Answers execute convert query tuples (FdwScan.begun table query.targetColumns query.limit) ↔
      query.targetColumns.map (·.name) <+: table.columns.map (·.name) ∧
        ∀ count ∈ query.count,
          Harmless query.passes query.offset.toNatClampNeg count.toNatClampNeg tuples := by
  have read := @rows_read_of_nonempty _ _ _ convert query.targetColumns _ _ nonempty same
  rw [query.rows_limited table] at read
  have scans := fun ordered => @rows_answered_iff _ _ _ _ convert table query batches _ tuples
    executed (read.trans (map_readRow convert distinct ordered readable))
  constructor
  · rintro ⟨answered, names⟩
    have ordered : query.targetColumns.map (·.name) <+: table.columns.map (·.name) := by
      have rowsScanned := mt (scanned_rows_eq_nil_iff convert readable).mp some'
      obtain ⟨batch, listed⟩ : ∃ batch, batch ∈ batches := by
        refine List.exists_mem_of_ne_nil _ fun empty => rowsScanned ?_
        rw [← query.rows_limited table, ← same, empty]
        rfl
      rw [← names_limited table query.limit, ← named batch listed]
      refine prefix_of_named fun i name at' => ?_
      rw [List.getElem?_map] at at' ⊢
      obtain ⟨target, here, rfl⟩ := Option.map_eq_some_iff.mp at'
      exact names _ _ batch rfl executed (List.mem_map_of_mem listed) i target here
    exact ⟨ordered, (Query.answer_scanned_iff some').mp ((scans ordered).mp answered)⟩
  · rintro ⟨ordered, harmless⟩
    refine ⟨(scans ordered).mpr ((Query.answer_scanned_iff some').mpr harmless), ?_⟩
    rintro _ stream batch ⟨⟩ answered mem i target at'
    cases executed.symm.trans answered
    obtain ⟨inside, listed, ⟨⟩⟩ := List.mem_map.mp mem
    have names := named _ listed
    rw [names_limited] at names
    obtain ⟨bound, here⟩ := List.getElem?_eq_some_iff.mp at'
    have found := List.prefix_iff_getElem?.mp ordered i (by simpa using bound)
    rw [← names, List.getElem?_map, List.getElem_map, here] at found
    exact found

/-- With an empty batch in its stream a scan fails, or makes up rows without cells. -/
theorem answers_iff_of_empty
    (executed : execute (limited table query.limit) = .ok (batches.map .ok))
    (same : BatchCursor.rows RecordBatch.numRows RecordBatch.row batches =
      (limited table query.limit).rows)
    (readable : table.rows.map (projectRow convert · query.targetColumns) = tuples.map .ok)
    (empty : batches.countP (·.numRows = 0) ≠ 0) :
    Answers execute convert query tuples (FdwScan.begun table query.targetColumns query.limit) ↔
      query.targetColumns = [] ∧ (query.passes [] = false ∨
        query.shown ((query.scanned tuples).length + batches.countP (·.numRows = 0)) =
          query.shown tuples.length) := by
  obtain ⟨batch, mem, noRows⟩ := List.countP_pos_iff.mp (Nat.pos_of_ne_zero empty)
  by_cases targets : query.targetColumns = []
  · have lengths : (batches.map RecordBatch.numRows).sum = (query.scanned tuples).length := by
      rw [← BatchCursor.rows_length RecordBatch.numRows RecordBatch.row, same,
        query.rows_limited table]
      have both := congrArg (List.length ∘ query.scanned) readable
      simpa [Query.scanned_map] using both
    have all : tuples = List.replicate tuples.length [] := by
      refine List.eq_replicate_iff.mpr ⟨rfl, fun tuple listed => ?_⟩
      have found : (.ok tuple : Except Fault (Tuple Cell)) ∈ tuples.map .ok :=
        List.mem_map_of_mem listed
      rw [← readable, targets] at found
      obtain ⟨row, -, read⟩ := List.mem_map.mp found
      exact (Except.ok.inj read).symm
    have read : BatchCursor.rows rowsRead
        (fun batch index => readRowFrom convert batch index query.targetColumns 0) batches =
          (List.replicate ((query.scanned tuples).length + batches.countP (·.numRows = 0))
            ([] : Tuple Cell)).map .ok := by
      rw [targets, rows_read_of_noTargets, lengths]
    have shows := query.answer_replicate_iff
      ((query.scanned tuples).length + batches.countP (·.numRows = 0)) tuples.length []
    rw [← all] at shows
    have scans := @rows_answered_iff _ _ _ _ convert table query batches _ tuples executed read
    constructor
    · rintro ⟨answered, -⟩
      exact ⟨targets, shows.mp (scans.mp answered)⟩
    · rintro ⟨-, harmless⟩
      refine ⟨scans.mpr (shows.mpr harmless), fun _ _ _ _ _ _ i target at' => ?_⟩
      rw [targets] at at'
      cases at'
  · refine iff_of_false ?_ fun harmless => targets harmless.1
    rintro ⟨⟨fuel, scanned, drained, -⟩, -⟩
    have read := (drain_begun_iff convert executed).mp ⟨fuel, drained⟩
    exact targets (targets_of_read convert mem (by simpa using noRows) read)

theorem answers_begun_iff (streams : Streams execute)
    (distinct : (table.columns.map (·.name)).Nodup)
    (readable : table.rows.map (projectRow convert · query.targetColumns) = tuples.map .ok) :
    Answers execute convert query tuples (FdwScan.begun table query.targetColumns query.limit) ↔
      query.Unharmed table tuples (emptyBatches execute (limited table query.limit)) := by
  obtain ⟨batches, executed, named, same⟩ := streams (limited table query.limit)
  rw [emptyBatches_eq executed, Query.Unharmed]
  split
  · rename_i none'
    have nonempty : ∀ batch ∈ batches, batch.numRows ≠ 0 := by
      simpa using List.countP_eq_zero.mp none'
    by_cases nothing : query.scanned tuples = []
    · exact iff_of_true
        (answers_of_nothing convert executed same nonempty readable nothing) (.inl nothing)
    · rw [answers_iff_of_some convert executed named same nonempty distinct readable nothing]
      exact (or_iff_right nothing).symm
  · rename_i empty
    exact answers_iff_of_empty convert executed same readable empty

end Batches

/-- A scan answers the query that Postgres asked exactly when it scans no row, or reads the
first columns of the table in their order and its own window loses no row that passes; and if
there are empty batches, when it reads no columns and the rows made up for them do not show. -/
theorem scan_answers_iff (streams : Streams execute) {session : Session DataType σ} {oid : String}
    {reference : String × String} {table : RecordBatch DataType σ}
    (opened : session.relation oid = .ok reference) (ready : session.catalog = .ok ())
    (found : session.table reference = .ok table)
    (distinct : (table.columns.map (·.name)).Nodup) (query : Query Cell)
    {tuples : List (Tuple Cell)}
    (readable : table.rows.map (projectRow convert · query.targetColumns) = tuples.map .ok)
    (schemas : List String) :
    Answers execute convert query tuples
        (exec (beginScanImpl session (some oid) query.targetColumns query.limit)
          ({}, schemas)).2.1 ↔
      query.Unharmed table tuples (emptyBatches execute (limited table query.limit)) := by
  rw [exec_beginScanImpl opened ready found]
  exact answers_begun_iff convert streams distinct readable

end Answers

def trips : RecordBatch Unit ℕ where
  columns := [⟨"id", (), [some 1, some 2]⟩, ⟨"vendor", (), [some 7, some 8]⟩]
  numRows := 2
  lengths := by simp

def tripsSession : Session Unit ℕ where
  relation _ := .ok ("public", "trips")
  catalog := .ok ()
  table _ := .ok trips

def oneBatch (dataframe : RecordBatch Unit ℕ) : Except Fault (Stream Unit ℕ) :=
  .ok (if dataframe.numRows = 0 then [] else [.ok dataframe])

theorem streams_oneBatch : Streams oneBatch := by
  intro dataframe
  by_cases empty : dataframe.numRows = 0
  · exact ⟨[], by simp [oneBatch, empty], by simp,
      by simp [BatchCursor.rows, RecordBatch.rows, chunkRows, empty]⟩
  · exact ⟨[dataframe], by simp [oneBatch, empty], by simp,
      by simp [BatchCursor.rows, RecordBatch.rows]⟩

def asItIs (_ : Unit) (value : Option ℕ) (_ : Oid) (_ : Int32) : Except Fault (Option ℕ) :=
  .ok value

def idQuery (count : Option Int64) (nonneg : ∀ n ∈ count, 0 ≤ n) : Query ℕ where
  targetColumns := [⟨"id", 23, -1⟩]
  passes tuple := tuple = [some 2]
  count := count
  offset := 0
  countNonneg := nonneg
  offsetNonneg := by decide

theorem one_nonneg (n : Int64) (mem : n ∈ some (1 : Int64)) : 0 ≤ n := by
  cases mem
  decide

theorem scan_answers_iff_unlimited :
    Answers oneBatch asItIs (idQuery none (by simp)) [[some 1], [some 2]]
      (exec (beginScanImpl tripsSession (some "16384") [⟨"id", 23, -1⟩] none) ({}, [])).2.1 :=
  (@scan_answers_iff _ _ _ oneBatch asItIs streams_oneBatch tripsSession "16384"
    ("public", "trips") trips rfl rfl rfl (by decide) (idQuery none (by simp)) _ rfl []).mpr
      (.inr ⟨by decide, by simp [idQuery]⟩)

def vendorQuery : Query ℕ where
  targetColumns := [⟨"vendor", 23, -1⟩]
  passes _ := true
  count := none
  offset := 0
  countNonneg := by simp
  offsetNonneg := by decide

theorem limited_scan_not_answered :
    ¬ Answers oneBatch asItIs (idQuery (some 1) one_nonneg) [[some 1], [some 2]]
      (exec (beginScanImpl tripsSession (some "16384") [⟨"id", 23, -1⟩] (some ⟨1, 0⟩))
        ({}, [])).2.1 ∧
    ¬ Answers oneBatch asItIs vendorQuery [[some 7], [some 8]]
      (exec (beginScanImpl tripsSession (some "16384") [⟨"vendor", 23, -1⟩] none)
        ({}, [])).2.1 := by
  have begun : ∀ columns limit,
      (exec (beginScanImpl tripsSession (some "16384") columns limit) ({}, [])).2.1 =
        FdwScan.begun trips columns limit := fun columns limit =>
    @exec_beginScanImpl _ _ tripsSession "16384" ("public", "trips") trips rfl rfl rfl columns
      limit []
  have distinct : (trips.columns.map (·.name)).Nodup := by decide
  rw [begun, begun]
  constructor
  · intro answered
    rcases (answers_begun_iff asItIs streams_oneBatch distinct rfl).mp answered with
      nothing | ⟨-, harmless⟩
    · exact absurd nothing (by decide)
    · exact absurd (harmless 1 rfl) (by decide)
  · intro answered
    rcases (answers_begun_iff asItIs streams_oneBatch distinct rfl).mp answered with
      nothing | ⟨ordered, -⟩
    · exact absurd nothing (by decide)
    · exact absurd ordered (by decide)

end PgAnalytics.DatafusionScan
