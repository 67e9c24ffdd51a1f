import PgAnalytics.ArrowReader
import PgAnalytics.BatchCursor
import PgAnalytics.ForeignTables

/-! The foreign scan that all six wrappers share: it builds its SQL when it
begins, opens the backend's one reader at its first row, and walks the batches
of that reader with a cursor of its own. -/

namespace PgAnalytics.BaseFdw
open Basics Commands DuckdbCatalog ForeignTables RecordBatches ArrowReader BatchCursor

variable {κ : Type} [DecidableEq κ] {fold : String → κ}
variable {ArrayRef Cell : Type} [GetCell ArrayRef Cell]

structure Limit where
  count : Int64
  offset : Int64
  deriving DecidableEq, Repr

structure ScanRequest where
  quals : List String
  columns : List Column
  sorts : List String
  limit : Option Limit

structure FdwScan (ArrayRef : Type) {Cell : Type} [GetCell ArrayRef Cell] where
  currentBatch : Option (RecordBatch ArrayRef) := none
  currentBatchIndex : ℕ := 0
  scanStarted : Bool := false
  sql : Option String := none
  targetColumns : List Column := []
  userMappingOptions : Options

/-- The sum wraps around in a release build. -/
def realLimit (limit : Limit) : Int64 := limit.offset + limit.count

def scanSql (t : ForeignTable) (request : ScanRequest) : String :=
  let targets :=
    if request.columns.isEmpty then "*" else ", ".intercalate (request.columns.map (·.name))
  let selection := "SELECT " ++ targets ++ " FROM " ++ t.schema ++ "." ++ t.name
  let filter :=
    if request.quals.isEmpty then "" else " WHERE " ++ " AND ".intercalate request.quals
  let order :=
    if request.sorts.isEmpty then "" else " ORDER BY " ++ ", ".intercalate request.sorts
  let limit := match request.limit with
    | none => ""
    | some limit => " LIMIT " ++ toString (realLimit limit).toInt
  selection ++ filter ++ order ++ limit

/-- The scan as a successful `begin_scan_impl` leaves it. -/
def FdwScan.begun (userMapping : Options) (t : ForeignTable) (request : ScanRequest) :
    FdwScan ArrayRef :=
  { targetColumns := request.columns, sql := some (scanSql t request),
    userMappingOptions := userMapping }

/-- `begin_scan_impl`; `relation` is the outcome of opening the table's relation. -/
def beginScanImpl (engine : Engine) (tableOid : Option String)
    (relation : String → Except Fault ForeignTable) (request : ScanRequest) :
    Command (FdwScan ArrayRef × Duckdb fold) Fault Unit :=
  match tableOid with
  | none => throw (.error "table oid not found")
  | some oid =>
    match relation oid with
    | .error fault => throw fault
    | .ok t => do
      modify fun (scan, duck) => ({ scan with targetColumns := request.columns }, duck)
      let (scan, _) ← get
      onPart Prod.snd (fun (scan, _) duck => (scan, duck))
        (registerDuckdbView engine t scan.userMappingOptions)
      modify fun (scan, duck) => ({ scan with sql := some (scanSql t request) }, duck)

namespace FdwScan

def cursor (scan : FdwScan ArrayRef) : Cursor (RecordBatch ArrayRef) :=
  ⟨scan.currentBatch, scan.currentBatchIndex⟩

def usedUp (scan : FdwScan ArrayRef) : Bool := scan.cursor.usedUp RecordBatch.numRows

end FdwScan

def startScan (answer : QueryAnswer ArrayRef) :
    Command (FdwScan ArrayRef × Globals ArrayRef) Fault Unit := do
  if !(← get).1.scanStarted then
    modify fun (scan, g) => ({ scan with scanStarted := true }, g)
    match (← get).1.sql with
    | none => throw (.error "sql statement was not cached")
    | some sql =>
      let _ ← onPart Prod.snd (fun (scan, _) g => (scan, g)) (createArrow sql answer)

def currentOrNextBatch : Command (FdwScan ArrayRef × Globals ArrayRef) Fault Bool := do
  if (← get).1.usedUp then
    modify fun (scan, g) => ({ scan with currentBatchIndex := 0 }, g)
    match ← onPart Prod.snd (fun (scan, _) g => (scan, g)) getNextBatch with
    | none => return false
    | some batch =>
      modify fun (scan, g) => ({ scan with currentBatch := some batch }, g)
      return true
  else
    return true

/-- The row at the position; a row that cannot be read leaves the position. -/
def readCurrentRow : Command (FdwScan ArrayRef × Globals ArrayRef) Fault (Tuple Cell) := do
  let (scan, _) ← get
  match scan.currentBatch with
  | none => throw (.error "current batch not found")
  | some batch =>
    match readRow scan.targetColumns batch scan.currentBatchIndex with
    | .error fault => throw fault
    | .ok row =>
      modify fun (scan, g) => ({ scan with currentBatchIndex := scan.currentBatchIndex + 1 }, g)
      return row

def nextRow : Command (FdwScan ArrayRef × Globals ArrayRef) Fault (Option (Tuple Cell)) := do
  if ← currentOrNextBatch then
    let row ← readCurrentRow
    return some row
  else
    return none

/-- `iter_scan_impl`; `disableFdw` is the debugging switch. -/
def iterScanImpl (disableFdw : Bool) (answer : QueryAnswer ArrayRef) :
    Command (FdwScan ArrayRef × Globals ArrayRef) Fault (Option (Tuple Cell)) :=
  if disableFdw then
    throw (.error ("FDW is disabled. This may indicate that the executor hook did not " ++
      "execute as expected."))
  else do
    startScan answer
    nextRow

def endScanImpl : Command (Globals ArrayRef) Fault Unit := clearArrow

theorem beginScanImpl_ok {engine : Engine} {tableOid : Option String}
    {relation : String → Except Fault ForeignTable} {request : ScanRequest}
    {userMapping : Options} {duck : Duckdb fold} {s : FdwScan ArrayRef × Duckdb fold}
    (h : exec (beginScanImpl engine tableOid relation request)
      ({ userMappingOptions := userMapping }, duck) = (.ok (), s)) :
    ∃ oid t, tableOid = some oid ∧ relation oid = .ok t ∧
      s.1 = FdwScan.begun userMapping t request ∧
      exec (registerDuckdbView engine t userMapping) duck = (.ok (), s.2) := by
  unfold beginScanImpl at h
  cases tableOid with
  | none => cases h
  | some oid =>
    cases opened : relation oid with
    | error fault => simp [opened] at h
    | ok t =>
      refine ⟨oid, t, rfl, opened, ?_⟩
      simp only [opened, exec_bind, exec_modify, exec_get, exec_onPart] at h
      rcases run : exec (registerDuckdbView engine t userMapping) duck with ⟨fault | _, duck'⟩
      · simp [run] at h
      · simp only [run, Prod.mk.injEq, true_and] at h
        subst h
        exact ⟨rfl, rfl⟩

theorem beginScanImpl_registered {t : ForeignTable} {duck : Duckdb fold}
    (registered : duck.views.spelled (t.schema, t.name) = true) (oid : String)
    (request : ScanRequest) :
    exec (beginScanImpl accepting (some oid) (fun _ => .ok t) request)
      (({ userMappingOptions := [] } : FdwScan ArrayRef), duck) =
        (.ok (), FdwScan.begun [] t request, duck) := by
  have looked : exec (viewExists accepting t.name t.schema) duck = (.ok true, duck) := by
    rw [exec_viewExists, ← registered]
    rfl
  have ensured : exec (ensureView accepting t) duck = (.ok (), duck) := by
    rw [ensureView, exec_bind_ok looked]
    rfl
  have secret : exec (setSecret accepting []) duck = (.ok (), duck) := rfl
  have registers : exec (registerDuckdbView accepting t []) duck = (.ok (), duck) := by
    rw [registerDuckdbView, exec_bind_ok secret, ensured]
  simp only [beginScanImpl, exec_bind, exec_modify, exec_get, exec_onPart, registers]
  rfl

theorem exec_readCurrentRow {scan : FdwScan ArrayRef} {batch : RecordBatch ArrayRef}
    (current : scan.currentBatch = some batch) (g : Globals ArrayRef) :
    exec readCurrentRow (scan, g) =
      match readRow scan.targetColumns batch scan.currentBatchIndex with
      | .error fault => (.error fault, (scan, g))
      | .ok row =>
        (.ok row, ({ scan with currentBatchIndex := scan.currentBatchIndex + 1 }, g)) := by
  obtain ⟨currentBatch, currentBatchIndex, scanStarted, sql, targetColumns, options⟩ := scan
  cases current
  simp only [readCurrentRow, exec_bind, exec_get]
  cases readRow targetColumns batch currentBatchIndex <;> rfl

theorem exec_nextRow_current {scan : FdwScan ArrayRef} {batch : RecordBatch ArrayRef}
    (left : scan.usedUp = false) (current : scan.currentBatch = some batch)
    (g : Globals ArrayRef) :
    exec nextRow (scan, g) =
      match readRow scan.targetColumns batch scan.currentBatchIndex with
      | .error fault => (.error fault, (scan, g))
      | .ok row =>
        (.ok (some row), ({ scan with currentBatchIndex := scan.currentBatchIndex + 1 }, g)) := by
  have here : exec currentOrNextBatch (scan, g) = (.ok true, (scan, g)) := by
    simp [currentOrNextBatch, exec_bind, left]
  rw [nextRow, exec_bind_ok here, if_pos rfl, exec_bind, exec_readCurrentRow current]
  cases readRow scan.targetColumns batch scan.currentBatchIndex <;> rfl

theorem exec_nextRow_fetch {scan : FdwScan ArrayRef} {g : Globals ArrayRef}
    {arrow : Arrow ArrayRef} (usedUp : scan.usedUp = true) (reads : g.Reads arrow) :
    exec nextRow (scan, g) =
      let g' := { g with arrow := some { arrow with result := arrow.result.tail } }
      match arrow.result.batches with
      | [] => (.ok none, ({ scan with currentBatchIndex := 0 }, g'))
      | batch :: _ =>
        match readRow scan.targetColumns batch 0 with
        | .error fault =>
          (.error fault, ({ scan with currentBatch := some batch, currentBatchIndex := 0 }, g'))
        | .ok row =>
          (.ok (some row),
            ({ scan with currentBatch := some batch, currentBatchIndex := 1 }, g')) := by
  cases batches : arrow.result.batches with
  | nil =>
    have fetch : exec currentOrNextBatch (scan, g) =
        (.ok false, ({ scan with currentBatchIndex := 0 },
          { g with arrow := some { arrow with result := arrow.result.tail } })) := by
      simp only [currentOrNextBatch, exec_bind, exec_get, exec_modify, exec_onPart, usedUp, if_true,
        reads.exec_getNextBatch, batches, List.head?_nil, exec_pure]
    rw [nextRow, exec_bind_ok fetch]
    rfl
  | cons batch rest =>
    have fetch : exec currentOrNextBatch (scan, g) =
        (.ok true, ({ scan with currentBatch := some batch, currentBatchIndex := 0 },
          { g with arrow := some { arrow with result := arrow.result.tail } })) := by
      simp only [currentOrNextBatch, exec_bind, exec_get, exec_modify, exec_onPart, usedUp, if_true,
        reads.exec_getNextBatch, batches, List.head?_cons, exec_pure]
    rw [nextRow, exec_bind_ok fetch, if_pos rfl, exec_bind, exec_readCurrentRow rfl]
    dsimp only
    cases readRow scan.targetColumns batch 0 <;> rfl

theorem readCurrentRow_globals (s : FdwScan ArrayRef × Globals ArrayRef) :
    (exec readCurrentRow s).2.2 = s.2 := by
  obtain ⟨scan, g⟩ := s
  cases current : scan.currentBatch with
  | none =>
    have run : exec readCurrentRow (scan, g) =
        (.error (.error "current batch not found"), (scan, g)) := by
      simp [readCurrentRow, exec_bind, current]
    rw [run]
  | some batch =>
    rw [exec_readCurrentRow current]
    cases readRow scan.targetColumns batch scan.currentBatchIndex <;> rfl

theorem currentOrNextBatch_globals (scan : FdwScan ArrayRef) (g : Globals ArrayRef) :
    (exec currentOrNextBatch (scan, g)).2.2 =
      if scan.usedUp then (exec (getNextBatch : Command (Globals ArrayRef) Fault _) g).2
      else g := by
  cases usedUp : scan.usedUp with
  | false =>
    have here : exec currentOrNextBatch (scan, g) = (.ok true, (scan, g)) := by
      simp [currentOrNextBatch, exec_bind, usedUp]
    rw [here]
    rfl
  | true =>
    rcases fetch : exec getNextBatch g with ⟨fault | _ | batch, g'⟩
    · have run : exec currentOrNextBatch (scan, g) =
          (.error fault, ({ scan with currentBatchIndex := 0 }, g')) := by
        simp only [currentOrNextBatch, exec_bind, exec_get, exec_modify, exec_onPart, usedUp,
          if_true, fetch]
      rw [run, if_pos rfl]
    · have run : exec currentOrNextBatch (scan, g) =
          (.ok false, ({ scan with currentBatchIndex := 0 }, g')) := by
        simp only [currentOrNextBatch, exec_bind, exec_get, exec_modify, exec_onPart, usedUp,
          if_true, fetch, exec_pure]
      rw [run, if_pos rfl]
    · have run : exec currentOrNextBatch (scan, g) =
          (.ok true, ({ scan with currentBatch := some batch, currentBatchIndex := 0 }, g')) := by
        simp only [currentOrNextBatch, exec_bind, exec_get, exec_modify, exec_onPart, usedUp,
          if_true, fetch, exec_pure]
      rw [run, if_pos rfl]

theorem nextRow_globals (scan : FdwScan ArrayRef) (g : Globals ArrayRef) :
    (exec nextRow (scan, g)).2.2 =
      if scan.usedUp then (exec (getNextBatch : Command (Globals ArrayRef) Fault _) g).2
      else g := by
  rw [← currentOrNextBatch_globals scan g]
  rcases run : exec currentOrNextBatch (scan, g) with ⟨fault | _ | _, s⟩
  · rw [nextRow, exec_bind_error run]
  · rw [nextRow, exec_bind_ok run]
    rfl
  · have same := readCurrentRow_globals s
    rw [nextRow, exec_bind_ok run, if_pos rfl, exec_bind]
    rcases read : exec readCurrentRow s with ⟨fault | row, s'⟩
    · rw [read] at same
      exact same
    · rw [read] at same
      exact same

theorem exec_iterScanImpl_started {scan : FdwScan ArrayRef} (started : scan.scanStarted = true)
    (answer : QueryAnswer ArrayRef) (g : Globals ArrayRef) :
    exec (iterScanImpl false answer) (scan, g) = exec nextRow (scan, g) := by
  have ready : exec (startScan answer) (scan, g) = (.ok (), (scan, g)) := by
    simp [startScan, exec_bind, started]
  rw [iterScanImpl, if_neg (by simp), exec_bind_ok ready]

theorem exec_iterScanImpl_first {scan : FdwScan ArrayRef} {sql : String}
    (fresh : scan.scanStarted = false) (cached : scan.sql = some sql)
    (answer : QueryAnswer ArrayRef) (g : Globals ArrayRef) :
    exec (iterScanImpl false answer) (scan, g) =
      match exec (createArrow sql answer) g with
      | (.ok _, g') => exec nextRow ({ scan with scanStarted := true }, g')
      | (.error fault, g') => (.error fault, ({ scan with scanStarted := true }, g')) := by
  rw [iterScanImpl, if_neg (by simp), exec_bind]
  simp only [startScan, exec_bind, exec_get, exec_modify, fresh, cached, Bool.not_false, if_true,
    exec_onPart]
  rcases exec (createArrow sql answer) g with ⟨fault | _, g'⟩ <;> rfl

def rowAnswer : Option (Except Fault (Tuple Cell)) → Except Fault (Option (Tuple Cell))
  | none => .ok none
  | some (.ok row) => .ok (some row)
  | some (.error fault) => .error fault

theorem nextRow_advance {scan : FdwScan ArrayRef} {g : Globals ArrayRef} {arrow : Arrow ArrayRef}
    (reads : scan.usedUp = true → g.Reads arrow) :
    let step := scan.cursor.advance RecordBatch.numRows (readRow scan.targetColumns)
      arrow.result.batches
    (exec nextRow (scan, g)).1 = rowAnswer step.1 ∧
      ((exec nextRow (scan, g)).1.isOk → (exec nextRow (scan, g)).2 =
        ({ scan with currentBatch := step.2.1.current, currentBatchIndex := step.2.1.index },
          if scan.usedUp then
            { g with arrow := some { arrow with result := arrow.result.tail } }
          else g)) := by
  cases usedUp : scan.usedUp with
  | true =>
    have up : scan.cursor.usedUp RecordBatch.numRows = true := usedUp
    rw [exec_nextRow_fetch usedUp (reads usedUp)]
    cases batches : arrow.result.batches with
    | nil =>
      rw [Cursor.advance_nil _ _ up]
      exact ⟨rfl, fun _ => rfl⟩
    | cons batch rest =>
      rw [Cursor.advance_cons _ _ up]
      dsimp only
      cases readRow scan.targetColumns batch 0 with
      | error fault => exact ⟨rfl, fun ok => by cases ok⟩
      | ok row => exact ⟨rfl, fun _ => rfl⟩
  | false =>
    have left : scan.cursor.usedUp RecordBatch.numRows = false := usedUp
    cases current : scan.currentBatch with
    | none => simp [FdwScan.usedUp, FdwScan.cursor, Cursor.usedUp, current] at usedUp
    | some batch =>
      have here : scan.cursor.current = some batch := current
      rw [exec_nextRow_current usedUp current, Cursor.advance_current _ _ left here]
      dsimp only [FdwScan.cursor]
      cases readRow scan.targetColumns batch scan.currentBatchIndex with
      | error fault => exact ⟨rfl, fun ok => by cases ok⟩
      | ok row => exact ⟨rfl, fun _ => by rw [← current]; rfl⟩

end PgAnalytics.BaseFdw
