import Mathlib.Data.List.Forall2
import PgAnalytics.DatafusionScan

/-! The foreign scan of the DuckDB wrappers and that of the DataFusion wrappers, one written
after the other: over batches that read alike, they answer alike at every call. -/

namespace PgAnalytics.SiblingScans
open Basics Commands ForeignTables ArrowReader BatchCursor
open RecordBatches (GetCell IntegerCell INT4OID Int32Array Oid QueryResult Tuple int32Batch)

variable {ArrayRef Cell : Type} [GetCell ArrayRef Cell] {DataType σ : Type}
variable (execute : DatafusionScan.RecordBatch DataType σ →
  Except Fault (DatafusionScan.Stream DataType σ))
variable (convert : DataType → Option σ → Oid → Int32 → Except Fault (Option Cell))

structure Alike (columns : List RecordBatches.Column) (targets : List DatafusionScan.Column)
    (batch : RecordBatches.RecordBatch ArrayRef)
    (batch' : DatafusionScan.RecordBatch DataType σ) : Prop where
  numRows : batch'.numRows = batch.numRows
  rows : ∀ i < batch.numRows, DatafusionScan.readRowFrom convert batch' i targets 0 =
    RecordBatches.readRow columns batch i

structure Together (columns : List RecordBatches.Column) (targets : List DatafusionScan.Column)
    (s : BaseFdw.FdwScan ArrayRef × Globals ArrayRef)
    (scan : DatafusionScan.FdwScan DataType σ) : Prop where
  started : s.1.scanStarted = true
  reads : s.1.targetColumns = columns
  reads' : scan.targetColumns = targets
  current : Option.Rel (Alike convert columns targets) s.1.currentBatch scan.currentBatch
  index : scan.currentBatchIndex = s.1.currentBatchIndex
  batches : ∃ arrow batches, s.2.Reads arrow ∧ scan.stream = some (batches.map .ok) ∧
    List.Forall₂ (Alike convert columns targets) arrow.result.batches batches

variable {execute convert}
variable {columns : List RecordBatches.Column} {targets : List DatafusionScan.Column}
variable {s : BaseFdw.FdwScan ArrayRef × Globals ArrayRef}
variable {scan : DatafusionScan.FdwScan DataType σ}

theorem Together.usedUp (together : Together convert columns targets s scan) :
    scan.cursor.usedUp DatafusionScan.RecordBatch.numRows = s.1.usedUp := by
  have current := together.current
  rw [DatafusionScan.FdwScan.cursor, BaseFdw.FdwScan.usedUp, BaseFdw.FdwScan.cursor,
    Cursor.usedUp, Cursor.usedUp, together.index]
  dsimp only
  generalize s.1.currentBatch = batch at current ⊢
  generalize scan.currentBatch = batch' at current ⊢
  cases current with
  | none => rfl
  | some alike => simp only [Option.all_some, alike.numRows]

theorem iterScanImpl_inStep (answer : QueryAnswer ArrayRef) :
    InStep (Together convert columns targets) (BaseFdw.iterScanImpl false answer)
      (DatafusionScan.iterScanImpl execute convert) := by
  rintro ⟨scan, g⟩ scan' together
  have usedUp := together.usedUp
  obtain ⟨started, reads, reads', current, index, arrow, batches, reader, stream, alike⟩ := together
  have started' : scan'.stream.isSome := by rw [stream]; rfl
  rw [BaseFdw.exec_iterScanImpl_started started]
  cases up : scan.usedUp with
  | true =>
    rw [up] at usedUp
    rw [BaseFdw.exec_nextRow_fetch up reader]
    cases fetched : arrow.result.batches with
    | nil =>
      rw [fetched] at alike
      cases alike
      rw [DatafusionScan.exec_iterScanImpl_end execute convert stream usedUp]
      have ends : arrow.result.tail.batches = [] := congrArg List.tail fetched
      exact ⟨rfl, started, reads, reads', current, rfl, _, [], reader.later _, stream, ends ▸ .nil⟩
    | cons batch rest =>
      have nonempty := arrow.result.nonempty batch (by rw [fetched]; exact List.mem_cons_self)
      have tail : arrow.result.tail.batches = rest := congrArg List.tail fetched
      rw [fetched] at alike
      cases alike with
      | @cons _ batch' _ rest' here later =>
        rw [DatafusionScan.exec_iterScanImpl_fetch execute convert stream usedUp, reads,
          reads', here.rows 0 nonempty]
        dsimp only
        cases RecordBatches.readRow columns batch 0 with
        | error fault =>
          exact ⟨rfl, started, rfl, rfl, .some here, rfl, _, rest', reader.later _, rfl,
            tail ▸ later⟩
        | ok row =>
          exact ⟨rfl, started, rfl, rfl, .some here, rfl, _, rest', reader.later _, rfl,
            tail ▸ later⟩
  | false =>
    rw [up] at usedUp
    rcases here : scan.currentBatch with _ | batch
    · rw [BaseFdw.FdwScan.usedUp, BaseFdw.FdwScan.cursor, here] at up
      cases up
    · rcases there : scan'.currentBatch with _ | batch'
      · rw [DatafusionScan.FdwScan.cursor, there] at usedUp
        cases usedUp
      · have alikeHere : Alike convert columns targets batch batch' := by
          rw [show (scan, g).1.currentBatch = some batch from here, there] at current
          cases current with
          | some alike => exact alike
        have within : scan.currentBatchIndex < batch.numRows := by
          simpa [BaseFdw.FdwScan.usedUp, BaseFdw.FdwScan.cursor, Cursor.usedUp, here] using up
        have row := alikeHere.rows scan.currentBatchIndex within
        rw [BaseFdw.exec_nextRow_current up here,
          DatafusionScan.exec_iterScanImpl_current execute convert started' usedUp there, reads',
          show scan'.currentBatchIndex = scan.currentBatchIndex from index, row,
          show scan.targetColumns = columns from reads]
        cases RecordBatches.readRow columns batch scan.currentBatchIndex with
        | error fault =>
          exact ⟨rfl, started, reads, reads', current, index, arrow, batches, reader, stream, alike⟩
        | ok row =>
          exact ⟨rfl, started, rfl, rfl, current, rfl, arrow, batches, reader, stream, alike⟩

/-- The scans of a DuckDB wrapper and of a DataFusion wrapper answer alike at every call, past the
end and after a row that cannot be read as before, when their batches read alike. -/
theorem scans_answer_alike (execute : DatafusionScan.RecordBatch DataType σ →
      Except Fault (DatafusionScan.Stream DataType σ))
    (convert : DataType → Option σ → Oid → Int32 → Except Fault (Option Cell))
    (userMapping : Options) (t : ForeignTable) (request : BaseFdw.ScanRequest)
    (result : QueryResult ArrayRef) (g : Globals ArrayRef)
    {table : DatafusionScan.RecordBatch DataType σ} {targets : List DatafusionScan.Column}
    {limit : Option BaseFdw.Limit} (batches : List (DatafusionScan.RecordBatch DataType σ))
    (executed : execute (DatafusionScan.limited table limit) = .ok (batches.map .ok))
    (alike : List.Forall₂ (Alike convert request.columns targets) result.batches batches)
    (calls : ℕ) :
    answers (BaseFdw.iterScanImpl false (.answered result)) calls
        (BaseFdw.FdwScan.begun userMapping t request, g) =
      answers (DatafusionScan.iterScanImpl execute convert) calls
        (DatafusionScan.FdwScan.begun table targets limit) := by
  have first : exec (BaseFdw.iterScanImpl false (.answered result))
      (BaseFdw.FdwScan.begun userMapping t request, g) =
        exec (BaseFdw.iterScanImpl false (.answered result))
          ({ BaseFdw.FdwScan.begun userMapping t request with scanStarted := true },
            ⟨some ⟨g.nextId, BaseFdw.scanSql t request⟩, some ⟨g.nextId, result⟩,
              g.nextId + 1⟩) := by
    rw [BaseFdw.exec_iterScanImpl_first rfl rfl, exec_createArrow,
      BaseFdw.exec_iterScanImpl_started rfl]
  have first' : exec (DatafusionScan.iterScanImpl execute convert)
      (DatafusionScan.FdwScan.begun table targets limit) =
        exec (DatafusionScan.iterScanImpl execute convert)
          { DatafusionScan.FdwScan.begun table targets limit with
            stream := some (batches.map .ok) } := by
    rw [DatafusionScan.iterScanImpl,
      exec_bind_ok (DatafusionScan.exec_createStream_first execute rfl rfl executed),
      exec_bind_ok (DatafusionScan.exec_createStream_started execute rfl)]
  rw [answers_congr first, answers_congr first']
  exact (iterScanImpl_inStep _).answers
    ⟨rfl, rfl, rfl, .none, rfl, _, batches, ⟨rfl, rfl⟩, rfl, alike⟩ calls

def counts : QueryResult Int32Array := ⟨[int32Batch [some 1, none]], by simp [int32Batch]⟩

def countFrame : DatafusionScan.RecordBatch Unit Int32 where
  columns := [⟨"n", (), [some 1, none]⟩]
  numRows := 2
  lengths := by simp

theorem scans_answer_alike_counts :
    answers (BaseFdw.iterScanImpl false (.answered counts)) 5
        (BaseFdw.FdwScan.begun [] ⟨"public", "counts", "files", .parquet, []⟩
          ⟨[], [⟨"n", INT4OID⟩], [], none⟩, Globals.init) =
      answers (DatafusionScan.iterScanImpl (fun frame => .ok [.ok frame])
          (fun _ value _ _ => .ok (value.map .i32))) 5
        (DatafusionScan.FdwScan.begun countFrame [⟨"n", INT4OID, -1⟩] none) :=
  scans_answer_alike _ _ _ _ _ counts _ [countFrame] rfl (.cons ⟨rfl, by decide⟩ .nil) 5

end PgAnalytics.SiblingScans
