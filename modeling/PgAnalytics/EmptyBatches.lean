import Mathlib.Logic.Relation
import PgAnalytics.DatafusionScan

/-! A DataFusion scan over a stream that may have batches without rows: a call that uses
up a batch reads the first row of the next one, whether or not there is one. -/

namespace PgAnalytics.EmptyBatches
open Basics BatchCursor Commands DatafusionScan
open RecordBatches (Tuple collect)

variable {DataType σ Cell : Type}

def streaming (batches : List (RecordBatch DataType σ)) :
    RecordBatch DataType σ → Except Fault (DatafusionScan.Stream DataType σ) :=
  fun _ => .ok (batches.map .ok)

section Calls

variable (execute : RecordBatch DataType σ → Except Fault (DatafusionScan.Stream DataType σ))
variable (convert : DataType → Option σ → RecordBatches.Oid → Int32 → Except Fault (Option Cell))

/-- The batch and the index of the row that a call reads, if it comes to one. -/
def reads (scan : FdwScan DataType σ) : Option (RecordBatch DataType σ × ℕ) :=
  match exec (createStream execute >>= fun _ => currentOrNextBatch) scan with
  | (.ok (some batch), scan') => some (batch, scan'.currentBatchIndex)
  | _ => none

def Continues (scan scan' : FdwScan DataType σ) : Prop :=
  ∃ row, exec (iterScanImpl execute convert) scan = (.ok (some row), scan')

structure Walks (scan : FdwScan DataType σ) (rows : List (Except Fault (Tuple Cell))) : Prop where
  drained : ∃ fuel, drain execute convert fuel scan = some (collect rows)
  inside : ∀ {scan' batch index}, Relation.ReflTransGen (Continues execute convert) scan scan' →
    reads execute scan' = some (batch, index) → index < batch.numRows

def fresh (dataframe : RecordBatch DataType σ) (columns : List Column) : FdwScan DataType σ :=
  { dataframe := some dataframe, targetColumns := columns }

def rowsOf (columns : List Column) (batches : List (RecordBatch DataType σ)) :
    List (Except Fault (Tuple Cell)) :=
  rows RecordBatch.numRows (fun batch index => readRowFrom convert batch index columns 0) batches

def Unreadable (row : Except Fault (Tuple Cell)) : Prop := ∃ fault, row = .error fault

section Reads

variable {execute} {scan : FdwScan DataType σ} {batch : RecordBatch DataType σ}

theorem reads_current (started : scan.stream.isSome)
    (left : scan.cursor.usedUp RecordBatch.numRows = false)
    (current : scan.currentBatch = some batch) :
    reads execute scan = some (batch, scan.currentBatchIndex) := by
  rw [reads, exec_bind_ok (exec_createStream_started execute started)]
  simp [currentOrNextBatch, exec_bind, left, current]

theorem reads_end (open' : scan.stream = some [])
    (usedUp : scan.cursor.usedUp RecordBatch.numRows = true) : reads execute scan = none := by
  have started : scan.stream.isSome := by rw [open']; rfl
  rw [reads, exec_bind_ok (exec_createStream_started execute started)]
  simp [currentOrNextBatch, getNextBatch, exec_bind, usedUp, open']

theorem reads_fetch {stream : DatafusionScan.Stream DataType σ}
    (open' : scan.stream = some (.ok batch :: stream))
    (usedUp : scan.cursor.usedUp RecordBatch.numRows = true) :
    reads execute scan = some (batch, 0) := by
  have started : scan.stream.isSome := by rw [open']; rfl
  rw [reads, exec_bind_ok (exec_createStream_started execute started)]
  simp only [currentOrNextBatch, getNextBatch, exec_bind, exec_get, usedUp, if_true, exec_modify,
    open', exec_pure]

end Reads

section Walk

variable {execute convert} {scan scan' : FdwScan DataType σ} {batch : RecordBatch DataType σ}
variable {index : ℕ} {later : List (Except Fault (Tuple Cell))}

theorem drain_row {row : Tuple Cell} {rows : Except Fault (List (Tuple Cell))}
    (run : exec (iterScanImpl execute convert) scan = (.ok (some row), scan')) :
    (∃ fuel, drain execute convert fuel scan = some (rows.map (row :: ·))) ↔
      ∃ fuel, drain execute convert fuel scan' = some rows := by
  have injective : Function.Injective (Except.map (ε := Fault) (row :: ·)) := by
    rintro (fault | rows) (fault' | rows') same <;> cases same <;> rfl
  rw [drain_of_row execute convert run]
  constructor
  · rintro ⟨rest, same, drained⟩
    exact injective same ▸ drained
  · exact fun drained => ⟨rows, rfl, drained⟩

theorem walks_of_end (run : exec (iterScanImpl execute convert) scan = (.ok none, scan'))
    (nothing : reads execute scan = none) : Walks execute convert scan [] := by
  refine ⟨⟨1, by rw [drain, run]; rfl⟩, fun reached here => ?_⟩
  rcases reached.cases_head with rfl | ⟨_, ⟨row, answered⟩, -⟩
  · rw [nothing] at here
    cases here
  · rw [run] at answered
    cases answered

theorem walks_of_error {fault : Fault}
    (run : exec (iterScanImpl execute convert) scan = (.error fault, scan'))
    (here : reads execute scan = some (batch, index)) (within : index < batch.numRows) :
    Walks execute convert scan (.error fault :: later) := by
  refine ⟨⟨1, by rw [drain, run]; rfl⟩, fun reached there => ?_⟩
  rcases reached.cases_head with rfl | ⟨_, ⟨row, answered⟩, -⟩
  · cases here.symm.trans there
    exact within
  · rw [run] at answered
    cases answered

theorem walks_cons {row : Tuple Cell}
    (run : exec (iterScanImpl execute convert) scan = (.ok (some row), scan'))
    (here : reads execute scan = some (batch, index)) (within : index < batch.numRows) :
    Walks execute convert scan (.ok row :: later) ↔ Walks execute convert scan' later := by
  constructor
  · rintro ⟨drained, inside⟩
    exact ⟨(drain_row run).mp drained, fun reached => inside (.head ⟨row, run⟩ reached)⟩
  · rintro ⟨drained, inside⟩
    refine ⟨(drain_row run).mpr drained, fun reached there => ?_⟩
    rcases reached.cases_head with rfl | ⟨next, ⟨row', answered⟩, reached⟩
    · cases here.symm.trans there
      exact within
    · cases run.symm.trans answered
      exact inside reached there

theorem not_walks (here : reads execute scan = some (batch, index))
    (outside : ¬ index < batch.numRows) : ¬ Walks execute convert scan later :=
  fun walks => outside (walks.inside .refl here)

theorem walks_congr
    (run : exec (iterScanImpl execute convert) scan = exec (iterScanImpl execute convert) scan')
    (same : reads execute scan = reads execute scan') (walks : Walks execute convert scan' later) :
    Walks execute convert scan later := by
  obtain ⟨⟨fuel, drained⟩, inside⟩ := walks
  refine ⟨⟨fuel, ?_⟩, fun reached here => ?_⟩
  · cases fuel with
    | zero => cases drained
    | succ fuel =>
      rw [drain] at drained ⊢
      rw [run, drained]
  · rcases reached.cases_head with rfl | ⟨next, ⟨row, answered⟩, reached⟩
    · exact inside .refl (same ▸ here)
    · exact inside (.head ⟨row, run ▸ answered⟩ reached) here

end Walk

section Batches

variable {execute} {scan : FdwScan DataType σ} {batches : List (RecordBatch DataType σ)}
variable {columns : List Column}

theorem walks_step {next : FdwScan DataType σ} {batch : RecordBatch DataType σ} {index : ℕ}
    {row : Except Fault (Tuple Cell)} {ahead later : List (Except Fault (Tuple Cell))}
    {read : RecordBatch DataType σ → ℕ → Except Fault (Tuple Cell)}
    (here : reads execute scan = some (batch, index)) (within : index < batch.numRows)
    (fails : ∀ fault, row = .error fault →
      ∃ scan', exec (iterScanImpl execute convert) scan = (.error fault, scan'))
    (answers : ∀ tuple, row = .ok tuple →
      exec (iterScanImpl execute convert) scan = (.ok (some tuple), next))
    (rest : Walks execute convert next later ↔
      Guarded RecordBatch.numRows read Unreadable ahead batches) :
    Walks execute convert scan (row :: later) ↔
      Guarded RecordBatch.numRows read Unreadable (row :: ahead) batches := by
  cases row with
  | error fault =>
    obtain ⟨scan', run⟩ := fails fault rfl
    exact iff_of_true (walks_of_error run here within) (guarded_of_ends ⟨fault, rfl⟩)
  | ok tuple =>
    rw [walks_cons (answers tuple rfl) here within, rest, guarded_cons]
    rintro ⟨fault, same⟩
    cases same

/-- From the middle of a stream on: each empty batch that is left has to come after a row
that cannot be read. -/
theorem walks_iff_guarded (target : scan.targetColumns = columns)
    (open' : scan.stream = some (batches.map .ok)) :
    Walks execute convert scan (scan.cursor.pending RecordBatch.numRows
        (fun batch index => readRowFrom convert batch index columns 0) batches) ↔
      Guarded RecordBatch.numRows (fun batch index => readRowFrom convert batch index columns 0)
        Unreadable (scan.cursor.unread RecordBatch.numRows
          fun batch index => readRowFrom convert batch index columns 0) batches := by
  let read := fun (batch : RecordBatch DataType σ) index =>
    readRowFrom convert batch index columns 0
  induction calls : (scan.cursor.pending RecordBatch.numRows read batches).length
    using Nat.strongRecOn generalizing scan batches with
  | _ n ih =>
    subst calls target
    have started : scan.stream.isSome := by rw [open']; rfl
    cases usedUp : scan.cursor.usedUp RecordBatch.numRows with
    | true =>
      have nothing := Cursor.unread_of_usedUp RecordBatch.numRows read usedUp
      cases batches with
      | nil =>
        rw [Cursor.pending, nothing]
        exact iff_of_true (walks_of_end (exec_iterScanImpl_end execute convert open' usedUp)
          (reads_end open' usedUp)) guarded_nil
      | cons batch batches =>
        have here : reads execute scan = some (batch, 0) := reads_fetch open' usedUp
        by_cases empty : batch.numRows = 0
        · rw [nothing]
          exact iff_of_false (not_walks here (by omega)) (not_guarded_of_empty empty)
        · have some' : 0 < batch.numRows := Nat.pos_of_ne_zero empty
          have pending := Cursor.pending_of_chunk RecordBatch.numRows read usedUp some' batches
          have rows := chunkRows_drop RecordBatch.numRows read some'
          rw [List.drop_zero] at rows
          have call := exec_iterScanImpl_fetch execute convert open' usedUp
          rw [guarded_chunk empty, nothing, List.nil_append, rows]
          rw [pending] at ih ⊢
          let next : FdwScan DataType σ :=
            { scan with
              stream := some (batches.map .ok), currentBatch := some batch, currentBatchIndex := 1 }
          have rest := @ih _ (Nat.lt_succ_self _) next batches rfl rfl rfl
          refine walks_step convert here some' (fun fault failed => ?_) (fun tuple ok => ?_) rest
          · dsimp only [read] at failed
            rw [call, failed]
            exact ⟨_, rfl⟩
          · dsimp only [read] at ok
            rw [call, ok]
    | false =>
      cases current : scan.currentBatch with
      | none => simp [FdwScan.cursor, Cursor.usedUp, current] at usedUp
      | some batch =>
        have inside : scan.cursor.current = some batch := current
        have within : scan.currentBatchIndex < batch.numRows := by
          simpa [FdwScan.cursor, Cursor.usedUp, current] using usedUp
        have here : reads execute scan = some (batch, scan.currentBatchIndex) :=
          reads_current started usedUp current
        have pending := Cursor.pending_of_unused RecordBatch.numRows read inside usedUp batches
        have unread : scan.cursor.unread RecordBatch.numRows read =
            read batch scan.currentBatchIndex :: Cursor.unread RecordBatch.numRows read
              ⟨some batch, scan.currentBatchIndex + 1⟩ := by
          rw [Cursor.unread, inside]
          exact chunkRows_drop RecordBatch.numRows read within
        have call := exec_iterScanImpl_current execute convert started usedUp current
        rw [pending] at ih ⊢
        rw [unread]
        let next : FdwScan DataType σ :=
          { scan with currentBatchIndex := scan.currentBatchIndex + 1 }
        have cursor : next.cursor = ⟨some batch, scan.currentBatchIndex + 1⟩ := by
          rw [← current]
          rfl
        have rest := @ih _ (Nat.lt_succ_self _) next batches rfl open' (by rw [cursor]; rfl)
        rw [cursor] at rest
        refine walks_step convert here within (fun fault failed => ?_) (fun tuple ok => ?_) rest
        · dsimp only [read, FdwScan.cursor] at failed
          rw [call, failed]
          exact ⟨_, rfl⟩
        · dsimp only [read, FdwScan.cursor] at ok
          rw [call, ok]

/-- A scan walks through all of its batches exactly when none is empty before the first row
that cannot be read. -/
theorem scan_walks_iff (dataframe : RecordBatch DataType σ) (columns : List Column)
    (batches : List (RecordBatch DataType σ)) :
    Walks (streaming batches) convert (fresh dataframe columns) (rowsOf convert columns batches) ↔
      ∀ before batch after, batches = before ++ batch :: after → batch.numRows = 0 →
        ∃ row ∈ rowsOf convert columns before, Unreadable row := by
  let opened : FdwScan DataType σ :=
    { fresh dataframe columns with stream := some (batches.map .ok) }
  -- the first call opens the stream and then goes on as the later ones do
  have first : exec (createStream (streaming batches)) (fresh dataframe columns) =
      (.ok (), opened) := exec_createStream_first (streaming batches) rfl rfl rfl
  have later : exec (createStream (streaming batches)) opened = (.ok (), opened) :=
    exec_createStream_started (streaming batches) rfl
  have run : exec (iterScanImpl (streaming batches) convert) (fresh dataframe columns) =
      exec (iterScanImpl (streaming batches) convert) opened := by
    rw [iterScanImpl, exec_bind_ok first, exec_bind_ok later]
  have same : reads (streaming batches) (fresh dataframe columns) =
      reads (streaming batches) opened := by
    rw [reads, reads, exec_bind_ok first, exec_bind_ok later]
  have walks : Walks (streaming batches) convert (fresh dataframe columns)
      (rowsOf convert columns batches) ↔
        Walks (streaming batches) convert opened (rowsOf convert columns batches) :=
    ⟨walks_congr run.symm same.symm, walks_congr run same⟩
  have open' : opened.stream = some (batches.map .ok) := rfl
  exact walks.trans (walks_iff_guarded convert rfl open')

end Batches

end Calls

def numbers : RecordBatch Unit ℕ where
  columns := [⟨"n", (), [some 7]⟩]
  numRows := 1
  lengths := by simp

def noNumbers : RecordBatch Unit ℕ where
  columns := [⟨"n", (), []⟩]
  numRows := 0
  lengths := by simp

def readNumber : Unit → Option ℕ → RecordBatches.Oid → Int32 → Except Fault (Option ℕ) :=
  fun _ value _ _ => .ok value

theorem emptyBatch_read :
    (drain (streaming [noNumbers, numbers]) readNumber 1 (fresh numbers [⟨"n", 20, -1⟩]) =
        some (.error (.panic "index out of bounds")) ∧
      rowsOf readNumber [⟨"n", 20, -1⟩] [noNumbers, numbers] = [.ok [some 7]]) ∧
    (drain (streaming [noNumbers, numbers]) readNumber 3 (fresh numbers []) =
        some (.ok [[], []]) ∧
      rowsOf readNumber [] [noNumbers, numbers] = [.ok []]) ∧
    ¬ Walks (streaming [noNumbers, numbers]) readNumber (fresh numbers [⟨"n", 20, -1⟩])
      (rowsOf readNumber [⟨"n", 20, -1⟩] [noNumbers, numbers]) := by
  refine ⟨⟨rfl, rfl⟩, ⟨rfl, rfl⟩, fun walks => ?_⟩
  have here : reads (streaming [noNumbers, numbers]) (fresh numbers [⟨"n", 20, -1⟩]) =
      some (noNumbers, 0) := rfl
  exact absurd (walks.inside .refl here) (Nat.lt_irrefl 0)

end PgAnalytics.EmptyBatches
