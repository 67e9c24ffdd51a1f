import PgAnalytics.ArrowReader
import PgAnalytics.BatchCursor
import PgAnalytics.ByteSlices
import PgAnalytics.DuckdbCatalog

/-! What the hooks share: the text of the current statement, the rows sent to a
destination, and the state of a backend in which they run. -/

namespace PgAnalytics.QueryHook
open Basics Commands DuckdbCatalog RecordBatches ArrowReader BatchCursor ByteSlices

variable {κ : Type} {fold : String → κ}
variable {ArrayRef Cell : Type} [GetCell ArrayRef Cell]

inductive CStr where
  | utf8 (text : List Char)
  | invalid
  deriving DecidableEq, Repr

def CStr.toStr : CStr → Except Fault (List Char)
  | .utf8 text => .ok text
  | .invalid => .error (.error "invalid utf-8 sequence")

/-- `as usize`: a negative number wraps around. -/
def asUsize (i : Int32) : ℕ := (i.toInt % 2 ^ 64).toNat

/-- Rust's slice of a string, which panics on an offset that names no position. -/
def stringSlice (text : List Char) (first last : ℕ) : Except Fault (List Char) :=
  match slice text first last with
  | some part => .ok part
  | none => .error (.panic "byte index is out of bounds or not a char boundary")

def getCurrentQuery (stmtLocation stmtLen : Int32) (queryString : CStr) :
    Except Fault (List Char) := do
  let fullQuery ← queryString.toStr
  if stmtLocation ≠ -1 then
    if stmtLen = 0 then
      stringSlice fullQuery (asUsize stmtLocation) (byteLength fullQuery)
    else
      stringSlice fullQuery (asUsize stmtLocation) (asUsize (stmtLocation + stmtLen))
  else
    return fullQuery

theorem getCurrentQuery_whole (text : List Char) : getCurrentQuery 0 0 (.utf8 text) = .ok text := by
  have zero : asUsize 0 = 0 := by decide
  simp only [getCurrentQuery, CStr.toStr, bind, Except.bind]
  rw [if_pos (by decide), if_pos trivial, zero, stringSlice, slice_whole]

structure DestReceiver where
  rStartup : Bool
  receiveSlot : Bool
  rShutdown : Bool

structure Output (Cell : Type) where
  started : ℕ
  sent : List (Tuple Cell)
  shutdown : ℕ
  esProcessed : ℕ

def Output.empty : Output Cell := ⟨0, [], 0, 0⟩

def sendRow (tupDesc : List Column) (batch : RecordBatch ArrayRef) (rowIndex : ℕ) :
    Command (Output Cell) Fault Unit := do
  let row ← ofResult (readRow tupDesc batch rowIndex)
  modify fun out =>
    { out with sent := out.sent ++ [row], esProcessed := out.esProcessed + 1 }

def sendRows (tupDesc : List Column) (batch : RecordBatch ArrayRef) :
    List ℕ → Command (Output Cell) Fault Unit
  | [] => pure ()
  | rowIndex :: rowIndexes => do
    sendRow tupDesc batch rowIndex
    sendRows tupDesc batch rowIndexes

def sendBatches (tupDesc : List Column) :
    List (RecordBatch ArrayRef) → Command (Output Cell) Fault Unit
  | [] => pure ()
  | batch :: batches => do
    sendRows tupDesc batch (List.range batch.numRows)
    sendBatches tupDesc batches

def requireCallback (present : Bool) (message : String) : Command (Output Cell) Fault Unit :=
  if present then pure () else throw (.error message)

def writeBatchesToSlots (dest : DestReceiver) (tupDesc : List Column)
    (batches : List (RecordBatch ArrayRef)) : Command (Output Cell) Fault Unit := do
  modify fun out => { out with esProcessed := 0 }
  requireCallback dest.rStartup "rStartup not found"
  modify fun out => { out with started := out.started + 1 }
  requireCallback dest.receiveSlot "receiveSlot not found"
  sendBatches tupDesc batches
  requireCallback dest.rShutdown "rShutdown not found"
  modify fun out => { out with shutdown := out.shutdown + 1 }

inductive ScanDirection where
  | backward
  | noMovement
  | forward
  deriving DecidableEq, Repr

structure RunArgs where
  direction : ScanDirection
  count : UInt64
  executeOnce : Bool
  deriving DecidableEq, Repr

inductive PrevHook where
  | executorRun (args : RunArgs)
  | processUtility
  deriving DecidableEq, Repr

/-- SQL handed to DuckDB: the text of a statement, the query of an `EXPLAIN` after
some keywords, or the text of an earlier `PREPARE` that is executed again. -/
inductive Handed where
  | statement (text : List Char)
  | explain (keywords query : List Char)
  | prepareAgain (text : List Char)
  deriving DecidableEq, Repr

structure Backend {κ : Type} (fold : String → κ) (ArrayRef : Type) {Cell : Type}
    [GetCell ArrayRef Cell] where
  duck : Duckdb fold
  globals : Globals ArrayRef
  output : Output Cell
  prevHooks : List PrevHook
  warnings : List String
  handed : List Handed
  explained : List (List Char)

namespace Backend

def init [DecidableEq κ] : Backend fold ArrayRef :=
  ⟨Duckdb.init, Globals.init, Output.empty, [], [], [], []⟩

def onDuck {α : Type} (c : Command (Duckdb fold) Fault α) :
    Command (Backend fold ArrayRef) Fault α :=
  onPart Backend.duck (fun b duck => { b with duck := duck }) c

def onGlobals {α : Type} (c : Command (Globals ArrayRef) Fault α) :
    Command (Backend fold ArrayRef) Fault α :=
  onPart Backend.globals (fun b globals => { b with globals := globals }) c

def onOutput {α : Type} (c : Command (Output Cell) Fault α) :
    Command (Backend fold ArrayRef) Fault α :=
  onPart Backend.output (fun b output => { b with output := output }) c

end Backend

def Fault.message : Fault → String
  | .error message | .panic message => message

def fallbackWarning (message : String) : Command (Backend fold ArrayRef) Fault Unit :=
  modify fun b => { b with warnings := b.warnings ++
    ["This query was not fully pushed down to DuckDB because DuckDB returned an error. " ++
      "Query times may be impacted.\n" ++ message] }

def prevHook (call : PrevHook) : Command (Backend fold ArrayRef) Fault Unit :=
  modify fun b => { b with prevHooks := b.prevHooks ++ [call] }

def hand (sql : Handed) : Command (Backend fold ArrayRef) Fault Unit :=
  modify fun b => { b with handed := b.handed ++ [sql] }

inductive Pushdown where
  | sent
  | fallBack
  deriving DecidableEq, Repr

/-- The end of `executor_run` and of `execute_query`: run the text in DuckDB and
send the rows, or warn and leave the query to Postgres. A row that cannot be
read ends the call with the globals as they are. -/
def runInDuckdb (answer : QueryAnswer ArrayRef) (dest : DestReceiver) (tupDesc : List Column)
    (text : List Char) : Command (Backend fold ArrayRef) Fault Pushdown := do
  hand (.statement text)
  match ← attempt (Backend.onGlobals (createArrow (String.ofList text) answer)) with
  | .error fault =>
    Backend.onGlobals clearArrow
    fallbackWarning (Fault.message fault)
    return .fallBack
  | .ok false =>
    Backend.onGlobals clearArrow
    return .sent
  | .ok true =>
    match ← attempt (Backend.onGlobals getBatches) with
    | .ok batches =>
      Backend.onOutput (writeBatchesToSlots dest tupDesc batches)
      Backend.onGlobals clearArrow
      return .sent
    | .error fault =>
      Backend.onGlobals clearArrow
      fallbackWarning (Fault.message fault)
      return .fallBack

theorem runInDuckdb_respects {R : Backend fold ArrayRef → Backend fold ArrayRef → Prop}
    [Std.Refl R] [IsTrans (Backend fold ArrayRef) R] {text : List Char}
    (handing : ∀ b, R b { b with handed := b.handed ++ [.statement text] })
    (globals : ∀ b globals, R b { b with globals })
    (output : ∀ b output, R b { b with output })
    (warnings : ∀ b warnings, R b { b with warnings })
    (answer : QueryAnswer ArrayRef) (dest : DestReceiver) (tupDesc : List Column) :
    Respects R (runInDuckdb answer dest tupDesc text) := by
  have onGlobals : ∀ {α : Type} (c : Command (Globals ArrayRef) Fault α),
      Respects R (Backend.onGlobals c) := fun c => .onPart c globals
  have warn : ∀ fault : Fault, Respects R (do
      Backend.onGlobals clearArrow
      fallbackWarning (Fault.message fault)
      return Pushdown.fallBack) := fun fault =>
    .bind (onGlobals _) fun _ => .bind (.modify fun b => warnings b _) fun _ => .pure _
  refine .bind (.modify handing) fun _ => .bind (.attempt (onGlobals _)) fun created => ?_
  rcases created with fault | _ | _
  · exact warn fault
  · exact .bind (onGlobals _) fun _ => .pure _
  · refine .bind (.attempt (onGlobals _)) fun batches => ?_
    rcases batches with fault | batches
    · exact warn fault
    · exact .bind (.onPart _ output) fun _ => .bind (onGlobals _) fun _ => .pure _

def SameDuck (b b' : Backend fold ArrayRef) : Prop := b'.duck = b.duck

instance : Std.Refl (@SameDuck κ fold ArrayRef Cell _) := ⟨fun _ => rfl⟩

instance : IsTrans (Backend fold ArrayRef) SameDuck := ⟨fun _ _ _ ab bc => Eq.trans bc ab⟩

theorem runInDuckdb_sameDuck (answer : QueryAnswer ArrayRef) (dest : DestReceiver)
    (tupDesc : List Column) (text : List Char) :
    Respects (@SameDuck κ fold ArrayRef Cell _) (runInDuckdb answer dest tupDesc text) :=
  runInDuckdb_respects (R := SameDuck) (fun _ => rfl) (fun _ _ => rfl) (fun _ _ => rfl)
    (fun _ _ => rfl) _ _ _

theorem exec_runInDuckdb_notPrepared (message : String) (dest : DestReceiver)
    (tupDesc : List Column) (text : List Char) (b : Backend fold ArrayRef) :
    exec (runInDuckdb (.notPrepared message) dest tupDesc text) b =
      (.ok .fallBack, { b with
        handed := b.handed ++ [.statement text]
        globals := ⟨none, none, b.globals.nextId⟩
        warnings := (exec (fallbackWarning message) b).2.warnings }) := rfl

@[simp] theorem exec_requireCallback {present : Bool} (h : present = true) (message : String)
    (out : Output Cell) : exec (requireCallback present message) out = (.ok (), out) := by
  rw [requireCallback, if_pos h, exec_pure]

namespace Output

def send (out : Output Cell) (rows : List (Tuple Cell)) : Output Cell :=
  { out with sent := out.sent ++ rows, esProcessed := out.esProcessed + rows.length }

@[simp] theorem send_nil (out : Output Cell) : out.send [] = out := by
  simp [send]

theorem send_send (out : Output Cell) (first second : List (Tuple Cell)) :
    (out.send first).send second = out.send (first ++ second) := by
  simp [send, Nat.add_assoc]

end Output

def sendAll : List (Except Fault (Tuple Cell)) → Command (Output Cell) Fault Unit
  | [] => pure ()
  | r :: rows => do
    let row ← ofResult r
    modify fun out =>
      { out with sent := out.sent ++ [row], esProcessed := out.esProcessed + 1 }
    sendAll rows

theorem exec_sendAll (read : List (Except Fault (Tuple Cell))) (out : Output Cell) :
    exec (sendAll read) out = ((collect read).map fun _ => (), out.send (readable read)) := by
  induction read generalizing out with
  | nil => simp [sendAll, collect, readable, Except.map]
  | cons r read ih =>
    cases r with
    | error fault => simp [sendAll, exec_bind, collect, readable, Except.map]
    | ok row =>
      have next : out.send [row] =
          { out with sent := out.sent ++ [row], esProcessed := out.esProcessed + 1 } := rfl
      simp only [sendAll, exec_bind, exec_ofResult, exec_modify, ← next, ih, Output.send_send,
        collect, readable, List.singleton_append]
      cases collect read <;> rfl

theorem exec_sendAll_append (first second : List (Except Fault (Tuple Cell)))
    (out : Output Cell) :
    exec (sendAll (first ++ second)) out = exec (do sendAll first; sendAll second) out := by
  induction first generalizing out with
  | nil => rfl
  | cons r first ih =>
    cases r with
    | error fault => rfl
    | ok row =>
      simp only [List.cons_append, sendAll, exec_bind, exec_ofResult, exec_modify, ih]

theorem exec_sendRows (tupDesc : List Column) (batch : RecordBatch ArrayRef)
    (rowIndexes : List ℕ) (out : Output Cell) :
    exec (sendRows tupDesc batch rowIndexes) out =
      exec (sendAll (rowIndexes.map (readRow tupDesc batch))) out := by
  induction rowIndexes generalizing out with
  | nil => rfl
  | cons rowIndex rowIndexes ih =>
    simp only [sendRows, sendRow, List.map_cons, sendAll, exec_bind, exec_ofResult, exec_modify]
    cases readRow tupDesc batch rowIndex with
    | error fault => rfl
    | ok row => exact ih _

theorem exec_sendBatches (tupDesc : List Column) (batches : List (RecordBatch ArrayRef))
    (out : Output Cell) :
    exec (sendBatches tupDesc batches) out =
      exec (sendAll (BatchCursor.rows RecordBatch.numRows (readRow tupDesc) batches)) out := by
  induction batches generalizing out with
  | nil => rfl
  | cons batch batches ih =>
    have same : exec (sendRows tupDesc batch (List.range batch.numRows)) out =
        exec (sendAll (chunkRows RecordBatch.numRows (readRow tupDesc) batch)) out :=
      exec_sendRows tupDesc batch _ out
    rw [BatchCursor.rows, List.flatMap_cons, exec_sendAll_append, sendBatches, exec_bind,
      exec_bind, same]
    rcases exec (sendAll (chunkRows RecordBatch.numRows (readRow tupDesc) batch)) out with
      ⟨fault | _, out'⟩
    · rfl
    · exact ih out'

namespace Output

def delivered (out : Output Cell) (rows : List (Tuple Cell)) : Output Cell where
  started := out.started + 1
  sent := out.sent ++ rows
  shutdown := out.shutdown + 1
  esProcessed := rows.length

/-- A delivery that failed after some rows: the destination is not shut down. -/
def interrupted (out : Output Cell) (rows : List (Tuple Cell)) : Output Cell where
  started := out.started + 1
  sent := out.sent ++ rows
  shutdown := out.shutdown
  esProcessed := rows.length

end Output

theorem exec_writeBatchesToSlots {dest : DestReceiver} (startup : dest.rStartup = true)
    (receive : dest.receiveSlot = true) (shutdown : dest.rShutdown = true)
    (tupDesc : List Column) (batches : List (RecordBatch ArrayRef)) (out : Output Cell) :
    exec (writeBatchesToSlots dest tupDesc batches) out =
      let read := BatchCursor.rows RecordBatch.numRows (readRow tupDesc) batches
      match collect read with
      | .ok rows => (.ok (), out.delivered rows)
      | .error fault => (.error fault, out.interrupted (readable read)) := by
  simp only [writeBatchesToSlots, exec_bind, exec_modify, exec_requireCallback startup,
    exec_requireCallback receive, exec_requireCallback shutdown, exec_sendBatches, exec_sendAll]
  cases read : collect (BatchCursor.rows RecordBatch.numRows (readRow tupDesc) batches) with
  | ok rows => simp [Except.map, readable_of_collect read, Output.send, Output.delivered]
  | error fault => simp [Except.map, Output.send, Output.interrupted]

/-- A query that DuckDB answers is delivered, up to the first row that cannot be
read. Only after a complete delivery is the pair of globals cleared. -/
theorem exec_runInDuckdb_answered {dest : DestReceiver} (startup : dest.rStartup = true)
    (receive : dest.receiveSlot = true) (shutdown : dest.rShutdown = true)
    (result : QueryResult ArrayRef) (tupDesc : List Column) (text : List Char)
    (b : Backend fold ArrayRef) :
    exec (runInDuckdb (.answered result) dest tupDesc text) b =
      let read := BatchCursor.rows RecordBatch.numRows (readRow tupDesc) result.batches
      match collect read with
      | .ok rows =>
        (.ok .sent, { b with
          handed := b.handed ++ [.statement text]
          globals := ⟨none, none, b.globals.nextId + 1⟩
          output := b.output.delivered rows })
      | .error fault =>
        (.error fault, { b with
          handed := b.handed ++ [.statement text]
          globals := ⟨some ⟨b.globals.nextId, String.ofList text⟩,
            some ⟨b.globals.nextId, .empty⟩, b.globals.nextId + 1⟩
          output := b.output.interrupted (readable read) }) := by
  simp only [runInDuckdb, hand, exec_modify, Backend.onGlobals, Backend.onOutput, exec_bind,
    exec_attempt, exec_onPart, exec_createArrow, exec_getBatches, Globals.pending_created,
    exec_writeBatchesToSlots startup receive shutdown]
  cases collect (BatchCursor.rows RecordBatch.numRows (readRow tupDesc) result.batches) <;> rfl

end PgAnalytics.QueryHook
