import PgAnalytics.DatafusionScan
import PgAnalytics.QueryHook
import PgAnalytics.TableSources

/-! The hooks of the DataFusion wrappers. A query over their foreign tables is planned and
run by DataFusion as a whole, an `EXPLAIN` is answered with DataFusion's plan, and whatever
DataFusion does not take is left to Postgres by the previous hook. -/

namespace PgAnalytics.LakehouseHook
open Basics (Fault CmdType)
open BatchCursor Commands QueryHook Runs TableSources
open DatafusionScan (Column FieldArray RecordBatch readRowFrom)
open RecordBatches (Oid Tuple collect readable readable_of_collect)
open SchemaProvider (CatalogError TableProvider)

inductive RangeTblEntry where
  | relation (rel : PgRelation)
  | other

inductive QueryType where
  | federated
  | dataFusion
  | postgres
  deriving DecidableEq, Repr

structure QueryTables where
  rowTables : List PgRelation
  colTables : List PgRelation

def QueryTables.push (tables : QueryTables) : RangeTblEntry → QueryTables
  | .other => tables
  | .relation rel =>
    if rel.isForeignTable then
      if rel.relation.handler ≠ .other then { tables with colTables := tables.colTables ++ [rel] }
      else tables
    else { tables with rowTables := tables.rowTables ++ [rel] }

/-- `get_query_type`, of a range table that is there. -/
def getQueryType (rtable : List RangeTblEntry) : QueryType :=
  let tables := rtable.foldl QueryTables.push ⟨[], []⟩
  match tables.rowTables.isEmpty, tables.colTables.isEmpty with
  | true, true => .postgres
  | false, true => .postgres
  | true, false => .dataFusion
  | false, false => .postgres

inductive PlanKind where
  | ddl
  | dml
  | explain
  | analyze
  | other
  deriving DecidableEq, Repr

structure LogicalPlan (Plan : Type) where
  kind : PlanKind
  body : Plan

/-- What a planner does with a statement: it asks for tables and functions, each time going
on with the answer, and ends in a plan or an error. -/
inductive Planning (Plan : Type) where
  | done (result : Except Fault (LogicalPlan Plan))
  | table (reference : TableReference) (next : Except String TableSource → Planning Plan)
  | function (name : String) (next : Bool → Planning Plan)

structure Datafusion (Statement Plan DataType σ : Type) where
  parseSql : List Char → Except Fault (List Statement)
  statementToPlan : Statement → Planning Plan
  udf : String → Bool
  -- the rows of a plan, in a time zone
  collect : String → Plan → Except Fault (List (RecordBatch DataType σ))
  debug : Plan → List Char
  stringValue : FieldArray DataType σ → Except Fault (List Char)
  -- with Arrow's names of the types
  describe : SchemaProvider.SchemaError → String

variable {Store Statement Plan DataType σ Cell : Type}

structure Backend (Store Cell : Type) where
  caches : Caches Store
  executed : List String
  output : Output Cell
  explained : List (List Char)
  warnings : List String
  prevHooks : List PrevHook

inductive Failure where
  | fault (fault : Fault)
  | crash

def onCaches {ε α : Type} (c : Command (Caches Store) ε α) : Command (Backend Store Cell) ε α :=
  onPart Backend.caches (fun b caches => { b with caches }) c

def mapFailure {ς ε ε' α : Type} (f : ε → ε') (c : Command ς ε α) : Command ς ε' α :=
  ExceptT.mk fun s => ((exec c s).1.mapError f, (exec c s).2)

@[simp] theorem exec_mapFailure {ς ε ε' α : Type} (f : ε → ε') (c : Command ς ε α) (s : ς) :
    exec (mapFailure f c) s = ((exec c s).1.mapError f, (exec c s).2) := rfl

/-- An error that the caller goes on with; a panic ends the caller too. -/
def caught {ς α : Type} (c : Command ς Fault α) : Command ς Fault (Except String α) := do
  match ← attempt c with
  | .error (.panic message) => throw (.panic message)
  | .error (.error message) => return .error message
  | .ok a => return .ok a

section Planner

variable (df : Datafusion Statement Plan DataType σ)

def Datafusion.toFault (df : Datafusion Statement Plan DataType σ) : CatalogError → Fault
  | .fault fault => fault
  | .schema error => .error (df.describe error)

/-- `statement_to_plan`, with the tables and functions of `QueryContext`. -/
def planStatement (env : Environment Store) :
    Planning Plan → Command (Caches Store) Fault (LogicalPlan Plan)
  | .done result => ofResult result
  | .table reference next => do
    let source ← caught (mapFailure df.toFault (getTableSource env reference))
    planStatement env (next source)
  | .function name next => do
    -- an error of the session is a panic here
    match ← caught (mapFailure df.toFault (sessionContext env)) with
    | .error message => throw (.panic message)
    | .ok _ => planStatement env (next (df.udf name))

/-- `LogicalPlan::try_from`, of the first statement of the text. -/
def tryFrom (env : Environment Store) (query : List Char) :
    Command (Caches Store) Fault (LogicalPlan Plan) := do
  match ← ofResult (df.parseSql query) with
  | [] => throw (.panic "Out of bounds access")
  | statement :: _ => planStatement df env (df.statementToPlan statement)

/-- The plan of a text, or the error that DataFusion has with it. -/
def planned (env : Environment Store) (query : List Char) :
    Command (Backend Store Cell) Fault (Except String (LogicalPlan Plan)) :=
  caught (onCaches (tryFrom df env query))

def getDatafusionBatches (env : Environment Store) (plan : Plan) :
    Command (Backend Store Cell) Fault (List (RecordBatch DataType σ)) := do
  let context ← onCaches (mapFailure df.toFault (sessionContext env))
  modify fun b => { b with executed := b.executed ++ [context.timeZone] }
  ofResult (df.collect context.timeZone plan)

end Planner

section Sending

variable {Batch : Type} (size : Batch → ℕ) (read : Batch → ℕ → Except Fault (Tuple Cell))

def sendRows (batch : Batch) : List ℕ → Command (Output Cell) Fault Unit
  | [] => pure ()
  | rowIndex :: rowIndexes => do
    let row ← ofResult (read batch rowIndex)
    modify fun out =>
      { out with sent := out.sent ++ [row], esProcessed := out.esProcessed + 1 }
    sendRows batch rowIndexes

def sendBatches : List Batch → Command (Output Cell) Fault Unit
  | [] => pure ()
  | batch :: batches => do
    sendRows read batch (List.range (size batch))
    sendBatches batches

def writeBatchesToSlots (dest : DestReceiver) (batches : List Batch) :
    Command (Output Cell) Fault Unit := do
  modify fun out => { out with esProcessed := 0 }
  requireCallback dest.rStartup "Unexpected error: rStartup not found"
  modify fun out => { out with started := out.started + 1 }
  requireCallback dest.receiveSlot "Unexpected error: receiveSlot not found"
  sendBatches size read batches
  requireCallback dest.rShutdown "Unexpected error: rShutdown not found"
  modify fun out => { out with shutdown := out.shutdown + 1 }

end Sending

structure QueryDesc where
  stmtLocation : Int32
  stmtLen : Int32
  rtable : Option (List RangeTblEntry)
  operation : CmdType
  sourceText : CStr
  tupDesc : List Column
  dest : DestReceiver

section Hooks

variable (df : Datafusion Statement Plan DataType σ)
-- the conversion of a value to a type of Postgres
variable (convert : DataType → Option σ → Oid → Int32 → Except Fault (Option Cell))

def prevHook (call : PrevHook) : Command (Backend Store Cell) Fault Unit :=
  modify fun b => { b with prevHooks := b.prevHooks ++ [call] }

def fallbackWarning (message : String) : Command (Backend Store Cell) Fault Unit :=
  modify fun b => { b with warnings := b.warnings ++
    ["This query was not fully pushed down to DataFusion because DataFusion returned an error: " ++
      message ++ ". Query times may be impacted. Please submit a request at " ++
      "https://github.com/paradedb/paradedb/issues if you would like to see this query " ++
      "pushed down."] }

/-- The part of `executor_run` from the plan on. -/
def runPlan (env : Environment Store) (q : QueryDesc) (args : RunArgs)
    (plan : Except String (LogicalPlan Plan)) : Command (Backend Store Cell) Fault Unit := do
  match plan with
  | .error message => do
    fallbackWarning message
    prevHook (.executorRun args)
  | .ok ⟨.ddl, _⟩ | .ok ⟨.dml, _⟩ | .ok ⟨.explain, _⟩ | .ok ⟨.analyze, _⟩ =>
    prevHook (.executorRun args)
  | .ok ⟨.other, body⟩ => do
    match ← caught (getDatafusionBatches df env body) with
    | .error message => do
      fallbackWarning message
      prevHook (.executorRun args)
    | .ok batches =>
      onPart Backend.output (fun b output => { b with output })
        (writeBatchesToSlots RecordBatch.numRows
          (fun batch index => readRowFrom convert batch index q.tupDesc 0) q.dest batches)

def leftToPostgres (q : QueryDesc) (queryType : QueryType) (query : List Char) : Bool :=
  q.rtable.isNone || q.operation != .select || queryType != .dataFusion ||
    "copy".toList.isPrefixOf (query.map Char.toLower)

/-- `executor_run`. The kind of the query is read off the range table before the test. -/
def executorRun (env : Environment Store) (q : QueryDesc) (args : RunArgs) :
    Command (Backend Store Cell) Failure Unit := do
  let query ← mapFailure .fault
    (ofResult (getCurrentQuery q.stmtLocation q.stmtLen q.sourceText))
  match q.rtable with
  | none => throw .crash
  | some rtable =>
    mapFailure .fault do
      if leftToPostgres q (getQueryType rtable) query then
        prevHook (.executorRun args)
      else
        let plan ← planned df env query
        runPlan df convert env q args plan

def explainText (env : Environment Store) :
    LogicalPlan Plan → Command (Backend Store Cell) Fault (Option (List Char))
  | ⟨.explain, body⟩ => return some ("DataFusionScan: LogicalPlan \n ".toList ++ df.debug body)
  | ⟨.analyze, body⟩ => do
    match ← getDatafusionBatches df env body with
    | [] => throw (.panic "index out of bounds")
    | batch :: _ =>
      match batch.columns.find? (·.name = "plan") with
      | some array => return some (← ofResult (df.stringValue array))
      | none => return none
  | _ => return none

def explain (env : Environment Store) (stmtLocation stmtLen : Int32) (queryString : CStr) :
    Command (Backend Store Cell) Fault Bool := do
  let query ← ofResult (getCurrentQuery stmtLocation stmtLen queryString)
  match ← planned df env query with
  | .error _ => return false
  | .ok plan =>
    match ← explainText df env plan with
    | none => return false
    | some text => do
      modify fun b => { b with explained := b.explained ++ [text] }
      return true

/-- `process_utility`. Only an error of `explain` leads on to the previous hook. -/
def processUtility (env : Environment Store) (isExplain : Bool) (stmtLocation stmtLen : Int32)
    (queryString : CStr) : Command (Backend Store Cell) Fault Unit := do
  if isExplain then
    match ← caught (explain df env stmtLocation stmtLen queryString) with
    | .ok true => return
    | _ => prevHook .processUtility
  else
    prevHook .processUtility

end Hooks

inductive Call where
  | executorRun (q : QueryDesc) (args : RunArgs)
  | processUtility (isExplain : Bool) (stmtLocation stmtLen : Int32) (queryString : CStr)

def Call.prevHook : Call → PrevHook
  | .executorRun _ args => .executorRun args
  | .processUtility .. => .processUtility

section Calls

variable (df : Datafusion Statement Plan DataType σ)
variable (convert : DataType → Option σ → Oid → Int32 → Except Fault (Option Cell))

def Call.run (env : Environment Store) : Call → Command (Backend Store Cell) Failure Unit
  | .executorRun q args => LakehouseHook.executorRun df convert env q args
  | .processUtility isExplain stmtLocation stmtLen queryString =>
    mapFailure .fault
      (LakehouseHook.processUtility df env isExplain stmtLocation stmtLen queryString)

/-- Each call finds its own catalog, search path and settings; after a crash there is no
backend. -/
def backend : Machine (Option (Backend Store Cell)) (Environment Store × Call)
    (Except Failure Unit)
  | none, _ => none
  | some b, (env, call) =>
    match exec (call.run df convert env) b with
    | (.error .crash, _) => some (none, .error .crash)
    | (answer, b') => some (some b', answer)

end Calls

structure SameAnswers (b b' : Backend Store Cell) : Prop where
  output : b'.output = b.output
  explained : b'.explained = b.explained
  prevHooks : b'.prevHooks = b.prevHooks

instance : Std.Refl (@SameAnswers Store Cell) := ⟨fun _ => ⟨rfl, rfl, rfl⟩⟩

instance : IsTrans (Backend Store Cell) SameAnswers :=
  ⟨fun _ _ _ first second => ⟨second.output.trans first.output,
    second.explained.trans first.explained, second.prevHooks.trans first.prevHooks⟩⟩

/-- A call that returns is answered by Postgres, which is asked once, or by DataFusion, with
all of its rows or with a text, and never by both. A call that fails is not handed on, and
what it has sent is not completed. -/
inductive Answered (call : Call) (Whole : List (Tuple Cell) → Prop) (Text : List Char → Prop)
    (b b' : Backend Store Cell) : Except Failure Unit → Prop
  | postgres (output : b'.output = b.output) (explained : b'.explained = b.explained)
      (prevHooks : b'.prevHooks = b.prevHooks ++ [call.prevHook]) :
      Answered call Whole Text b b' (.ok ())
  | rows {rows : List (Tuple Cell)} (whole : Whole rows)
      (output : b'.output = b.output.delivered rows) (explained : b'.explained = b.explained)
      (prevHooks : b'.prevHooks = b.prevHooks) : Answered call Whole Text b b' (.ok ())
  | plan {text : List Char} (told : Text text) (output : b'.output = b.output)
      (explained : b'.explained = b.explained ++ [text]) (prevHooks : b'.prevHooks = b.prevHooks) :
      Answered call Whole Text b b' (.ok ())
  | failed (fault : Fault) (shutdown : b'.output.shutdown = b.output.shutdown)
      (explained : b'.explained = b.explained) (prevHooks : b'.prevHooks = b.prevHooks) :
      Answered call Whole Text b b' (.error (.fault fault))
  | crashed (same : SameAnswers b b') : Answered call Whole Text b b' (.error .crash)

section Answers

variable {call : Call} {Whole Whole' : List (Tuple Cell) → Prop} {Text Text' : List Char → Prop}
variable {b b₁ b' : Backend Store Cell}

theorem SameAnswers.failed (same : SameAnswers b b') (fault : Fault) :
    Answered call Whole Text b b' (.error (.fault fault)) :=
  .failed fault (by rw [same.output]) same.explained same.prevHooks

theorem Answered.after (same : SameAnswers b b₁) {r : Except Failure Unit}
    (h : Answered call Whole Text b₁ b' r) : Answered call Whole Text b b' r := by
  obtain ⟨output', explained', prevHooks'⟩ := same
  cases h with
  | postgres output explained prevHooks =>
    exact .postgres (output.trans output') (explained.trans explained')
      (by rw [prevHooks, prevHooks'])
  | rows whole output explained prevHooks =>
    exact .rows whole (by rw [output, output']) (explained.trans explained')
      (prevHooks.trans prevHooks')
  | plan told output explained prevHooks =>
    exact .plan told (output.trans output') (by rw [explained, explained'])
      (prevHooks.trans prevHooks')
  | failed fault shutdown explained prevHooks =>
    exact .failed fault (by rw [shutdown, output']) (explained.trans explained')
      (prevHooks.trans prevHooks')
  | crashed same =>
    exact .crashed ⟨same.output.trans output', same.explained.trans explained',
      same.prevHooks.trans prevHooks'⟩

theorem Answered.mono (whole : ∀ rows, Whole rows → Whole' rows)
    (text : ∀ text, Text text → Text' text) {r : Except Failure Unit}
    (h : Answered call Whole Text b b' r) : Answered call Whole' Text' b b' r := by
  cases h with
  | postgres output explained prevHooks => exact .postgres output explained prevHooks
  | rows all output explained prevHooks => exact .rows (whole _ all) output explained prevHooks
  | plan told output explained prevHooks => exact .plan (text _ told) output explained prevHooks
  | failed fault shutdown explained prevHooks => exact .failed fault shutdown explained prevHooks
  | crashed same => exact .crashed same

end Answers

theorem respects_caught {ς α : Type} {R : ς → ς → Prop} [Std.Refl R] [IsTrans ς R]
    {c : Command ς Fault α} (h : Respects R c) : Respects R (caught c) := by
  refine .bind (.attempt h) fun answer => ?_
  rcases answer with (_ | _) | _
  · exact .pure _
  · exact .throw _
  · exact .pure _

theorem respects_mapFailure {ς ε ε' α : Type} {R : ς → ς → Prop} {f : ε → ε'}
    {c : Command ς ε α} (h : Respects R c) : Respects R (mapFailure f c) := h

section Sending

variable {Batch : Type} (size : Batch → ℕ) (read : Batch → ℕ → Except Fault (Tuple Cell))

theorem exec_sendRows (batch : Batch) (rowIndexes : List ℕ) (out : Output Cell) :
    exec (sendRows read batch rowIndexes) out =
      exec (sendAll (rowIndexes.map (read batch))) out := by
  induction rowIndexes generalizing out with
  | nil => rfl
  | cons rowIndex rowIndexes ih =>
    simp only [sendRows, List.map_cons, sendAll, exec_bind, exec_ofResult, exec_modify]
    cases read batch rowIndex with
    | error fault => rfl
    | ok row => exact ih _

theorem exec_sendBatches (batches : List Batch) (out : Output Cell) :
    exec (sendBatches size read batches) out =
      exec (sendAll (BatchCursor.rows size read batches)) out := by
  induction batches generalizing out with
  | nil => rfl
  | cons batch batches ih =>
    have same : exec (sendRows read batch (List.range (size batch))) out =
        exec (sendAll (chunkRows size read batch)) out := exec_sendRows read batch _ out
    rw [BatchCursor.rows, List.flatMap_cons, exec_sendAll_append, sendBatches, exec_bind,
      exec_bind, same]
    rcases exec (sendAll (chunkRows size read batch)) out with ⟨fault | _, out'⟩
    · rfl
    · exact ih out'

theorem writeBatchesToSlots_cases (dest : DestReceiver) (batches : List Batch)
    (out : Output Cell) :
    (∃ rows, exec (writeBatchesToSlots size read dest batches) out = (.ok (), out.delivered rows) ∧
      collect (BatchCursor.rows size read batches) = .ok rows) ∨
    ∃ fault out', exec (writeBatchesToSlots size read dest batches) out = (.error fault, out') ∧
      out'.shutdown = out.shutdown := by
  unfold writeBatchesToSlots
  rw [exec_bind, exec_modify]
  dsimp only
  cases startup : dest.rStartup with
  | false => exact .inr ⟨_, _, rfl, rfl⟩
  | true =>
    rw [exec_bind, exec_requireCallback rfl]
    dsimp only
    rw [exec_bind, exec_modify]
    dsimp only
    cases receive : dest.receiveSlot with
    | false => exact .inr ⟨_, _, rfl, rfl⟩
    | true =>
      rw [exec_bind, exec_requireCallback rfl]
      dsimp only
      rw [exec_bind, exec_sendBatches, exec_sendAll]
      cases sent : collect (BatchCursor.rows size read batches) with
      | error fault => exact .inr ⟨_, _, rfl, rfl⟩
      | ok rows =>
        rw [readable_of_collect sent]
        cases shutdown : dest.rShutdown with
        | false => exact .inr ⟨_, _, rfl, rfl⟩
        | true => exact .inl ⟨rows, by simp [Except.map, requireCallback, Output.send,
            Output.delivered], rfl⟩

end Sending

section Calls

variable (df : Datafusion Statement Plan DataType σ)
variable (convert : DataType → Option σ → Oid → Int32 → Except Fault (Option Cell))

theorem planned_same (env : Environment Store) (query : List Char) :
    Respects (@SameAnswers Store Cell) (planned df env query) :=
  respects_caught (.onPart _ fun _ _ => ⟨rfl, rfl, rfl⟩)

theorem getDatafusionBatches_same (env : Environment Store) (plan : Plan) :
    Respects (@SameAnswers Store Cell) (getDatafusionBatches df env plan) :=
  .bind (.onPart _ fun _ _ => ⟨rfl, rfl, rfl⟩) fun _ =>
    .bind (.modify fun _ => ⟨rfl, rfl, rfl⟩) fun _ => .ofResult _

/-- The rows are all those of the plan, run in the time zone of the backend's session. -/
def PlanRows (tupDesc : List Column) (plan : LogicalPlan Plan) (b' : Backend Store Cell)
    (rows : List (Tuple Cell)) : Prop :=
  plan.kind = .other ∧ ∃ context batches, b'.caches.sessionCache = some context ∧
    df.collect context.timeZone plan.body = .ok batches ∧
    collect (BatchCursor.rows RecordBatch.numRows
      (fun batch index => readRowFrom convert batch index tupDesc 0) batches) = .ok rows

/-- The text shows the plan that is explained, or is what DataFusion reports of its run. -/
def PlanText (plan : LogicalPlan Plan) (b' : Backend Store Cell) (text : List Char) : Prop :=
  match plan.kind with
  | .explain => text = "DataFusionScan: LogicalPlan \n ".toList ++ df.debug plan.body
  | .analyze => ∃ context batch batches array, b'.caches.sessionCache = some context ∧
      df.collect context.timeZone plan.body = .ok (batch :: batches) ∧
      batch.columns.find? (·.name = "plan") = some array ∧ df.stringValue array = .ok text
  | .ddl | .dml | .other => False

def Call.currentQuery : Call → Except Fault (List Char)
  | .executorRun q _ => getCurrentQuery q.stmtLocation q.stmtLen q.sourceText
  | .processUtility _ stmtLocation stmtLen queryString =>
    getCurrentQuery stmtLocation stmtLen queryString

/-- DataFusion makes this plan of the call's own text. -/
def Planned (env : Environment Store) (call : Call) (b : Backend Store Cell)
    (plan : LogicalPlan Plan) : Prop :=
  ∃ query, call.currentQuery = .ok query ∧ (exec (planned df env query) b).1 = .ok (.ok plan)

def Call.Whole (env : Environment Store) (b b' : Backend Store Cell) :
    Call → List (Tuple Cell) → Prop
  | .executorRun q args, rows => ∃ plan, Planned df env (.executorRun q args) b plan ∧
      PlanRows df convert q.tupDesc plan b' rows
  | .processUtility .., _ => False

def Call.Text (env : Environment Store) (b b' : Backend Store Cell) : Call → List Char → Prop
  | .executorRun .., _ => False
  | .processUtility isExplain stmtLocation stmtLen queryString, text => isExplain ∧ ∃ plan,
      Planned df env (.processUtility isExplain stmtLocation stmtLen queryString) b plan ∧
        PlanText df plan b' text

theorem exec_caught_ok {ς α : Type} {c : Command ς Fault α} {s s' : ς} {a : α}
    (h : exec (caught c) s = (.ok (.ok a), s')) : exec c s = (.ok a, s') := by
  rw [caught, exec_bind, exec_attempt] at h
  rcases ran : exec c s with ⟨(_ | _) | _, _⟩ <;> rw [ran] at h <;> cases h
  rfl

theorem getDatafusionBatches_ok {env : Environment Store} {body : Plan}
    {b b' : Backend Store Cell} {batches : List (RecordBatch DataType σ)}
    (h : exec (getDatafusionBatches df env body) b = (.ok batches, b')) :
    ∃ context, b'.caches.sessionCache = some context ∧
      df.collect context.timeZone body = .ok batches := by
  obtain ⟨context, m, opened, rest⟩ := exec_bind_eq_ok h
  obtain ⟨_, m', marked, run⟩ := exec_bind_eq_ok rest
  cases marked
  obtain ⟨collected, same⟩ := Prod.mk.inj run
  refine ⟨context, ?_, collected⟩
  rw [onCaches, exec_onPart, exec_mapFailure] at opened
  rcases exec_sessionContext_cases env b.caches with ⟨error, ran⟩ | ⟨context', ran, -⟩
  · rw [ran] at opened
    cases opened
  · rw [ran] at opened
    cases opened
    rw [← same]

theorem runPlan_answered (env : Environment Store) (q : QueryDesc) (args : RunArgs)
    (plan : Except String (LogicalPlan Plan)) (b : Backend Store Cell) :
    Answered (.executorRun q args)
      (fun rows => ∃ planned, plan = .ok planned ∧ PlanRows df convert q.tupDesc planned
        (exec (runPlan df convert env q args plan) b).2 rows) (fun _ => False) b
      (exec (runPlan df convert env q args plan) b).2
      ((exec (runPlan df convert env q args plan) b).1.mapError .fault) := by
  rcases plan with message | ⟨kind, body⟩
  · exact .postgres rfl rfl rfl
  · cases kind with
    | ddl | dml | explain | analyze => exact .postgres rfl rfl rfl
    | other =>
      have same := respects_caught (getDatafusionBatches_same df env body) b
      rw [runPlan, exec_bind]
      rcases ran : exec (caught (getDatafusionBatches df env body)) b with
        ⟨fault | message | batches, b₁⟩
      all_goals rw [ran] at same
      · exact same.failed fault
      · exact .after same (.postgres rfl rfl rfl)
      · refine .after same ?_
        simp only [exec_onPart]
        rcases writeBatchesToSlots_cases RecordBatch.numRows
            (fun batch index => readRowFrom convert batch index q.tupDesc 0) q.dest batches
            b₁.output with
          ⟨rows, run, sent⟩ | ⟨fault, out, run, shutdown⟩
        · rw [run]
          obtain ⟨context, cached, collected⟩ := getDatafusionBatches_ok df (exec_caught_ok ran)
          exact .rows ⟨_, rfl, rfl, context, batches, cached, collected, sent⟩ rfl rfl rfl
        · rw [run]
          exact .failed fault shutdown rfl rfl

theorem executorRun_answered (env : Environment Store) (q : QueryDesc) (args : RunArgs)
    (b : Backend Store Cell) :
    Answered (.executorRun q args)
      (Call.Whole df convert env b (exec (executorRun df convert env q args) b).2
        (.executorRun q args)) (fun _ => False) b
      (exec (executorRun df convert env q args) b).2
      (exec (executorRun df convert env q args) b).1 := by
  unfold executorRun
  rw [exec_bind, exec_mapFailure, exec_ofResult]
  cases current : getCurrentQuery q.stmtLocation q.stmtLen q.sourceText with
  | error fault => exact SameAnswers.failed (Std.Refl.refl _) fault
  | ok query =>
    dsimp only [Except.mapError]
    cases q.rtable with
    | none => exact .crashed (Std.Refl.refl _)
    | some rtable =>
      dsimp only
      rw [exec_mapFailure]
      cases leftToPostgres q (getQueryType rtable) query with
      | true => exact .postgres rfl rfl rfl
      | false =>
        have same : SameAnswers b (exec (planned df env query) b).2 := planned_same df env query b
        simp only [Bool.false_eq_true, if_false, exec_bind]
        rcases ran : exec (planned df env query) b with ⟨fault | plan, b₁⟩
        all_goals rw [ran] at same
        · exact same.failed fault
        · refine .mono ?_ (fun _ told => told)
            (.after same (runPlan_answered df convert env q args plan b₁))
          rintro rows ⟨planned', rfl, whole⟩
          exact ⟨planned', ⟨query, current, congrArg Prod.fst ran⟩, whole⟩

theorem explainText_same (env : Environment Store) (plan : LogicalPlan Plan) :
    Respects (@SameAnswers Store Cell) (explainText df env plan) := by
  obtain ⟨kind, body⟩ := plan
  cases kind with
  | ddl | dml | other | explain => exact .pure _
  | analyze =>
    refine .bind (getDatafusionBatches_same df env body) fun batches => ?_
    cases batches with
    | nil => exact .throw _
    | cons batch batches =>
      dsimp only
      cases batch.columns.find? (·.name = "plan") with
      | none => exact .pure _
      | some array => exact .bind (.ofResult _) fun _ => .pure _

theorem explainText_text {env : Environment Store} {plan : LogicalPlan Plan}
    {b b' : Backend Store Cell} {text : List Char}
    (h : exec (explainText df env plan) b = (.ok (some text), b')) : PlanText df plan b' text := by
  obtain ⟨kind, body⟩ := plan
  cases kind with
  | ddl | dml | other => cases h
  | explain =>
    cases h
    rfl
  | analyze =>
    obtain ⟨batches, m, ran, rest⟩ := exec_bind_eq_ok h
    obtain ⟨context, cached, collected⟩ := getDatafusionBatches_ok df ran
    cases batches with
    | nil => cases rest
    | cons batch batches =>
      dsimp only at rest
      cases found : batch.columns.find? (·.name = "plan") with
      | none =>
        rw [found] at rest
        cases rest
      | some array =>
        rw [found] at rest
        obtain ⟨text', m', value, same⟩ := exec_bind_eq_ok rest
        cases same
        rw [exec_ofResult] at value
        obtain ⟨converted, kept⟩ := Prod.mk.inj value
        subst kept
        exact ⟨context, batch, batches, array, cached, collected, found, converted⟩

theorem explain_cases (env : Environment Store) (stmtLocation stmtLen : Int32)
    (queryString : CStr) (b : Backend Store Cell) :
    (∃ b₁ text query plan, exec (explain df env stmtLocation stmtLen queryString) b =
      (.ok true, { b₁ with explained := b₁.explained ++ [text] }) ∧ SameAnswers b b₁ ∧
      getCurrentQuery stmtLocation stmtLen queryString = .ok query ∧
      (exec (planned df env query) b).1 = .ok (.ok plan) ∧ PlanText df plan b₁ text) ∨
    ∃ r b', exec (explain df env stmtLocation stmtLen queryString) b = (r, b') ∧ r ≠ .ok true ∧
      SameAnswers b b' := by
  unfold explain
  rw [exec_bind, exec_ofResult]
  cases getCurrentQuery stmtLocation stmtLen queryString with
  | error fault => exact .inr ⟨_, _, rfl, by simp, Std.Refl.refl _⟩
  | ok query =>
    dsimp only
    have same : SameAnswers b (exec (planned df env query) b).2 := planned_same df env query b
    rw [exec_bind]
    rcases ran : exec (planned df env query) b with ⟨fault | message | plan, b₁⟩
    all_goals rw [ran] at same
    · exact .inr ⟨_, _, rfl, by simp, same⟩
    · exact .inr ⟨_, _, rfl, by simp, same⟩
    · dsimp only
      have later : SameAnswers b₁ (exec (explainText df env plan) b₁).2 :=
        explainText_same df env plan b₁
      rw [exec_bind]
      rcases explained : exec (explainText df env plan) b₁ with ⟨fault | _ | text, b₂⟩
      all_goals rw [explained] at later
      · exact .inr ⟨_, _, rfl, by simp, IsTrans.trans _ _ _ same later⟩
      · exact .inr ⟨_, _, rfl, by simp, IsTrans.trans _ _ _ same later⟩
      · exact .inl ⟨b₂, text, query, plan, rfl, IsTrans.trans _ _ _ same later, rfl,
          congrArg Prod.fst ran, explainText_text df explained⟩

theorem processUtility_answered (env : Environment Store) (isExplain : Bool)
    (stmtLocation stmtLen : Int32) (queryString : CStr) (b : Backend Store Cell) :
    Answered (.processUtility isExplain stmtLocation stmtLen queryString) (fun _ => False)
      (Call.Text df env b
        (exec (processUtility df env isExplain stmtLocation stmtLen queryString) b).2
        (.processUtility isExplain stmtLocation stmtLen queryString)) b
      (exec (processUtility df env isExplain stmtLocation stmtLen queryString) b).2
      ((exec (processUtility df env isExplain stmtLocation stmtLen queryString) b).1.mapError
        .fault) := by
  unfold processUtility
  cases isExplain with
  | false => exact .postgres rfl rfl rfl
  | true =>
    rw [if_pos rfl, caught, exec_bind, exec_bind, exec_attempt]
    rcases explain_cases df env stmtLocation stmtLen queryString b with
      ⟨b₁, text, query, plan, run, same, current, made, told⟩ | ⟨r, b₁, run, other, same⟩
    · rw [run]
      exact .after same (.plan ⟨rfl, plan, ⟨query, current, made⟩, told⟩ rfl rfl rfl)
    · rw [run]
      rcases r with (message | message) | answer
      · exact .after same (.postgres rfl rfl rfl)
      · exact same.failed _
      · cases answer with
        | true => exact absurd rfl other
        | false => exact .after same (.postgres rfl rfl rfl)

theorem call_answered (env : Environment Store) (call : Call) (b : Backend Store Cell) :
    Answered call (call.Whole df convert env b (exec (call.run df convert env) b).2)
      (call.Text df env b (exec (call.run df convert env) b).2) b
      (exec (call.run df convert env) b).2 (exec (call.run df convert env) b).1 := by
  cases call with
  | executorRun q args => exact executorRun_answered df convert env q args b
  | processUtility isExplain stmtLocation stmtLen queryString =>
    exact processUtility_answered df env isExplain stmtLocation stmtLen queryString b

/-- A call crashes the backend exactly when it runs a query whose text is found and whose
range table is a null pointer. -/
theorem crash_iff (env : Environment Store) (call : Call) (b : Backend Store Cell) :
    (exec (call.run df convert env) b).1 = .error .crash ↔
      ∃ q args query, call = .executorRun q args ∧ q.rtable = none ∧
        getCurrentQuery q.stmtLocation q.stmtLen q.sourceText = .ok query := by
  have lifted : ∀ {α : Type} (c : Command (Backend Store Cell) Fault α),
      (exec (mapFailure Failure.fault c) b).1 ≠ .error .crash := by
    intro α c
    rw [exec_mapFailure]
    cases (exec c b).1 <;> simp [Except.mapError]
  cases call with
  | processUtility isExplain stmtLocation stmtLen queryString =>
    exact iff_of_false (lifted _) (by rintro ⟨_, _, _, ⟨⟩, -⟩)
  | executorRun q args =>
    have split : (exec (executorRun df convert env q args) b).1 = .error .crash ↔
        q.rtable = none ∧ ∃ query,
          getCurrentQuery q.stmtLocation q.stmtLen q.sourceText = .ok query := by
      unfold executorRun
      rw [exec_bind, exec_mapFailure, exec_ofResult]
      cases getCurrentQuery q.stmtLocation q.stmtLen q.sourceText with
      | error fault => simp [Except.mapError]
      | ok query =>
        dsimp only [Except.mapError]
        cases q.rtable with
        | none => simp
        | some rtable => simpa using lifted _
    rw [Call.run, split]
    constructor
    · rintro ⟨none, query, found⟩
      exact ⟨q, args, query, rfl, none, found⟩
    · rintro ⟨_, _, query, ⟨⟩, none, found⟩
      exact ⟨none, query, found⟩

theorem backend_step {s s' : Option (Backend Store Cell)} {input : Environment Store × Call}
    {answer : Except Failure Unit} (step : backend df convert s input = some (s', answer)) :
    ∃ b, s = some b ∧ answer = (exec (input.2.run df convert input.1) b).1 ∧
      ∀ b', s' = some b' → b' = (exec (input.2.run df convert input.1) b).2 := by
  obtain ⟨env, call⟩ := input
  cases s with
  | none => cases step
  | some b =>
    refine ⟨b, rfl, ?_⟩
    rcases ran : exec (call.run df convert env) b with ⟨(_ | _) | _, _⟩
    all_goals
      simp only [backend, ran] at step
      cases step
      simp

/-- In every run, each call that returns is answered by Postgres or by DataFusion and by one
of them only, with what DataFusion makes of the plan of the call's own text; a call that
fails is not handed on, and only a query without a range table crashes the backend. -/
theorem calls_answered_once (s : Option (Backend Store Cell))
    (inputs : List (Environment Store × Call)) :
    Always (backend df convert) (fun s input answer => ∃ b, s = some b ∧
      Answered input.2
        (input.2.Whole df convert input.1 b (exec (input.2.run df convert input.1) b).2)
        (input.2.Text df input.1 b (exec (input.2.run df convert input.1) b).2) b
        (exec (input.2.run df convert input.1) b).2 answer ∧
      (answer = .error .crash ↔ ∃ q args query, input.2 = .executorRun q args ∧ q.rtable = none ∧
        getCurrentQuery q.stmtLocation q.stmtLen q.sourceText = .ok query)) s inputs := by
  refine always_of_inductive (fun _ => True) (fun s input s' answer _ step => ⟨trivial, ?_⟩)
    trivial inputs
  obtain ⟨b, rfl, rfl, -⟩ := backend_step df convert step
  exact ⟨b, rfl, call_answered df convert input.1 input.2 b, crash_iff df convert input.1 input.2 b⟩

end Calls

structure Zoned (b b' : Backend Store Cell) : Prop where
  grow : Grow b.caches b'.caches
  zones : ∃ zones, b'.executed = b.executed ++ zones ∧ ∀ zone ∈ zones,
    ∃ context, b'.caches.sessionCache = some context ∧ context.timeZone = zone

theorem zoned_of_grow {b b' : Backend Store Cell} (grow : Grow b.caches b'.caches)
    (executed : b'.executed = b.executed) : Zoned b b' :=
  ⟨grow, [], by rw [executed, List.append_nil], by simp⟩

theorem zoned_of_eq {b b' : Backend Store Cell} (caches : b'.caches = b.caches)
    (executed : b'.executed = b.executed) : Zoned b b' :=
  zoned_of_grow (by rw [caches]; exact Std.Refl.refl _) executed

instance : Std.Refl (@Zoned Store Cell) := ⟨fun _ => zoned_of_eq rfl rfl⟩

instance : IsTrans (Backend Store Cell) Zoned := by
  refine ⟨fun b m b' first second => ?_⟩
  obtain ⟨grow, zones, executed, inZone⟩ := first
  obtain ⟨grow', zones', executed', inZone'⟩ := second
  refine ⟨grow.trans grow', zones ++ zones', by rw [executed', executed, List.append_assoc], ?_⟩
  intro zone mem
  rcases List.mem_append.mp mem with mem | mem
  · obtain ⟨context, found, same⟩ := inZone zone mem
    obtain ⟨context', found', grows⟩ := grow' context found
    exact ⟨context', found', grows.timeZone.trans same⟩
  · exact inZone' zone mem

section Zones

variable (df : Datafusion Statement Plan DataType σ)
variable (convert : DataType → Option σ → Oid → Int32 → Except Fault (Option Cell))

theorem planStatement_grows (env : Environment Store) (planning : Planning Plan) :
    Respects Grow (planStatement df env planning) := by
  induction planning with
  | done result => exact .ofResult _
  | table reference next ih =>
    exact .bind (respects_caught (getTableSource_grows env reference)) fun source => ih source
  | function name next ih =>
    refine .bind (respects_caught (sessionContext_grows env)) fun context => ?_
    cases context with
    | error message => exact .throw _
    | ok context => exact ih _

theorem tryFrom_grows (env : Environment Store) (query : List Char) :
    Respects Grow (tryFrom df env query) := by
  refine .bind (.ofResult _) fun ast => ?_
  cases ast with
  | nil => exact .throw _
  | cons statement rest => exact planStatement_grows df env _

theorem planned_zoned (env : Environment Store) (query : List Char) :
    Respects (@Zoned Store Cell) (planned df env query) :=
  respects_caught fun b => zoned_of_grow (tryFrom_grows df env query b.caches) rfl

theorem getDatafusionBatches_zoned (env : Environment Store) (body : Plan) :
    Respects (@Zoned Store Cell) (getDatafusionBatches df env body) := by
  intro b
  unfold getDatafusionBatches
  have grow := sessionContext_grows env b.caches
  rw [exec_bind, onCaches, exec_onPart, exec_mapFailure]
  rcases exec_sessionContext_cases env b.caches with ⟨error, run⟩ | ⟨context, run, -⟩
  · rw [run]
    exact zoned_of_eq rfl rfl
  · rw [run] at grow ⊢
    exact ⟨grow, [context.timeZone], rfl, fun zone mem =>
      ⟨context, rfl, (List.mem_singleton.mp mem).symm⟩⟩

theorem prevHook_zoned (call : PrevHook) :
    Respects (@Zoned Store Cell) (prevHook call) :=
  .modify fun _ => zoned_of_eq rfl rfl

theorem fallback_zoned (message : String) (call : PrevHook) :
    Respects (@Zoned Store Cell) (do
      fallbackWarning message
      prevHook call) :=
  .bind (.modify fun _ => zoned_of_eq rfl rfl) fun _ => prevHook_zoned call

theorem runPlan_zoned (env : Environment Store) (q : QueryDesc) (args : RunArgs)
    (plan : Except String (LogicalPlan Plan)) :
    Respects (@Zoned Store Cell) (runPlan df convert env q args plan) := by
  rcases plan with message | ⟨kind, body⟩
  · exact fallback_zoned _ _
  · cases kind with
    | ddl | dml | explain | analyze => exact prevHook_zoned _
    | other =>
      refine .bind (respects_caught (getDatafusionBatches_zoned df env body)) fun batches => ?_
      cases batches with
      | error message => exact fallback_zoned _ _
      | ok batches => exact .onPart _ fun _ _ => zoned_of_eq rfl rfl

theorem explainText_zoned (env : Environment Store) (plan : LogicalPlan Plan) :
    Respects (@Zoned Store Cell) (explainText df env plan) := by
  obtain ⟨kind, body⟩ := plan
  cases kind with
  | ddl | dml | other | explain => exact .pure _
  | analyze =>
    refine .bind (getDatafusionBatches_zoned df env body) fun batches => ?_
    cases batches with
    | nil => exact .throw _
    | cons batch batches =>
      dsimp only
      cases batch.columns.find? (·.name = "plan") with
      | none => exact .pure _
      | some array => exact .bind (.ofResult _) fun _ => .pure _

theorem explain_zoned (env : Environment Store) (stmtLocation stmtLen : Int32)
    (queryString : CStr) :
    Respects (@Zoned Store Cell)
      (explain df env stmtLocation stmtLen queryString) := by
  refine .bind (.ofResult _) fun query => .bind (planned_zoned df env query) fun plan => ?_
  cases plan with
  | error message => exact .pure _
  | ok plan =>
    refine .bind (explainText_zoned df env plan) fun text => ?_
    cases text with
    | none => exact .pure _
    | some text => exact .bind (.modify fun _ => zoned_of_eq rfl rfl) fun _ => .pure _

theorem call_zoned (env : Environment Store) (call : Call) :
    Respects (@Zoned Store Cell) (call.run df convert env) := by
  cases call with
  | executorRun q args =>
    refine .bind (respects_mapFailure (.ofResult _)) fun query => ?_
    cases q.rtable with
    | none => exact .throw _
    | some rtable =>
      exact respects_mapFailure <| .ite (prevHook_zoned _)
        (.bind (planned_zoned df env query) fun plan => runPlan_zoned df convert env q args plan)
  | processUtility isExplain stmtLocation stmtLen queryString =>
    refine respects_mapFailure <| .ite (.bind (respects_caught (explain_zoned df env _ _ _))
      fun answer => ?_) (prevHook_zoned _)
    rcases answer with message | _ | _
    · exact prevHook_zoned _
    · exact prevHook_zoned _
    · exact .pure _

/-- Once there is a session, every later plan of the backend is run in the time zone that
Postgres had when the session began, whatever its setting is by then. -/
theorem plans_run_in_first_zone {b : Backend Store Cell} {context : SessionContext}
    (begun : b.caches.sessionCache = some context)
    (inputs : List (Environment Store × Call)) :
    Always (backend df convert) (fun s input _ => ∃ b zones, s = some b ∧
      (exec (input.2.run df convert input.1) b).2.executed = b.executed ++ zones ∧
      ∀ zone ∈ zones, zone = context.timeZone) (some b) inputs := by
  let session (s : Option (Backend Store Cell)) : Prop := ∀ b, s = some b →
    ∃ context', b.caches.sessionCache = some context' ∧ context'.timeZone = context.timeZone
  have start : session (some b) := fun b' same => by
    cases same
    exact ⟨context, begun, rfl⟩
  refine always_of_inductive session (fun s input s' answer inSession step => ?_) start inputs
  obtain ⟨b, rfl, rfl, after⟩ := backend_step df convert step
  obtain ⟨now, found, zone⟩ := inSession b rfl
  obtain ⟨grow, zones, executed, inZone⟩ := call_zoned df convert input.1 input.2 b
  obtain ⟨later, found', grows⟩ := grow now found
  refine ⟨fun b' next => ?_, b, zones, rfl, executed, fun zone' mem => ?_⟩
  · exact ⟨later, after b' next ▸ found', grows.timeZone.trans zone⟩
  · obtain ⟨last, found'', same⟩ := inZone zone' mem
    cases found'.symm.trans found''
    rw [← same, grows.timeZone, zone]

end Zones

def noRows : Datafusion Unit Unit Unit Unit where
  parseSql _ := .ok [()]
  statementToPlan _ := .done (.ok ⟨.other, ()⟩)
  udf _ := false
  collect _ _ := .ok []
  debug _ := []
  stringValue _ := .error (.panic "index out of bounds")
  describe _ := ""

def utcSession : SessionContext := ⟨"postgres", "UTC", NameTables.NameTable.empty⟩

def inUtc : Backend Unit Unit := ⟨⟨some utcSession, .new ()⟩, [], .empty, [], [], []⟩

def countTrips : QueryDesc where
  stmtLocation := 0
  stmtLen := 0
  rtable := some [.relation ⟨true, SchemaProvider.trips "file:///a" ""⟩]
  operation := .select
  sourceText := .utf8 "SELECT count(*) FROM trips".toList
  tupDesc := []
  dest := ⟨true, true, true⟩

def toUnit (_ : Unit) (_ : Option Unit) (_ : Oid) (_ : Int32) : Except Fault (Option Unit) :=
  .ok (some ())

theorem plans_run_in_first_zone_utc :
    Always (backend noRows toUnit) (fun s input _ => ∃ b zones, s = some b ∧
      (exec (input.2.run noRows toUnit input.1) b).2.executed = b.executed ++ zones ∧
      ∀ zone ∈ zones, zone = utcSession.timeZone) (some inUtc)
      [({ oneTable with sessionTimezone := "Asia/Tokyo" },
        .executorRun countTrips ⟨.forward, 0, true⟩)] := by
  have begun : inUtc.caches.sessionCache = some utcSession := rfl
  exact plans_run_in_first_zone noRows toUnit begun _

def RangeTblEntry.rowTable : RangeTblEntry → Option PgRelation
  | .relation rel => if rel.isForeignTable then none else some rel
  | .other => none

theorem rowTables_eq (rtable : List RangeTblEntry) (tables : QueryTables) :
    (rtable.foldl QueryTables.push tables).rowTables =
      tables.rowTables ++ rtable.filterMap RangeTblEntry.rowTable := by
  induction rtable generalizing tables with
  | nil => simp
  | cons entry rtable ih =>
    rw [List.foldl_cons, ih]
    cases entry with
    | other => rfl
    | relation rel =>
      cases foreign : rel.isForeignTable with
      | false => simp [QueryTables.push, RangeTblEntry.rowTable, foreign]
      | true =>
        simp only [QueryTables.push, RangeTblEntry.rowTable, foreign, if_true, List.filterMap_cons]
        split <;> rfl

theorem foreign_of_dataFusion {rtable : List RangeTblEntry}
    (accepted : getQueryType rtable = .dataFusion) {rel : PgRelation}
    (listed : .relation rel ∈ rtable) : rel.isForeignTable = true := by
  have noRows : rtable.filterMap RangeTblEntry.rowTable = [] := by
    have split := rowTables_eq rtable ⟨[], []⟩
    unfold getQueryType at accepted
    cases rows : rtable.filterMap RangeTblEntry.rowTable with
    | nil => rfl
    | cons row rows' =>
      rw [rows] at split
      simp only [split, List.nil_append, List.isEmpty_cons] at accepted
      split at accepted <;> simp_all
  cases foreign : rel.isForeignTable with
  | true => rfl
  | false =>
    have row : rel ∈ rtable.filterMap RangeTblEntry.rowTable :=
      List.mem_filterMap.mpr ⟨.relation rel, listed, by simp [RangeTblEntry.rowTable, foreign]⟩
    rw [noRows] at row
    cases row

/-- In a query that DataFusion takes, a name without a schema and without quotation marks, that
Postgres finds in the range table and that is answered with a provider, is given the provider of
the table that Postgres reads exactly when that is not a foreign table of another wrapper. -/
theorem accepted_name_agrees_iff {rtable : List RangeTblEntry}
    (accepted : getQueryType rtable = .dataFusion) {env : Environment Store}
    {reference : TableReference} (plain : PlainNames env reference)
    (unqualified : reference.schema = none) {schemaName : String} {own : PgRelation}
    (read : postgresRelation env reference = some (schemaName, own))
    (listed : .relation own ∈ rtable) {caches caches' : Caches Store} {provider : TableProvider}
    (answered : exec (getTableSource env reference) caches = (.ok (.provider provider), caches')) :
    ∃ found, env.catalog.relation found.1 reference.table = some found.2 ∧
      caches'.provider (found.1, found.2.relation.oid) = some provider ∧
      (found = (schemaName, own) ↔ own.relation.handler ≠ .other) := by
  obtain ⟨schema, found, source, held, kept⟩ := answered_source plain answered
  refine ⟨(schema, found), held, kept, ?_⟩
  have agrees := sourceRelation_eq_iff plain source
  have foreign := foreign_of_dataFusion accepted listed
  rw [read, Option.some.injEq, eq_comm, unqualified] at agrees
  rw [agrees]
  constructor
  · rintro (none | ⟨_, _, read', ours⟩)
    · cases none
    · cases read.symm.trans read'
      simpa [PgRelation.ours, foreign] using ours
  · intro handler
    exact .inr ⟨schemaName, own, read, by simpa [PgRelation.ours, foreign] using handler⟩

theorem accepted_name_agrees_iff_oneTable :
    ∃ (provider : TableProvider) (caches' : Caches Unit) (found : String × PgRelation),
      oneTable.catalog.relation found.1 unqualifiedTrips.table = some found.2 ∧
      caches'.provider (found.1, found.2.relation.oid) = some provider ∧
      (found = ("public", ⟨true, SchemaProvider.trips "file:///a" ""⟩) ↔
        (SchemaProvider.trips "file:///a" "").handler ≠ .other) := by
  obtain ⟨provider, caches', answered⟩ := exec_getTableSource_oneTable
  have accepted :
      getQueryType [.relation ⟨true, SchemaProvider.trips "file:///a" ""⟩] = .dataFusion := rfl
  exact ⟨provider, caches', accepted_name_agrees_iff accepted plainNames_oneTable rfl rfl
    List.mem_cons_self answered⟩

end PgAnalytics.LakehouseHook
