import PgAnalytics.QueryHook

/-! The executor hook. A `SELECT` over this extension's foreign tables is run in
DuckDB as a whole; every other query, and one that DuckDB refuses, goes to
Postgres by the previous hook with the arguments of the call. -/

namespace PgAnalytics.Executor
open Basics Commands DuckdbCatalog RecordBatches ArrowReader BatchCursor QueryHook

variable {κ : Type} [DecidableEq κ] {fold : String → κ}
variable {ArrayRef Cell : Type} [GetCell ArrayRef Cell]

structure QueryDesc where
  stmtLocation : Int32
  stmtLen : Int32
  rtable : Option (List RangeTblEntry)
  operation : CmdType
  sourceText : CStr
  tupDesc : List Column
  dest : DestReceiver

/-- `query.to_lowercase().starts_with(keyword)`; no letter outside ASCII becomes
one of these keywords' in lower case. -/
def startsWith (keyword : String) (query : List Char) : Bool :=
  keyword.toList.isPrefixOf (query.map Char.toLower)

def leftToPostgres (q : QueryDesc) (query : List Char) : Bool :=
  q.rtable.isNone || q.operation != .select || !isDuckdbQuery (getQueryRelations q.rtable) ||
    startsWith "copy" query || startsWith "create" query || startsWith "prepare" query

/-- `executor_run`; `disableExecutor` is the debugging switch. -/
def executorRun (disableExecutor : Bool) (engine : Engine) (pgSearchPath : List String)
    (answer : QueryAnswer ArrayRef) (q : QueryDesc) (args : RunArgs) :
    Command (Backend fold ArrayRef) Fault Unit :=
  if disableExecutor then
    prevHook (.executorRun args)
  else do
    let query ← ofResult (getCurrentQuery q.stmtLocation q.stmtLen q.sourceText)
    if leftToPostgres q query then
      prevHook (.executorRun args)
    else
      Backend.onDuck (setSearchPathByPg engine pgSearchPath)
      match ← runInDuckdb answer q.dest q.tupDesc query with
      | .sent => pure ()
      | .fallBack => prevHook (.executorRun args)

/-- A call that hands the query to DuckDB has set the search path. When DuckDB
does not prepare the query, it goes to Postgres. -/
theorem executorRun_cases (disableExecutor : Bool) (engine : Engine) (pgSearchPath : List String)
    (answer : QueryAnswer ArrayRef) (q : QueryDesc) (args : RunArgs) (b : Backend fold ArrayRef) :
    ∃ r b', exec (executorRun disableExecutor engine pgSearchPath answer q args) b = (r, b') ∧
      (b'.duck = b.duck ∧ b'.handed = b.handed ∨
        b'.duck = b.duck.onPath pgSearchPath ∧
          ∀ message, answer = .notPrepared message →
            r = .ok () ∧ b'.prevHooks = b.prevHooks ++ [.executorRun args]) := by
  unfold executorRun
  split
  · exact ⟨_, _, rfl, .inl ⟨rfl, rfl⟩⟩
  · rw [exec_bind, exec_ofResult]
    cases getCurrentQuery q.stmtLocation q.stmtLen q.sourceText with
    | error fault => exact ⟨_, _, rfl, .inl ⟨rfl, rfl⟩⟩
    | ok query =>
      dsimp only
      split
      · exact ⟨_, _, rfl, .inl ⟨rfl, rfl⟩⟩
      · rw [exec_bind, Backend.onDuck, exec_onPart]
        rcases setSearchPathByPg_cases engine pgSearchPath b.duck with ⟨fault, run⟩ | run
        · rw [run]
          exact ⟨_, _, rfl, .inl ⟨rfl, rfl⟩⟩
        · rw [run]
          dsimp only
          have same := runInDuckdb_sameDuck answer q.dest q.tupDesc query
            { b with duck := b.duck.onPath pgSearchPath }
          have refused := fun message (h : answer = .notPrepared message) =>
            h ▸ exec_runInDuckdb_notPrepared message q.dest q.tupDesc query
              { b with duck := b.duck.onPath pgSearchPath }
          rw [exec_bind]
          rcases ran : exec (runInDuckdb answer q.dest q.tupDesc query)
            { b with duck := b.duck.onPath pgSearchPath } with ⟨fault | _ | _, b'⟩
          · rw [ran] at same
            refine ⟨_, _, rfl, .inr ⟨same, fun message h => ?_⟩⟩
            cases ran.symm.trans (refused message h)
          · rw [ran] at same
            refine ⟨_, _, rfl, .inr ⟨same, fun message h => ?_⟩⟩
            cases ran.symm.trans (refused message h)
          · rw [ran] at same
            refine ⟨_, _, rfl, .inr ⟨same, fun message h => ?_⟩⟩
            cases ran.symm.trans (refused message h)
            exact ⟨rfl, rfl⟩

structure PushableQuery where
  desc : QueryDesc
  text : List Char
  current : getCurrentQuery desc.stmtLocation desc.stmtLen desc.sourceText = .ok text
  pushed : leftToPostgres desc text = false
  startup : desc.dest.rStartup = true
  receive : desc.dest.receiveSlot = true
  shutdown : desc.dest.rShutdown = true

theorem exec_executorRun_answered (p : PushableQuery) (result : QueryResult ArrayRef)
    (pgSearchPath : List String) (args : RunArgs) (b : Backend fold ArrayRef) :
    exec (executorRun false accepting pgSearchPath (.answered result) p.desc args) b =
      let read := BatchCursor.rows RecordBatch.numRows (readRow p.desc.tupDesc) result.batches
      match collect read with
      | .ok rows =>
        (.ok (), { b with
          duck := b.duck.onPath pgSearchPath
          handed := b.handed ++ [.statement p.text]
          globals := ⟨none, none, b.globals.nextId + 1⟩
          output := b.output.delivered rows })
      | .error fault =>
        (.error fault, { b with
          duck := b.duck.onPath pgSearchPath
          handed := b.handed ++ [.statement p.text]
          globals := ⟨some ⟨b.globals.nextId, String.ofList p.text⟩,
            some ⟨b.globals.nextId, .empty⟩, b.globals.nextId + 1⟩
          output := b.output.interrupted (readable read) }) := by
  let duck := b.duck.onPath pgSearchPath
  have path : exec (Backend.onDuck (setSearchPathByPg accepting pgSearchPath)) b =
      (.ok (), { b with duck := duck }) := by
    rw [Backend.onDuck, exec_onPart, setSearchPathByPg_accepting]
  have query : exec (ofResult (getCurrentQuery p.desc.stmtLocation p.desc.stmtLen
      p.desc.sourceText)) b = (.ok p.text, b) := by
    rw [exec_ofResult, p.current]
  have run := exec_runInDuckdb_answered p.startup p.receive p.shutdown result p.desc.tupDesc p.text
    { b with duck := duck }
  have whole : exec (executorRun false accepting pgSearchPath (.answered result) p.desc args) b =
      exec (runInDuckdb (.answered result) p.desc.dest p.desc.tupDesc p.text >>= fun
        | .sent => pure ()
        | .fallBack => prevHook (.executorRun args)) { b with duck := duck } := by
    rw [executorRun, if_neg (by simp), exec_bind_ok query, p.pushed, if_neg (by simp),
      exec_bind_ok path]
  rw [whole, exec_bind, run]
  dsimp only
  cases collect (BatchCursor.rows RecordBatch.numRows (readRow p.desc.tupDesc) result.batches) with
  | ok rows => rfl
  | error fault => rfl

theorem executorRun_answered (p : PushableQuery) (result : QueryResult ArrayRef)
    (pgSearchPath : List String) (args : RunArgs) (b : Backend fold ArrayRef) :
    ∃ duck globals handed,
      exec (executorRun false accepting pgSearchPath (.answered result) p.desc args) b =
        let read := BatchCursor.rows RecordBatch.numRows (readRow p.desc.tupDesc) result.batches
        match collect read with
        | .ok rows =>
          (.ok (), { b with
            duck := duck, globals := globals, handed := handed
            output := b.output.delivered rows })
        | .error fault =>
          (.error fault, { b with
            duck := duck, globals := globals, handed := handed
            output := b.output.interrupted (readable read) }) := by
  rw [exec_executorRun_answered]
  dsimp only
  cases collect (BatchCursor.rows RecordBatch.numRows (readRow p.desc.tupDesc) result.batches) with
  | ok rows => exact ⟨_, _, _, rfl⟩
  | error fault => exact ⟨_, _, _, rfl⟩

structure PushedQuery (ArrayRef : Type) {Cell : Type} [GetCell ArrayRef Cell]
    extends PushableQuery where
  result : QueryResult ArrayRef
  rows : List (Tuple Cell)
  read : collect (BatchCursor.rows RecordBatch.numRows (readRow desc.tupDesc) result.batches) =
    .ok rows

theorem executorRun_pushed (p : PushedQuery ArrayRef) (pgSearchPath : List String)
    (args : RunArgs) (b : Backend fold ArrayRef) :
    ∃ duck globals handed,
      exec (executorRun false accepting pgSearchPath (.answered p.result) p.desc args) b =
        (.ok (), { b with
          duck := duck, globals := globals, handed := handed
          output := b.output.delivered p.rows }) := by
  obtain ⟨duck, globals, handed, run⟩ :=
    executorRun_answered p.toPushableQuery p.result pgSearchPath args b
  refine ⟨duck, globals, handed, ?_⟩
  simp only [run, p.read]

end PgAnalytics.Executor
