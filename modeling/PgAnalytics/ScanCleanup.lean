import PgAnalytics.Executor
import PgAnalytics.UtilityHook

/-! The pair of globals after a hook that created a reader. A callback that raises an
error of Postgres unwinds the hook; the calls here that do not return are panics. The
previous hook is called last: the scans that Postgres then begins are its own. -/

namespace PgAnalytics.ScanCleanup
open Basics Commands RecordBatches ArrowReader BatchCursor QueryHook Executor UtilityHook
open DuckdbCatalog hiding setSearchPathByPg

variable {κ : Type} [DecidableEq κ] {fold : String → κ}
variable {ArrayRef Cell : Type} [GetCell ArrayRef Cell]

inductive Call (fold : String → κ) (ArrayRef : Type) {Cell : Type} [GetCell ArrayRef Cell] where
  | executorRun (disableExecutor : Bool) (engine : Engine) (pgSearchPath : List String)
    (answer : QueryAnswer ArrayRef) (desc : QueryDesc) (args : RunArgs)
  | executeQuery (env : Environment fold ArrayRef) (planSource : Except Fault (Option PlanSource))
    (dest : DestReceiver) (queryString : CStr)

def Call.run : Call fold ArrayRef → Command (Backend fold ArrayRef) Fault Unit
  | .executorRun disableExecutor engine pgSearchPath answer desc args =>
    Executor.executorRun disableExecutor engine pgSearchPath answer desc args
  | .executeQuery env planSource dest queryString => do
    let _ ← UtilityHook.executeQuery env planSource dest queryString

/-- The text that is handed to DuckDB last is that of `create_arrow`. -/
def Call.CreatesArrow (call : Call fold ArrayRef) (b : Backend fold ArrayRef) : Prop :=
  ∃ before text, (exec call.run b).2.handed = before ++ [.statement text] ∧ b.handed <+: before

/-- It answers `Ok` or `Err`. -/
def Returns {α : Type} (r : Except Fault α) : Prop := ∀ message, r ≠ .error (.panic message)

def Errs {α : Type} (r : Except Fault α) : Prop := ∃ message, r = .error (.error message)

structure Cleared (g : Globals ArrayRef) : Prop where
  statement : g.statement = none
  arrow : g.arrow = none

structure NoRows (g : Globals ArrayRef) : Prop where
  next : ∀ batch, (exec getNextBatch g).1 ≠ .ok (some batch)
  all : ∀ batches, (exec getBatches g).1 ≠ .ok batches

def Call.Clean (call : Call fold ArrayRef) (b : Backend fold ArrayRef) : Prop :=
  Returns (exec call.run b).1 →
    Cleared (exec call.run b).2.globals ∧ NoRows (exec call.run b).2.globals

structure Delivers (dest : DestReceiver) (tupDesc : List Column)
    (batches : List (RecordBatch ArrayRef)) : Prop where
  startup : dest.rStartup
  receive : dest.receiveSlot
  read : ¬ Errs (collect (BatchCursor.rows RecordBatch.numRows (readRow tupDesc) batches))
  shutdown : (collect (BatchCursor.rows RecordBatch.numRows (readRow tupDesc) batches)).isOk →
    dest.rShutdown

def Call.delivery (call : Call fold ArrayRef) (b : Backend fold ArrayRef) :
    Option (QueryAnswer ArrayRef × DestReceiver × List Column) :=
  match call with
  | .executorRun _ _ _ answer desc _ => some (answer, desc.dest, desc.tupDesc)
  | .executeQuery env (.ok (some source)) dest _ =>
    some (env.answer (exec (preparation env source) b.duck).2, dest, source.resultDesc)
  | .executeQuery _ _ _ _ => none

def Call.Completes (call : Call fold ArrayRef) (b : Backend fold ArrayRef) : Prop :=
  ∀ result dest tupDesc, call.delivery b = some (.answered result, dest, tupDesc) →
    Delivers dest tupDesc result.batches

theorem Cleared.noRows {g : Globals ArrayRef} (h : Cleared g) : NoRows g := by
  refine ⟨fun batch answered => ?_, fun batches answered => ?_⟩
  · rw [exec_getNextBatch, h.arrow] at answered
    cases answered
  · rw [exec_getBatches, h.arrow] at answered
    cases answered

section Delivery

variable (dest : DestReceiver) (tupDesc : List Column)

theorem exec_writeBatchesToSlots_outcome (batches : List (RecordBatch ArrayRef))
    (out : Output Cell) :
    (exec (writeBatchesToSlots dest tupDesc batches) out).1 =
      if dest.rStartup then
        if dest.receiveSlot then do
          let _ ← collect (BatchCursor.rows RecordBatch.numRows (readRow tupDesc) batches)
          if dest.rShutdown then .ok () else .error (.error "rShutdown not found")
        else .error (.error "receiveSlot not found")
      else .error (.error "rStartup not found") := by
  obtain ⟨startup, receive, shutdown⟩ := dest
  cases startup with
  | false => rfl
  | true =>
    cases receive with
    | false => rfl
    | true =>
      simp only [writeBatchesToSlots, requireCallback, if_true, exec_bind, exec_modify, exec_pure,
        exec_sendBatches, exec_sendAll]
      cases collect (BatchCursor.rows RecordBatch.numRows (readRow tupDesc) batches) with
      | error fault => rfl
      | ok rows => cases shutdown <;> rfl

theorem errs_iff_not_delivers (batches : List (RecordBatch ArrayRef)) (out : Output Cell) :
    Errs (exec (writeBatchesToSlots dest tupDesc batches) out).1 ↔
      ¬ Delivers dest tupDesc batches := by
  rw [exec_writeBatchesToSlots_outcome]
  constructor
  · rintro ⟨message, failed⟩ ⟨startup, receive, read, shutdown⟩
    rw [if_pos startup, if_pos receive] at failed
    cases collected : collect (BatchCursor.rows RecordBatch.numRows (readRow tupDesc) batches) with
    | error fault =>
      rw [collected] at failed
      cases failed
      exact read ⟨message, collected⟩
    | ok rows =>
      rw [collected] at failed shutdown
      rw [if_pos (shutdown rfl)] at failed
      cases failed
  · intro stuck
    by_cases startup : dest.rStartup
    · rw [if_pos startup]
      by_cases receive : dest.receiveSlot
      · rw [if_pos receive]
        rcases collected : collect (BatchCursor.rows RecordBatch.numRows (readRow tupDesc) batches)
          with (message | message) | rows
        · exact ⟨message, rfl⟩
        · refine absurd ⟨startup, receive, ?_, ?_⟩ stuck
          · rw [collected]
            rintro ⟨_, ⟨⟩⟩
          · rw [collected]
            rintro ⟨⟩
        · by_cases shutdown : dest.rShutdown
          · refine absurd ⟨startup, receive, ?_, fun _ => shutdown⟩ stuck
            rw [collected]
            rintro ⟨_, ⟨⟩⟩
          · exact ⟨_, if_neg shutdown⟩
      · exact ⟨_, if_neg receive⟩
    · exact ⟨_, if_neg startup⟩

variable (text : List Char) (b : Backend fold ArrayRef)

omit [DecidableEq κ] in
theorem runInDuckdb_refused {answer : QueryAnswer ArrayRef}
    (refused : ∀ result, answer ≠ .answered result) :
    Cleared (exec (runInDuckdb answer dest tupDesc text) b).2.globals := by
  cases answer with
  | notPrepared message | notExecuted message => exact ⟨rfl, rfl⟩
  | answered result => exact absurd rfl (refused result)

omit [DecidableEq κ] in
theorem runInDuckdb_answered_iff (result : QueryResult ArrayRef) :
    (Returns (exec (runInDuckdb (.answered result) dest tupDesc text) b).1 →
      Cleared (exec (runInDuckdb (.answered result) dest tupDesc text) b).2.globals) ↔
      Delivers dest tupDesc result.batches := by
  have outcome := errs_iff_not_delivers dest tupDesc result.batches b.output
  simp only [runInDuckdb, hand, exec_modify, Backend.onGlobals, Backend.onOutput, exec_bind,
    exec_attempt, exec_onPart, exec_createArrow, exec_getBatches, Globals.pending_created]
  rcases written : exec (writeBatchesToSlots dest tupDesc result.batches) b.output with
    ⟨(message | message) | _, out⟩
  · rw [written] at outcome
    refine iff_of_false (fun clean => ?_) (outcome.mp ⟨message, rfl⟩)
    cases (clean (by rintro _ ⟨⟩)).statement
  · rw [written] at outcome
    refine iff_of_true (fun returned => absurd rfl (returned message)) ?_
    by_contra stuck
    obtain ⟨_, ⟨⟩⟩ := outcome.mpr stuck
  · rw [written] at outcome
    refine iff_of_true (fun _ => ⟨rfl, rfl⟩) ?_
    by_contra stuck
    obtain ⟨_, ⟨⟩⟩ := outcome.mpr stuck

omit [DecidableEq κ] in
theorem runInDuckdb_clean_iff (answer : QueryAnswer ArrayRef) :
    (Returns (exec (runInDuckdb answer dest tupDesc text) b).1 →
      Cleared (exec (runInDuckdb answer dest tupDesc text) b).2.globals) ↔
      ∀ result, answer = .answered result → Delivers dest tupDesc result.batches := by
  by_cases answered : ∃ result, answer = .answered result
  · obtain ⟨result, rfl⟩ := answered
    rw [runInDuckdb_answered_iff]
    exact ⟨fun delivers _ same => QueryAnswer.answered.inj same ▸ delivers, fun all => all _ rfl⟩
  · rw [not_exists] at answered
    exact iff_of_true (fun _ => runInDuckdb_refused dest tupDesc text b answered)
      fun result same => absurd same (answered result)

end Delivery

section Calls

variable {call : Call fold ArrayRef} {b : Backend fold ArrayRef}

theorem not_createsArrow {extra : List Handed}
    (handed : (exec call.run b).2.handed = b.handed ++ extra)
    (other : ∀ text, .statement text ∉ extra) : ¬ call.CreatesArrow b := by
  rintro ⟨before, text, last, rest, rfl⟩
  rw [handed, List.append_assoc, List.append_cancel_left_eq] at last
  exact other text (last ▸ List.mem_append_right _ List.mem_cons_self)

theorem not_createsArrow_of_same (same : (exec call.run b).2.handed = b.handed) :
    ¬ call.CreatesArrow b := by
  have handed : (exec call.run b).2.handed = b.handed ++ [] := by rw [same, List.append_nil]
  exact not_createsArrow handed fun _ => List.not_mem_nil

/-- A call that gets to `create_arrow` ends as what follows it does, with its globals. -/
def Call.RunsQuery (call : Call fold ArrayRef) (b : Backend fold ArrayRef) : Prop :=
  ∃ answer dest tupDesc text, ∃ m : Backend fold ArrayRef,
    call.delivery b = some (answer, dest, tupDesc) ∧
    (Returns (exec call.run b).1 ↔ Returns (exec (runInDuckdb answer dest tupDesc text) m).1) ∧
    (exec call.run b).2.globals = (exec (runInDuckdb answer dest tupDesc text) m).2.globals

theorem executorRun_runs (disableExecutor : Bool) (engine : Engine) (pgSearchPath : List String)
    (answer : QueryAnswer ArrayRef) (desc : QueryDesc) (args : RunArgs)
    (b : Backend fold ArrayRef) :
    let call : Call fold ArrayRef :=
      .executorRun disableExecutor engine pgSearchPath answer desc args
    (exec call.run b).2.handed = b.handed ∨ call.RunsQuery b := by
  unfold Call.RunsQuery
  dsimp only [Call.run, Call.delivery]
  unfold executorRun
  split
  · exact .inl rfl
  · rw [exec_bind, exec_ofResult]
    cases getCurrentQuery desc.stmtLocation desc.stmtLen desc.sourceText with
    | error fault => exact .inl rfl
    | ok query =>
      dsimp only
      split
      · exact .inl rfl
      · rw [exec_bind, Backend.onDuck, exec_onPart]
        rcases setSearchPathByPg_cases engine pgSearchPath b.duck with ⟨fault, run⟩ | run
        · rw [run]
          exact .inl rfl
        · rw [run]
          refine .inr ⟨answer, desc.dest, desc.tupDesc, query,
            { b with duck := b.duck.onPath pgSearchPath }, rfl, ?_⟩
          dsimp only
          rw [exec_bind]
          rcases exec (runInDuckdb answer desc.dest desc.tupDesc query)
            { b with duck := b.duck.onPath pgSearchPath } with ⟨fault | _ | _, b'⟩
          · exact ⟨by simp [Returns], rfl⟩
          · exact ⟨by simp [Returns], rfl⟩
          · exact ⟨by simp [Returns, prevHook], rfl⟩

theorem replan_handed (env : Environment fold ArrayRef) (source : PlanSource)
    (b : Backend fold ArrayRef) :
    ∃ extra, (exec (replan env source) b).2.handed = b.handed ++ extra ∧
      ∀ text, .statement text ∉ extra := by
  unfold replan
  split
  · exact ⟨[], (List.append_nil _).symm, fun _ => List.not_mem_nil⟩
  · cases source.queryString with
    | invalid => exact ⟨[], (List.append_nil _).symm, fun _ => List.not_mem_nil⟩
    | utf8 text =>
      refine ⟨[.prepareAgain text], ?_, fun _ => by simp⟩
      simp only [prepareAgain, CStr.toStr, exec_bind, exec_ofResult, hand, exec_modify,
        exec_attempt, Backend.onDuck, exec_onPart]
      rcases exec (executeText env text) b.duck with ⟨_ | _, _⟩ <;> rfl

theorem executeQuery_runs (env : Environment fold ArrayRef)
    (planSource : Except Fault (Option PlanSource)) (dest : DestReceiver) (queryString : CStr)
    (b : Backend fold ArrayRef) :
    let call : Call fold ArrayRef := .executeQuery env planSource dest queryString
    (∃ extra, (exec call.run b).2.handed = b.handed ++ extra ∧ ∀ text, .statement text ∉ extra) ∨
      call.RunsQuery b := by
  have same : ∀ handed : List Handed, handed = b.handed →
      ∃ extra, handed = b.handed ++ extra ∧ ∀ text, .statement text ∉ extra :=
    fun _ same => ⟨[], by rw [same, List.append_nil], fun _ => List.not_mem_nil⟩
  unfold Call.RunsQuery
  dsimp only [Call.run]
  rcases planSource with fault | _ | source
  · exact .inl (same _ rfl)
  · exact .inl (same _ rfl)
  · cases pushable : source.pushable with
    | false =>
      obtain ⟨r, run, -⟩ := executeQuery_left env pushable dest queryString b
      rw [exec_bind, run]
      cases r <;> exact .inl (same _ rfl)
    | true =>
      rw [exec_bind, executeQuery_pushable_eq env pushable, exec_bind,
        UtilityHook.setSearchPathByPg, Backend.onDuck, exec_onPart]
      rcases setSearchPathByPg_cases env.engine env.pgSearchPath b.duck with ⟨fault, run⟩ | run
      · rw [run]
        exact .inl (same _ rfl)
      · rw [run]
        dsimp only
        let onPath : Backend fold ArrayRef := { b with duck := b.duck.onPath env.pgSearchPath }
        obtain ⟨extra, handed, other⟩ := replan_handed env source onPath
        obtain ⟨duck, -⟩ := replan_duck env source onPath
        have prepared : (exec (preparation env source) b.duck).2 =
            (exec (prepareText env source) onPath.duck).2 := by
          rw [preparation, exec_bind, run]
        rw [exec_bind]
        rcases replanned : exec (replan env source) onPath with ⟨fault | _, b'⟩
        · rw [replanned] at handed
          exact .inl ⟨extra, handed, other⟩
        · rw [replanned] at handed duck
          cases queryString with
          | invalid => exact .inl ⟨extra, handed, other⟩
          | utf8 text =>
            refine .inr ⟨env.answer b'.duck, dest, source.resultDesc, text, b', ?_, ?_⟩
            · rw [Call.delivery, prepared, ← duck]
            · dsimp only [CStr.toStr]
              simp only [exec_bind, exec_ofResult, exec_get]
              rcases exec (runInDuckdb (env.answer b'.duck) dest source.resultDesc text) b' with
                ⟨fault | pushdown, b''⟩
              · exact ⟨by simp [Returns], rfl⟩
              · exact ⟨by simp [Returns], rfl⟩

theorem Call.CreatesArrow.runs {call : Call fold ArrayRef} {b : Backend fold ArrayRef}
    (creates : call.CreatesArrow b) : call.RunsQuery b := by
  cases call with
  | executorRun disableExecutor engine pgSearchPath answer desc args =>
    rcases executorRun_runs disableExecutor engine pgSearchPath answer desc args b with same | runs
    · exact absurd creates (not_createsArrow_of_same same)
    · exact runs
  | executeQuery env planSource dest queryString =>
    rcases executeQuery_runs env planSource dest queryString b with ⟨extra, handed, other⟩ | runs
    · exact absurd creates (not_createsArrow handed other)
    · exact runs

/-- A call that has created a reader leaves none behind exactly when no step of the
delivery answers an `Err`. -/
theorem call_clean_iff {call : Call fold ArrayRef} {b : Backend fold ArrayRef}
    (creates : call.CreatesArrow b) : call.Clean b ↔ call.Completes b := by
  obtain ⟨answer, dest, tupDesc, text, m, delivery, returns, globals⟩ := creates.runs
  have clean : call.Clean b ↔ (Returns (exec (runInDuckdb answer dest tupDesc text) m).1 →
      Cleared (exec (runInDuckdb answer dest tupDesc text) m).2.globals) := by
    rw [Call.Clean, returns, globals]
    exact ⟨fun h r => (h r).1, fun h r => ⟨h r, (h r).noRows⟩⟩
  rw [clean, runInDuckdb_clean_iff, Call.Completes, delivery]
  constructor
  · rintro all result _ _ ⟨⟩
    exact all result rfl
  · rintro all result rfl
    exact all result dest tupDesc rfl

end Calls

def idsDesc (typeOid : Oid) : QueryDesc where
  stmtLocation := 0
  stmtLen := 0
  rtable := some [.relation ⟨true, "parquet_fdw_handler"⟩]
  operation := .select
  sourceText := .utf8 "SELECT id FROM orders".toList
  tupDesc := [⟨"id", typeOid⟩]
  dest := ⟨true, true, true⟩

theorem idsDesc_pushed (typeOid : Oid) :
    leftToPostgres (idsDesc typeOid) "SELECT id FROM orders".toList = false := by
  have fixed : leftToPostgres (idsDesc 0) "SELECT id FROM orders".toList = false := by decide
  exact fixed

def selectIds (typeOid : Oid) : PushableQuery where
  desc := idsDesc typeOid
  text := "SELECT id FROM orders".toList
  current := getCurrentQuery_whole _
  pushed := idsDesc_pushed typeOid
  startup := rfl
  receive := rfl
  shutdown := rfl

def ids : QueryResult Int32Array where
  batches := [int32Batch [some 7, none]]
  nonempty := List.forall_mem_singleton.mpr (Nat.succ_pos 1)

def runIds (typeOid : Oid) : Call (id : String → String) Int32Array :=
  .executorRun false accepting ["public"] (.answered ids) (selectIds typeOid).desc
    ⟨.forward, 0, false⟩

theorem integers_clean : (runIds INT4OID).Clean Backend.init := by
  have run := exec_executorRun_answered (selectIds INT4OID) ids ["public"] ⟨.forward, 0, false⟩
    (Backend.init : Backend (id : String → String) Int32Array)
  have creates : (runIds INT4OID).CreatesArrow Backend.init :=
    ⟨[], (selectIds INT4OID).text, by rw [runIds, Call.run, run]; rfl, List.nil_prefix⟩
  refine (call_clean_iff creates).mpr ?_
  rintro result dest tupDesc ⟨⟩
  refine ⟨rfl, rfl, ?_, fun _ => rfl⟩
  rintro ⟨message, failed⟩
  cases failed

theorem texts_leak :
    (exec (runIds 25).run Backend.init).1 =
      .error (.error "Column id is not mapped to an integer type") ∧
    (exec (runIds 25).run Backend.init).2.globals.statement =
      some ⟨0, String.ofList (selectIds 25).text⟩ ∧
    (runIds 25).CreatesArrow Backend.init ∧ ¬ (runIds 25).Clean Backend.init := by
  have run := exec_executorRun_answered (selectIds 25) ids ["public"] ⟨.forward, 0, false⟩
    (Backend.init : Backend (id : String → String) Int32Array)
  have failed : (exec (runIds 25).run Backend.init).1 =
      .error (.error "Column id is not mapped to an integer type") := by
    rw [runIds, Call.run, run]
    rfl
  have kept : (exec (runIds 25).run Backend.init).2.globals.statement =
      some ⟨0, String.ofList (selectIds 25).text⟩ := by
    rw [runIds, Call.run, run]
    rfl
  refine ⟨failed, kept, ⟨[], (selectIds 25).text, by rw [runIds, Call.run, run]; rfl,
    List.nil_prefix⟩, fun clean => ?_⟩
  have returns : Returns (exec (runIds 25).run Backend.init).1 := by
    rw [failed]
    rintro _ ⟨⟩
  rw [(clean returns).1.statement] at kept
  cases kept

end PgAnalytics.ScanCleanup
