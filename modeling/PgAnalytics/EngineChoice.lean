import PgAnalytics.Executor
import PgAnalytics.ScanDelivery
import PgAnalytics.UtilityHook

/-! Which engine answers a statement. A call of a hook that succeeds is answered
by Postgres alone or by DuckDB alone, and completely; one that fails has not been
handed to Postgres. DuckDB's refusals reach Postgres only where the hooks catch
them: the search path and the repeated `PREPARE` are not caught. -/

namespace PgAnalytics.EngineChoice
open Basics Commands RecordBatches ArrowReader BatchCursor QueryHook Executor UtilityHook
open ScanDelivery
open DuckdbCatalog hiding setSearchPathByPg

variable {κ : Type} [DecidableEq κ] {fold : String → κ}
variable {ArrayRef Cell : Type} [GetCell ArrayRef Cell]

/-- Only DuckDB, the text handed to it and the warnings may differ. -/
def SameDelivery (b b' : Backend fold ArrayRef) : Prop :=
  b'.prevHooks = b.prevHooks ∧ b'.output = b.output

instance : Std.Refl (@SameDelivery κ fold ArrayRef Cell _) := ⟨fun _ => ⟨rfl, rfl⟩⟩

instance : IsTrans (Backend fold ArrayRef) SameDelivery :=
  ⟨fun _ _ _ ab bc => ⟨bc.1.trans ab.1, bc.2.trans ab.2⟩⟩

theorem setSearchPathByPg_sameDelivery (env : Environment fold ArrayRef) :
    Respects (@SameDelivery κ fold ArrayRef Cell _) (setSearchPathByPg env) :=
  .onPart _ fun _ _ => ⟨rfl, rfl⟩

theorem replan_sameDelivery (env : Environment fold ArrayRef) (source : PlanSource) :
    Respects (@SameDelivery κ fold ArrayRef Cell _) (replan env source) := by
  refine .ite (.pure ()) (.bind (.ofResult _) fun text => .bind (.modify fun _ => ⟨rfl, rfl⟩)
    fun _ => .bind (.attempt (.onPart _ fun _ _ => ⟨rfl, rfl⟩)) fun ran => ?_)
  cases ran with
  | error fault => exact .throw _
  | ok _ => exact .pure ()

theorem writeBatchesToSlots_ok {dest : DestReceiver} {tupDesc : List Column}
    {batches : List (RecordBatch ArrayRef)} {out out' : Output Cell}
    (h : exec (writeBatchesToSlots dest tupDesc batches) out = (.ok (), out')) :
    ∃ rows, collect (BatchCursor.rows RecordBatch.numRows (readRow tupDesc) batches) = .ok rows ∧
      out' = out.delivered rows := by
  obtain ⟨startup, receive, shutdown⟩ : dest.rStartup = true ∧ dest.receiveSlot = true ∧
      dest.rShutdown = true := by
    unfold writeBatchesToSlots at h
    obtain ⟨_, m₁, -, h⟩ := exec_bind_eq_ok h
    obtain ⟨_, m₂, first, h⟩ := exec_bind_eq_ok h
    obtain ⟨_, m₃, -, h⟩ := exec_bind_eq_ok h
    obtain ⟨_, m₄, second, h⟩ := exec_bind_eq_ok h
    obtain ⟨_, m₅, -, h⟩ := exec_bind_eq_ok h
    obtain ⟨_, m₆, third, -⟩ := exec_bind_eq_ok h
    have present : ∀ {callback : Bool} {message : String} {m m' : Output Cell},
        exec (requireCallback callback message) m = (.ok (), m') → callback = true := by
      intro callback message m m' ran
      by_contra absent
      rw [requireCallback, if_neg absent, exec_throw] at ran
      cases ran
    exact ⟨present first, present second, present third⟩
  rw [exec_writeBatchesToSlots startup receive shutdown] at h
  dsimp only at h
  cases read : collect (BatchCursor.rows RecordBatch.numRows (readRow tupDesc) batches) with
  | error fault =>
    rw [read] at h
    cases h
  | ok rows =>
    rw [read] at h
    cases h
    exact ⟨rows, rfl, rfl⟩

def DuckdbAnswers (answer : QueryAnswer ArrayRef) (columns : List Column)
    (b b' : Backend fold ArrayRef) : Prop :=
  b'.prevHooks = b.prevHooks ∧ ∃ result rows, answer = .answered result ∧
    collect (resultRows result columns) = .ok rows ∧ b'.output.sent = b.output.sent ++ rows

def PostgresAnswers (call : PrevHook) (b b' : Backend fold ArrayRef) : Prop :=
  b'.prevHooks = b.prevHooks ++ [call] ∧ b'.output.sent = b.output.sent

omit [DecidableEq κ] in
theorem runInDuckdb_ends (answer : QueryAnswer ArrayRef) (dest : DestReceiver)
    (tupDesc : List Column) (text : List Char) (b : Backend fold ArrayRef) :
    ∃ r b', exec (runInDuckdb answer dest tupDesc text) b = (r, b') ∧
      b'.prevHooks = b.prevHooks ∧ (r = .ok .fallBack → SameDelivery b b') ∧
      (r = .ok .sent → DuckdbAnswers answer tupDesc b b') := by
  cases answer with
  | notPrepared message | notExecuted message =>
    exact ⟨_, _, rfl, rfl, fun _ => ⟨rfl, rfl⟩, nofun⟩
  | answered result =>
    rw [runInDuckdb, hand, exec_bind, exec_modify]
    simp only [Backend.onGlobals, exec_bind, exec_attempt, exec_onPart, exec_createArrow,
      exec_getBatches, Globals.pending_created, Backend.onOutput]
    rcases ran : exec (writeBatchesToSlots dest tupDesc result.batches) b.output with
      ⟨fault | _, out⟩
    · exact ⟨_, _, rfl, rfl, by simp, by simp⟩
    · refine ⟨_, _, rfl, rfl, by simp, fun _ => ⟨rfl, ?_⟩⟩
      obtain ⟨rows, read, delivered⟩ := writeBatchesToSlots_ok ran
      exact ⟨result, rows, rfl, read, congrArg Output.sent delivered⟩

/-- One call of the executor hook: DuckDB's answer is that of the call, whatever
the search path and the engine made of it. -/
theorem executorRun_ends (disableExecutor : Bool) (engine : Engine) (pgSearchPath : List String)
    (answer : QueryAnswer ArrayRef) (q : QueryDesc) (args : RunArgs) (b : Backend fold ArrayRef) :
    ∃ r b', exec (executorRun disableExecutor engine pgSearchPath answer q args) b = (r, b') ∧
      (r = .ok () → PostgresAnswers (.executorRun args) b b' ∨
        DuckdbAnswers answer q.tupDesc b b') ∧
      (r ≠ .ok () → b'.prevHooks = b.prevHooks) := by
  unfold executorRun
  split
  · exact ⟨_, _, rfl, fun _ => .inl ⟨rfl, rfl⟩, fun h => absurd rfl h⟩
  · rw [exec_bind, exec_ofResult]
    cases getCurrentQuery q.stmtLocation q.stmtLen q.sourceText with
    | error fault => exact ⟨_, _, rfl, nofun, fun _ => rfl⟩
    | ok query =>
      dsimp only
      split
      · exact ⟨_, _, rfl, fun _ => .inl ⟨rfl, rfl⟩, fun h => absurd rfl h⟩
      · rw [exec_bind, Backend.onDuck, exec_onPart]
        rcases exec (DuckdbCatalog.setSearchPathByPg engine pgSearchPath) b.duck with
          ⟨fault | _, duck⟩
        · exact ⟨_, _, rfl, nofun, fun _ => rfl⟩
        · obtain ⟨r, b', ran, same, back, sent⟩ :=
            runInDuckdb_ends answer q.dest q.tupDesc query { b with duck := duck }
          dsimp only
          rw [exec_bind, ran]
          rcases r with fault | _ | _
          · exact ⟨_, _, rfl, nofun, fun _ => same⟩
          · exact ⟨_, _, rfl, fun _ => .inr (sent rfl), fun h => absurd rfl h⟩
          · obtain ⟨hooks, output⟩ := back rfl
            refine ⟨_, _, rfl, fun _ => .inl ⟨?_, congrArg Output.sent output⟩,
              fun h => absurd rfl h⟩
            exact congrArg (· ++ [PrevHook.executorRun args]) hooks

theorem executeQuery_ends (env : Environment fold ArrayRef)
    (planSource : Except Fault (Option PlanSource)) (dest : DestReceiver) (queryString : CStr)
    (b : Backend fold ArrayRef) :
    ∃ r b', exec (executeQuery env planSource dest queryString) b = (r, b') ∧
      b'.prevHooks = b.prevHooks ∧ (r = .ok true → b'.output = b.output) ∧
      (r = .ok false → ∃ source, planSource = .ok (some source) ∧
        DuckdbAnswers (env.answer b'.duck) source.resultDesc b b') := by
  rcases planSource with fault | _ | source
  · exact ⟨_, _, rfl, rfl, nofun, nofun⟩
  · exact ⟨_, _, rfl, rfl, fun _ => rfl, nofun⟩
  cases pushable : source.pushable with
  | false =>
    obtain ⟨r, run, unsent⟩ := executeQuery_left env pushable dest queryString b
    exact ⟨r, b, run, rfl, fun _ => rfl, fun sent => absurd sent unsent⟩
  | true =>
    rw [executeQuery_pushable_eq env pushable, exec_bind]
    have path := setSearchPathByPg_sameDelivery env b
    rcases ran₁ : exec (setSearchPathByPg env) b with ⟨fault | _, b₁⟩
    · rw [ran₁] at path
      exact ⟨_, _, rfl, path.1, nofun, nofun⟩
    rw [ran₁] at path
    have planned := IsTrans.trans _ _ _ path (replan_sameDelivery env source b₁)
    dsimp only
    rw [exec_bind]
    rcases ran₂ : exec (replan env source) b₁ with ⟨fault | _, b₂⟩
    · rw [ran₂] at planned
      exact ⟨_, _, rfl, planned.1, nofun, nofun⟩
    rw [ran₂] at planned
    cases queryString with
    | invalid => exact ⟨_, _, rfl, planned.1, nofun, nofun⟩
    | utf8 text =>
      simp only [CStr.toStr, exec_bind, exec_ofResult, exec_get]
      have duck := runInDuckdb_sameDuck (env.answer b₂.duck) dest source.resultDesc text b₂
      obtain ⟨r, b', ran, same, back, sent⟩ :=
        runInDuckdb_ends (env.answer b₂.duck) dest source.resultDesc text b₂
      rw [ran] at duck ⊢
      rcases r with fault | _ | _
      · exact ⟨_, _, rfl, same.trans planned.1, by simp, by simp⟩
      · obtain ⟨hooks, result, rows, answered, read, delivered⟩ := sent rfl
        refine ⟨_, _, rfl, same.trans planned.1, by simp, fun _ =>
          ⟨source, rfl, same.trans planned.1, result, rows, ?_, read, ?_⟩⟩
        · rw [show b'.duck = b₂.duck from duck, answered]
        · rw [delivered, planned.2]
      · obtain ⟨hooks, output⟩ := back rfl
        exact ⟨_, _, rfl, same.trans planned.1, fun _ => output.trans planned.2, by simp⟩

/-- Every call that succeeds is answered by exactly one engine, and no call that
fails has been handed to Postgres. `EXECUTE` is handed over exactly when
`execute_query` answers that the previous hook is needed. -/
theorem one_engine_answers :
    (∀ (disableExecutor : Bool) (engine : Engine) (pgSearchPath : List String)
      (answer : QueryAnswer ArrayRef) (q : QueryDesc) (args : RunArgs)
      (b : Backend fold ArrayRef),
      let run := exec (executorRun disableExecutor engine pgSearchPath answer q args) b
      (run.1 = .ok () → PostgresAnswers (.executorRun args) b run.2 ∨
        DuckdbAnswers answer q.tupDesc b run.2) ∧
      (run.1 ≠ .ok () → run.2.prevHooks = b.prevHooks)) ∧
    ∀ (env : Environment fold ArrayRef) (planSource : Except Fault (Option PlanSource))
      (dest : DestReceiver) (queryString : CStr) (b : Backend fold ArrayRef),
      let run := exec (processUtilityHook env (.execute planSource dest) queryString) b
      (run.1 = .ok () → PostgresAnswers .processUtility b run.2 ∨
        ∃ source, planSource = .ok (some source) ∧
          DuckdbAnswers (env.answer run.2.duck) source.resultDesc b run.2) ∧
      (run.1 ≠ .ok () → run.2.prevHooks = b.prevHooks) ∧
      (env.isPostmasterEnvironment = true → (run.2.prevHooks ≠ b.prevHooks ↔
        (exec (executeQuery env planSource dest queryString) b).1 = .ok true)) := by
  refine ⟨fun disableExecutor engine pgSearchPath answer q args b => ?_,
    fun env planSource dest queryString b => ?_⟩
  · obtain ⟨r, b', run, answered, failed⟩ :=
      executorRun_ends disableExecutor engine pgSearchPath answer q args b
    rw [run]
    exact ⟨answered, failed⟩
  · cases postmaster : env.isPostmasterEnvironment with
    | false =>
      simp only [processUtilityHook, postmaster, Bool.not_false, Bool.or_true, if_true]
      exact ⟨fun _ => .inl ⟨rfl, rfl⟩, fun h => absurd rfl h, nofun⟩
    | true =>
      obtain ⟨r, b', run, hooks, left, sent⟩ :=
        executeQuery_ends env planSource dest queryString b
      simp only [processUtilityHook, isSupportUtility, postmaster, Bool.not_true, Bool.or_self,
        Bool.false_eq_true, if_false, needExecPrevHook, exec_bind, run]
      rcases r with fault | _ | _
      · exact ⟨nofun, fun _ => hooks, fun _ => iff_of_false (fun h => h hooks) nofun⟩
      · exact ⟨fun _ => .inr (sent rfl), fun h => absurd rfl h,
          fun _ => iff_of_false (fun h => h hooks) nofun⟩
      · have called : (exec (prevHook .processUtility) b').2.prevHooks =
            b.prevHooks ++ [.processUtility] :=
          congrArg (· ++ [PrevHook.processUtility]) hooks
        refine ⟨fun _ => .inl ⟨called, congrArg Output.sent (left rfl)⟩, fun h => absurd rfl h,
          fun _ => iff_of_true ?_ rfl⟩
        exact fun same => by simpa using called.symm.trans same

inductive Forwarded where
  | select (q : PushableQuery) (args : RunArgs)
  | execute (source : PlanSource) (pushable : source.pushable = true) (prepareText : List Char)
      (prepared : source.queryString = .utf8 prepareText) (dest : DestReceiver) (text : List Char)
  | view (plans : List PlannedQuery) (duckdb : plans.all PlannedQuery.isDuckdb = true)
      (text : List Char)

/-- DuckDB does not list its schemas, or does not take the path. -/
def PathRefused (env : Environment fold ArrayRef) (d : Duckdb fold) : Prop :=
  env.engine .selectSchemas ≠ .accept ∨
    ∃ message, env.engine (.setSearchPath (d.knownPath env.pgSearchPath)) = .refuse message

def TextRefused (env : Environment fold ArrayRef) (d : Duckdb fold) (text : List Char) : Prop :=
  (exec (executeText env text) d).1 ≠ .ok ()

/-- The text of the `PREPARE` is executed again, and DuckDB refuses it. -/
def PrepareRefused (env : Environment fold ArrayRef) (d : Duckdb fold) (source : PlanSource)
    (prepareText : List Char) : Prop :=
  source.searchPathMatches = false ∧ TextRefused env (d.onPath env.pgSearchPath) prepareText

def AnswerRefused (answer : QueryAnswer ArrayRef) : Prop := ∀ result, answer ≠ .answered result

namespace Forwarded

def run (env : Environment fold ArrayRef) : Forwarded → Command (Backend fold ArrayRef) Fault Unit
  | .select q args => do
    let b ← get
    executorRun false env.engine env.pgSearchPath
      (env.answer (b.duck.onPath env.pgSearchPath)) q.desc args
  | .execute source _ _ _ dest text =>
    processUtilityHook env (.execute (.ok (some source)) dest) (.utf8 text)
  | .view plans _ text => processUtilityHook env (.view (.ok plans)) (.utf8 text)

def call : Forwarded → PrevHook
  | .select _ args => .executorRun args
  | .execute .. | .view .. => .processUtility

def refused (env : Environment fold ArrayRef) (d : Duckdb fold) : Forwarded → Prop
  | .select _ _ => PathRefused env d ∨ AnswerRefused (env.answer (d.onPath env.pgSearchPath))
  | .execute source _ prepareText _ _ _ =>
    PathRefused env d ∨ PrepareRefused env d source prepareText ∨
      AnswerRefused (env.answer (exec (preparation env source) d).2)
  | .view _ _ text => PathRefused env d ∨ TextRefused env (d.onPath env.pgSearchPath) text

/-- What DuckDB must not refuse: the path, and a `PREPARE` that is executed again. -/
def prepares (env : Environment fold ArrayRef) (d : Duckdb fold) : Forwarded → Prop
  | .execute source _ prepareText _ _ _ =>
    ¬ PathRefused env d ∧ ¬ PrepareRefused env d source prepareText
  | .select .. | .view .. => ¬ PathRefused env d

end Forwarded

/-- The statement is handed to Postgres, and the hook does not fail. -/
def Recovers (env : Environment fold ArrayRef) (b : Backend fold ArrayRef) (f : Forwarded) :
    Prop :=
  (exec (f.run env) b).1 = .ok () ∧ (exec (f.run env) b).2.prevHooks = b.prevHooks ++ [f.call]

theorem setSearchPathByPg_refused {env : Environment fold ArrayRef} {b : Backend fold ArrayRef}
    (h : PathRefused env b.duck) :
    ∃ fault b', exec (setSearchPathByPg env) b = (.error fault, b') := by
  rw [setSearchPathByPg, Backend.onDuck, exec_onPart, exec_setSearchPathByPg]
  rcases h with unlisted | ⟨message, refused⟩
  · cases listed : env.engine .selectSchemas with
    | accept => exact absurd listed unlisted
    | refuse message | noRow => exact ⟨_, _, rfl⟩
  · rw [refused]
    cases env.engine .selectSchemas <;> exact ⟨_, _, rfl⟩

theorem exec_path_taken {env : Environment fold ArrayRef} {d : Duckdb fold}
    (h : ¬ PathRefused env d) :
    exec (DuckdbCatalog.setSearchPathByPg env.engine env.pgSearchPath) d =
      (.ok (), d.onPath env.pgSearchPath) := by
  have listed : env.engine .selectSchemas = .accept := by
    by_contra unlisted
    exact h (.inl unlisted)
  rw [exec_setSearchPathByPg, listed]
  cases taken : env.engine (.setSearchPath (d.knownPath env.pgSearchPath)) with
  | refuse message => exact absurd (.inr ⟨message, taken⟩) h
  | accept | noRow => rfl

theorem setSearchPathByPg_taken {env : Environment fold ArrayRef} {b : Backend fold ArrayRef}
    (h : ¬ PathRefused env b.duck) :
    exec (setSearchPathByPg env) b =
      (.ok (), { b with duck := b.duck.onPath env.pgSearchPath }) := by
  rw [setSearchPathByPg, Backend.onDuck, exec_onPart, exec_path_taken h]

theorem replan_refused {env : Environment fold ArrayRef} {source : PlanSource}
    {prepareText : List Char} (prepared : source.queryString = .utf8 prepareText)
    (changed : source.searchPathMatches = false) {b : Backend fold ArrayRef}
    (h : TextRefused env b.duck prepareText) :
    ∃ fault b', exec (replan env source) b = (.error fault, b') := by
  rw [TextRefused] at h
  simp only [replan, changed, Bool.false_eq_true, if_false, prepared, prepareAgain, CStr.toStr,
    exec_bind, exec_ofResult, hand, exec_modify, exec_attempt, Backend.onDuck, exec_onPart]
  rcases ran : exec (executeText env prepareText) b.duck with ⟨fault | _, d⟩
  · exact ⟨_, _, rfl⟩
  · rw [ran] at h
    exact absurd rfl h

theorem replan_taken {env : Environment fold ArrayRef} {source : PlanSource}
    {prepareText : List Char} (prepared : source.queryString = .utf8 prepareText)
    {b : Backend fold ArrayRef}
    (h : ¬ (source.searchPathMatches = false ∧ TextRefused env b.duck prepareText)) :
    (exec (replan env source) b).1 = .ok () := by
  cases matching : source.searchPathMatches with
  | true =>
    rw [replan, matching, if_pos rfl]
    rfl
  | false =>
    have taken : ¬ TextRefused env b.duck prepareText := fun refused => h ⟨matching, refused⟩
    rw [TextRefused, not_not] at taken
    simp only [replan, matching, Bool.false_eq_true, if_false, prepared, prepareAgain, CStr.toStr,
      exec_bind, exec_ofResult, hand, exec_modify, exec_attempt, Backend.onDuck, exec_onPart]
    rcases ran : exec (executeText env prepareText) b.duck with ⟨fault | _, d⟩
    · rw [ran] at taken
      cases taken
    · rfl

theorem processUtilityHook_supported {env : Environment fold ArrayRef} {stmt : UtilityStmt}
    (supported : isSupportUtility stmt = true) (postmaster : env.isPostmasterEnvironment = true)
    (queryString : CStr) (b : Backend fold ArrayRef) :
    exec (processUtilityHook env stmt queryString) b =
      exec (do if ← needExecPrevHook env stmt queryString then prevHook .processUtility) b := by
  rw [processUtilityHook, supported, postmaster, if_neg (by simp)]

omit [DecidableEq κ] in
theorem runInDuckdb_refused {answer : QueryAnswer ArrayRef} (h : AnswerRefused answer)
    (dest : DestReceiver) (tupDesc : List Column) (text : List Char)
    (b : Backend fold ArrayRef) :
    ∃ b', exec (runInDuckdb answer dest tupDesc text) b = (.ok .fallBack, b') ∧
      b'.prevHooks = b.prevHooks := by
  cases answer with
  | notPrepared message | notExecuted message => exact ⟨_, rfl, rfl⟩
  | answered result => exact absurd rfl (h result)

theorem select_recovers_iff (env : Environment fold ArrayRef) (q : PushableQuery) (args : RunArgs)
    (b : Backend fold ArrayRef) :
    ((Forwarded.select q args).refused env b.duck → Recovers env b (.select q args)) ↔
      ¬ PathRefused env b.duck := by
  have whole (answer : QueryAnswer ArrayRef) :
      ∃ after : Pushdown → Command (Backend fold ArrayRef) Fault Unit,
        exec (executorRun false env.engine env.pgSearchPath answer q.desc args) b =
          exec (setSearchPathByPg env >>= fun _ =>
            runInDuckdb answer q.desc.dest q.desc.tupDesc q.text >>= after) b ∧
        after .fallBack = prevHook (.executorRun args) := by
    have query : exec (ofResult (getCurrentQuery q.desc.stmtLocation q.desc.stmtLen
        q.desc.sourceText)) b = (.ok q.text, b) := by
      rw [exec_ofResult, q.current]
    rw [executorRun, if_neg (by simp), exec_bind_ok query, q.pushed, if_neg (by simp)]
    exact ⟨_, rfl, rfl⟩
  obtain ⟨after, whole, fallBack⟩ := whole (env.answer (b.duck.onPath env.pgSearchPath))
  have run : exec ((Forwarded.select q args).run env) b =
      exec (executorRun false env.engine env.pgSearchPath
        (env.answer (b.duck.onPath env.pgSearchPath)) q.desc args) b := by
    rw [Forwarded.run, exec_bind_ok (exec_get b)]
  rw [Recovers, run, whole]
  constructor
  · intro recovers path
    obtain ⟨fault, b', failed⟩ := setSearchPathByPg_refused path
    have ended := (recovers (.inl path)).1
    rw [exec_bind_error failed] at ended
    cases ended
  · intro path refused
    obtain ⟨b', back, hooks⟩ := runInDuckdb_refused (refused.resolve_left path) q.desc.dest
      q.desc.tupDesc q.text { b with duck := b.duck.onPath env.pgSearchPath }
    rw [exec_bind_ok (setSearchPathByPg_taken path), exec_bind_ok back, fallBack]
    exact ⟨rfl, congrArg (· ++ [PrevHook.executorRun args]) hooks⟩

theorem execute_recovers_iff {env : Environment fold ArrayRef}
    (postmaster : env.isPostmasterEnvironment = true) {source : PlanSource}
    (pushable : source.pushable = true) {prepareText : List Char}
    (prepared : source.queryString = .utf8 prepareText) (dest : DestReceiver) (text : List Char)
    (b : Backend fold ArrayRef) :
    let f := Forwarded.execute source pushable prepareText prepared dest text
    (f.refused env b.duck → Recovers env b f) ↔
      ¬ PathRefused env b.duck ∧ ¬ PrepareRefused env b.duck source prepareText := by
  intro f
  have run : exec (f.run env) b =
      exec (executeQuery env (.ok (some source)) dest (.utf8 text) >>= fun need =>
        if need then prevHook .processUtility else pure ()) b :=
    processUtilityHook_supported rfl postmaster _ b
  have query := executeQuery_pushable_eq env pushable dest (.utf8 text) b
  rw [Recovers, run, exec_bind, query]
  constructor
  · intro recovers
    have path : ¬ PathRefused env b.duck := by
      intro path
      obtain ⟨fault, b', failed⟩ := setSearchPathByPg_refused path
      have ended := (recovers (.inl path)).1
      rw [exec_bind_error failed] at ended
      cases ended
    refine ⟨path, fun again => ?_⟩
    obtain ⟨fault, b', failed⟩ := replan_refused (b := { b with
      duck := b.duck.onPath env.pgSearchPath }) prepared again.1 again.2
    have ended := (recovers (.inr (.inl again))).1
    rw [exec_bind_ok (setSearchPathByPg_taken path), exec_bind_error failed] at ended
    cases ended
  · rintro ⟨path, again⟩ refused
    have unanswered := (refused.resolve_left path).resolve_left again
    have same := replan_sameDelivery env source { b with duck := b.duck.onPath env.pgSearchPath }
    have taken := replan_taken (b := { b with duck := b.duck.onPath env.pgSearchPath }) prepared
      again
    have duck := (replan_duck env source { b with duck := b.duck.onPath env.pgSearchPath }).1
    rw [preparation, exec_bind_ok (exec_path_taken path)] at unanswered
    rw [exec_bind_ok (setSearchPathByPg_taken path)]
    rcases planned : exec (replan env source)
      { b with duck := b.duck.onPath env.pgSearchPath } with ⟨fault | _, b₂⟩
    · rw [planned] at taken
      cases taken
    · rw [planned] at same duck
      rw [← show b₂.duck = _ from duck] at unanswered
      obtain ⟨b', back, hooks⟩ := runInDuckdb_refused unanswered dest source.resultDesc text b₂
      rw [exec_bind_ok planned]
      simp only [CStr.toStr, exec_bind, exec_ofResult, exec_get, back]
      exact ⟨rfl, congrArg (· ++ [PrevHook.processUtility]) (hooks.trans same.1)⟩

theorem executeOrWarn_sameDelivery (env : Environment fold ArrayRef) (query : List Char)
    (b : Backend fold ArrayRef) :
    ∃ b', exec (executeOrWarn env query) b = (.ok (), b') ∧ SameDelivery b b' := by
  simp only [executeOrWarn, exec_bind, exec_attempt, Backend.onDuck, exec_onPart]
  rcases exec (executeText env query) b.duck with ⟨fault | _, d⟩ <;> exact ⟨_, rfl, rfl, rfl⟩

theorem view_recovers_iff {env : Environment fold ArrayRef}
    (postmaster : env.isPostmasterEnvironment = true) {plans : List PlannedQuery}
    (duckdb : plans.all PlannedQuery.isDuckdb = true) (text : List Char)
    (b : Backend fold ArrayRef) :
    ((Forwarded.view plans duckdb text).refused env b.duck →
      Recovers env b (.view plans duckdb text)) ↔ ¬ PathRefused env b.duck := by
  have run : exec ((Forwarded.view plans duckdb text).run env) b =
      exec (viewQuery env (.ok plans) (.utf8 text) >>= fun need =>
        if need then prevHook .processUtility else pure ()) b :=
    processUtilityHook_supported rfl postmaster _ b
  have query : exec (viewQuery env (.ok plans) (.utf8 text)) b =
      exec (setSearchPathByPg env >>= fun _ => do
        hand (.statement text)
        executeOrWarn env text
        return true) b := by
    rw [viewQuery, exec_bind, exec_ofResult]
    simp only [duckdb, Bool.not_true, Bool.false_eq_true, if_false]
    rfl
  rw [Recovers, run, exec_bind, query]
  constructor
  · intro recovers path
    obtain ⟨fault, b', failed⟩ := setSearchPathByPg_refused path
    have ended := (recovers (.inl path)).1
    rw [exec_bind_error failed] at ended
    cases ended
  · intro path _
    let handed : Backend fold ArrayRef :=
      { b with
        duck := b.duck.onPath env.pgSearchPath, handed := b.handed ++ [.statement text] }
    obtain ⟨b', warned, same⟩ := executeOrWarn_sameDelivery env text handed
    have handing : exec (hand (.statement text))
        { b with duck := b.duck.onPath env.pgSearchPath } = (.ok (), handed) := rfl
    rw [exec_bind_ok (setSearchPathByPg_taken path), exec_bind_ok handing, exec_bind_ok warned]
    exact ⟨rfl, congrArg (· ++ [PrevHook.processUtility]) same.1⟩

/-- Where DuckDB refuses a statement, it reaches Postgres exactly when DuckDB took
the search path and the text of a `PREPARE` that had to be executed again. -/
theorem recovers_iff {env : Environment fold ArrayRef}
    (postmaster : env.isPostmasterEnvironment = true) (f : Forwarded)
    (b : Backend fold ArrayRef) :
    (f.refused env b.duck → Recovers env b f) ↔ f.prepares env b.duck := by
  cases f with
  | select q args => exact select_recovers_iff env q args b
  | execute source pushable prepareText prepared dest text =>
    exact execute_recovers_iff postmaster pushable prepared dest text b
  | view plans duckdb text => exact view_recovers_iff postmaster duckdb text b

def unknownTable : Environment (id : String → String) Int32Array where
  engine
    | .prepare _ _ => .refuse "Catalog Error: Table with name t does not exist!"
    | _ => .accept
  reads _ _ := .ok [.prepare "q" "SELECT * FROM t"]
  answer _ := .answered .empty
  explanation := .ok []
  pgSearchPath := ["tpch2"]
  parseSql _ := .ok [.other]
  elapsed := []
  debugAssertions := false
  isPostmasterEnvironment := true

/-- `EXECUTE q`, after the search path was changed to one where Postgres has a
foreign table `t` that no query of this backend has read yet. -/
def executeAfterPathChange : Forwarded :=
  .execute
    { fixedResult := true
      searchPathMatches := false
      queryString := .utf8 "PREPARE q AS SELECT * FROM t".toList
      resultDesc := [⟨"id", INT4OID⟩]
      cachedPlan := .ok (some ⟨.select, some [.relation ⟨true, "parquet_fdw_handler"⟩]⟩) }
    rfl "PREPARE q AS SELECT * FROM t".toList rfl ⟨true, true, true⟩ "EXECUTE q".toList

theorem recovers_iff_execute :
    (executeAfterPathChange.refused unknownTable Duckdb.init →
        Recovers unknownTable Backend.init executeAfterPathChange) ↔
      executeAfterPathChange.prepares unknownTable Duckdb.init :=
  recovers_iff rfl executeAfterPathChange Backend.init

theorem refused_prepare_fails :
    ¬ (executeAfterPathChange.refused unknownTable Duckdb.init →
      Recovers unknownTable Backend.init executeAfterPathChange) := by
  intro recovers
  have refused : executeAfterPathChange.refused unknownTable Duckdb.init := by
    refine .inr (.inl ⟨rfl, ?_⟩)
    rw [TextRefused]
    decide
  exact absurd (recovers refused).1 (by decide)

end PgAnalytics.EngineChoice
