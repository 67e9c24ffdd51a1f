import PgAnalytics.QueryHook

/-! The utility hook: `EXECUTE`, `DEALLOCATE`, `EXPLAIN` and `CREATE VIEW` are
forwarded to DuckDB when they concern this extension's foreign tables only.
`PREPARE` and every other utility statement go to Postgres alone. -/

namespace PgAnalytics.UtilityHook
open Basics Commands DuckdbCatalog RecordBatches ArrowReader ByteSlices QueryHook

variable {κ : Type} [DecidableEq κ] {fold : String → κ}
variable {ArrayRef Cell : Type} [GetCell ArrayRef Cell]

inductive SqlAst where
  | explain (statement : List Char)
  | other
  deriving DecidableEq, Repr

/-- What surrounds the hooks: DuckDB, Postgres's search path, `sqlparser`, and how
the extension was built and started. `reads` is DuckDB's reading of a text,
`explanation` its output for an `EXPLAIN`, `elapsed` a time as printed. -/
structure Environment (fold : String → κ) (ArrayRef : Type) {Cell : Type}
    [GetCell ArrayRef Cell] where
  engine : Engine
  reads : Duckdb fold → List Char → Except String (List Statement)
  answer : Duckdb fold → QueryAnswer ArrayRef
  explanation : Except Fault (List Char)
  pgSearchPath : List String
  parseSql : List Char → Except String (List SqlAst)
  elapsed : List Char
  debugAssertions : Bool
  isPostmasterEnvironment : Bool

structure PlannedQuery where
  commandType : CmdType
  rtable : Option (List RangeTblEntry)
  deriving DecidableEq, Repr

def PlannedQuery.isDuckdb (query : PlannedQuery) : Bool :=
  query.commandType == .select && isDuckdbQuery (getQueryRelations query.rtable)

def executeAll (engine : Engine) : List Statement → Command (Duckdb fold) Fault Unit
  | [] => pure ()
  | statement :: statements => do
    execute engine statement
    executeAll engine statements

/-- `connection::execute` of a text that may hold several statements. -/
def executeText (env : Environment fold ArrayRef) (text : List Char) :
    Command (Duckdb fold) Fault Unit := do
  match env.reads (← get) text with
  | .error message => throw (.error message)
  | .ok statements => executeAll env.engine statements

def setSearchPathByPg (env : Environment fold ArrayRef) :
    Command (Backend fold ArrayRef) Fault Unit :=
  Backend.onDuck (DuckdbCatalog.setSearchPathByPg env.engine env.pgSearchPath)

/-- `searchPathMatches`: the path recorded with the plan is the current one.
`cachedPlan` is the answer of `GetCachedPlan`, which may fail to analyse. -/
structure PlanSource where
  fixedResult : Bool
  searchPathMatches : Bool
  queryString : CStr
  resultDesc : List Column
  cachedPlan : Except Fault (Option PlannedQuery)

/-- The text of the `PREPARE` is executed in DuckDB again. -/
def prepareAgain (env : Environment fold ArrayRef) (queryString : CStr) :
    Command (Backend fold ArrayRef) Fault Unit := do
  let prepareStmt ← ofResult queryString.toStr
  hand (.prepareAgain prepareStmt)
  match ← attempt (Backend.onDuck (executeText env prepareStmt)) with
  | .error fault => throw (.error ("execute prepare replan error: " ++ Fault.message fault))
  | .ok _ => pure ()

/-- DuckDB does not plan a prepared statement again when the search path changes. -/
def replan (env : Environment fold ArrayRef) (source : PlanSource) :
    Command (Backend fold ArrayRef) Fault Unit :=
  if source.searchPathMatches then pure () else prepareAgain env source.queryString

/-- `execute_query`; the answer says whether the previous hook is needed. -/
def executeQuery (env : Environment fold ArrayRef) (planSource : Except Fault (Option PlanSource))
    (dest : DestReceiver) (queryString : CStr) : Command (Backend fold ArrayRef) Fault Bool := do
  match ← ofResult planSource with
  | none => return true
  | some source =>
    if !source.fixedResult then
      return true
    else
      match ← ofResult source.cachedPlan with
      | none => return true
      | some plan =>
        if !plan.isDuckdb then
          return true
        else
          setSearchPathByPg env
          replan env source
          let query ← ofResult queryString.toStr
          let pushdown ← runInDuckdb (env.answer (← get).duck) dest source.resultDesc query
          return pushdown == .fallBack

/-- The name is not escaped. -/
def deallocateText (name : List Char) : List Char := "DEALLOCATE \"".toList ++ name ++ "\"".toList

/-- `deallocate_query`; `DEALLOCATE ALL` has no name. -/
def deallocateQuery (env : Environment fold ArrayRef) (name : Option CStr) :
    Command (Backend fold ArrayRef) Fault Bool :=
  match name with
  | none => return true
  | some name => do
    let name ← ofResult name.toStr
    let _ ← attempt (Backend.onDuck (executeText env (deallocateText name)))
    return true

/-- DuckDB's refusal of a forwarded statement is only a warning. -/
def executeOrWarn (env : Environment fold ArrayRef) (query : List Char) :
    Command (Backend fold ArrayRef) Fault Unit := do
  match ← attempt (Backend.onDuck (executeText env query)) with
  | .error fault => fallbackWarning (Fault.message fault)
  | .ok _ => pure ()

/-- `view_query`; `plans` is the definition as Postgres analyses and plans it. -/
def viewQuery (env : Environment fold ArrayRef) (plans : Except Fault (List PlannedQuery))
    (queryString : CStr) : Command (Backend fold ArrayRef) Fault Bool := do
  let plans ← ofResult plans
  if !plans.all PlannedQuery.isDuckdb then
    return true
  else
    setSearchPathByPg env
    let query ← ofResult queryString.toStr
    hand (.statement query)
    executeOrWarn env query
    return true

inductive Style where
  | postgres
  | duckdb
  deriving DecidableEq, Repr

structure ExplainState where
  analyze : Bool
  style : Style
  deriving DecidableEq, Repr

structure DefElem where
  defname : CStr
  boolean : Except Fault Bool
  string : Except Fault CStr

def parseExplainStyle (style : String) : Option Style :=
  match style with
  | "pg" => some .postgres
  | "postgres" => some .postgres
  | "duckdb" => some .duckdb
  | _ => none

def parseExplainOption (state : ExplainState) (opt : DefElem) : Except Fault ExplainState := do
  match opt.defname with
  | .invalid => throw (.error "failed to parse EXPLAIN option name: invalid utf-8 sequence")
  | .utf8 optName =>
    match String.ofList optName with
    | "analyze" => return { state with analyze := ← opt.boolean }
    | "style" =>
      match ← opt.string with
      | .invalid => throw (.error "failed to parse STYLE option: invalid utf-8 sequence")
      | .utf8 style =>
        match parseExplainStyle (String.ofList style) with
        | some style => return { state with style }
        | none => throw (.error ("unrecognized STYLE option: " ++ String.ofList style))
    | optName => throw (.error ("unrecognized EXPLAIN option \"" ++ optName ++ "\""))

/-- `parse_explain_options`; the last of several values of an option counts. -/
def parseExplainOptions (options : List DefElem) : Except Fault ExplainState :=
  options.foldlM parseExplainOption ⟨false, .postgres⟩

def parseQueryFromUtilityStmt (env : Environment fold ArrayRef) (queryString : CStr) :
    Except Fault (List Char) := do
  let queryString ← queryString.toStr
  match env.parseSql queryString with
  | .error message => throw (.error message)
  | .ok utility =>
    if env.debugAssertions && utility.length != 1 then
      throw (.panic "assertion failed: utility.len() == 1")
    else
      match utility with
      | [] => throw (.panic "index out of bounds: the len is 0 but the index is 0")
      | .explain statement :: _ => return statement
      | .other :: _ =>
        throw (.error ("unexpected utility statement: " ++ String.ofList queryString))

/-- The output in Postgres's style; the query runs only to be timed. -/
def explainPostgres (env : Environment fold ArrayRef) (analyze : Bool) (query : List Char) :
    Command (Backend fold ArrayRef) Fault (List Char) := do
  let output := "DuckDB Scan: ".toList ++ query ++ "\n".toList
  if analyze then
    setSearchPathByPg env
    hand (.explain [] query)
    Backend.onDuck (executeText env query)
    return output ++ "Execution Time: ".toList ++ env.elapsed ++ " ms\n".toList
  else
    return output

def explainDuckdb (env : Environment fold ArrayRef) (analyze : Bool) (query : List Char) :
    Command (Backend fold ArrayRef) Fault (List Char) := do
  setSearchPathByPg env
  hand (.explain (if analyze then "EXPLAIN ANALYZE " else "EXPLAIN ").toList query)
  ofResult env.explanation

def explainOutput (env : Environment fold ArrayRef) (state : ExplainState) (query : List Char) :
    Command (Backend fold ArrayRef) Fault (List Char) :=
  match state.style with
  | .postgres => explainPostgres env state.analyze query
  | .duckdb => explainDuckdb env state.analyze query

/-- `CString::new`. -/
def requireNoNul (output : List Char) : Except Fault (List Char) :=
  let initial := output.takeWhile (· != Char.ofNat 0)
  if initial = output then
    .ok output
  else
    .error (.error
      ("nul byte found in provided data at position: " ++ toString (byteLength initial)))

def explainQuery (env : Environment fold ArrayRef) (query : PlannedQuery) (options : List DefElem)
    (queryString : CStr) : Command (Backend fold ArrayRef) Fault Bool :=
  if !query.isDuckdb then
    return true
  else do
    let state ← ofResult (parseExplainOptions options)
    let query ← ofResult (parseQueryFromUtilityStmt env queryString)
    let output ← explainOutput env state query
    let output ← ofResult (requireNoNul output)
    modify fun b => { b with explained := b.explained ++ [output] }
    return false

inductive UtilityStmt where
  | prepare
  | execute (planSource : Except Fault (Option PlanSource)) (dest : DestReceiver)
  | deallocate (name : Option CStr)
  | explain (query : PlannedQuery) (options : List DefElem)
  | view (plans : Except Fault (List PlannedQuery))
  | other

def isSupportUtility : UtilityStmt → Bool
  | .explain _ _ | .view _ | .prepare | .deallocate _ | .execute _ _ => true
  | .other => false

/-- What `process_utility_hook` does for each kind of statement. -/
def needExecPrevHook (env : Environment fold ArrayRef) (stmt : UtilityStmt) (queryString : CStr) :
    Command (Backend fold ArrayRef) Fault Bool :=
  match stmt with
  | .prepare => return true
  | .execute planSource dest => executeQuery env planSource dest queryString
  | .deallocate name => deallocateQuery env name
  | .explain query options => explainQuery env query options queryString
  | .view plans => viewQuery env plans queryString
  | .other => throw (.error "unexpected statement type in utility hook")

def processUtilityHook (env : Environment fold ArrayRef) (stmt : UtilityStmt)
    (queryString : CStr) : Command (Backend fold ArrayRef) Fault Unit :=
  if !isSupportUtility stmt || !env.isPostmasterEnvironment then
    prevHook .processUtility
  else do
    if ← needExecPrevHook env stmt queryString then prevHook .processUtility

/-- DuckDB reads the string as this statement alone, or not at all. -/
def ReadAs (env : Environment fold ArrayRef) (d : Duckdb fold) (queryString : CStr)
    (statement : Statement) : Prop :=
  match queryString with
  | .invalid => True
  | .utf8 text =>
    match env.reads d text with
    | .error _ => True
    | .ok statements => statements = [statement]

instance (env : Environment fold ArrayRef) (d : Duckdb fold) (queryString : CStr)
    (statement : Statement) : Decidable (ReadAs env d queryString statement) := by
  unfold ReadAs
  split
  · exact isTrue trivial
  · split
    · exact isTrue trivial
    · exact inferInstance

theorem executeText_cases {env : Environment fold ArrayRef} {d : Duckdb fold} {text : List Char}
    {statement : Statement} (read : ReadAs env d (.utf8 text) statement) :
    (∃ d', d.apply statement = .ok d' ∧ exec (executeText env text) d = (.ok (), d')) ∨
      ∃ fault, exec (executeText env text) d = (.error fault, d) := by
  simp only [ReadAs] at read
  rw [executeText, exec_bind, exec_get]
  dsimp only
  split at read
  · exact .inr ⟨_, rfl⟩
  · simp only [read, executeAll, exec_bind, exec_execute]
    cases env.engine statement with
    | refuse message => exact .inr ⟨_, rfl⟩
    | accept | noRow =>
      cases applied : d.apply statement with
      | error message => exact .inr ⟨_, rfl⟩
      | ok d' => exact .inl ⟨d', rfl, rfl⟩

theorem viewQuery_cases (env : Environment fold ArrayRef) {plans : List PlannedQuery}
    (duckdb : plans.all PlannedQuery.isDuckdb = true) (queryString : CStr)
    (b : Backend fold ArrayRef) :
    (∃ fault b', exec (viewQuery env (.ok plans) queryString) b = (.error fault, b') ∧
        b'.duck.views = b.duck.views) ∨
      ∃ text b', queryString = .utf8 text ∧
        exec (viewQuery env (.ok plans) queryString) b = (.ok true, b') ∧
        b'.duck = (exec (executeText env text) (b.duck.onPath env.pgSearchPath)).2 := by
  have whole : exec (viewQuery env (.ok plans) queryString) b =
      exec (do
        setSearchPathByPg env
        let query ← ofResult queryString.toStr
        hand (.statement query)
        executeOrWarn env query
        return true) b := by
    rw [viewQuery, exec_bind, exec_ofResult]
    simp only [duckdb, Bool.not_true, Bool.false_eq_true, if_false]
  rw [whole, exec_bind, setSearchPathByPg, Backend.onDuck, exec_onPart]
  rcases setSearchPathByPg_cases env.engine env.pgSearchPath b.duck with ⟨fault, run⟩ | run
  · rw [run]
    exact .inl ⟨_, _, rfl, rfl⟩
  · rw [run]
    cases queryString with
    | invalid => exact .inl ⟨_, _, rfl, rfl⟩
    | utf8 text =>
      right
      simp only [CStr.toStr, exec_bind, exec_ofResult, hand, exec_modify, executeOrWarn,
        exec_attempt, Backend.onDuck, exec_onPart]
      rcases ran : exec (executeText env text) (b.duck.onPath env.pgSearchPath) with ⟨_ | _, _⟩
      · exact ⟨text, _, rfl, rfl, by rw [ran]⟩
      · exact ⟨text, _, rfl, rfl, by rw [ran]⟩

def PlanSource.pushable (source : PlanSource) : Bool :=
  source.fixedResult && match source.cachedPlan with
    | .ok (some plan) => plan.isDuckdb
    | _ => false

/-- The DuckDB statements of `prepareAgain` where the search path has changed. -/
def prepareText (env : Environment fold ArrayRef) (source : PlanSource) :
    Command (Duckdb fold) Fault Unit :=
  if source.searchPathMatches then pure () else do
    let prepareStmt ← ofResult source.queryString.toStr
    executeText env prepareStmt

def preparation (env : Environment fold ArrayRef) (source : PlanSource) :
    Command (Duckdb fold) Fault Unit := do
  DuckdbCatalog.setSearchPathByPg env.engine env.pgSearchPath
  prepareText env source

theorem replan_duck (env : Environment fold ArrayRef) (source : PlanSource)
    (b : Backend fold ArrayRef) :
    (exec (replan env source) b).2.duck = (exec (prepareText env source) b.duck).2 ∧
      ((exec (replan env source) b).1 = .ok () →
        (exec (prepareText env source) b.duck).1 = .ok ()) := by
  unfold replan prepareText
  split
  · exact ⟨rfl, fun _ => rfl⟩
  · cases source.queryString with
    | invalid => exact ⟨rfl, fun h => by cases h⟩
    | utf8 text =>
      simp only [prepareAgain, CStr.toStr, exec_bind, exec_ofResult, hand, exec_modify,
        exec_attempt, Backend.onDuck, exec_onPart]
      rcases exec (executeText env text) b.duck with ⟨_ | _, _⟩
      · exact ⟨rfl, fun h => by cases h⟩
      · exact ⟨rfl, fun _ => rfl⟩

theorem executeQuery_left (env : Environment fold ArrayRef) {source : PlanSource}
    (left : source.pushable = false) (dest : DestReceiver) (queryString : CStr)
    (b : Backend fold ArrayRef) :
    ∃ r, exec (executeQuery env (.ok (some source)) dest queryString) b = (r, b) ∧
      r ≠ .ok false := by
  rw [executeQuery, exec_bind, exec_ofResult]
  by_cases fixed : source.fixedResult
  · simp only [fixed, Bool.not_true, Bool.false_eq_true, if_false, exec_bind, exec_ofResult]
    rcases planned : source.cachedPlan with fault | _ | plan
    · exact ⟨_, rfl, by simp⟩
    · exact ⟨_, rfl, by simp⟩
    · have other : plan.isDuckdb = false := by
        simpa [PlanSource.pushable, fixed, planned] using left
      simp only [other, Bool.not_false, if_true]
      exact ⟨_, rfl, by simp⟩
  · simp only [fixed, Bool.not_false, if_true]
    exact ⟨_, rfl, by simp⟩

theorem executeQuery_pushable_eq (env : Environment fold ArrayRef) {source : PlanSource}
    (pushable : source.pushable = true) (dest : DestReceiver) (queryString : CStr)
    (b : Backend fold ArrayRef) :
    exec (executeQuery env (.ok (some source)) dest queryString) b =
      exec (do
        setSearchPathByPg env
        replan env source
        let query ← ofResult queryString.toStr
        let pushdown ← runInDuckdb (env.answer (← get).duck) dest source.resultDesc query
        return pushdown == .fallBack) b := by
  obtain ⟨fixed, plan, planned, duckdb⟩ : source.fixedResult = true ∧
      ∃ plan, source.cachedPlan = .ok (some plan) ∧ plan.isDuckdb = true := by
    unfold PlanSource.pushable at pushable
    rcases planned : source.cachedPlan with fault | _ | plan <;> simp_all
  rw [executeQuery, exec_bind, exec_ofResult]
  simp only [fixed, planned, duckdb, Bool.not_true, Bool.false_eq_true, if_false, exec_bind,
    exec_ofResult]

theorem executeQuery_pushable (env : Environment fold ArrayRef) {source : PlanSource}
    (pushable : source.pushable = true) (dest : DestReceiver) (queryString : CStr)
    (b : Backend fold ArrayRef) :
    ∃ r b', exec (executeQuery env (.ok (some source)) dest queryString) b = (r, b') ∧
      b'.duck = (exec (preparation env source) b.duck).2 ∧
      (r = .ok false → (exec (preparation env source) b.duck).1 = .ok () ∧
        ∀ message, env.answer b'.duck ≠ .notPrepared message) := by
  rw [executeQuery_pushable_eq env pushable, exec_bind, setSearchPathByPg, Backend.onDuck,
    exec_onPart, preparation, exec_bind]
  rcases DuckdbCatalog.setSearchPathByPg_cases env.engine env.pgSearchPath b.duck with
    ⟨fault, run⟩ | run
  · rw [run]
    exact ⟨_, _, rfl, rfl, fun h => by cases h⟩
  · rw [run]
    dsimp only
    obtain ⟨duck, ok⟩ := replan_duck env source { b with duck := b.duck.onPath env.pgSearchPath }
    rw [exec_bind]
    rcases replanned : exec (replan env source)
      { b with duck := b.duck.onPath env.pgSearchPath } with ⟨fault | _, b'⟩
    · rw [replanned] at duck
      exact ⟨_, _, rfl, duck, fun h => by cases h⟩
    · rw [replanned] at duck ok
      dsimp only at duck ok ⊢
      cases queryString with
      | invalid => exact ⟨_, _, rfl, duck, fun h => by cases h⟩
      | utf8 text =>
        simp only [CStr.toStr, exec_bind, exec_ofResult, exec_get]
        have same := runInDuckdb_sameDuck (env.answer b'.duck) dest source.resultDesc text b'
        rcases ran : exec (runInDuckdb (env.answer b'.duck) dest source.resultDesc text) b' with
          ⟨fault | pushdown, b''⟩
        · rw [ran] at same
          exact ⟨_, _, rfl, Eq.trans same duck, fun h => by cases h⟩
        · rw [ran] at same
          refine ⟨_, _, rfl, Eq.trans same duck, fun sent => ⟨ok rfl, fun message refused => ?_⟩⟩
          rw [show b''.duck = b'.duck from same] at refused
          have fellBack := exec_runInDuckdb_notPrepared message dest source.resultDesc text b'
          rw [← refused, ran] at fellBack
          cases fellBack
          cases sent

end PgAnalytics.UtilityHook
