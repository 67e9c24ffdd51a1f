import PgAnalytics.Executor
import PgAnalytics.NameResolution
import PgAnalytics.Runs
import PgAnalytics.UtilityHook

/-! One view of Postgres over this extension's foreign tables and the view of that
name in DuckDB. `CREATE VIEW` is forwarded and DuckDB's refusal is a warning;
`DROP VIEW`, a rollback and other backends' changes do not reach DuckDB. -/

namespace PgAnalytics.ViewMirror
open Basics Commands NameTables DuckdbCatalog ForeignTables NameResolution RecordBatches
open ArrowReader QueryHook Executor UtilityHook Runs

variable {κ : Type} [DecidableEq κ] {fold : String → κ} {schema view : String}
variable {ArrayRef Cell : Type} [GetCell ArrayRef Cell]

structure Definition where
  text : String
  plans : List PlannedQuery
  foreignOnly : plans.all PlannedQuery.isDuckdb = true

structure World (fold : String → κ) (ArrayRef : Type) {Cell : Type} [GetCell ArrayRef Cell] where
  backend : Backend fold ArrayRef
  current : Option Definition

structure Select (fold : String → κ) (ArrayRef : Type) {Cell : Type} [GetCell ArrayRef Cell] where
  env : Environment fold ArrayRef
  qualified : Bool
  disableExecutor : Bool
  desc : QueryDesc
  args : RunArgs
  answer : QueryAnswer ArrayRef
  scans : List (ForeignTable × Engine × Options)

/-- `becomes`: a rollback of this backend or a commit of another one. -/
inductive Op (fold : String → κ) (ArrayRef : Type) {Cell : Type} [GetCell ArrayRef Cell] where
  | create (orReplace : Bool) (definition : Definition) (queryString : CStr)
      (env : Environment fold ArrayRef)
  | drop (queryString : CStr) (env : Environment fold ArrayRef)
  | becomes (definition : Option Definition)
  | select (query : Select fold ArrayRef)

def uses (schema view : String) (qualified : Bool) (d : Duckdb fold) : Option ViewBody :=
  if qualified then d.view schema view
  else (d.resolve view).bind fun found => d.view found view

structure Selected where
  pushed : Bool
  used : Option ViewBody
  fellBack : Bool
  deriving DecidableEq, Repr

namespace World

def create (w : World fold ArrayRef) (definition : Definition) (queryString : CStr)
    (env : Environment fold ArrayRef) : World fold ArrayRef :=
  match exec (processUtilityHook env (.view (.ok definition.plans)) queryString) w.backend with
  | (.ok _, b) => ⟨b, some definition⟩
  | (.error _, b) => ⟨b, w.current⟩

def drop (w : World fold ArrayRef) (queryString : CStr) (env : Environment fold ArrayRef) :
    World fold ArrayRef :=
  ⟨(exec (processUtilityHook env .other queryString) w.backend).2, none⟩

/-- DuckDB prepares the query only when it finds the view. -/
def select (schema view : String) (w : World fold ArrayRef) (query : Select fold ArrayRef) :
    World fold ArrayRef × Option Selected :=
  let found := uses schema view query.qualified (w.backend.duck.onPath query.env.pgSearchPath)
  let answer := if found.isSome then query.answer
    else .notPrepared ("Table with name " ++ view ++ " does not exist")
  let (r, b) := exec (executorRun query.disableExecutor query.env.engine query.env.pgSearchPath
    answer query.desc query.args) w.backend
  let fellBack := r.isOk && b.prevHooks.length != w.backend.prevHooks.length
  ({ w with backend :=
      if fellBack then { b with duck := registerScans query.scans b.duck } else b },
    some ⟨b.handed.length != w.backend.handed.length, uses schema view query.qualified b.duck,
      fellBack⟩)

end World

def session (schema view : String) :
    Machine (World fold ArrayRef) (Op fold ArrayRef) (Option Selected)
  | w, .create orReplace definition queryString env =>
    if !orReplace && w.current.isSome then none
    else some (w.create definition queryString env, none)
  | w, .drop queryString env => w.current.map fun _ => (w.drop queryString env, none)
  | w, .becomes definition => some (⟨w.backend, definition⟩, none)
  | w, .select query => w.current.map fun _ => w.select schema view query

/-- The definition is used, or the query falls back where DuckDB has none. -/
def Selected.Uses (selected : Selected) (definition : Definition) : Prop :=
  match selected.used with
  | none => selected.fellBack
  | some body => body = .query definition.text

instance (selected : Selected) (definition : Definition) :
    Decidable (selected.Uses definition) := by
  unfold Selected.Uses
  split <;> exact inferInstance

def UsesCurrent (w : World fold ArrayRef) (_ : Op fold ArrayRef) (out : Option Selected) : Prop :=
  ∀ selected ∈ out, selected.pushed → ∀ definition ∈ w.current, selected.Uses definition

instance (w : World fold ArrayRef) (op : Op fold ArrayRef) (out : Option Selected) :
    Decidable (UsesCurrent w op out) :=
  inferInstanceAs (Decidable (∀ selected ∈ out, _ → ∀ definition ∈ w.current, _))

/-- DuckDB has no view of the name, or one with this text. -/
def Fresh (schema view : String) (d : Duckdb fold) (definition : Definition) : Prop :=
  ∀ body ∈ d.view schema view, body = .query definition.text

instance (d : Duckdb fold) (definition : Definition) :
    Decidable (Fresh schema view d definition) :=
  inferInstanceAs (Decidable (∀ body ∈ d.view schema view, _))

/-- DuckDB accepts the forwarded statement, which replaces any view of the name. -/
def replaces (env : Environment fold ArrayRef) (d : Duckdb fold) (orReplace : Bool)
    (queryString : CStr) : Bool :=
  orReplace && env.isPostmasterEnvironment && match queryString with
    | .invalid => false
    | .utf8 text => (exec (executeText env text) (d.onPath env.pgSearchPath)).1.isOk

/-- No definition is installed past a view with another text, and no `SELECT` finds
another view of the name. -/
def Settled (schema view : String) (w : World fold ArrayRef) : Op fold ArrayRef → Prop
  | .create orReplace definition queryString env =>
    (env.isPostmasterEnvironment →
      ReadAs env (w.backend.duck.onPath env.pgSearchPath) queryString
        (.createView orReplace schema view definition.text)) ∧
      (Fresh schema view w.backend.duck definition ∨
        replaces env w.backend.duck orReplace queryString)
  | .drop _ _ => True
  | .becomes definition => ∀ installed ∈ definition, Fresh schema view w.backend.duck installed
  | .select query =>
    (query.qualified = false → ∀ other ∈ query.env.pgSearchPath,
      duckdbHolds w.backend.duck view other → fold other = fold schema) ∧
      ∀ scan ∈ query.scans, ¬ (fold scan.1.schema = fold schema ∧ fold scan.1.name = fold view)

instance (w : World fold ArrayRef) : (op : Op fold ArrayRef) → Decidable (Settled schema view w op)
  | .create .. => inferInstanceAs (Decidable ((_ → ReadAs _ _ _ _) ∧ (Fresh .. ∨ _ = true)))
  | .drop .. => isTrue trivial
  | .becomes definition =>
    inferInstanceAs (Decidable (∀ installed ∈ definition, Fresh _ _ _ installed))
  | .select query => inferInstanceAs (Decidable ((_ → ∀ other ∈ query.env.pgSearchPath, _) ∧
      ∀ scan ∈ query.scans, _))

/-- The invariant: DuckDB has Postgres's view or none. -/
def Coherent (schema view : String) (w : World fold ArrayRef) : Prop :=
  ∀ definition ∈ w.current, Fresh schema view w.backend.duck definition

theorem apply_createView {d d' : Duckdb fold} {orReplace : Bool} {text : String}
    (h : d.apply (.createView orReplace schema view text) = .ok d') :
    d'.view schema view = some (.query text) := by
  simp only [Duckdb.apply] at h
  split at h
  · have erased : ({ d with views := d.views.erase (schema, view) } : Duckdb fold).view
        schema view = none := by simp [Duckdb.view_erase]
    rw [Duckdb.view_storeView_of_none h erased, if_pos ⟨rfl, rfl⟩]
  · split at h
    · cases h
    · rename_i absent
      rw [Duckdb.view_storeView_of_none h (by simpa using absent), if_pos ⟨rfl, rfl⟩]

theorem fresh_of_same {d d' : Duckdb fold} {definition : Definition}
    (same : d'.view schema view = d.view schema view) (h : Fresh schema view d definition) :
    Fresh schema view d' definition := fun body hit => h body (same ▸ hit)

theorem executeText_view {env : Environment fold ArrayRef} {d : Duckdb fold} {text : List Char}
    {orReplace : Bool} {definition : Definition}
    (read : ReadAs env d (.utf8 text) (.createView orReplace schema view definition.text)) :
    (exec (executeText env text) d).2.view schema view = some (.query definition.text) ∨
      (exec (executeText env text) d).2 = d ∧ (exec (executeText env text) d).1.isOk = false := by
  rcases executeText_cases read with ⟨d', applied, run⟩ | ⟨fault, run⟩
  · rw [run]
    exact .inl (apply_createView applied)
  · rw [run]
    exact .inr ⟨rfl, rfl⟩

theorem create_coherent {w : World fold ArrayRef} {orReplace : Bool} {definition : Definition}
    {queryString : CStr} {env : Environment fold ArrayRef} (h : Coherent schema view w)
    (settled : Settled schema view w (.create orReplace definition queryString env)) :
    Coherent schema view (w.create definition queryString env) := by
  obtain ⟨read, installs⟩ := settled
  cases postmaster : env.isPostmasterEnvironment with
  | false =>
    have skipped : w.create definition queryString env =
        ⟨(exec (prevHook .processUtility) w.backend).2, some definition⟩ := by
      rw [World.create, processUtilityHook, if_pos (by simp [postmaster])]
      rfl
    rw [skipped]
    intro installed now
    cases now
    rcases installs with fresh | replaced
    · exact fresh
    · simp [replaces, postmaster] at replaced
  | true =>
    have forwarded : processUtilityHook env (.view (.ok definition.plans)) queryString = (do
        if ← viewQuery env (.ok definition.plans) queryString then prevHook .processUtility :
          Command (Backend fold ArrayRef) Fault Unit) := by
      rw [processUtilityHook, if_neg (by simp [postmaster, isSupportUtility])]
      rfl
    rw [World.create, forwarded, exec_bind]
    rcases viewQuery_cases env definition.foreignOnly queryString w.backend with
      ⟨fault, b, run, views⟩ | ⟨text, b, rfl, run, duck⟩
    · rw [run]
      intro installed now
      exact fresh_of_same (Duckdb.view_of_views views _ _) (h installed now)
    · rw [run]
      intro installed now
      cases now
      show Fresh schema view b.duck definition
      rw [duck]
      rcases executeText_view (read postmaster) with new | ⟨unchanged, failed⟩
      · intro body hit
        exact (Option.some.inj (new.symm.trans hit)).symm
      · rcases installs with fresh | replaced
        · rw [unchanged]
          exact fresh_of_same (Duckdb.view_onPath _ _ _ _) fresh
        · simp [replaces, failed] at replaced

theorem uses_eq {w : World fold ArrayRef} {query : Select fold ArrayRef} {body : ViewBody}
    (settled : Settled schema view w (.select query))
    (used : uses schema view query.qualified (w.backend.duck.onPath query.env.pgSearchPath) =
      some body) : w.backend.duck.view schema view = some body := by
  unfold uses at used
  cases qualified : query.qualified with
  | true => simpa [qualified] using used
  | false =>
    simp only [qualified, Bool.false_eq_true, if_false, resolve_onPath] at used
    obtain ⟨found, first, hit⟩ := Option.bind_eq_some_iff.mp used
    have holds := List.find?_some first
    have key := settled.1 qualified found (List.mem_of_find?_eq_some first) holds
    rw [← w.backend.duck.view_congr key rfl]
    exact hit

theorem select_step {w : World fold ArrayRef} {query : Select fold ArrayRef}
    (h : Coherent schema view w) (settled : Settled schema view w (.select query)) :
    Coherent schema view (w.select schema view query).1 ∧
      UsesCurrent w (.select query) (w.select schema view query).2 := by
  obtain ⟨r, b, run, outcome⟩ := executorRun_cases query.disableExecutor query.env.engine
    query.env.pgSearchPath
    (if (uses schema view query.qualified (w.backend.duck.onPath query.env.pgSearchPath)).isSome
      then query.answer
      else .notPrepared ("Table with name " ++ view ++ " does not exist"))
    query.desc query.args w.backend
  have kept : b.duck.view schema view = w.backend.duck.view schema view := by
    rcases outcome with ⟨duck, -⟩ | ⟨duck, -⟩
    · rw [duck]
    · rw [duck]
      exact Duckdb.view_onPath _ _ _ _
  rw [World.select]
  simp only [run]
  constructor
  · intro definition current
    refine fresh_of_same ?_ (h definition current)
    dsimp only
    split
    · exact (registerScans_view settled.2 b.duck).trans kept
    · exact kept
  · intro selected out pushed definition current
    cases out
    rcases outcome with ⟨-, handed⟩ | ⟨duck, refused⟩
    · simp [handed] at pushed
    · rw [Selected.Uses]
      dsimp only
      rw [duck]
      cases used : uses schema view query.qualified
        (w.backend.duck.onPath query.env.pgSearchPath) with
      | none =>
        obtain ⟨rfl, prevHooks⟩ := refused _ (if_neg (by simp [used]))
        simp [prevHooks, Except.isOk, Except.toBool]
      | some body => exact h definition current body (uses_eq settled used)

theorem session_step {w w' : World fold ArrayRef} {op : Op fold ArrayRef}
    {out : Option Selected} (h : Coherent schema view w) (settled : Settled schema view w op)
    (step : session schema view w op = some (w', out)) :
    Coherent schema view w' ∧ UsesCurrent w op out := by
  cases op with
  | create orReplace definition queryString env =>
    simp only [session] at step
    split at step
    · cases step
    · cases step
      exact ⟨create_coherent h settled, fun selected hit => by cases hit⟩
  | drop queryString env =>
    obtain ⟨_, -, result⟩ := Option.map_eq_some_iff.mp step
    cases result
    refine ⟨fun definition current => ?_, fun selected hit => by cases hit⟩
    cases current
  | becomes definition =>
    cases step
    exact ⟨settled, fun selected hit => by cases hit⟩
  | select query =>
    obtain ⟨_, -, result⟩ := Option.map_eq_some_iff.mp step
    have moved := select_step h settled
    rw [result] at moved
    exact moved

/-- Postgres-view coherence: in a run that installs no definition past a view with
another text, every pushed-down `SELECT` uses Postgres's current definition, or
falls back to Postgres where DuckDB has none. -/
theorem selects_use_current (schema view : String) (b : Backend fold ArrayRef)
    (ops : List (Op fold ArrayRef))
    (settled : Along (session schema view) (Settled schema view) ⟨b, none⟩ ops) :
    Always (session schema view) UsesCurrent ⟨b, none⟩ ops := by
  refine always_of_invariant (Coherent schema view) ?_ ?_ ops settled
  · intro w op w' out h ok step
    exact session_step h ok step
  · intro definition current
    cases current

def allOrders : String := "SELECT id FROM orders"

def laterOrders : String := "SELECT id FROM orders WHERE id > 1"

/-- DuckDB's reading of the statements below; a new view goes to the first schema
of the path. -/
def reads (d : Duckdb fold) (text : List Char) : Except String (List Statement) :=
  if text = "CREATE VIEW v AS ".toList ++ allOrders.toList then
    .ok [.createView false (d.searchPath.headD "main") "v" allOrders]
  else if text = "CREATE VIEW v AS ".toList ++ laterOrders.toList then
    .ok [.createView false (d.searchPath.headD "main") "v" laterOrders]
  else if text = "CREATE OR REPLACE VIEW v AS ".toList ++ laterOrders.toList then
    .ok [.createView true (d.searchPath.headD "main") "v" laterOrders]
  else .error "Parser Error"

def duckdb : Environment (id : String → String) Int32Array where
  engine := accepting
  reads := reads
  answer := fun _ => .answered .empty
  explanation := .ok []
  pgSearchPath := ["public"]
  parseSql := fun _ => .ok []
  elapsed := []
  debugAssertions := false
  isPostmasterEnvironment := true

def ordersRelation : Option (List RangeTblEntry) :=
  some [.relation ⟨true, "parquet_fdw_handler"⟩]

def createV (orReplace : Bool) (keywords body : String) : Op (id : String → String) Int32Array :=
  .create orReplace ⟨body, [⟨.select, ordersRelation⟩], by decide⟩
    (.utf8 (keywords.toList ++ body.toList)) duckdb

def selectV : Op (id : String → String) Int32Array :=
  .select
    { env := duckdb
      qualified := false
      disableExecutor := false
      desc :=
        { stmtLocation := 0, stmtLen := 0, rtable := ordersRelation, operation := .select
          sourceText := .utf8 "SELECT * FROM v".toList, tupDesc := [⟨"id", INT4OID⟩]
          dest := ⟨true, true, true⟩ }
      args := ⟨.forward, 0, true⟩
      answer := .answered .empty
      scans := [] }

def ordersTable : ForeignTable :=
  ⟨"public", "orders", "parquet_server", .parquet, [("files", "a.parquet")]⟩

def scanned : Backend (id : String → String) Int32Array :=
  ⟨registerScans [(ordersTable, accepting, [])] Duckdb.init, Globals.init, Output.empty, [], [],
    [], []⟩

theorem selects_use_current_replaced :
    Always (session "public" "v") UsesCurrent ⟨scanned, none⟩
      [createV false "CREATE VIEW v AS " allOrders, selectV,
        createV true "CREATE OR REPLACE VIEW v AS " laterOrders, selectV] :=
  selects_use_current "public" "v" scanned _ (by decide +kernel)

theorem recreated_view_uses_old_definition :
    ¬ Always (session "public" "v") UsesCurrent ⟨scanned, none⟩
      [createV false "CREATE VIEW v AS " allOrders, .drop (.utf8 "DROP VIEW v".toList) duckdb,
        createV false "CREATE VIEW v AS " laterOrders, selectV] := by
  decide +kernel

end PgAnalytics.ViewMirror
