import PgAnalytics.ForeignTables
import PgAnalytics.Runs
import PgAnalytics.UtilityHook

/-! Postgres's prepared statements and DuckDB's. DuckDB prepares a statement only
when an `EXECUTE` finds that the search path has changed, and forgets it only by
a `DEALLOCATE` with a name; `PREPARE` and `DEALLOCATE ALL` do not reach it. -/

namespace PgAnalytics.PreparedStatements
open Basics Commands NameTables DuckdbCatalog ForeignTables RecordBatches ArrowReader QueryHook
open UtilityHook Runs

variable {κ : Type} [DecidableEq κ] {fold : String → κ}
variable {ArrayRef Cell : Type} [GetCell ArrayRef Cell]

/-- `recorded`: the search path under which the statement was last analysed, none
when that analysis failed. `queryString` is the string that held the `PREPARE`. -/
structure PgPrepared where
  queryString : CStr
  body : String
  resultDesc : List Column
  recorded : Option (List String)

structure World (fold : String → κ) (ArrayRef : Type) {Cell : Type} [GetCell ArrayRef Cell] where
  backend : Backend fold ArrayRef
  prepared : NameTable (id : String → String) PgPrepared
  searchPath : List String

structure Call (fold : String → κ) (ArrayRef : Type) {Cell : Type} [GetCell ArrayRef Cell] where
  env : Environment fold ArrayRef
  cachedPlan : Except Fault (Option PlannedQuery)
  dest : DestReceiver
  queryString : CStr
  scans : List (ForeignTable × Engine × Options)

inductive Op (fold : String → κ) (ArrayRef : Type) {Cell : Type} [GetCell ArrayRef Cell] where
  | prepare (name : String) (queryString : CStr) (body : String) (resultDesc : List Column)
  | execute (name : String) (call : Call fold ArrayRef)
  | deallocate (name : String) (env : Environment fold ArrayRef)
  | deallocateAll (env : Environment fold ArrayRef)
  | setSearchPath (path : List String)

namespace World

def start (b : Backend fold ArrayRef) (searchPath : List String) : World fold ArrayRef where
  backend := { b with duck := { b.duck with prepared := NameTable.empty } }
  prepared := NameTable.empty
  searchPath := searchPath

def planSource (w : World fold ArrayRef) (stmt : PgPrepared) (call : Call fold ArrayRef) :
    PlanSource where
  fixedResult := true
  searchPathMatches := decide (stmt.recorded = some w.searchPath)
  queryString := stmt.queryString
  resultDesc := stmt.resultDesc
  cachedPlan := call.cachedPlan

/-- DuckDB executes a statement only when it holds it. -/
def environment (w : World fold ArrayRef) (name : String) (call : Call fold ArrayRef) :
    Environment fold ArrayRef :=
  { call.env with
    pgSearchPath := w.searchPath
    answer := fun d =>
      if (d.preparedAs name).isSome then call.env.answer d
      else .notPrepared ("Prepared statement \"" ++ name ++ "\" does not exist") }

/-- `GetCachedPlan` analyses the statement under the current path and records it. -/
def analysed (w : World fold ArrayRef) (stmt : PgPrepared) (call : Call fold ArrayRef) :
    PgPrepared :=
  { stmt with recorded := match call.cachedPlan with
      | .ok _ => some w.searchPath
      | .error _ => none }

/-- An `EXECUTE`; the answer is DuckDB's state when it answered the statement. -/
def execute (w : World fold ArrayRef) (name : String) (stmt : PgPrepared)
    (call : Call fold ArrayRef) : World fold ArrayRef × Option (Duckdb fold) :=
  let w' := { w with prepared := w.prepared.replace name (w.analysed stmt call) }
  match exec (needExecPrevHook (w.environment name call)
    (.execute (.ok (some (w.planSource stmt call))) call.dest) call.queryString) w.backend with
  | (.ok false, b) => ({ w' with backend := b }, some b.duck)
  | (.ok true, b) =>
    ({ w' with backend := { b with duck := registerScans call.scans b.duck } }, none)
  | (.error _, b) => ({ w' with backend := b }, none)

/-- The hook's part of a `DEALLOCATE` comes before Postgres's own. -/
def deallocate (w : World fold ArrayRef) (name : Option String) (env : Environment fold ArrayRef) :
    Backend fold ArrayRef :=
  (exec (needExecPrevHook env (.deallocate (name.map fun name => .utf8 name.toList)) (.utf8 []))
    w.backend).2

end World

/-- The commands Postgres accepts. A statement whose last analysis failed has no
recorded path, and the hook follows a null pointer, which ends the backend. -/
def session : Machine (World fold ArrayRef) (Op fold ArrayRef) (Option (Duckdb fold))
  | w, .prepare name queryString body resultDesc =>
    if (w.prepared.find name).isSome then none
    else
      let stmt : PgPrepared := ⟨queryString, body, resultDesc, some w.searchPath⟩
      some ({ w with prepared := w.prepared.insertNew name stmt }, none)
  | w, .execute name call =>
    ((w.prepared.lookup name).filter (·.recorded.isSome)).map fun stmt => w.execute name stmt call
  | w, .deallocate name env =>
    some ({ w with
      backend := w.deallocate (some name) env
      prepared := w.prepared.erase name }, none)
  | w, .deallocateAll env =>
    some ({ w with backend := w.deallocate none env, prepared := NameTable.empty }, none)
  | w, .setSearchPath path => some ({ w with searchPath := path }, none)

/-- DuckDB answers with Postgres's text, prepared under the current search path
as far as DuckDB knows its schemas. -/
def AnswersCurrent (w : World fold ArrayRef) (op : Op fold ArrayRef)
    (answered : Option (Duckdb fold)) : Prop :=
  match op with
  | .execute name _ => ∀ d ∈ answered, d.preparedAs name =
      (w.prepared.lookup name).map fun stmt => ⟨stmt.body, d.knownPath w.searchPath⟩
  | _ => True

instance (w : World fold ArrayRef) (op : Op fold ArrayRef) (answered : Option (Duckdb fold)) :
    Decidable (AnswersCurrent w op answered) := by
  cases op with
  | execute name call => exact inferInstanceAs (Decidable (∀ d ∈ answered, _))
  | prepare | deallocate | deallocateAll | setSearchPath => exact isTrue trivial

/-- DuckDB holds nothing under the name, or this text prepared under this path. -/
def Fresh (d : Duckdb fold) (name body : String) (path : List String) : Prop :=
  ∀ held ∈ d.preparedAs name, held = ⟨body, d.knownPath path⟩

instance (d : Duckdb fold) (name body : String) (path : List String) :
    Decidable (Fresh d name body path) :=
  inferInstanceAs (Decidable (∀ held ∈ d.preparedAs name, _))

def Succeeds {σ : Type} (c : Command σ Fault Unit) (s : σ) : Bool :=
  match (exec c s).1 with
  | .ok _ => true
  | .error _ => false

structure Replans (w : World fold ArrayRef) (name : String) (stmt : PgPrepared)
    (call : Call fold ArrayRef) : Prop where
  read : ReadAs call.env (w.backend.duck.onPath w.searchPath) stmt.queryString
    (.prepare name stmt.body)
  alone : ∀ other ∈ w.prepared.entries, fold other.1 = fold name → other.1 = name
  again : ((w.planSource stmt call).pushable = true ∧
      Succeeds (preparation (w.environment name call) (w.planSource stmt call)) w.backend.duck) ∨
    Fresh w.backend.duck name stmt.body w.searchPath

instance (w : World fold ArrayRef) (name : String) (stmt : PgPrepared)
    (call : Call fold ArrayRef) : Decidable (Replans w name stmt call) :=
  decidable_of_iff (_ ∧ _ ∧ _) ⟨fun ⟨a, b, c⟩ => ⟨a, b, c⟩, fun ⟨a, b, c⟩ => ⟨a, b, c⟩⟩

/-- The FDW scans of a fallback make no schema known on a path under which DuckDB
holds a statement, or may have prepared this one. -/
def ScansKnown (w : World fold ArrayRef) (stmt : PgPrepared) (call : Call fold ArrayRef) : Prop :=
  ∀ scan ∈ call.scans, w.backend.duck.knows scan.1.schema ∨
    ((stmt.recorded = some w.searchPath ∨ scan.1.schema ∉ w.searchPath) ∧
      ∀ other ∈ w.prepared.entries, (w.backend.duck.preparedAs other.1).isSome →
        ∀ path ∈ other.2.recorded, scan.1.schema ∉ path)

instance (w : World fold ArrayRef) (stmt : PgPrepared) (call : Call fold ArrayRef) :
    Decidable (ScansKnown w stmt call) :=
  inferInstanceAs (Decidable (∀ scan ∈ call.scans, _))

/-- DuckDB reads the forwarded `DEALLOCATE` as one, or not at all. -/
def readAsDeallocate (env : Environment fold ArrayRef) (d : Duckdb fold) (name : String) : Bool :=
  match env.reads d (deallocateText name.toList) with
  | .error _ | .ok [.deallocate _] => true
  | _ => false

/-- No statement is prepared in Postgres past another that DuckDB holds. -/
def Settled (w : World fold ArrayRef) : Op fold ArrayRef → Prop
  | .prepare name _ body _ => Fresh w.backend.duck name body w.searchPath
  | .execute name call => ∀ stmt ∈ w.prepared.lookup name,
    (call.cachedPlan.isOk → stmt.recorded ≠ some w.searchPath → Replans w name stmt call) ∧
      ScansKnown w stmt call
  | .deallocate name env => readAsDeallocate env w.backend.duck name
  | _ => True

instance (w : World fold ArrayRef) : (op : Op fold ArrayRef) → Decidable (Settled w op)
  | .prepare name _ body _ => inferInstanceAs (Decidable (Fresh w.backend.duck name body _))
  | .execute name call => inferInstanceAs (Decidable (∀ stmt ∈ w.prepared.lookup name,
      (call.cachedPlan.isOk → _ → Replans w name stmt call) ∧ ScansKnown w stmt call))
  | .deallocate name env => inferInstanceAs (Decidable (readAsDeallocate env _ name = true))
  | .deallocateAll _ | .setSearchPath _ => isTrue trivial

/-- The invariant: what DuckDB holds under a name is Postgres's statement, prepared
under the path that Postgres recorded for it. -/
def Coherent (w : World fold ArrayRef) : Prop :=
  ∀ name stmt, w.prepared.lookup name = some stmt →
    ∀ path ∈ stmt.recorded, Fresh w.backend.duck name stmt.body path

theorem start_coherent (b : Backend fold ArrayRef) (searchPath : List String) :
    Coherent (World.start b searchPath) := by
  intro name stmt found
  cases found

theorem fresh_congr {d d' : Duckdb fold} {name body : String} {path : List String}
    (held : d'.preparedAs name = d.preparedAs name)
    (known : (d.preparedAs name).isSome → ∀ schema ∈ path, d'.knows schema = d.knows schema)
    (h : Fresh d name body path) : Fresh d' name body path := by
  intro prepared hit
  rw [held] at hit
  rw [h prepared hit, Duckdb.knownPath_congr (known (Option.isSome_of_mem hit))]

theorem prepareText_cases {env : Environment fold ArrayRef} {source : PlanSource} {d : Duckdb fold}
    {name body : String} (changed : source.searchPathMatches = false)
    (read : ReadAs env d source.queryString (.prepare name body)) :
    exec (prepareText env source) d =
        (.ok (), { d with prepared := d.prepared.replace name ⟨body, d.searchPath⟩ }) ∨
      ∃ fault, exec (prepareText env source) d = (.error fault, d) := by
  simp only [prepareText, changed, Bool.false_eq_true, if_false]
  cases string : source.queryString with
  | invalid => exact .inr ⟨_, rfl⟩
  | utf8 text =>
    rcases executeText_cases (string ▸ read) with ⟨d', applied, run⟩ | failed
    · cases applied
      exact .inl run
    · exact .inr failed

structure Hooked (w : World fold ArrayRef) (name : String) (stmt : PgPrepared)
    (call : Call fold ArrayRef) (d : Duckdb fold) : Prop where
  schemas : d.schemas = w.backend.duck.schemas
  held : ∀ other, d.preparedAs other = w.backend.duck.preparedAs other ∨
    (call.cachedPlan.isOk ∧ stmt.recorded ≠ some w.searchPath ∧ fold other = fold name ∧
      d.preparedAs other = some ⟨stmt.body, w.backend.duck.knownPath w.searchPath⟩)
  again : stmt.recorded ≠ some w.searchPath → (w.planSource stmt call).pushable = true →
    Succeeds (preparation (w.environment name call) (w.planSource stmt call)) w.backend.duck →
    d.preparedAs name = some ⟨stmt.body, w.backend.duck.knownPath w.searchPath⟩

theorem Hooked.of_unprepared {w : World fold ArrayRef} {name : String} {stmt : PgPrepared}
    {call : Call fold ArrayRef} {d : Duckdb fold} (schemas : d.schemas = w.backend.duck.schemas)
    (prepared : d.prepared = w.backend.duck.prepared)
    (failed : stmt.recorded ≠ some w.searchPath → (w.planSource stmt call).pushable = true →
      Succeeds (preparation (w.environment name call) (w.planSource stmt call))
        w.backend.duck = false) : Hooked w name stmt call d where
  schemas := schemas
  held := fun other => .inl (by rw [Duckdb.preparedAs, prepared]; rfl)
  again := fun changed pushable succeeded => by
    rw [failed changed pushable] at succeeded
    cases succeeded

theorem preparation_hooked {w : World fold ArrayRef} {name : String} {stmt : PgPrepared}
    {call : Call fold ArrayRef} (planned : call.cachedPlan.isOk)
    (read : stmt.recorded ≠ some w.searchPath →
      ReadAs call.env (w.backend.duck.onPath w.searchPath) stmt.queryString
        (.prepare name stmt.body)) :
    Hooked w name stmt call
      (exec (preparation (w.environment name call) (w.planSource stmt call)) w.backend.duck).2 := by
  have set := setSearchPathByPg_cases call.env.engine w.searchPath w.backend.duck
  rcases set with ⟨fault, set⟩ | set
  · have failed : exec (preparation (w.environment name call) (w.planSource stmt call))
        w.backend.duck = (.error fault, w.backend.duck) := exec_bind_error set
    rw [failed]
    exact .of_unprepared rfl rfl fun _ _ => by rw [Succeeds, failed]
  · have rest : exec (preparation (w.environment name call) (w.planSource stmt call))
        w.backend.duck = exec (prepareText (w.environment name call) (w.planSource stmt call))
          (w.backend.duck.onPath w.searchPath) := exec_bind_ok set
    by_cases changed : stmt.recorded = some w.searchPath
    · have unprepared : exec (prepareText (w.environment name call) (w.planSource stmt call))
          (w.backend.duck.onPath w.searchPath) = (.ok (), w.backend.duck.onPath w.searchPath) := by
        have same : (w.planSource stmt call).searchPathMatches = true := decide_eq_true changed
        rw [prepareText, if_pos same, exec_pure]
      rw [rest, unprepared]
      exact .of_unprepared rfl rfl fun other => absurd changed other
    · have differs : (w.planSource stmt call).searchPathMatches = false := decide_eq_false changed
      have read' : ReadAs (w.environment name call) (w.backend.duck.onPath w.searchPath)
          (w.planSource stmt call).queryString (.prepare name stmt.body) := read changed
      rcases prepareText_cases differs read' with prepared | ⟨fault, prepared⟩
      · rw [rest, prepared]
        have held : ∀ other, Duckdb.preparedAs { w.backend.duck.onPath w.searchPath with
            prepared := w.backend.duck.prepared.replace name
              ⟨stmt.body, w.backend.duck.knownPath w.searchPath⟩ } other =
            if fold other = fold name then
              some ⟨stmt.body, w.backend.duck.knownPath w.searchPath⟩
            else w.backend.duck.preparedAs other := fun other => NameTable.lookup_replace _ _ _ _
        refine ⟨rfl, fun other => ?_, fun _ _ _ => (held name).trans (if_pos rfl)⟩
        by_cases same : fold other = fold name
        · exact .inr ⟨planned, changed, same, (held other).trans (if_pos same)⟩
        · exact .inl ((held other).trans (if_neg same))
      · rw [rest, prepared]
        exact .of_unprepared rfl rfl fun _ _ => by rw [Succeeds, rest, prepared]

omit [DecidableEq κ] in
theorem isOk_of_pushable {w : World fold ArrayRef} {stmt : PgPrepared} {call : Call fold ArrayRef}
    (pushable : (w.planSource stmt call).pushable = true) : call.cachedPlan.isOk := by
  cases plan : call.cachedPlan with
  | ok plan => rfl
  | error fault => simp [PlanSource.pushable, World.planSource, plan] at pushable

/-- The outcome of an `EXECUTE`: what the hook did to DuckDB, and an answer from
DuckDB only after it was prepared and held the statement. -/
theorem execute_cases {w : World fold ArrayRef} {name : String} {stmt : PgPrepared}
    {call : Call fold ArrayRef} (read : call.cachedPlan.isOk → stmt.recorded ≠ some w.searchPath →
      ReadAs call.env (w.backend.duck.onPath w.searchPath) stmt.queryString
        (.prepare name stmt.body)) :
    ∃ b, Hooked w name stmt call b.duck ∧
      ((∃ scans ⊆ call.scans, w.execute name stmt call =
          ({ w with
            prepared := w.prepared.replace name (w.analysed stmt call)
            backend := { b with duck := registerScans scans b.duck } }, none)) ∨
        (w.execute name stmt call =
            ({ w with prepared := w.prepared.replace name (w.analysed stmt call), backend := b },
              some b.duck) ∧
          (b.duck.preparedAs name).isSome ∧ (w.planSource stmt call).pushable = true ∧
          Succeeds (preparation (w.environment name call) (w.planSource stmt call))
            w.backend.duck)) := by
  have hook : needExecPrevHook (w.environment name call)
      (.execute (.ok (some (w.planSource stmt call))) call.dest) call.queryString =
      executeQuery (w.environment name call) (.ok (some (w.planSource stmt call))) call.dest
        call.queryString := rfl
  cases pushable : (w.planSource stmt call).pushable with
  | false =>
    obtain ⟨r, run, left⟩ := executeQuery_left (w.environment name call) pushable call.dest
      call.queryString w.backend
    refine ⟨w.backend, .of_unprepared rfl rfl fun _ other => ?_, .inl ?_⟩
    · rw [pushable] at other
      cases other
    · rw [World.execute, hook, run]
      rcases r with fault | _ | _
      · exact ⟨[], by simp, rfl⟩
      · exact absurd rfl left
      · exact ⟨call.scans, List.Subset.refl _, rfl⟩
  | true =>
    obtain ⟨r, b, run, duck, answered⟩ := executeQuery_pushable (w.environment name call) pushable
      call.dest call.queryString w.backend
    have planned := isOk_of_pushable pushable
    refine ⟨b, duck ▸ preparation_hooked planned (read planned), ?_⟩
    rw [World.execute, hook, run]
    rcases r with fault | _ | _
    · exact .inl ⟨[], by simp, rfl⟩
    · obtain ⟨prepared, notRefused⟩ := answered rfl
      refine .inr ⟨rfl, ?_, rfl, by rw [Succeeds, prepared]⟩
      by_contra absent
      exact notRefused _ (if_neg absent)
    · exact .inl ⟨call.scans, List.Subset.refl _, rfl⟩

omit [DecidableEq κ] in
theorem analysed_recorded {w : World fold ArrayRef} {stmt : PgPrepared} {call : Call fold ArrayRef}
    {path : List String} (h : path ∈ (w.analysed stmt call).recorded) :
    call.cachedPlan.isOk ∧ path = w.searchPath := by
  unfold World.analysed at h
  cases plan : call.cachedPlan with
  | error fault => simp [plan] at h
  | ok plan' =>
    have same : w.searchPath = path := by simpa [plan] using h
    exact ⟨rfl, same.symm⟩

theorem hooked_fresh_self {w : World fold ArrayRef} {name : String} {stmt : PgPrepared}
    {call : Call fold ArrayRef} {d : Duckdb fold} (h : Coherent w)
    (found : w.prepared.lookup name = some stmt)
    (replans : stmt.recorded ≠ some w.searchPath → Replans w name stmt call)
    (hooked : Hooked w name stmt call d) : Fresh d name stmt.body w.searchPath := by
  have known : d.knownPath w.searchPath = w.backend.duck.knownPath w.searchPath :=
    Duckdb.knownPath_congr fun schema _ => Duckdb.knows_congr hooked.schemas schema
  have before : d.preparedAs name = w.backend.duck.preparedAs name →
      Fresh w.backend.duck name stmt.body w.searchPath → Fresh d name stmt.body w.searchPath := by
    intro same fresh held hit
    rw [known, fresh held (same ▸ hit)]
  have new : d.preparedAs name = some ⟨stmt.body, w.backend.duck.knownPath w.searchPath⟩ →
      Fresh d name stmt.body w.searchPath := by
    intro prepared held hit
    rw [known]
    exact (Option.some.inj (prepared.symm.trans hit)).symm
  by_cases changed : stmt.recorded = some w.searchPath
  · rcases hooked.held name with same | ⟨-, other, -⟩
    · exact before same (h name stmt found w.searchPath changed)
    · exact absurd changed other
  · rcases (replans changed).again with ⟨pushable, succeeded⟩ | fresh
    · exact new (hooked.again changed pushable succeeded)
    · rcases hooked.held name with same | ⟨-, -, -, prepared⟩
      · exact before same fresh
      · exact new prepared

theorem hooked_fresh_other {w : World fold ArrayRef} {name other : String}
    {stmt stmt' : PgPrepared} {call : Call fold ArrayRef} {d : Duckdb fold} (h : Coherent w)
    (replans : call.cachedPlan.isOk → stmt.recorded ≠ some w.searchPath → Replans w name stmt call)
    (hooked : Hooked w name stmt call d) (different : other ≠ name)
    (found : w.prepared.lookup other = some stmt') :
    d.preparedAs other = w.backend.duck.preparedAs other ∧
      ∀ path ∈ stmt'.recorded, Fresh d other stmt'.body path := by
  have same : d.preparedAs other = w.backend.duck.preparedAs other := by
    rcases hooked.held other with same | ⟨planned, changed, taken, -⟩
    · exact same
    · obtain ⟨entry, mem, key, -⟩ := NameTable.exists_mem_of_lookup found
      have spelled : entry.1 = other := key
      rw [← spelled] at taken different
      exact absurd ((replans planned changed).alone entry mem taken) different
  exact ⟨same, fun path recorded => fresh_congr same
    (fun _ schema _ => Duckdb.knows_congr hooked.schemas schema)
    (h other stmt' found path recorded)⟩

theorem execute_coherent {w : World fold ArrayRef} {name : String} {stmt : PgPrepared}
    {call : Call fold ArrayRef} {b : Backend fold ArrayRef}
    {scans : List (ForeignTable × Engine × Options)} (h : Coherent w)
    (found : w.prepared.lookup name = some stmt)
    (replans : call.cachedPlan.isOk → stmt.recorded ≠ some w.searchPath → Replans w name stmt call)
    (known : ScansKnown w stmt call) (hooked : Hooked w name stmt call b.duck)
    (scanned : scans ⊆ call.scans) :
    Coherent ({ w with
      prepared := w.prepared.replace name (w.analysed stmt call)
      backend := { b with duck := registerScans scans b.duck } } : World fold ArrayRef) := by
  have extended := registerScans_extends scans b.duck
  have held : ∀ other, (registerScans scans b.duck).preparedAs other = b.duck.preparedAs other :=
    fun other => by rw [Duckdb.preparedAs, extended.prepared]; rfl
  -- a schema that only the scans make known
  have new : ∀ schema, (∀ scan ∈ scans, scan.1.schema = schema →
      w.backend.duck.knows scan.1.schema) →
      (registerScans scans b.duck).knows schema = b.duck.knows schema := by
    intro schema old
    have same : b.duck.knows schema = w.backend.duck.knows schema :=
      Duckdb.knows_congr hooked.schemas schema
    refine Bool.eq_iff_iff.mpr ⟨fun later => ?_, extended.old schema⟩
    rcases extended.new schema later with now | added
    · exact now
    · obtain ⟨scan, mem, rfl⟩ := List.mem_map.mp added
      rw [same]
      exact old scan mem rfl
  intro other stmt' found' path recorded
  have looked : (if other = name then some (w.analysed stmt call) else w.prepared.lookup other) =
      some stmt' := (NameTable.lookup_replace _ _ _ _).symm.trans found'
  by_cases self : other = name
  · subst self
    rw [if_pos rfl] at looked
    cases looked
    obtain ⟨planned, rfl⟩ := analysed_recorded recorded
    have fresh := hooked_fresh_self h found (replans planned) hooked
    refine fresh_congr (held other) (fun isHeld schema onPath => new schema fun scan mem same => ?_)
      fresh
    rcases known scan (scanned mem) with old | ⟨changed, others⟩
    · exact old
    · rcases changed with unchanged | off
      · rcases hooked.held other with before | ⟨-, changed, -⟩
        · obtain ⟨entry, stored, key, value⟩ := NameTable.exists_mem_of_lookup found
          have spelled : entry.1 = other := key
          rw [before, ← spelled] at isHeld
          have off := others entry stored isHeld w.searchPath (by rw [value]; exact unchanged)
          exact absurd (same ▸ onPath) off
        · exact absurd unchanged changed
      · exact absurd (same ▸ onPath) off
  · rw [if_neg self] at looked
    obtain ⟨before, fresh⟩ := hooked_fresh_other h replans hooked self looked
    refine fresh_congr (held other) (fun isHeld schema onPath => new schema fun scan mem same => ?_)
      (fresh path recorded)
    rcases known scan (scanned mem) with old | ⟨-, others⟩
    · exact old
    · obtain ⟨entry, stored, key, rfl⟩ := NameTable.exists_mem_of_lookup looked
      have spelled : entry.1 = other := key
      rw [before, ← spelled] at isHeld
      exact absurd (same ▸ onPath) (others entry stored isHeld path recorded)

theorem execute_answersCurrent {w : World fold ArrayRef} {name : String} {stmt : PgPrepared}
    {call : Call fold ArrayRef} {d : Duckdb fold} (h : Coherent w)
    (found : w.prepared.lookup name = some stmt)
    (replans : stmt.recorded ≠ some w.searchPath → Replans w name stmt call)
    (hooked : Hooked w name stmt call d) (isHeld : (d.preparedAs name).isSome) :
    AnswersCurrent w (.execute name call) (some d) := by
  intro d' answered
  cases answered
  obtain ⟨held, hit⟩ := Option.isSome_iff_exists.mp isHeld
  rw [hit, found, hooked_fresh_self h found replans hooked held hit]
  rfl

theorem deallocate_duck (w : World fold ArrayRef) (name : String)
    (env : Environment fold ArrayRef) :
    (w.deallocate (some name) env).duck =
      (exec (executeText env (deallocateText name.toList)) w.backend.duck).2 := rfl

omit [DecidableEq κ] in
theorem readAs_of_readAsDeallocate {env : Environment fold ArrayRef} {d : Duckdb fold}
    {name : String} (read : readAsDeallocate env d name = true) :
    ∃ gone, ReadAs env d (.utf8 (deallocateText name.toList)) (.deallocate gone) := by
  unfold readAsDeallocate at read
  split at read
  · rename_i message unread
    exact ⟨name, by simp only [ReadAs, unread]⟩
  · rename_i gone known
    exact ⟨gone, by simp only [ReadAs, known]⟩
  · cases read

theorem deallocate_prepared {w : World fold ArrayRef} {name : String}
    {env : Environment fold ArrayRef} (read : readAsDeallocate env w.backend.duck name = true) :
    (w.deallocate (some name) env).duck.schemas = w.backend.duck.schemas ∧
      ∀ other, (w.deallocate (some name) env).duck.preparedAs other =
          w.backend.duck.preparedAs other ∨
        (w.deallocate (some name) env).duck.preparedAs other = none := by
  obtain ⟨gone, readAs⟩ := readAs_of_readAsDeallocate read
  rw [deallocate_duck]
  rcases executeText_cases readAs with ⟨d, applied, run⟩ | ⟨fault, run⟩
  · rw [run]
    cases applied
    have erased : ∀ other, ({ w.backend.duck with
        prepared := w.backend.duck.prepared.erase gone } : Duckdb fold).preparedAs other =
        if fold other = fold gone then none else w.backend.duck.preparedAs other :=
      fun other => NameTable.lookup_erase _ _ _
    refine ⟨rfl, fun other => ?_⟩
    by_cases same : fold other = fold gone
    · exact .inr ((erased other).trans (if_pos same))
    · exact .inl ((erased other).trans (if_neg same))
  · rw [run]
    exact ⟨rfl, fun other => .inl rfl⟩

theorem deallocate_coherent {w : World fold ArrayRef} {name : String}
    {env : Environment fold ArrayRef} (h : Coherent w)
    (read : readAsDeallocate env w.backend.duck name = true) :
    Coherent ({ w with
      backend := w.deallocate (some name) env
      prepared := w.prepared.erase name } : World fold ArrayRef) := by
  obtain ⟨schemas, held⟩ := deallocate_prepared read
  intro other stmt found path recorded
  have looked : (if other = name then none else w.prepared.lookup other) = some stmt :=
    (NameTable.lookup_erase _ _ _).symm.trans found
  split at looked
  · cases looked
  · rcases held other with same | none
    · exact fresh_congr same (fun _ schema _ => Duckdb.knows_congr schemas schema)
        (h other stmt looked path recorded)
    · intro prepared hit
      rw [none] at hit
      cases hit

theorem prepare_coherent {w : World fold ArrayRef} {name : String} {stmt : PgPrepared}
    (h : Coherent w) (free : w.prepared.find name = none)
    (recorded : stmt.recorded = some w.searchPath)
    (fresh : Fresh w.backend.duck name stmt.body w.searchPath) :
    Coherent ({ w with prepared := w.prepared.insertNew name stmt } : World fold ArrayRef) := by
  intro other stmt' found path recorded'
  have looked : (if other = name then some stmt else w.prepared.lookup other) = some stmt' :=
    (NameTable.lookup_insertNew_of_none _ free _).symm.trans found
  split at looked
  · rename_i self
    subst self
    cases looked
    rw [recorded] at recorded'
    cases recorded'
    exact fresh
  · exact h other stmt' looked path recorded'

theorem session_step {w w' : World fold ArrayRef} {op : Op fold ArrayRef}
    {answered : Option (Duckdb fold)} (h : Coherent w) (settled : Settled w op)
    (step : session w op = some (w', answered)) :
    Coherent w' ∧ AnswersCurrent w op answered := by
  cases op with
  | prepare name queryString body resultDesc =>
    simp only [session] at step
    split at step
    · cases step
    · rename_i free
      cases step
      exact ⟨prepare_coherent h (by simpa using free) rfl settled, trivial⟩
  | execute name call =>
    obtain ⟨stmt, found, result⟩ := Option.map_eq_some_iff.mp step
    have found : w.prepared.lookup name = some stmt := (Option.filter_eq_some_iff.mp found).1
    obtain ⟨replans, known⟩ := settled stmt found
    obtain ⟨b, hooked, ⟨scans, scanned, run⟩ | ⟨run, isHeld, pushable, -⟩⟩ :=
      execute_cases fun planned changed => (replans planned changed).read
    · rw [run] at result
      cases result
      exact ⟨execute_coherent h found replans known hooked scanned, fun d hit => by cases hit⟩
    · rw [run] at result
      cases result
      have planned := isOk_of_pushable pushable
      exact ⟨execute_coherent h found replans known hooked (List.nil_subset call.scans),
        execute_answersCurrent h found (replans planned) hooked isHeld⟩
  | deallocate name env =>
    cases step
    exact ⟨deallocate_coherent h settled, trivial⟩
  | deallocateAll env =>
    cases step
    refine ⟨fun name stmt found => ?_, trivial⟩
    cases found
  | setSearchPath path =>
    cases step
    exact ⟨h, trivial⟩

def allOrders : String := "SELECT id FROM orders"

def laterOrders : String := "SELECT id FROM orders WHERE id > 1"

def reads (_ : Duckdb fold) (text : List Char) : Except String (List Statement) :=
  if text = "PREPARE q AS ".toList ++ allOrders.toList then .ok [.prepare "q" allOrders]
  else if text = "PREPARE q AS ".toList ++ laterOrders.toList then .ok [.prepare "q" laterOrders]
  else if text = "DEALLOCATE \"q\"".toList then .ok [.deallocate "q"]
  else .error "Parser Error"

def duckdb : Environment (id : String → String) Int32Array where
  engine := accepting
  reads := reads
  answer := fun _ => .answered .empty
  explanation := .ok []
  pgSearchPath := []
  parseSql := fun _ => .ok []
  elapsed := []
  debugAssertions := false
  isPostmasterEnvironment := true

def ordersTable (schema : String) : ForeignTable :=
  ⟨schema, "orders", "parquet_server", .parquet, [("files", schema)]⟩

def scanned : Backend (id : String → String) Int32Array :=
  ⟨registerScans [(ordersTable "tpch1", accepting, []), (ordersTable "tpch2", accepting, [])]
    Duckdb.init, Globals.init, Output.empty, [], [], [], []⟩

end PgAnalytics.PreparedStatements
