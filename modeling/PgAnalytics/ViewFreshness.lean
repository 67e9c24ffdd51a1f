import PgAnalytics.ForeignTables
import PgAnalytics.Runs

/-! One foreign-table name of Postgres's catalog and the view this backend's
DuckDB holds under it. The catalog changes by this backend inside a
transaction and by other backends when they commit. DuckDB's view changes only
by the trigger, which fires on this backend's `CREATE FOREIGN TABLE`, and by the
first scan that finds no view; neither is undone by a rollback. -/

namespace PgAnalytics.ViewFreshness
open Basics Commands DuckdbCatalog ForeignTables Runs

variable {κ : Type} [DecidableEq κ] {fold : String → κ} {schema name : String}

structure Definition where
  server : String
  handler : FdwHandler
  options : Options
  deriving DecidableEq, Repr

def Definition.table (schema name : String) (decl : Definition) : ForeignTable :=
  ⟨schema, name, decl.server, decl.handler, decl.options⟩

/-- `pending` is the version of this backend's open transaction once it has
changed the table; `aborted` is a transaction that can only be rolled back. -/
structure World (fold : String → κ) where
  duck : Duckdb fold
  committed : Option Definition
  pending : Option (Option Definition)
  aborted : Bool

def World.visible (w : World fold) : Option Definition := w.pending.getD w.committed

def World.start (committed : Option Definition) : World fold :=
  ⟨Duckdb.init, committed, none, false⟩

inductive Op where
  | create (decl : Definition) (engine : Engine) (userMapping : Options) (natts : ℕ)
      (alterTable : Option Fault)
  | alter (options : Options)
  | drop
  | commit
  | rollback
  | otherCreate (decl : Definition)
  | otherAlter (options : Options)
  | otherDrop
  | scan (engine : Engine) (userMapping : Options)
  | pushdown

def rollback (w : World fold) : World fold := { w with pending := none, aborted := false }

/-- The trigger runs before the statement ends; its failure aborts the
transaction, and what it did to DuckDB stays. -/
def createTable (schema name : String) (w : World fold) (decl : Definition) (engine : Engine)
    (userMapping : Options) (natts : ℕ) (alterTable : Option Fault) : World fold :=
  match exec (autoCreateSchemaImpl engine (decl.table schema name) userMapping natts alterTable)
    w.duck with
  | (.ok _, duck) => { w with duck, pending := some (some decl) }
  | (.error _, duck) => { w with duck, aborted := true }

/-- An FDW scan registers the view and then reads the name. -/
def scanTable (schema name : String) (w : World fold) (decl : Definition) (engine : Engine)
    (userMapping : Options) : World fold × Option ViewBody :=
  match exec (registerDuckdbView engine (decl.table schema name) userMapping) w.duck with
  | (.ok _, duck) => ({ w with duck }, duck.view schema name)
  | (.error _, duck) => ({ w with duck, aborted := true }, none)

/-- The commands Postgres accepts, with the view a scan reads. Other backends
wait for the lock of a transaction that has changed the table. A pushed-down
query reads the name directly; without a view DuckDB refuses it and Postgres
plans an FDW scan instead. -/
def session (schema name : String) : Machine (World fold) Op (Option ViewBody)
  | w, .create decl engine userMapping natts alterTable =>
    if w.aborted ∨ w.visible.isSome then none
    else some (createTable schema name w decl engine userMapping natts alterTable, none)
  | w, .alter options =>
    if w.aborted then none
    else w.visible.map fun decl => ({ w with pending := some (some { decl with options }) }, none)
  | w, .drop =>
    if w.aborted then none
    else w.visible.map fun _ => ({ w with pending := some none }, none)
  | w, .commit =>
    some (if w.aborted then rollback w
      else { w with committed := w.visible, pending := none }, none)
  | w, .rollback => some (rollback w, none)
  | w, .otherCreate decl =>
    if w.pending.isSome ∨ w.committed.isSome then none
    else some ({ w with committed := some decl }, none)
  | w, .otherAlter options =>
    if w.pending.isSome then none
    else w.committed.map fun decl => ({ w with committed := some { decl with options } }, none)
  | w, .otherDrop =>
    if w.pending.isSome then none
    else w.committed.map fun _ => ({ w with committed := none }, none)
  | w, .scan engine userMapping =>
    if w.aborted then none
    else (w.visible.filter (·.handler ≠ .other)).map fun decl =>
      scanTable schema name w decl engine userMapping
  | w, .pushdown =>
    if w.aborted then none
    else (w.visible.filter (·.handler ≠ .other)).map fun _ => (w, w.duck.view schema name)

def ReadsCurrent (schema name : String) (w : World fold) (_ : Op) (read : Option ViewBody) : Prop :=
  ∀ body ∈ read, ∀ decl ∈ w.visible, body = (decl.table schema name).body

instance (w : World fold) (op : Op) (read : Option ViewBody) :
    Decidable (ReadsCurrent schema name w op read) :=
  inferInstanceAs (Decidable (∀ body ∈ read, ∀ decl ∈ w.visible, _))

/-- DuckDB has no view of the name, or one built from this definition. -/
def Fresh (schema name : String) (w : World fold) (decl : Definition) : Prop :=
  decl.handler ≠ .other →
    ∀ body ∈ w.duck.view schema name, body = (decl.table schema name).body

instance (w : World fold) (decl : Definition) : Decidable (Fresh schema name w decl) :=
  inferInstanceAs (Decidable (_ → ∀ body ∈ w.duck.view schema name, _))

/-- The definition that becomes visible without the trigger firing here. -/
def installs (w : World fold) : Op → Option Definition
  | .alter options => w.visible.map fun decl => { decl with options }
  | .commit => if w.aborted ∧ w.pending.isSome then w.committed else none
  | .rollback => if w.pending.isSome then w.committed else none
  | .otherCreate decl => some decl
  | .otherAlter options => w.committed.map fun decl => { decl with options }
  | _ => none

/-- No definition is installed past a view built from another one. -/
def Settled (schema name : String) (w : World fold) (op : Op) : Prop :=
  ∀ decl ∈ installs w op, Fresh schema name w decl

instance (w : World fold) (op : Op) : Decidable (Settled schema name w op) :=
  inferInstanceAs (Decidable (∀ decl ∈ installs w op, _))

/-- The invariant: the visible definition agrees with the view. -/
def Coherent (schema name : String) (w : World fold) : Prop :=
  ∀ decl ∈ w.visible, Fresh schema name w decl

theorem start_coherent (committed : Option Definition) :
    Coherent schema name (World.start committed : World fold) := by
  intro decl _ _ body hit
  cases hit

theorem createTable_coherent (w : World fold) (decl : Definition) (engine : Engine)
    (userMapping : Options) (natts : ℕ) (alterTable : Option Fault) (new : w.visible = none) :
    Coherent schema name (createTable schema name w decl engine userMapping natts alterTable) := by
  unfold createTable
  rcases run : exec (autoCreateSchemaImpl engine (decl.table schema name) userMapping natts
    alterTable) w.duck with ⟨fault | _, duck⟩
  · intro decl' visible
    have none' : w.visible = some decl' := visible
    rw [new] at none'
    cases none'
  · intro decl' visible kind body hit
    cases visible
    have built : duck.view schema name = some (decl.table schema name).body :=
      autoCreateSchemaImpl_ok kind run
    exact (Option.some.inj (built.symm.trans hit)).symm

theorem scanTable_coherent {w : World fold} {decl : Definition} (engine : Engine)
    (userMapping : Options) (visible : w.visible = some decl) (h : Coherent schema name w) :
    Coherent schema name (scanTable schema name w decl engine userMapping).1 := by
  have fresh := h decl visible
  have grows := registerDuckdbView_grows engine (decl.table schema name) userMapping w.duck
  have keep : ∀ duck, Grows (decl.table schema name) w.duck duck → ∀ aborted,
      Coherent schema name { w with duck, aborted } := by
    intro duck grown aborted decl' visible' kind body hit
    have same : decl' = decl := Option.some.inj (Eq.trans (Eq.symm visible') visible)
    subst same
    rcases grown schema name with same | ⟨-, -, -, new⟩
    · exact fresh kind body (same ▸ hit)
    · exact (Option.some.inj (new.symm.trans hit)).symm
  unfold scanTable
  rcases run : exec (registerDuckdbView engine (decl.table schema name) userMapping) w.duck with
    ⟨fault | _, duck⟩
  · exact keep duck (by simpa [run] using grows) true
  · exact keep duck (by simpa [run] using grows) w.aborted

omit [DecidableEq κ] in
theorem rollback_visible {w : World fold} {decl : Definition}
    (shown : decl ∈ (rollback w).visible) :
    decl ∈ w.visible ∨ w.pending.isSome ∧ decl ∈ w.committed := by
  cases changed : w.pending with
  | none =>
    have same : w.visible = w.committed := by simp [World.visible, changed]
    exact .inl (same ▸ shown)
  | some _ => exact .inr ⟨rfl, shown⟩

/-- What a command can do: fire the trigger, read the view by an FDW scan or by
its name, or leave DuckDB alone and show a definition that was shown before or
is installed. -/
theorem session_cases {w w' : World fold} {op : Op} {read : Option ViewBody}
    (step : session schema name w op = some (w', read)) :
    (∃ decl engine userMapping natts alterTable, w.visible = none ∧ read = none ∧
      w' = createTable schema name w decl engine userMapping natts alterTable) ∨
    (∃ decl engine userMapping, w.visible = some decl ∧ decl.handler ≠ .other ∧
      scanTable schema name w decl engine userMapping = (w', read)) ∨
    (∃ decl, w.visible = some decl ∧ decl.handler ≠ .other ∧ w' = w ∧
      read = w.duck.view schema name) ∨
    w'.duck = w.duck ∧ read = none ∧
      ∀ decl ∈ w'.visible, decl ∈ w.visible ∨ decl ∈ installs w op := by
  cases op with
  | create decl engine userMapping natts alterTable =>
    simp only [session, Option.ite_none_left_eq_some, not_or] at step
    obtain ⟨⟨-, free⟩, ⟨⟩⟩ := step
    exact .inl ⟨decl, engine, userMapping, natts, alterTable, by simpa using free, rfl, rfl⟩
  | scan engine userMapping =>
    simp only [session, Option.ite_none_left_eq_some, Option.map_eq_some_iff,
      Option.filter_eq_some_iff] at step
    obtain ⟨-, decl, ⟨visible, kind⟩, result⟩ := step
    exact .inr (.inl ⟨decl, engine, userMapping, visible, by simpa using kind, result⟩)
  | pushdown =>
    simp only [session, Option.ite_none_left_eq_some, Option.map_eq_some_iff,
      Option.filter_eq_some_iff] at step
    obtain ⟨-, decl, ⟨visible, kind⟩, ⟨⟩⟩ := step
    exact .inr (.inr (.inl ⟨decl, visible, by simpa using kind, rfl, rfl⟩))
  | alter options =>
    simp only [session, Option.ite_none_left_eq_some, Option.map_eq_some_iff] at step
    obtain ⟨-, decl, visible, ⟨⟩⟩ := step
    refine .inr (.inr (.inr ⟨rfl, rfl, fun decl' shown => .inr ?_⟩))
    cases shown
    simp [installs, visible]
  | drop =>
    simp only [session, Option.ite_none_left_eq_some, Option.map_eq_some_iff] at step
    obtain ⟨-, decl, -, ⟨⟩⟩ := step
    exact .inr (.inr (.inr ⟨rfl, rfl, fun decl' shown => by cases shown⟩))
  | commit =>
    cases step
    refine .inr (.inr (.inr ?_))
    split
    · rename_i aborted
      refine ⟨rfl, rfl, fun decl shown => ?_⟩
      exact (rollback_visible shown).imp_right fun changed => by
        simpa [installs, aborted, changed.1] using changed.2
    · exact ⟨rfl, rfl, fun decl shown => .inl shown⟩
  | rollback =>
    cases step
    refine .inr (.inr (.inr ⟨rfl, rfl, fun decl shown => ?_⟩))
    exact (rollback_visible shown).imp_right fun changed => by
      simpa [installs, changed.1] using changed.2
  | otherCreate decl =>
    simp only [session, Option.ite_none_left_eq_some, not_or] at step
    obtain ⟨⟨unchanged, -⟩, ⟨⟩⟩ := step
    refine .inr (.inr (.inr ⟨rfl, rfl, fun decl' shown => .inr ?_⟩))
    have unchanged : w.pending = none := by simpa using unchanged
    simpa [installs, World.visible, unchanged] using shown
  | otherAlter options =>
    simp only [session, Option.ite_none_left_eq_some, Option.map_eq_some_iff] at step
    obtain ⟨unchanged, decl, committed, ⟨⟩⟩ := step
    refine .inr (.inr (.inr ⟨rfl, rfl, fun decl' shown => .inr ?_⟩))
    have unchanged : w.pending = none := by simpa using unchanged
    simpa [installs, World.visible, unchanged, committed] using shown
  | otherDrop =>
    simp only [session, Option.ite_none_left_eq_some, Option.map_eq_some_iff] at step
    obtain ⟨unchanged, decl, -, ⟨⟩⟩ := step
    refine .inr (.inr (.inr ⟨rfl, rfl, fun decl' shown => ?_⟩))
    have unchanged : w.pending = none := by simpa using unchanged
    simp [World.visible, unchanged] at shown

theorem session_coherent {w w' : World fold} {op : Op} {read : Option ViewBody}
    (h : Coherent schema name w) (settled : Settled schema name w op)
    (step : session schema name w op = some (w', read)) : Coherent schema name w' := by
  rcases session_cases step with ⟨decl, engine, userMapping, natts, alterTable, free, -, rfl⟩ |
    ⟨decl, engine, userMapping, visible, -, result⟩ | ⟨-, -, -, rfl, -⟩ | ⟨duck, -, shown⟩
  · exact createTable_coherent w decl engine userMapping natts alterTable free
  · have kept := scanTable_coherent engine userMapping visible h
    rwa [result] at kept
  · exact h
  · intro decl visible kind body hit
    have fresh : Fresh schema name w decl := (shown decl visible).elim (h decl) (settled decl)
    exact fresh kind body (duck ▸ hit)

theorem scanTable_reads {w : World fold} {decl : Definition} {engine : Engine}
    {userMapping : Options} {body : ViewBody} (kind : decl.handler ≠ .other)
    (fresh : Fresh schema name w decl)
    (read : (scanTable schema name w decl engine userMapping).2 = some body) :
    body = (decl.table schema name).body := by
  unfold scanTable at read
  rcases run : exec (registerDuckdbView engine (decl.table schema name) userMapping) w.duck with
    ⟨fault | _, duck⟩
  · simp [run] at read
  · simp only [run] at read
    have found : duck.view schema name =
        some ((w.duck.view schema name).getD (decl.table schema name).body) :=
      registerDuckdbView_ok run
    rw [found] at read
    cases old : w.duck.view schema name with
    | none => simpa [old] using read.symm
    | some body' =>
      have same : body' = body := by simpa [old] using read
      exact same ▸ fresh kind body' old

theorem session_readsCurrent {w w' : World fold} {op : Op} {read : Option ViewBody}
    (h : Coherent schema name w) (step : session schema name w op = some (w', read)) :
    ReadsCurrent schema name w op read := by
  intro body hit decl current
  rcases session_cases step with ⟨-, -, -, -, -, -, rfl, -⟩ |
    ⟨decl', engine, userMapping, visible, kind, result⟩ | ⟨decl', visible, kind, -, rfl⟩ |
    ⟨-, rfl, -⟩
  · cases hit
  · cases visible.symm.trans current
    have reads : (scanTable schema name w decl engine userMapping).2 = some body := by
      rw [result]
      exact hit
    exact scanTable_reads kind (h decl visible) reads
  · cases visible.symm.trans current
    exact h decl visible kind body hit
  · cases hit

/-- View cache coherence: in a run that installs no definition past a view
built from another one, every scan reads a view built from the options that
the catalog holds. -/
theorem scans_read_current (schema name : String) (committed : Option Definition) (ops : List Op)
    (settled : Along (session schema name) (Settled schema name)
      (World.start committed : World fold) ops) :
    Always (session schema name) (ReadsCurrent schema name)
      (World.start committed : World fold) ops := by
  refine always_of_invariant (Coherent schema name) ?_ (start_coherent committed) ops settled
  intro w op w' read h ok step
  exact ⟨session_coherent h ok step, session_readsCurrent h step⟩

def parquetTable (files : String) : Definition :=
  ⟨"parquet_server", .parquet, [("files", files)]⟩

theorem scans_read_current_replaced :
    Always (session "public" "primitive") (ReadsCurrent "public" "primitive")
      (World.start none : World (id : String → String))
      [.otherCreate (parquetTable "a.parquet"), .otherAlter [("files", "b.parquet")],
        .scan accepting [], .pushdown] :=
  scans_read_current "public" "primitive" none _ (by decide)

theorem altered_table_reads_old_view :
    ¬ Always (session "public" "primitive") (ReadsCurrent "public" "primitive")
      (World.start none : World (id : String → String))
      [.create (parquetTable "a.parquet") accepting [] 1 none, .commit,
        .alter [("files", "b.parquet")], .commit, .pushdown, .scan accepting []] := by
  decide

end PgAnalytics.ViewFreshness
