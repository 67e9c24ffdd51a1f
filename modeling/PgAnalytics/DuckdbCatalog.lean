import PgAnalytics.Basics
import PgAnalytics.Commands
import PgAnalytics.NameTables

/-! The catalog of a backend's in-memory DuckDB connection and the statements
the extension executes on it. DuckDB may refuse any statement, so every call
takes the engine's answer; an accepted statement acts on the catalog. `fold` is
the key by which DuckDB compares identifiers: it stores the first spelling of a
name, and compares names by key everywhere but in the text comparison of a
query on `information_schema`. Nothing here is undone by a Postgres rollback. -/

namespace PgAnalytics.DuckdbCatalog
open Basics Commands NameTables

variable {κ : Type} [DecidableEq κ]

/-- What a view selects from: the reader call built from a foreign table's
options, or the text of a `CREATE VIEW` forwarded from Postgres. -/
inductive ViewBody where
  | foreign (handler : FdwHandler) (options : Options)
  | query (text : String)
  deriving DecidableEq, Repr

structure Prepared where
  text : String
  searchPath : List String
  deriving DecidableEq, Repr

structure Duckdb (fold : String → κ) where
  schemas : NameTable fold Unit
  views : NameTable (Prod.map fold fold) ViewBody
  secret : Option Options
  searchPath : List String
  prepared : NameTable fold Prepared

inductive Statement where
  | createSchema (schema : String)
  | createViewIfNotExists (schema table : String) (body : ViewBody)
  | dropViewIfExists (schema table : String)
  | createView (orReplace : Bool) (schema view : String) (text : String)
  | createOrReplaceSecret (options : Options)
  | selectView (schema table : String)
  | describe (schema table : String)
  | selectSchemas
  | setSearchPath (path : List String)
  | selectExtension (name : String)
  | installExtension (name : String)
  | loadExtension (name : String)
  | prepare (name text : String)
  | deallocate (name : String)
  deriving DecidableEq, Repr

/-- `noRow`: the statement is accepted, but fetching its first row yields none. -/
inductive Answer where
  | accept
  | refuse (message : String)
  | noRow
  deriving DecidableEq, Repr

abbrev Engine := Statement → Answer

variable {fold : String → κ}

namespace Duckdb

/-- A new connection: DuckDB's own schemas, no view, no secret. -/
def init : Duckdb fold where
  schemas := ((NameTable.empty.insertNew "main" ()).insertNew "information_schema" ()).insertNew
    "pg_catalog" ()
  views := NameTable.empty
  secret := none
  searchPath := []
  prepared := NameTable.empty

def view (d : Duckdb fold) (schema table : String) : Option ViewBody :=
  d.views.lookup (schema, table)

/-- The first schema of the search path that holds the unqualified name. -/
def resolve (d : Duckdb fold) (table : String) : Option String :=
  d.searchPath.find? fun schema => (d.view schema table).isSome

def knows (d : Duckdb fold) (schema : String) : Bool :=
  (d.schemas.entries.map Prod.fst).contains schema

def knownPath (d : Duckdb fold) (path : List String) : List String :=
  path.filter fun schema => (d.schemas.entries.map Prod.fst).contains schema

def onPath (d : Duckdb fold) (path : List String) : Duckdb fold :=
  { d with searchPath := d.knownPath path }

def preparedAs (d : Duckdb fold) (name : String) : Option Prepared := d.prepared.lookup name

def storeView (d : Duckdb fold) (schema table : String) (body : ViewBody) :
    Except String (Duckdb fold) :=
  match d.schemas.find schema with
  | none => .error "Catalog Error: Schema does not exist"
  | some (stored, _) => .ok { d with views := d.views.insertNew (stored, table) body }

def apply (d : Duckdb fold) : Statement → Except String (Duckdb fold)
  | .createSchema schema => .ok { d with schemas := d.schemas.insertNew schema () }
  | .createViewIfNotExists schema table body => d.storeView schema table body
  | .dropViewIfExists schema table => .ok { d with views := d.views.erase (schema, table) }
  | .createView orReplace schema view text =>
    if orReplace then
      { d with views := d.views.erase (schema, view) }.storeView schema view (.query text)
    else if (d.view schema view).isSome then
      .error "Catalog Error: View already exists"
    else
      d.storeView schema view (.query text)
  | .createOrReplaceSecret options => .ok { d with secret := some options }
  | .setSearchPath path =>
    if path.all (fun schema => (d.schemas.find schema).isSome) then
      .ok { d with searchPath := path }
    else
      .error "Catalog Error: No schema found in search path"
  | .prepare name text =>
    .ok { d with prepared := d.prepared.replace name ⟨text, d.searchPath⟩ }
  | .deallocate name => .ok { d with prepared := d.prepared.erase name }
  | .describe schema table =>
    if (d.view schema table).isSome then .ok d
    else .error "Catalog Error: Table does not exist"
  | .selectView _ _ | .selectSchemas | .selectExtension _ | .installExtension _
  | .loadExtension _ => .ok d

end Duckdb

def execute (engine : Engine) (statement : Statement) : Command (Duckdb fold) Fault Unit := do
  match engine statement with
  | .refuse message => throw (.error message)
  | _ =>
    match (← get).apply statement with
    | .ok next => set next
    | .error message => throw (.error message)

/-- `view_exists`: a text comparison on the stored spellings. -/
def viewExists (engine : Engine) (table schema : String) : Command (Duckdb fold) Fault Bool := do
  match engine (.selectView schema table) with
  | .refuse message => throw (.error message)
  | .noRow => return false
  | .accept => return (← get).views.spelled (schema, table)

def checkExtensionLoaded (engine : Engine) (extension : String) :
    Command (Duckdb fold) Fault Bool :=
  match engine (.selectExtension extension) with
  | .refuse message => throw (.error message)
  | .noRow => return false
  | .accept => return true

/-- `get_available_schemas`; a row that cannot be read is unwrapped. -/
def getAvailableSchemas (engine : Engine) : Command (Duckdb fold) Fault (List String) := do
  match engine .selectSchemas with
  | .refuse message => throw (.error message)
  | .noRow => throw (.panic "called Result::unwrap() on an Err value")
  | .accept => return (← get).schemas.entries.map Prod.fst

def setSearchPath (engine : Engine) (path : List String) : Command (Duckdb fold) Fault Unit :=
  execute engine (.setSearchPath path)

/-- `set_search_path_by_pg`: Postgres's schemas that DuckDB knows, in order. -/
def setSearchPathByPg (engine : Engine) (pgSearchPath : List String) :
    Command (Duckdb fold) Fault Unit := do
  let duckdbSchemas ← getAvailableSchemas engine
  setSearchPath engine (pgSearchPath.filter fun schema => duckdbSchemas.contains schema)

theorem exec_execute (engine : Engine) (statement : Statement) (d : Duckdb fold) :
    exec (execute engine statement) d =
      match engine statement with
      | .refuse message => (.error (.error message), d)
      | _ =>
        match d.apply statement with
        | .ok next => (.ok (), next)
        | .error message => (.error (.error message), d) := by
  unfold execute
  cases engine statement with
  | refuse message => rfl
  | accept | noRow =>
    simp only [exec_bind, exec_get]
    cases d.apply statement <;> rfl

theorem execute_respects {R : Duckdb fold → Duckdb fold → Prop} [Std.Refl R] {engine : Engine}
    {statement : Statement} (h : ∀ d d', d.apply statement = .ok d' → R d d') :
    Respects R (execute engine statement) := by
  intro d
  rw [exec_execute]
  have same : R d d := Std.Refl.refl d
  cases engine statement with
  | refuse message => exact same
  | accept | noRow =>
    cases applied : d.apply statement with
    | ok next => exact h d next applied
    | error message => exact same

theorem execute_ok {engine : Engine} {statement : Statement} {d d' : Duckdb fold}
    (h : exec (execute engine statement) d = (.ok (), d')) : d.apply statement = .ok d' := by
  rw [exec_execute] at h
  cases answer : engine statement with
  | refuse message => simp [answer] at h
  | accept | noRow =>
    cases applied : d.apply statement with
    | ok next => simpa [answer, applied] using h
    | error message => simp [answer, applied] at h

omit [DecidableEq κ] in
theorem exec_viewExists (engine : Engine) (table schema : String) (d : Duckdb fold) :
    exec (viewExists engine table schema) d =
      match engine (.selectView schema table) with
      | .refuse message => (.error (.error message), d)
      | .noRow => (.ok false, d)
      | .accept => (.ok (d.views.spelled (schema, table)), d) := by
  unfold viewExists
  cases engine (.selectView schema table) <;> rfl

omit [DecidableEq κ] in
theorem exec_checkExtensionLoaded (engine : Engine) (extension : String) (d : Duckdb fold) :
    exec (checkExtensionLoaded engine extension) d =
      match engine (.selectExtension extension) with
      | .refuse message => (.error (.error message), d)
      | .noRow => (.ok false, d)
      | .accept => (.ok true, d) := by
  unfold checkExtensionLoaded
  cases engine (.selectExtension extension) <;> rfl

omit [DecidableEq κ] in
theorem exec_getAvailableSchemas (engine : Engine) (d : Duckdb fold) :
    exec (getAvailableSchemas engine) d =
      match engine .selectSchemas with
      | .refuse message => (.error (.error message), d)
      | .noRow => (.error (.panic "called Result::unwrap() on an Err value"), d)
      | .accept => (.ok (d.schemas.entries.map Prod.fst), d) := by
  unfold getAvailableSchemas
  cases engine .selectSchemas <;> rfl

namespace Duckdb

omit [DecidableEq κ] in
theorem knows_congr {d d' : Duckdb fold} (same : d'.schemas = d.schemas) (schema : String) :
    d'.knows schema = d.knows schema := by
  rw [knows, same, knows]

omit [DecidableEq κ] in
theorem knownPath_congr {d d' : Duckdb fold} {path : List String}
    (h : ∀ schema ∈ path, d'.knows schema = d.knows schema) :
    d'.knownPath path = d.knownPath path := List.filter_congr h

theorem view_of_views {d d' : Duckdb fold} (same : d'.views = d.views) (s t : String) :
    d'.view s t = d.view s t := by
  rw [view, view, same]

@[simp] theorem view_onPath (d : Duckdb fold) (path : List String) (s t : String) :
    (d.onPath path).view s t = d.view s t := rfl

theorem view_congr (d : Duckdb fold) {s s' t t' : String} (hs : fold s = fold s')
    (ht : fold t = fold t') : d.view s t = d.view s' t' := by
  rw [view, view, NameTable.lookup, NameTable.lookup,
    d.views.find_congr (show Prod.map fold fold (s, t) = Prod.map fold fold (s', t') by
      simp [hs, ht])]

theorem view_storeView_of_some {d d' : Duckdb fold} {schema table : String} {body old : ViewBody}
    (stored : d.storeView schema table body = .ok d') (present : d.view schema table = some old)
    (s t : String) : d'.view s t = d.view s t := by
  unfold storeView at stored
  split at stored
  · cases stored
  · rename_i spelling _ found
    cases stored
    have key : Prod.map fold fold (spelling, table) = Prod.map fold fold (schema, table) := by
      simp [NameTable.find_key found]
    obtain ⟨entry, hit, -⟩ := Option.map_eq_some_iff.mp present
    rw [← d.views.find_congr key] at hit
    simp only [view]
    rw [NameTable.insertNew_of_some body hit]

theorem view_storeView_of_none {d d' : Duckdb fold} {schema table : String} {body : ViewBody}
    (stored : d.storeView schema table body = .ok d') (absent : d.view schema table = none)
    (s t : String) :
    d'.view s t = if fold s = fold schema ∧ fold t = fold table then some body else d.view s t := by
  unfold storeView at stored
  split at stored
  · cases stored
  · rename_i spelling _ found
    cases stored
    have key : Prod.map fold fold (spelling, table) = Prod.map fold fold (schema, table) := by
      simp [NameTable.find_key found]
    have free : d.views.find (spelling, table) = none := by
      rw [d.views.find_congr key]
      simpa [view, NameTable.lookup] using absent
    have spell : fold spelling = fold schema := NameTable.find_key found
    split
    · rename_i same
      have here : Prod.map fold fold (s, t) = Prod.map fold fold (spelling, table) := by
        simp [same, spell]
      rw [view, NameTable.lookup, NameTable.find_congr _ here,
        NameTable.find_insertNew_self_of_none body free]
      rfl
    · rename_i other
      rw [view, NameTable.lookup, NameTable.find_insertNew_of_ne]
      · rfl
      · simpa [spell] using other

theorem view_erase (d : Duckdb fold) (schema table s t : String) :
    ({ d with views := d.views.erase (schema, table) } : Duckdb fold).view s t =
      if fold s = fold schema ∧ fold t = fold table then none else d.view s t := by
  rw [view, NameTable.lookup]
  split
  · rename_i same
    rw [NameTable.find_congr _ (show Prod.map fold fold (s, t) =
      Prod.map fold fold (schema, table) by simp [same]), NameTable.find_erase_self]
    rfl
  · rename_i other
    rw [NameTable.find_erase_of_ne]
    · rfl
    · simpa using other

theorem view_isSome_of_spelled {d : Duckdb fold} {schema table : String}
    (h : d.views.spelled (schema, table) = true) : (d.view schema table).isSome := by
  rw [view, NameTable.lookup, Option.isSome_map]
  exact NameTable.find_isSome_of_spelled h

theorem storeView_frame {d d' : Duckdb fold} {schema table : String} {body : ViewBody}
    (stored : d.storeView schema table body = .ok d') :
    d'.schemas = d.schemas ∧ d'.secret = d.secret ∧ d'.searchPath = d.searchPath ∧
      d'.prepared = d.prepared := by
  unfold storeView at stored
  split at stored
  · cases stored
  · cases stored
    exact ⟨rfl, rfl, rfl, rfl⟩

theorem apply_secret {d d' : Duckdb fold} {statement : Statement}
    (kind : ∀ options, statement ≠ .createOrReplaceSecret options)
    (h : d.apply statement = .ok d') : d'.secret = d.secret := by
  cases statement with
  | createOrReplaceSecret options => exact absurd rfl (kind options)
  | createViewIfNotExists schema table body => exact (storeView_frame h).2.1
  | createView orReplace schema view text =>
    simp only [apply] at h
    split at h
    · exact (storeView_frame h).2.1
    · split at h
      · cases h
      · exact (storeView_frame h).2.1
  | setSearchPath path | describe schema table =>
    simp only [apply] at h
    split at h <;> cases h
    rfl
  | createSchema | dropViewIfExists | prepare | deallocate | selectView | selectSchemas
  | selectExtension | installExtension | loadExtension =>
    cases h
    rfl

end Duckdb

def SameSecret (d d' : Duckdb fold) : Prop := d'.secret = d.secret

instance : Std.Refl (@SameSecret κ fold) := ⟨fun _ => rfl⟩

instance : IsTrans (Duckdb fold) SameSecret := ⟨fun _ _ _ ab bc => Eq.trans bc ab⟩

theorem Duckdb.apply_knownPath (d : Duckdb fold) (path : List String) :
    d.apply (.setSearchPath (d.knownPath path)) = .ok (d.onPath path) := by
  have known : (d.knownPath path).all (fun schema => (d.schemas.find schema).isSome) = true := by
    rw [List.all_eq_true]
    intro schema kept
    obtain ⟨entry, hit, rfl⟩ := List.mem_map.mp
      (List.contains_iff_mem.mp (List.mem_filter.mp kept).2)
    rw [NameTable.find, List.find?_isSome]
    exact ⟨entry, hit, by simp⟩
  rw [Duckdb.apply, if_pos known, Duckdb.onPath]

theorem exec_setSearchPathByPg (engine : Engine) (pgSearchPath : List String) (d : Duckdb fold) :
    exec (setSearchPathByPg engine pgSearchPath) d =
      match engine .selectSchemas, engine (.setSearchPath (d.knownPath pgSearchPath)) with
      | .refuse message, _ => (.error (.error message), d)
      | .noRow, _ => (.error (.panic "called Result::unwrap() on an Err value"), d)
      | .accept, .refuse message => (.error (.error message), d)
      | .accept, _ => (.ok (), d.onPath pgSearchPath) := by
  rw [setSearchPathByPg, exec_bind, exec_getAvailableSchemas]
  cases engine .selectSchemas with
  | refuse message | noRow => rfl
  | accept =>
    have applied := d.apply_knownPath pgSearchPath
    rw [Duckdb.knownPath] at applied ⊢
    simp only [setSearchPath, exec_execute, applied]
    cases engine (.setSearchPath _) <;> rfl

theorem setSearchPathByPg_cases (engine : Engine) (pgSearchPath : List String) (d : Duckdb fold) :
    (∃ fault, exec (setSearchPathByPg engine pgSearchPath) d = (.error fault, d)) ∨
      exec (setSearchPathByPg engine pgSearchPath) d = (.ok (), d.onPath pgSearchPath) := by
  rw [exec_setSearchPathByPg]
  split
  · exact .inl ⟨_, rfl⟩
  · exact .inl ⟨_, rfl⟩
  · exact .inl ⟨_, rfl⟩
  · exact .inr rfl

theorem setSearchPathByPg_ok {engine : Engine} {pgSearchPath : List String} {d d' : Duckdb fold}
    (h : exec (setSearchPathByPg engine pgSearchPath) d = (.ok (), d')) :
    d' = d.onPath pgSearchPath := by
  rcases setSearchPathByPg_cases engine pgSearchPath d with ⟨fault, run⟩ | run
  · rw [run] at h
    cases h
  · rw [run] at h
    cases h
    rfl

theorem setSearchPathByPg_sameSecret (engine : Engine) (pgSearchPath : List String) :
    Respects (@SameSecret κ fold) (setSearchPathByPg engine pgSearchPath) := by
  intro d
  rcases setSearchPathByPg_cases engine pgSearchPath d with ⟨fault, run⟩ | run <;> rw [run] <;> rfl

def accepting : Engine := fun _ => .accept

theorem setSearchPathByPg_accepting (pgSearchPath : List String) (d : Duckdb fold) :
    exec (setSearchPathByPg accepting pgSearchPath) d = (.ok (), d.onPath pgSearchPath) :=
  exec_setSearchPathByPg accepting pgSearchPath d

end PgAnalytics.DuckdbCatalog
