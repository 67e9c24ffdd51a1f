import PgAnalytics.SchemaProvider

/-! The stores of the scans of a backend. A wrapper registers the store of its table
whenever it is made, for a plan; the store is looked up by the URL's key when the stream is
created, at the first row. In between, other scans are made and tables are looked up. -/

namespace PgAnalytics.ScanStores
open Basics (Fault)
open Commands NameTables ObjectStores Runs SchemaProvider

variable {Store ι : Type} [DecidableEq ι]

/-- `new`, of any of the wrappers, of the relation's options. -/
def newScan (outside : Outside Store) (pgRelation : SchemaProvider.Relation) :
    Command (LakehouseObjectStoreRegistry Store) Fault Unit := do
  let path ← ofResult (requireOption "path" pgRelation.tableOptions)
  let format := requireOptionOr "format" pgRelation.tableOptions ""
  let url ← ofResult (outside.parseUrl path)
  registerObjectStore outside.build pgRelation.handler
    ⟨url, TableFormat.ofName format, pgRelation.serverOptions, pgRelation.userMappingOptions⟩

structure ForeignScan (outside : Outside Store) where
  pgRelation : SchemaProvider.Relation
  path : String
  url : Url
  store : Store
  known : pgRelation.handler ≠ .other
  located : requireOption "path" pgRelation.tableOptions = .ok path
  parsed : outside.parseUrl path = .ok url
  built : outside.build pgRelation.handler ⟨url,
    TableFormat.ofName (requireOptionOr "format" pgRelation.tableOptions ""),
    pgRelation.serverOptions, pgRelation.userMappingOptions⟩ = .ok store

variable {outside : Outside Store}

def ForeignScan.config (scan : ForeignScan outside) : ObjectStoreConfig :=
  ⟨scan.url, TableFormat.ofName (requireOptionOr "format" scan.pgRelation.tableOptions ""),
    scan.pgRelation.serverOptions, scan.pgRelation.userMappingOptions⟩

theorem ForeignScan.config_built (scan : ForeignScan outside) :
    outside.build scan.pgRelation.handler scan.config = .ok scan.store := scan.built

theorem exec_newScan (scan : ForeignScan outside) (r : LakehouseObjectStoreRegistry Store) :
    exec (newScan outside scan.pgRelation) r = (.ok (), r.registerStore scan.url scan.store) := by
  have made : exec (registerObjectStore outside.build scan.pgRelation.handler scan.config) r =
      (.ok (), r.registerStore scan.url scan.store) := by
    rw [registerObjectStore, if_neg scan.known, exec_bind, exec_ofResult, scan.config_built]
    rfl
  rw [newScan, exec_bind, exec_ofResult, scan.located]
  dsimp only
  rw [exec_bind, exec_ofResult, scan.parsed]
  exact made

inductive Event (ι : Type) where
  | newScan (table : ι)
  -- the store of a table that a plan of DataFusion reads
  | ensureStore (table : ι)
  | createStream (table : ι)

/-- The tables whose stores were registered, the last one first, and those that have a scan. -/
structure World (Store ι : Type) where
  registry : LakehouseObjectStoreRegistry Store
  registered : List ι
  started : List ι

section Scans

variable (tables : ι → ForeignScan outside)

/-- A stream is created of a scan that was made, and answers the store it reads through. -/
def scans : Machine (World Store ι) (Event ι) (Option (Except Fault Store))
  | w, .newScan i =>
    let (_, registry) := exec (newScan outside (tables i).pgRelation) w.registry
    some (⟨registry, i :: w.registered, i :: w.started⟩, none)
  | w, .ensureStore i =>
    let (_, registry) := exec (ensureStore outside.build (tables i).pgRelation.handler
      (tables i).config) w.registry
    let registered := if w.registry.containsUrl (tables i).url then w.registered
      else i :: w.registered
    some (⟨registry, registered, w.started⟩, none)
  | w, .createStream i =>
    if i ∈ w.started then some (w, some (w.registry.getStore (tables i).url)) else none

def Isolated (_ : World Store ι) : Event ι → Option (Except Fault Store) → Prop
  | .createStream i, answer => answer = some (.ok (tables i).store)
  | _, _ => True

/-- The table whose store was registered last under the key of another one. -/
def latest (w : World Store ι) (i : ι) : Option ι :=
  w.registered.find? fun j => (tables j).url.key = (tables i).url.key

/-- When a stream is created, the last store under its key is that of its own table. -/
def Undisturbed (w : World Store ι) : Event ι → Prop
  | .createStream i => ∀ j, latest tables w i = some j → (tables j).store = (tables i).store
  | _ => True

structure Inv (w : World Store ι) : Prop where
  started : ∀ i ∈ w.started, (latest tables w i).isSome
  stores : ∀ i j, latest tables w i = some j →
    w.registry.getStore (tables i).url = .ok (tables j).store

variable {tables}

theorem scans_newScan (w : World Store ι) (i : ι) :
    scans tables w (.newScan i) =
      some (⟨w.registry.registerStore (tables i).url (tables i).store, i :: w.registered,
        i :: w.started⟩, none) := by
  rw [scans, exec_newScan]

theorem scans_createStream {w : World Store ι} {i : ι} (started : i ∈ w.started) :
    scans tables w (.createStream i) = some (w, some (w.registry.getStore (tables i).url)) :=
  if_pos started

omit [DecidableEq ι] in
theorem Inv.register {w : World Store ι} (inv : Inv tables w) (i : ι) (started : List ι)
    (known : ∀ j ∈ started, j = i ∨ j ∈ w.started) :
    Inv tables ⟨w.registry.registerStore (tables i).url (tables i).store, i :: w.registered,
      started⟩ := by
  have found : ∀ j, latest tables ⟨w.registry.registerStore (tables i).url (tables i).store,
      i :: w.registered, started⟩ j =
        if (tables i).url.key = (tables j).url.key then some i else latest tables w j := by
    intro j
    rw [latest, List.find?_cons]
    by_cases same : (tables i).url.key = (tables j).url.key <;> simp [same, latest]
  constructor
  · intro j mem
    rw [found]
    split
    · rfl
    · rename_i other
      rcases known j mem with rfl | mem
      · exact absurd rfl other
      · exact inv.started j mem
  · intro j k last
    rw [found] at last
    split at last
    · rename_i same
      cases last
      rw [LakehouseObjectStoreRegistry.getStore_congr _ same.symm,
        LakehouseObjectStoreRegistry.getStore_registerStore]
    · rename_i other
      rw [LakehouseObjectStoreRegistry.getStore_eq_ok_iff]
      refine (NameTable.lookup_replace _ _ _ _).trans ((if_neg (Ne.symm other)).trans ?_)
      exact LakehouseObjectStoreRegistry.getStore_eq_ok_iff.mp (inv.stores j k last)

theorem Inv.step {w w' : World Store ι} (inv : Inv tables w) {event : Event ι}
    {answer : Option (Except Fault Store)} (step : scans tables w event = some (w', answer)) :
    Inv tables w' := by
  cases event with
  | newScan i =>
    cases (scans_newScan w i).symm.trans step
    exact inv.register i _ fun j mem => List.mem_cons.mp mem
  | ensureStore i =>
    cases contained : w.registry.containsUrl (tables i).url with
    | true =>
      rw [scans, exec_ensureStore_registered contained, contained] at step
      cases step
      exact inv
    | false =>
      rw [scans, exec_ensureStore_fresh (tables i).known (tables i).config_built contained,
        contained] at step
      cases step
      exact inv.register i _ fun j mem => .inr mem
  | createStream i =>
    rw [scans] at step
    split at step
    · cases step
      exact inv
    · cases step

theorem isolated_iff_undisturbed {w w' : World Store ι} (inv : Inv tables w) {event : Event ι}
    {answer : Option (Except Fault Store)} (step : scans tables w event = some (w', answer)) :
    Isolated tables w event answer ↔ Undisturbed tables w event := by
  cases event with
  | newScan i => exact Iff.rfl
  | ensureStore i => exact Iff.rfl
  | createStream i =>
    rw [scans] at step
    split at step
    · rename_i started
      cases step
      obtain ⟨j, last⟩ := Option.isSome_iff_exists.mp (inv.started i started)
      rw [Isolated, Undisturbed, inv.stores i j last, last]
      simp
    · cases step

theorem run_isolated_iff {w : World Store ι} (inv : Inv tables w) (events : List (Event ι)) :
    Always (scans tables) (Isolated tables) w events ↔
      Along (scans tables) (Undisturbed tables) w events :=
  always_congr (Q := fun w event _ => Undisturbed tables w event) (Inv tables)
    (fun _ _ _ _ inv step => ⟨isolated_iff_undisturbed inv step, fun _ => inv.step step⟩) inv events

def atStart (registry : LakehouseObjectStoreRegistry Store) : World Store ι := ⟨registry, [], []⟩

omit [DecidableEq ι] in
theorem inv_atStart (registry : LakehouseObjectStoreRegistry Store) :
    Inv tables (atStart registry) :=
  ⟨fun _ mem => (List.not_mem_nil mem).elim, fun _ _ last => by cases last⟩

/-- In every interleaving of scans and lookups, every stream reads through the store of its own
table, exactly when the tables whose URLs have one scheme, host and port have one store. -/
theorem every_interleaving_isolated_iff (registry : LakehouseObjectStoreRegistry Store) :
    (∀ events, Always (scans tables) (Isolated tables) (atStart registry) events) ↔
      ∀ i j, (tables i).url.key = (tables j).url.key → (tables i).store = (tables j).store := by
  constructor
  · intro isolated i j same
    have run := (run_isolated_iff (inv_atStart registry) _).mp
      (isolated [.newScan i, .newScan j, .createStream i])
    -- the store of `j` takes the place of that of `i` before the stream is created
    obtain ⟨-, run⟩ := (always_cons (scans_newScan _ i)).mp run
    obtain ⟨-, run⟩ := (always_cons (scans_newScan _ j)).mp run
    obtain ⟨undisturbed, -⟩ := (always_cons (scans_createStream (by simp))).mp run
    exact (undisturbed j (by simp [latest, same])).symm
  · intro alike events
    refine (run_isolated_iff (inv_atStart registry) events).mpr ?_
    refine always_of_inductive (fun _ => True) (fun w event w' answer _ _ => ⟨trivial, ?_⟩)
      trivial events
    cases event with
    | newScan i => trivial
    | ensureStore i => trivial
    | createStream i =>
      intro j last
      exact alike j i (by simpa using List.find?_some last)

end Scans

def bucketStores : Outside String where
  parseUrl path := .ok ⟨"s3", some "lake", none, path, ""⟩
  inferSchema _ _ := .ok []
  build _ config := .ok ((config.serverOptions.lookup "endpoint").getD "")

def bucketTable (path endpoint : String) : ForeignScan bucketStores where
  pgRelation := ⟨16384, .s3, [("path", path), ("extension", "parquet")], [("endpoint", endpoint)],
    [], []⟩
  path := path
  url := ⟨"s3", some "lake", none, path, ""⟩
  store := endpoint
  known := nofun
  located := rfl
  parsed := rfl
  built := rfl

def ordersAndTrips (endpoint : String) : Bool → ForeignScan bucketStores
  | false => bucketTable "s3://lake/orders" "https://s3.eu-central-1.amazonaws.com"
  | true => bucketTable "s3://lake/trips" endpoint

theorem every_interleaving_isolated_iff_bucket :
    (∀ events, Always (scans (ordersAndTrips "https://s3.eu-central-1.amazonaws.com"))
      (Isolated (ordersAndTrips "https://s3.eu-central-1.amazonaws.com"))
      (atStart (.new "file")) events) ∧
    ¬ ∀ events, Always (scans (ordersAndTrips "http://localhost:9000"))
      (Isolated (ordersAndTrips "http://localhost:9000")) (atStart (.new "file")) events := by
  constructor
  · refine (every_interleaving_isolated_iff _).mpr fun i j _ => ?_
    cases i <;> cases j <;> rfl
  · intro isolated
    exact absurd ((every_interleaving_isolated_iff _).mp isolated false true rfl) (by decide)

end PgAnalytics.ScanStores
