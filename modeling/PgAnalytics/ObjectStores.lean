import Mathlib.Data.List.Induction
import PgAnalytics.Basics
import PgAnalytics.Commands
import PgAnalytics.NameTables

/-! The object stores that the DataFusion wrappers read through. A registry remembers
the whole URLs that were registered, and keeps the stores by scheme, host and port. -/

namespace PgAnalytics.ObjectStores
open Basics (Fault Options)
open Commands NameTables

structure Url where
  scheme : String
  host : Option String
  port : Option ℕ
  path : String
  rest : String
  deriving DecidableEq, Repr

/-- The key of the default registry: the path is not part of it. -/
def Url.key (url : Url) : String × Option String × Option ℕ := (url.scheme, url.host, url.port)

def fileUrl : Url := ⟨"file", none, none, "/", ""⟩

structure LakehouseObjectStoreRegistry (Store : Type) where
  registry : NameTable Url.key Store
  urls : List Url

variable {Store : Type}

namespace LakehouseObjectStoreRegistry

/-- The default registry starts with the local file system. -/
def new (localFileSystem : Store) : LakehouseObjectStoreRegistry Store :=
  ⟨NameTable.empty.replace fileUrl localFileSystem, []⟩

def containsUrl (r : LakehouseObjectStoreRegistry Store) (url : Url) : Bool := r.urls.contains url

def registerStore (r : LakehouseObjectStoreRegistry Store) (url : Url) (store : Store) :
    LakehouseObjectStoreRegistry Store :=
  ⟨r.registry.replace url store, r.urls.insert url⟩

def getStore (r : LakehouseObjectStoreRegistry Store) (url : Url) : Except Fault Store :=
  match r.registry.lookup url with
  | none => .error (.error "No suitable object store found")
  | some store => .ok store

def registerAll (r : LakehouseObjectStoreRegistry Store) (history : List (Url × Store)) :
    LakehouseObjectStoreRegistry Store :=
  history.foldl (fun r entry => r.registerStore entry.1 entry.2) r

theorem registerAll_concat (r : LakehouseObjectStoreRegistry Store) (history : List (Url × Store))
    (entry : Url × Store) :
    r.registerAll (history ++ [entry]) = (r.registerAll history).registerStore entry.1 entry.2 :=
  List.foldl_concat ..

theorem containsUrl_registerStore (r : LakehouseObjectStoreRegistry Store) (url other : Url)
    (store : Store) :
    (r.registerStore url store).containsUrl other = true ↔
      other = url ∨ r.containsUrl other = true := by
  simp [containsUrl, registerStore]

theorem getStore_eq_ok_iff {r : LakehouseObjectStoreRegistry Store} {url : Url} {store : Store} :
    r.getStore url = .ok store ↔ r.registry.lookup url = some store := by
  unfold getStore
  cases r.registry.lookup url <;> simp

theorem getStore_registerStore (r : LakehouseObjectStoreRegistry Store) (url : Url)
    (store : Store) : (r.registerStore url store).getStore url = .ok store :=
  getStore_eq_ok_iff.mpr ((NameTable.lookup_replace _ _ _ _).trans (if_pos rfl))

theorem getStore_congr (r : LakehouseObjectStoreRegistry Store) {url other : Url}
    (same : url.key = other.key) : r.getStore url = r.getStore other := by
  rw [getStore, getStore, NameTable.lookup, NameTable.lookup, r.registry.find_congr same]

end LakehouseObjectStoreRegistry

/-- The store that was last registered for exactly a URL. -/
def lastRegistered (history : List (Url × Store)) (url : Url) : Option Store :=
  history.reverse.lookup url

theorem lastRegistered_concat (history : List (Url × Store)) (entry : Url × Store) (url : Url) :
    lastRegistered (history ++ [entry]) url =
      if url = entry.1 then some entry.2 else lastRegistered history url := by
  rw [lastRegistered, List.reverse_concat, List.lookup_cons, lastRegistered]
  by_cases same : url = entry.1
  · simp [same]
  · simp [same, beq_eq_false_iff_ne.mpr same]

inductive FdwHandler where
  | s3
  | localFile
  | gcs
  | azblob
  | azdls
  | other
  deriving DecidableEq, Repr

/-- `impl From<&str> for FdwHandler`. -/
def FdwHandler.ofName (handlerName : String) : FdwHandler :=
  match handlerName with
  | "s3_fdw_handler" => .s3
  | "local_file_fdw_handler" => .localFile
  | "gcs_fdw_handler" => .gcs
  | "azblob_fdw_handler" => .azblob
  | "azdls_fdw_handler" => .azdls
  | _ => .other

inductive TableFormat where
  | none
  | delta
  deriving DecidableEq, Repr

/-- `TableFormat::from`. -/
def TableFormat.ofName (format : String) : TableFormat :=
  match format with
  | "" => .none
  | "delta" => .delta
  | _ => .none

structure ObjectStoreConfig where
  url : Url
  format : TableFormat
  serverOptions : Options
  userMappingOptions : Options
  deriving DecidableEq, Repr

section Registration

-- The stores that the wrappers build of a configuration.
variable (build : FdwHandler → ObjectStoreConfig → Except Fault Store)

/-- `register_object_store`; there is nothing to register for an unknown handler. -/
def registerObjectStore (handler : FdwHandler) (config : ObjectStoreConfig) :
    Command (LakehouseObjectStoreRegistry Store) Fault Unit :=
  if handler = .other then
    pure ()
  else do
    let store ← ofResult (build handler config)
    modify fun r => r.registerStore config.url store

/-- The part of `table_impl` that looks after the store of a table. -/
def ensureStore (handler : FdwHandler) (config : ObjectStoreConfig) :
    Command (LakehouseObjectStoreRegistry Store) Fault Unit := do
  if !(← get).containsUrl config.url then
    registerObjectStore build handler config

variable {build}

theorem exec_ensureStore_registered {handler : FdwHandler} {config : ObjectStoreConfig}
    {r : LakehouseObjectStoreRegistry Store} (registered : r.containsUrl config.url = true) :
    exec (ensureStore build handler config) r = (.ok (), r) := by
  simp [ensureStore, exec_bind, registered]

theorem exec_ensureStore_fresh {handler : FdwHandler} {config : ObjectStoreConfig}
    {r : LakehouseObjectStoreRegistry Store} {store : Store} (known : handler ≠ .other)
    (built : build handler config = .ok store) (fresh : r.containsUrl config.url = false) :
    exec (ensureStore build handler config) r = (.ok (), r.registerStore config.url store) := by
  simp [ensureStore, registerObjectStore, exec_bind, fresh, known, built]

end Registration

structure Azblob where
  root : Option String := none
  container : Option String := none
  accountKey : Option String := none
  accountName : Option String := none
  customerProvidedKey : Option String := none
  encryptionKey : Option String := none
  encryptionKeySha256 : Option String := none
  sasToken : Option String := none
  encryptionAlgorithm : Option String := none
  endpoint : Option String := none
  deriving DecidableEq, Repr

/-- `Azblob::try_from`. A connection string starts a new builder, without the root. -/
def Azblob.tryFrom (fromConnectionString : String → Except Fault Azblob)
    (options : ObjectStoreConfig) : Except Fault Azblob := do
  let fresh : Azblob := if options.format = .delta then { root := some options.url.path } else {}
  let builder ← match options.userMappingOptions.lookup "connection_string" with
    | none => .ok fresh
    | some connectionString => fromConnectionString connectionString
  let given (set : Options) (name : String) (default : Option String) : Option String :=
    (set.lookup name).or default
  return { builder with
    container := options.url.host.or builder.container
    accountKey := given options.userMappingOptions "account_key" builder.accountKey
    accountName := given options.userMappingOptions "account_name" builder.accountName
    customerProvidedKey :=
      given options.userMappingOptions "customer_provided_key" builder.customerProvidedKey
    encryptionKey := given options.userMappingOptions "encryption_key" builder.encryptionKey
    encryptionKeySha256 :=
      given options.userMappingOptions "encryption_key_sha256" builder.encryptionKeySha256
    sasToken := given options.userMappingOptions "sas_token" builder.sasToken
    encryptionAlgorithm :=
      given options.serverOptions "encryption_algorithm" builder.encryptionAlgorithm
    endpoint := given options.serverOptions "endpoint" builder.endpoint }

section Coherence

variable (localFileSystem : Store)

def after (history : List (Url × Store)) : LakehouseObjectStoreRegistry Store :=
  (LakehouseObjectStoreRegistry.new localFileSystem).registerAll history

/-- A URL that the registry contains is read through the store last registered for it. -/
def Coherent (history : List (Url × Store)) : Prop :=
  ∀ url, (after localFileSystem history).containsUrl url = true →
    ∃ store, lastRegistered history url = some store ∧
      (after localFileSystem history).getStore url = .ok store

/-- URLs under one key were last given the same store. -/
def Agreeing (history : List (Url × Store)) : Prop :=
  ∀ url store other store', lastRegistered history url = some store →
    lastRegistered history other = some store' → url.key = other.key → store = store'

theorem containsUrl_iff (history : List (Url × Store)) (url : Url) :
    (after localFileSystem history).containsUrl url = true ↔
      (lastRegistered history url).isSome := by
  induction history using List.reverseRecOn with
  | nil => simp [after, LakehouseObjectStoreRegistry.registerAll, LakehouseObjectStoreRegistry.new,
      LakehouseObjectStoreRegistry.containsUrl, lastRegistered]
  | append_singleton history entry ih =>
    rw [after, LakehouseObjectStoreRegistry.registerAll_concat,
      LakehouseObjectStoreRegistry.containsUrl_registerStore, ← after, ih, lastRegistered_concat]
    by_cases same : url = entry.1 <;> simp [same]

theorem exists_latest (history : List (Url × Store)) {url : Url}
    (registered : (lastRegistered history url).isSome) :
    ∃ latest store, latest.key = url.key ∧ lastRegistered history latest = some store ∧
      (after localFileSystem history).getStore url = .ok store := by
  induction history using List.reverseRecOn generalizing url with
  | nil => cases registered
  | append_singleton history entry ih =>
    rw [after, LakehouseObjectStoreRegistry.registerAll_concat, ← after]
    by_cases same : url.key = entry.1.key
    · refine ⟨entry.1, entry.2, same.symm, ?_, ?_⟩
      · rw [lastRegistered_concat, if_pos rfl]
      · rw [LakehouseObjectStoreRegistry.getStore_congr _ same,
          LakehouseObjectStoreRegistry.getStore_registerStore]
    · have other : ∀ {v : Url}, v.key = url.key → v ≠ entry.1 := by
        rintro v alike rfl
        exact same alike.symm
      rw [lastRegistered_concat, if_neg (other rfl)] at registered
      obtain ⟨latest, store, alike, last, got⟩ := ih registered
      refine ⟨latest, store, alike, ?_, ?_⟩
      · rw [lastRegistered_concat, if_neg (other alike), last]
      · rw [LakehouseObjectStoreRegistry.getStore_eq_ok_iff] at got ⊢
        exact (NameTable.lookup_replace _ _ _ _).trans ((if_neg same).trans got)

theorem coherent_iff_agreeing (history : List (Url × Store)) :
    Coherent localFileSystem history ↔ Agreeing history := by
  constructor
  · intro coherent url store other store' first second alike
    have read : ∀ {v s}, lastRegistered history v = some s →
        (after localFileSystem history).getStore v = .ok s := by
      intro v s last
      obtain ⟨s', last', got⟩ :=
        coherent v ((containsUrl_iff _ _ _).mpr (by rw [last]; rfl))
      rw [last] at last'
      cases last'
      exact got
    have one := read first
    rw [LakehouseObjectStoreRegistry.getStore_congr _ alike, read second] at one
    exact (Except.ok.inj one).symm
  · intro agreeing url contained
    have registered := (containsUrl_iff _ _ _).mp contained
    obtain ⟨store, last⟩ := Option.isSome_iff_exists.mp registered
    obtain ⟨latest, store', alike, last', got⟩ := exists_latest localFileSystem history registered
    obtain rfl := agreeing _ _ _ _ last last' alike.symm
    exact ⟨store, last, got⟩

variable {build : FdwHandler → ObjectStoreConfig → Except Fault Store}

/-- After any registrations, every URL in the registry is read through the store last
registered for it, and a table through its own, exactly when the URLs under one key were
last given one store, and the table's URL, if it was given any, the table's own. -/
theorem registry_coherent_iff (history : List (Url × Store)) {handler : FdwHandler}
    {table : ObjectStoreConfig} {own : Store} (known : handler ≠ .other)
    (built : build handler table = .ok own) :
    (Coherent localFileSystem history ∧
      (exec (ensureStore build handler table) (after localFileSystem history)).2.getStore
        table.url = .ok own) ↔
      Agreeing history ∧
        ∀ store, lastRegistered history table.url = some store → store = own := by
  rw [← coherent_iff_agreeing localFileSystem history]
  refine and_congr_right fun coherent => ?_
  cases contained : (after localFileSystem history).containsUrl table.url with
  | true =>
    obtain ⟨store, last, got⟩ := coherent table.url contained
    rw [exec_ensureStore_registered contained, got, last]
    simp
  | false =>
    have absent : lastRegistered history table.url = none := by
      rw [← Option.not_isSome_iff_eq_none, ← containsUrl_iff localFileSystem, contained]
      exact Bool.false_ne_true
    rw [exec_ensureStore_fresh known built contained,
      LakehouseObjectStoreRegistry.getStore_registerStore, absent]
    simp

end Coherence

def azblobStore (_ : FdwHandler) (config : ObjectStoreConfig) : Except Fault Azblob :=
  Azblob.tryFrom (fun _ => .error (.error "invalid connection string")) config

def lakeTable (path accountKey : String) : ObjectStoreConfig where
  url := ⟨"az", some "lake", none, path, ""⟩
  format := .delta
  serverOptions := [("endpoint", "https://trips.blob.core.windows.net")]
  userMappingOptions := [("account_key", accountKey)]

def lakeStore (path accountKey : String) : Azblob where
  root := some path
  container := some "lake"
  accountKey := some accountKey
  endpoint := some "https://trips.blob.core.windows.net"

def oneLakeTable : List (Url × Azblob) :=
  [((lakeTable "/trips" "k").url, lakeStore "/trips" "k")]

theorem lastRegistered_oneLakeTable {url : Url} {store : Azblob}
    (last : lastRegistered oneLakeTable url = some store) : store = lakeStore "/trips" "k" := by
  rw [oneLakeTable, ← List.nil_append [_], lastRegistered_concat] at last
  split at last
  · exact (Option.some.inj last).symm
  · cases last

theorem registry_coherent_iff_lake :
    Coherent {} oneLakeTable ∧
      (exec (ensureStore azblobStore .azblob (lakeTable "/trips" "k"))
        (after {} oneLakeTable)).2.getStore (lakeTable "/trips" "k").url =
          .ok (lakeStore "/trips" "k") := by
  have known : FdwHandler.azblob ≠ .other := by decide
  have built : azblobStore .azblob (lakeTable "/trips" "k") = .ok (lakeStore "/trips" "k") := rfl
  have agreeing : Agreeing oneLakeTable := fun _ _ _ _ first second _ =>
    (lastRegistered_oneLakeTable first).trans (lastRegistered_oneLakeTable second).symm
  have own : ∀ store, lastRegistered oneLakeTable (lakeTable "/trips" "k").url = some store →
      store = lakeStore "/trips" "k" := fun store last => lastRegistered_oneLakeTable last
  have read := registry_coherent_iff {} oneLakeTable known built
  exact read.mpr ⟨agreeing, own⟩

theorem second_table_replaces_store :
    ¬ Coherent {} [((lakeTable "/trips" "k").url, lakeStore "/trips" "k"),
        ((lakeTable "/zones" "k").url, lakeStore "/zones" "k")] ∧
      (exec (ensureStore azblobStore .azblob (lakeTable "/trips" "k"))
        (after {} [((lakeTable "/trips" "k").url, lakeStore "/trips" "k"),
          ((lakeTable "/zones" "k").url, lakeStore "/zones" "k")])).2.getStore
            (lakeTable "/trips" "k").url = .ok (lakeStore "/zones" "k") := by
  refine ⟨fun coherent => ?_, rfl⟩
  have agreeing := (coherent_iff_agreeing _ _).mp coherent
  exact absurd (agreeing (lakeTable "/trips" "k").url (lakeStore "/trips" "k")
    (lakeTable "/zones" "k").url (lakeStore "/zones" "k") (by decide) (by decide) (by decide))
    (by decide)

end PgAnalytics.ObjectStores
