import PgAnalytics.ForeignTables
import PgAnalytics.Runs

/-! The one DuckDB secret of a backend and the credentials of its roles. A
registration replaces the secret by the options of the current role's user
mapping for the table's server, unless that mapping is empty; nothing else sets
it. A foreign scan registers its table when it begins and reads it at its first
row; a pushed-down query reads its tables without registering them. -/

namespace PgAnalytics.CredentialIsolation
open Basics Commands DuckdbCatalog ForeignTables Runs

variable {κ : Type} [DecidableEq κ] {fold : String → κ}

/-- The options of a role's user mapping for a server; empty without a mapping. -/
abbrev UserMappings := String → String → Options

structure OpenScan where
  user : String
  table : ForeignTable
  started : Bool
  deriving DecidableEq, Repr

structure World (fold : String → κ) where
  duck : Duckdb fold
  role : String
  scans : List OpenScan

def World.start (role : String) : World fold := ⟨Duckdb.init, role, []⟩

inductive Op where
  | setRole (role : String)
  | createTable (t : ForeignTable) (engine : Engine) (natts : ℕ) (alterTable : Option Fault)
  | beginScan (t : ForeignTable) (engine : Engine)
  | iterScan (scan : ℕ)
  | pushdown (engine : Engine) (pgSearchPath : List String) (tables : List ForeignTable)

structure Reading where
  user : String
  table : ForeignTable
  secret : Option Options
  deriving DecidableEq, Repr

def readingOf (duck : Duckdb fold) (user : String) (t : ForeignTable) : Reading :=
  ⟨user, t, duck.secret⟩

/-- The trigger reads the files of the view it builds; `DESCRIBE` reads them again. -/
def createTable (mappings : UserMappings) (w : World fold) (t : ForeignTable) (engine : Engine)
    (natts : ℕ) (alterTable : Option Fault) : World fold × List Reading :=
  match exec (autoCreateSchemaImpl engine t (mappings w.role t.server) natts alterTable) w.duck with
  | (.ok _, duck) =>
    ({ w with duck }, if t.handler = .other then [] else [readingOf duck w.role t])
  | (.error _, duck) => ({ w with duck }, [])

/-- `begin_scan_impl`; the files are read here only to build a missing view. -/
def beginScan (mappings : UserMappings) (w : World fold) (t : ForeignTable) (engine : Engine) :
    World fold × List Reading :=
  match exec (registerDuckdbView engine t (mappings w.role t.server)) w.duck with
  | (.ok _, duck) =>
    ({ w with duck, scans := w.scans ++ [⟨w.role, t, false⟩] },
      if (w.duck.view t.schema t.name).isNone then [readingOf duck w.role t] else [])
  | (.error _, duck) => ({ w with duck }, [])

/-- The first `iter_scan_impl` of a scan runs its SQL for the user who began it. -/
def iterScan (w : World fold) (scan : ℕ) : World fold × List Reading :=
  match w.scans[scan]? with
  | some ⟨user, t, false⟩ =>
    ({ w with scans := w.scans.set scan ⟨user, t, true⟩ },
      if (w.duck.view t.schema t.name).isSome then [readingOf w.duck user t] else [])
  | _ => (w, [])

/-- `executor_run` sets the search path and runs the query; DuckDB refuses the
query when it lacks one of the views. -/
def pushdown (w : World fold) (engine : Engine) (pgSearchPath : List String)
    (tables : List ForeignTable) : World fold × List Reading :=
  match exec (setSearchPathByPg engine pgSearchPath) w.duck with
  | (.ok _, duck) =>
    ({ w with duck },
      if tables.all (fun t => (duck.view t.schema t.name).isSome) then
        tables.map (readingOf duck w.role)
      else [])
  | (.error _, duck) => ({ w with duck }, [])

def perform (mappings : UserMappings) (w : World fold) : Op → World fold × List Reading
  | .setRole role => ({ w with role }, [])
  | .createTable t engine natts alterTable => createTable mappings w t engine natts alterTable
  | .beginScan t engine => beginScan mappings w t engine
  | .iterScan scan => iterScan w scan
  | .pushdown engine pgSearchPath tables => pushdown w engine pgSearchPath tables

def session (mappings : UserMappings) : Machine (List Op × World fold) Op (List Reading)
  | (history, w), op =>
    some ((history ++ [op], (perform mappings w op).1), (perform mappings w op).2)

/-- The secret that belongs to a user's read of a table: the options of the
user's mapping for the table's server, and none when there are none. -/
def ownSecret (mappings : UserMappings) (user : String) (t : ForeignTable) : Option Options :=
  if (mappings user t.server).isEmpty then none else some (mappings user t.server)

def Isolated (mappings : UserMappings) (_ : List Op × World fold) (_ : Op)
    (readings : List Reading) : Prop :=
  ∀ r ∈ readings, r.secret = ownSecret mappings r.user r.table

def refuses (engine : Engine) (statement : Statement) : Bool :=
  match engine statement with
  | .refuse _ => true
  | _ => false

/-- The options a registration offers to DuckDB as the new secret, if accepted. -/
def offered (engine : Engine) (userMapping : Options) : Option Options :=
  if userMapping.isEmpty ∨ (userMapping.lookup "type").isNone ∨
      refuses engine (.createOrReplaceSecret userMapping) then none
  else some userMapping

def registers (mappings : UserMappings) (role : String) : Op → Option Options
  | .createTable t engine _ _ =>
    if t.handler = .other ∨ duckdbReservedNames.contains t.name ∨
        refuses engine (.dropViewIfExists t.schema t.name) then none
    else offered engine (mappings role t.server)
  | .beginScan t engine => offered engine (mappings role t.server)
  | _ => none

def currentRole (role : String) : Op → String
  | .setRole role' => role'
  | _ => role

def track (mappings : UserMappings) (now : String × Option Options) (op : Op) :
    String × Option Options :=
  (currentRole now.1 op, (registers mappings now.1 op).or now.2)

/-- The user-mapping options of the latest operation that registered a table
under a mapping with options. -/
def lastCredentials (mappings : UserMappings) (role : String) (history : List Op) :
    Option Options :=
  (history.foldl (track mappings) (role, none)).2

/-- Every table read belongs to the credentials registered last. -/
def Registered (mappings : UserMappings) (role : String) (now : List Op × World fold) (op : Op)
    (readings : List Reading) : Prop :=
  ∀ r ∈ readings,
    lastCredentials mappings role (now.1 ++ [op]) = ownSecret mappings r.user r.table

theorem setSecret_secret (engine : Engine) (userMapping : Options) (d : Duckdb fold) :
    (exec (setSecret engine userMapping) d).2.secret =
      (offered engine userMapping).or d.secret := by
  unfold setSecret createSecret offered
  by_cases empty : userMapping.isEmpty
  · simp [empty]
  · cases key : userMapping.lookup "type" with
    | none => simp [empty]
    | some kind =>
      simp only [empty, Bool.false_eq_true, if_false, exec_execute, refuses]
      cases engine (.createOrReplaceSecret userMapping) <;> simp [Duckdb.apply]

theorem ensureView_sameSecret (engine : Engine) (t : ForeignTable) :
    Respects (@SameSecret κ fold) (ensureView engine t) := by
  refine ensureView_respects engine fun statement issued d d' h => Duckdb.apply_secret ?_ h
  rintro options rfl
  exact issued

theorem registerDuckdbView_secret (engine : Engine) (t : ForeignTable) (userMapping : Options)
    (d : Duckdb fold) :
    (exec (registerDuckdbView engine t userMapping) d).2.secret =
      (offered engine userMapping).or d.secret := by
  have set := setSecret_secret engine userMapping d
  rw [registerDuckdbView, exec_bind]
  rcases run : exec (setSecret engine userMapping) d with ⟨fault | _, m⟩
  · simpa [run] using set
  · rw [run] at set
    exact (ensureView_sameSecret engine t m).trans set

theorem autoCreateSchemaImpl_secret (engine : Engine) (t : ForeignTable) (userMapping : Options)
    (natts : ℕ) (alterTable : Option Fault) (d : Duckdb fold) :
    (exec (autoCreateSchemaImpl engine t userMapping natts alterTable) d).2.secret =
      (if t.handler = .other ∨ duckdbReservedNames.contains t.name ∨
          refuses engine (.dropViewIfExists t.schema t.name) then none
        else offered engine userMapping).or d.secret := by
  unfold autoCreateSchemaImpl
  by_cases kind : t.handler = .other
  · simp [kind]
  by_cases reserved : duckdbReservedNames.contains t.name
  · simp only [kind, reserved, if_false, if_true, exec_throw, false_or, true_or, Option.none_or]
  simp only [kind, reserved, if_false, false_or, Bool.false_eq_true]
  rw [exec_bind, exec_execute]
  have rest (m : Duckdb fold) :
      (exec (do registerDuckdbView engine t userMapping; inferSchema engine t natts alterTable)
        m).2.secret = (offered engine userMapping).or m.secret := by
    have register := registerDuckdbView_secret engine t userMapping m
    rw [exec_bind]
    rcases run : exec (registerDuckdbView engine t userMapping) m with ⟨fault | _, m'⟩
    · simpa [run] using register
    · rw [run] at register
      simp only [inferSchema_view engine t natts alterTable m']
      exact register
  cases answer : engine (.dropViewIfExists t.schema t.name) with
  | refuse message => simp [refuses, answer]
  | accept | noRow => simp [refuses, answer, Duckdb.apply, rest]

/-- What one operation does to the secret and the role. -/
theorem perform_secret (mappings : UserMappings) (w : World fold) (op : Op) :
    (perform mappings w op).1.duck.secret = (registers mappings w.role op).or w.duck.secret ∧
      (perform mappings w op).1.role = currentRole w.role op := by
  cases op with
  | setRole role => exact ⟨rfl, rfl⟩
  | createTable t engine natts alterTable =>
    have secret := autoCreateSchemaImpl_secret engine t (mappings w.role t.server) natts alterTable
      w.duck
    simp only [perform, createTable]
    rcases run : exec (autoCreateSchemaImpl engine t (mappings w.role t.server) natts alterTable)
      w.duck with ⟨fault | _, duck⟩ <;> exact ⟨by rw [run] at secret; exact secret, rfl⟩
  | beginScan t engine =>
    have secret := registerDuckdbView_secret engine t (mappings w.role t.server) w.duck
    simp only [perform, beginScan]
    rcases run : exec (registerDuckdbView engine t (mappings w.role t.server)) w.duck with
      ⟨fault | _, duck⟩ <;> exact ⟨by rw [run] at secret; exact secret, rfl⟩
  | iterScan scan =>
    simp only [perform, iterScan]
    split <;> exact ⟨rfl, rfl⟩
  | pushdown engine pgSearchPath tables =>
    have secret := setSearchPathByPg_sameSecret engine pgSearchPath w.duck
    simp only [perform, pushdown]
    rcases run : exec (setSearchPathByPg engine pgSearchPath) w.duck with ⟨fault | _, duck⟩ <;>
      exact ⟨by rw [run] at secret; exact secret, rfl⟩

theorem perform_readings {mappings : UserMappings} {w : World fold} {op : Op} {r : Reading}
    (h : r ∈ (perform mappings w op).2) : r.secret = (perform mappings w op).1.duck.secret := by
  cases op with
  | setRole role => cases h
  | createTable t engine natts alterTable =>
    simp only [perform, createTable] at h ⊢
    split at h
    · rw [List.mem_singleton.mp (List.mem_ite_nil_left.mp h).2]
      rfl
    · cases h
  | beginScan t engine =>
    simp only [perform, beginScan] at h ⊢
    split at h
    · rw [List.mem_singleton.mp (List.mem_ite_nil_right.mp h).2]
      rfl
    · cases h
  | iterScan scan =>
    simp only [perform, iterScan] at h ⊢
    split at h
    · rw [List.mem_singleton.mp (List.mem_ite_nil_right.mp h).2]
      rfl
    · cases h
  | pushdown engine pgSearchPath tables =>
    simp only [perform, pushdown] at h ⊢
    split at h
    · obtain ⟨t, -, rfl⟩ := List.mem_map.mp (List.mem_ite_nil_right.mp h).2
      rfl
    · cases h

theorem lastCredentials_concat (mappings : UserMappings) (role : String) (history : List Op)
    (op : Op) :
    (history ++ [op]).foldl (track mappings) (role, none) =
      track mappings (history.foldl (track mappings) (role, none)) op := by
  rw [List.foldl_append]
  rfl

def Tracked (mappings : UserMappings) (role : String) (now : List Op × World fold) : Prop :=
  (now.2.role, now.2.duck.secret) = now.1.foldl (track mappings) (role, none)

theorem perform_tracked {mappings : UserMappings} {role : String} {history : List Op}
    {w : World fold} (op : Op) (h : Tracked mappings role (history, w)) :
    Tracked mappings role (history ++ [op], (perform mappings w op).1) := by
  obtain ⟨secret, user⟩ := perform_secret mappings w op
  have before : (w.role, w.duck.secret) = history.foldl (track mappings) (role, none) := h
  unfold Tracked
  rw [lastCredentials_concat, ← before, secret, user]
  rfl

theorem session_isolated_iff {mappings : UserMappings} {role : String}
    {now now' : List Op × World fold} {op : Op} {readings : List Reading}
    (h : Tracked mappings role now) (step : session mappings now op = some (now', readings)) :
    Tracked mappings role now' ∧
      (Isolated mappings now op readings ↔ Registered mappings role now op readings) := by
  obtain ⟨history, w⟩ := now
  cases step
  have tracked := perform_tracked op h
  refine ⟨tracked, forall₂_congr fun r hit => ?_⟩
  have last : (perform mappings w op).1.duck.secret =
      lastCredentials mappings role (history ++ [op]) := congrArg Prod.snd tracked
  rw [perform_readings hit, last]

/-- Credential isolation: every read of a session is made with the user's own
secret exactly when, at every read, the latest operation to register
credentials registered those of the user's mapping for the table's server. -/
theorem isolated_iff_registered (mappings : UserMappings) (role : String) (ops : List Op) :
    Always (session mappings) (Isolated mappings) ([], (World.start role : World fold)) ops ↔
      Always (session mappings) (Registered mappings role) ([], (World.start role : World fold))
        ops := by
  have start : Tracked mappings role ([], (World.start role : World fold)) := rfl
  constructor
  · refine always_of_invariant (Tracked mappings role) ?_ start ops
    intro now op now' readings h isolated step
    obtain ⟨kept, agree⟩ := session_isolated_iff h step
    exact ⟨kept, agree.mp isolated⟩
  · refine always_of_invariant (Tracked mappings role) ?_ start ops
    intro now op now' readings h registered step
    obtain ⟨kept, agree⟩ := session_isolated_iff h step
    exact ⟨kept, agree.mpr registered⟩

instance (mappings : UserMappings) (now : List Op × World fold) (op : Op)
    (readings : List Reading) : Decidable (Isolated mappings now op readings) :=
  inferInstanceAs (Decidable (∀ r ∈ readings, _))

def keysByRole : UserMappings := fun user _ => [("type", "S3"), ("key_id", user)]

def ordersTable : ForeignTable :=
  ⟨"public", "orders", "parquet_server", .parquet, [("files", "s3://bucket/orders.parquet")]⟩

theorem pushdown_reads_with_previous_role :
    ¬ Always (session keysByRole) (Isolated keysByRole)
      ([], (World.start "alice" : World (id : String → String)))
      [.createTable ordersTable accepting 1 none, .setRole "bob",
        .pushdown accepting ["public"] [ordersTable]] := by
  decide

end PgAnalytics.CredentialIsolation
