import PgAnalytics.DuckdbCatalog

/-! Registration of a foreign table's view with DuckDB: lazily at the start of
an FDW scan (`register_duckdb_view` in `begin_scan_impl`), and after dropping
the stale view in the trigger that fires on `CREATE FOREIGN TABLE`. -/

namespace PgAnalytics.ForeignTables
open Basics Commands NameTables DuckdbCatalog

variable {κ : Type} [DecidableEq κ] {fold : String → κ}

structure ForeignTable where
  schema : String
  name : String
  server : String
  handler : FdwHandler
  options : Options
  deriving DecidableEq, Repr

namespace ForeignTable

def body (t : ForeignTable) : ViewBody := .foreign t.handler t.options

/-- DuckDB reads the names of the two tables as one name. -/
def SameName (fold : String → κ) (a b : ForeignTable) : Prop :=
  fold a.schema = fold b.schema ∧ fold a.name = fold b.name

instance (fold : String → κ) (a b : ForeignTable) : Decidable (SameName fold a b) :=
  inferInstanceAs (Decidable (_ ∧ _))

end ForeignTable

/-- The failing part of the six `create_view` builders: `files` is required. -/
def createView (t : ForeignTable) : Except Fault ViewBody :=
  match t.options.lookup "files", t.handler with
  | some _, _ => .ok t.body
  | none, .spatial => .error (.error "Files option is required")
  | none, _ => .error (.error "files option is required")

/-- The extension check of `create_iceberg_view` and `create_spatial_view`. -/
def loadExtension (engine : Engine) (extension : String) : Command (Duckdb fold) Fault Unit := do
  if !(← checkExtensionLoaded engine extension) then
    execute engine (.installExtension extension)
    execute engine (.loadExtension extension)

/-- The arms of the match on the handler, up to the view statement itself. -/
def prepareHandler (engine : Engine) : FdwHandler → Command (Duckdb fold) Fault Unit
  | .other => throw (.error "got unexpected fdw_handler")
  | .iceberg => loadExtension engine "iceberg"
  | .spatial => loadExtension engine "spatial"
  | _ => pure ()

/-- `create_csv_view`, `create_delta_view` and so on, by handler. -/
def createForeignView (engine : Engine) (t : ForeignTable) : Command (Duckdb fold) Fault Unit := do
  prepareHandler engine t.handler
  match createView t with
  | .error fault => throw fault
  | .ok body => execute engine (.createViewIfNotExists t.schema t.name body)

/-- `connection::create_secret` for the one secret name, `default_secret`. -/
def createSecret (engine : Engine) (userMapping : Options) : Command (Duckdb fold) Fault Unit :=
  if userMapping.isEmpty then
    throw (.error "create_secret requires user mapping options")
  else
    match userMapping.lookup "type" with
    | none => throw (.error "type option required for USER MAPPING")
    | some _ => execute engine (.createOrReplaceSecret userMapping)

/-- The secret is left alone by an empty user mapping. -/
def setSecret (engine : Engine) (userMapping : Options) : Command (Duckdb fold) Fault Unit :=
  if userMapping.isEmpty then pure () else createSecret engine userMapping

/-- The part of `register_duckdb_view` after the secret. -/
def ensureView (engine : Engine) (t : ForeignTable) : Command (Duckdb fold) Fault Unit := do
  if !(← viewExists engine t.name t.schema) then
    execute engine (.createSchema t.schema)
    createForeignView engine t

def registerDuckdbView (engine : Engine) (t : ForeignTable) (userMapping : Options) :
    Command (Duckdb fold) Fault Unit := do
  setSecret engine userMapping
  ensureView engine t

def registerScans (scans : List (ForeignTable × Engine × Options)) (d : Duckdb fold) :
    Duckdb fold :=
  scans.foldl (fun d (t, engine, userMapping) =>
    (exec (registerDuckdbView engine t userMapping) d).2) d

def duckdbReservedNames : List String :=
  ["duckdb_columns", "duckdb_constraints", "duckdb_databases", "duckdb_dependencies",
    "duckdb_extensions", "duckdb_functions", "duckdb_indexes", "duckdb_keywords",
    "duckdb_optimizers", "duckdb_schemas", "duckdb_sequences", "duckdb_settings",
    "duckdb_tables", "duckdb_types", "duckdb_views", "duckdb_temporary_files"]

/-- The end of the trigger: the columns of a table declared with none. The
`ALTER TABLE` run through SPI touches Postgres only; `alterTable` is its failure. -/
def inferSchema (engine : Engine) (t : ForeignTable) (natts : ℕ) (alterTable : Option Fault) :
    Command (Duckdb fold) Fault Unit :=
  if natts ≠ 0 then
    pure ()
  else do
    execute engine (.describe t.schema t.name)
    match alterTable with
    | some fault => throw fault
    | none => pure ()

/-- `auto_create_schema_impl` for a table with `natts` declared columns. -/
def autoCreateSchemaImpl (engine : Engine) (t : ForeignTable) (userMapping : Options)
    (natts : ℕ) (alterTable : Option Fault) : Command (Duckdb fold) Fault Unit :=
  if t.handler = .other then
    pure ()
  else if duckdbReservedNames.contains t.name then
    throw (.error ("Table name '" ++ t.name ++
      "' is not allowed because it is reserved by DuckDB"))
  else do
    execute engine (.dropViewIfExists t.schema t.name)
    registerDuckdbView engine t userMapping
    inferSchema engine t natts alterTable

/-- Views only grow, by the view of `t`. -/
def Grows (t : ForeignTable) (d d' : Duckdb fold) : Prop :=
  ∀ s n, d'.view s n = d.view s n ∨
    (fold s = fold t.schema ∧ fold n = fold t.name ∧ d.view s n = none ∧
      d'.view s n = some t.body)

instance (t : ForeignTable) : Std.Refl (@Grows κ _ fold t) := ⟨fun _ _ _ => .inl rfl⟩

instance (t : ForeignTable) : IsTrans (Duckdb fold) (Grows t) := ⟨by
  intro a b c ab bc s n
  rcases ab s n with same | ⟨hs, hn, absent, new⟩
  · rcases bc s n with same' | ⟨hs, hn, absent, new⟩
    · exact .inl (same'.trans same)
    · exact .inr ⟨hs, hn, same ▸ absent, new⟩
  · rcases bc s n with same' | ⟨-, -, absent', -⟩
    · exact .inr ⟨hs, hn, absent, same'.trans new⟩
    · rw [new] at absent'
      cases absent'⟩

theorem grows_of_view_eq {t : ForeignTable} {d d' : Duckdb fold} (h : d'.views = d.views) :
    Grows t d d' := fun s n => .inl (Duckdb.view_of_views h s n)

theorem grows_storeView {t : ForeignTable} {d d' : Duckdb fold}
    (h : d.storeView t.schema t.name t.body = .ok d') : Grows t d d' := by
  intro s n
  cases present : d.view t.schema t.name with
  | some old => exact .inl (Duckdb.view_storeView_of_some h present s n)
  | none =>
    rw [Duckdb.view_storeView_of_none h present]
    by_cases same : fold s = fold t.schema ∧ fold n = fold t.name
    · refine .inr ⟨same.1, same.2, ?_, if_pos same⟩
      rw [d.view_congr same.1 same.2, present]
    · exact .inl (if_neg same)

theorem createView_ok {t : ForeignTable} {body : ViewBody} (h : createView t = .ok body) :
    body = t.body := by
  unfold createView at h
  split at h <;> cases h
  rfl

/-- The statements that registering the view of `t` may issue, but for the secret. -/
def ViewStatement (t : ForeignTable) : Statement → Prop
  | .createSchema schema => schema = t.schema
  | .createViewIfNotExists schema table body => schema = t.schema ∧ table = t.name ∧ body = t.body
  | .installExtension _ | .loadExtension _ => True
  | _ => False

section Respects

variable {R : Duckdb fold → Duckdb fold → Prop} [Std.Refl R] [IsTrans (Duckdb fold) R]

theorem loadExtension_respects (engine : Engine) (extension : String)
    (h : ∀ statement ∈ [Statement.installExtension extension, .loadExtension extension],
      ∀ d d', d.apply statement = .ok d' → R d d') :
    Respects R (loadExtension engine extension) := by
  refine Respects.bind (fun d => ?_) fun loaded => Respects.ite
    (Respects.bind (execute_respects (h _ (by simp))) fun _ => execute_respects (h _ (by simp)))
    (Respects.pure ())
  rw [exec_checkExtensionLoaded]
  cases engine (.selectExtension extension) <;> exact Std.Refl.refl d

theorem ensureView_respects {t : ForeignTable} (engine : Engine)
    (h : ∀ statement, ViewStatement t statement → ∀ d d', d.apply statement = .ok d' → R d d') :
    Respects R (ensureView engine t) := by
  have loads : ∀ extension, Respects R (loadExtension engine extension) := fun extension =>
    loadExtension_respects engine extension fun statement mem =>
      h statement (by rcases List.mem_pair.mp mem with rfl | rfl <;> trivial)
  have creates : Respects R (createForeignView engine t) := by
    refine Respects.bind ?_ fun _ => ?_
    · unfold prepareHandler
      split
      · exact Respects.throw _
      · exact loads _
      · exact loads _
      · exact Respects.pure ()
    · split
      · exact Respects.throw _
      · rename_i body built
        rw [createView_ok built]
        exact execute_respects (h _ ⟨rfl, rfl, rfl⟩)
  refine Respects.bind (fun d => ?_) fun found =>
    Respects.ite (Respects.bind (execute_respects (h _ rfl)) fun _ => creates) (Respects.pure ())
  rw [exec_viewExists]
  cases engine (.selectView t.schema t.name) <;> exact Std.Refl.refl d

theorem registerDuckdbView_respects {t : ForeignTable} (engine : Engine) (userMapping : Options)
    (h : ∀ statement, ViewStatement t statement → ∀ d d', d.apply statement = .ok d' → R d d')
    (secret : ∀ d secret, R d { d with secret }) :
    Respects R (registerDuckdbView engine t userMapping) := by
  refine Respects.bind ?_ fun _ => ensureView_respects engine h
  unfold setSecret createSecret
  refine Respects.ite (Respects.pure ()) (Respects.ite (Respects.throw _) ?_)
  split
  · exact Respects.throw _
  · refine execute_respects fun d d' h => ?_
    cases h
    exact secret d _

end Respects

theorem registerDuckdbView_grows (engine : Engine) (t : ForeignTable) (userMapping : Options) :
    Respects (@Grows κ _ fold t) (registerDuckdbView engine t userMapping) := by
  refine registerDuckdbView_respects engine userMapping (fun statement issued d d' h => ?_)
    fun d secret => grows_of_view_eq rfl
  cases statement with
  | createViewIfNotExists schema table body =>
    obtain ⟨rfl, rfl, rfl⟩ := issued
    exact grows_storeView h
  | createSchema | installExtension | loadExtension =>
    cases h
    exact grows_of_view_eq rfl
  | _ => exact issued.elim

structure Extends (schemas : List String) (d d' : Duckdb fold) : Prop where
  prepared : d'.prepared = d.prepared
  old : ∀ schema, d.knows schema → d'.knows schema
  new : ∀ schema, d'.knows schema → d.knows schema ∨ schema ∈ schemas

omit [DecidableEq κ] in
theorem Extends.of_same {schemas : List String} {d d' : Duckdb fold}
    (same : d'.schemas = d.schemas) (prepared : d'.prepared = d.prepared) :
    Extends schemas d d' where
  prepared := prepared
  old := fun schema h => (Duckdb.knows_congr same schema).trans h
  new := fun schema h => .inl ((Duckdb.knows_congr same schema).symm.trans h)

omit [DecidableEq κ] in
theorem Extends.trans {first second : List String} {a b c : Duckdb fold} (ab : Extends first a b)
    (bc : Extends second b c) : Extends (first ++ second) a c where
  prepared := bc.prepared.trans ab.prepared
  old := fun schema h => bc.old schema (ab.old schema h)
  new := fun schema h => by
    rcases bc.new schema h with h | h
    · exact (ab.new schema h).imp_right (List.mem_append_left _)
    · exact .inr (List.mem_append_right _ h)

omit [DecidableEq κ] in
theorem Extends.subset {first second : List String} {d d' : Duckdb fold} (h : Extends first d d')
    (within : first ⊆ second) : Extends second d d' where
  prepared := h.prepared
  old := h.old
  new := fun schema known => (h.new schema known).imp_right (@within schema)

instance (schemas : List String) : Std.Refl (@Extends κ fold schemas) :=
  ⟨fun _ => .of_same rfl rfl⟩

instance (schemas : List String) : IsTrans (Duckdb fold) (Extends schemas) :=
  ⟨fun _ _ _ ab bc => (ab.trans bc).subset (by simp)⟩

theorem registerDuckdbView_extends (engine : Engine) (t : ForeignTable) (userMapping : Options) :
    Respects (@Extends κ fold [t.schema]) (registerDuckdbView engine t userMapping) := by
  refine registerDuckdbView_respects engine userMapping (fun statement issued d d' h => ?_)
    fun d secret => .of_same rfl rfl
  cases statement with
  | createViewIfNotExists schema table body =>
    obtain ⟨schemas, -, -, prepared⟩ := Duckdb.storeView_frame h
    exact .of_same schemas prepared
  | createSchema schema =>
    cases issued
    cases h
    rcases d.schemas.entries_insertNew t.schema () with same | added
    · exact ⟨rfl, fun schema known => by simpa [Duckdb.knows, same] using known,
        fun schema known => .inl (by simpa [Duckdb.knows, same] using known)⟩
    · exact ⟨rfl, fun schema known => by simp_all [Duckdb.knows],
        fun schema known => by simpa [Duckdb.knows, added, or_comm] using known⟩
  | installExtension | loadExtension =>
    cases h
    exact .of_same rfl rfl
  | _ => exact issued.elim

theorem registerScans_extends (scans : List (ForeignTable × Engine × Options))
    (d : Duckdb fold) : Extends (scans.map (·.1.schema)) d (registerScans scans d) := by
  induction scans generalizing d with
  | nil => exact .of_same rfl rfl
  | cons scan scans ih =>
    obtain ⟨t, engine, userMapping⟩ := scan
    exact (registerDuckdbView_extends engine t userMapping d).trans (ih _)

theorem registerScans_view {scans : List (ForeignTable × Engine × Options)} {schema view : String}
    (other : ∀ scan ∈ scans, ¬ (fold scan.1.schema = fold schema ∧ fold scan.1.name = fold view))
    (d : Duckdb fold) : (registerScans scans d).view schema view = d.view schema view := by
  induction scans generalizing d with
  | nil => rfl
  | cons scan scans ih =>
    obtain ⟨t, engine, userMapping⟩ := scan
    have later := ih (fun scan mem => other scan (List.mem_cons_of_mem _ mem))
      (exec (registerDuckdbView engine t userMapping) d).2
    refine later.trans ?_
    rcases registerDuckdbView_grows engine t userMapping d schema view with same | ⟨hs, hv, -, -⟩
    · exact same
    · exact absurd ⟨hs.symm, hv.symm⟩ (other _ List.mem_cons_self)

theorem present_of_storeView {d d' : Duckdb fold} {schema table : String} {body : ViewBody}
    (h : d.storeView schema table body = .ok d') : (d'.view schema table).isSome := by
  cases present : d.view schema table with
  | some old => simp [Duckdb.view_storeView_of_some h present, present]
  | none => simp [Duckdb.view_storeView_of_none h present]

theorem createForeignView_present {engine : Engine} {t : ForeignTable} {d d' : Duckdb fold}
    (h : exec (createForeignView engine t) d = (.ok (), d')) :
    (d'.view t.schema t.name).isSome := by
  unfold createForeignView at h
  obtain ⟨_, m, -, run⟩ := exec_bind_eq_ok h
  split at run
  · cases run
  · exact present_of_storeView (execute_ok run)

theorem ensureView_present {engine : Engine} {t : ForeignTable} {d d' : Duckdb fold}
    (h : exec (ensureView engine t) d = (.ok (), d')) : (d'.view t.schema t.name).isSome := by
  unfold ensureView at h
  obtain ⟨found, m, looked, run⟩ := exec_bind_eq_ok h
  cases found with
  | true =>
    rw [exec_viewExists] at looked
    cases run
    cases answer : engine (.selectView t.schema t.name) with
    | refuse message => simp [answer] at looked
    | noRow => simp [answer] at looked
    | accept =>
      simp only [answer, Prod.mk.injEq, Except.ok.injEq] at looked
      obtain ⟨spelled, rfl⟩ := looked
      exact Duckdb.view_isSome_of_spelled spelled
  | false =>
    obtain ⟨_, m', -, create⟩ := exec_bind_eq_ok run
    exact createForeignView_present create

theorem registerDuckdbView_ok {engine : Engine} {t : ForeignTable} {userMapping : Options}
    {d d' : Duckdb fold} (h : exec (registerDuckdbView engine t userMapping) d = (.ok (), d')) :
    d'.view t.schema t.name = some ((d.view t.schema t.name).getD t.body) := by
  have grows := registerDuckdbView_grows engine t userMapping d
  rw [h] at grows
  obtain ⟨_, m, -, ensured⟩ := exec_bind_eq_ok h
  have present := ensureView_present ensured
  rcases grows t.schema t.name with same | ⟨-, -, absent, new⟩
  · rw [same] at present ⊢
    obtain ⟨body, hb⟩ := Option.isSome_iff_exists.mp present
    simp [hb]
  · simp [new, absent]

theorem prepareHandler_accepting {handler : FdwHandler} (h : handler ≠ .other) (d : Duckdb fold) :
    exec (prepareHandler accepting handler) d = (.ok (), d) := by
  have loads (name : String) : exec (loadExtension accepting name) d = (.ok (), d) := by
    rw [loadExtension, exec_bind, exec_checkExtensionLoaded]
    rfl
  cases handler with
  | other => exact absurd rfl h
  | iceberg => exact loads _
  | spatial => exact loads _
  | csv | json | parquet | delta => rfl

theorem createView_of_files {t : ForeignTable} (h : (t.options.lookup "files").isSome) :
    createView t = .ok t.body := by
  obtain ⟨files, hf⟩ := Option.isSome_iff_exists.mp h
  simp [createView, hf]

theorem registerDuckdbView_accepting {t : ForeignTable} (handled : t.handler ≠ .other)
    (files : (t.options.lookup "files").isSome) (d : Duckdb fold) :
    ∃ d', exec (registerDuckdbView accepting t []) d = (.ok (), d') := by
  have secret : exec (setSecret accepting []) d = (.ok (), d) := rfl
  rw [registerDuckdbView, exec_bind_ok secret, ensureView]
  have looked : exec (viewExists accepting t.name t.schema) d =
      (.ok (d.views.spelled (t.schema, t.name)), d) := exec_viewExists _ _ _ _
  rw [exec_bind_ok looked]
  cases d.views.spelled (t.schema, t.name) with
  | true => exact ⟨d, rfl⟩
  | false =>
    have schema : exec (execute accepting (.createSchema t.schema)) d =
        (.ok (), { d with schemas := d.schemas.insertNew t.schema () }) := exec_execute _ _ _
    simp only [Bool.not_false, if_true]
    rw [exec_bind_ok schema, createForeignView,
      exec_bind_ok (prepareHandler_accepting handled _), createView_of_files files]
    obtain ⟨stored, found⟩ := Option.isSome_iff_exists.mp
      (d.schemas.find_insertNew_isSome t.schema ())
    simp only [exec_execute, accepting, Duckdb.apply, Duckdb.storeView, found]
    exact ⟨_, rfl⟩

/-- The view of `t` is dropped or built anew, and no other view changes. -/
def Renews (t : ForeignTable) (d d' : Duckdb fold) : Prop :=
  ∀ s n, d'.view s n = d.view s n ∨
    (fold s = fold t.schema ∧ fold n = fold t.name ∧
      (d'.view s n = none ∨ d'.view s n = some t.body))

instance (t : ForeignTable) : Std.Refl (@Renews κ _ fold t) := ⟨fun _ _ _ => .inl rfl⟩

instance (t : ForeignTable) : IsTrans (Duckdb fold) (Renews t) := ⟨by
  intro a b c ab bc s n
  rcases bc s n with same | own
  · rcases ab s n with same' | ⟨hs, hn, now⟩
    · exact .inl (same.trans same')
    · exact .inr ⟨hs, hn, same ▸ now⟩
  · exact .inr own⟩

theorem renews_of_grows {t : ForeignTable} {d d' : Duckdb fold} (h : Grows t d d') :
    Renews t d d' := by
  intro s n
  rcases h s n with same | ⟨hs, hn, -, new⟩
  · exact .inl same
  · exact .inr ⟨hs, hn, .inr new⟩

theorem inferSchema_view (engine : Engine) (t : ForeignTable) (natts : ℕ)
    (alterTable : Option Fault) :
    Respects (fun d d' : Duckdb fold => d' = d) (inferSchema engine t natts alterTable) := by
  have refl : Std.Refl (fun d d' : Duckdb fold => d' = d) := ⟨fun _ => rfl⟩
  have trans : IsTrans (Duckdb fold) (fun d d' => d' = d) := ⟨fun _ _ _ ab bc => bc.trans ab⟩
  unfold inferSchema
  refine Respects.ite (Respects.pure ()) (Respects.bind ?_ fun _ => ?_)
  · refine execute_respects fun d d' h => ?_
    simp only [Duckdb.apply] at h
    split at h <;> cases h
    rfl
  · split
    · exact Respects.throw _
    · exact Respects.pure ()

/-- The trigger leaves views of other names alone. Under the table's own name
it leaves the old view, no view, or the table's own view. -/
theorem autoCreateSchemaImpl_renews (engine : Engine) (t : ForeignTable) (userMapping : Options)
    (natts : ℕ) (alterTable : Option Fault) :
    Respects (@Renews κ _ fold t)
      (autoCreateSchemaImpl engine t userMapping natts alterTable) := by
  unfold autoCreateSchemaImpl
  refine Respects.ite (Respects.pure ()) (Respects.ite (Respects.throw _) ?_)
  refine Respects.bind ?_ fun _ => Respects.bind ?_ fun _ => ?_
  · refine execute_respects fun d d' h => ?_
    cases h
    intro s n
    rw [Duckdb.view_erase]
    by_cases own : fold s = fold t.schema ∧ fold n = fold t.name
    · exact .inr ⟨own.1, own.2, .inl (if_pos own)⟩
    · exact .inl (if_neg own)
  · exact (registerDuckdbView_grows engine t userMapping).mono fun _ _ => renews_of_grows
  · refine (inferSchema_view engine t natts alterTable).mono fun d d' same => ?_
    rw [same]
    exact Std.Refl.refl d

theorem autoCreateSchemaImpl_ok {engine : Engine} {t : ForeignTable} {userMapping : Options}
    {natts : ℕ} {alterTable : Option Fault} {d d' : Duckdb fold} (kind : t.handler ≠ .other)
    (h : exec (autoCreateSchemaImpl engine t userMapping natts alterTable) d = (.ok (), d')) :
    d'.view t.schema t.name = some t.body := by
  rw [autoCreateSchemaImpl, if_neg kind] at h
  split at h
  · cases h
  · obtain ⟨_, dropped, drop, rest⟩ := exec_bind_eq_ok h
    obtain ⟨_, registered, register, infer⟩ := exec_bind_eq_ok rest
    have gone : dropped.view t.schema t.name = none := by
      have erased := execute_ok drop
      cases erased
      simp [Duckdb.view_erase]
    have same : d' = registered := by
      simpa [infer] using inferSchema_view engine t natts alterTable registered
    rw [same, registerDuckdbView_ok register, gone]
    rfl

end PgAnalytics.ForeignTables
