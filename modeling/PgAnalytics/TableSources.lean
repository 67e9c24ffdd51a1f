import PgAnalytics.Lexing
import PgAnalytics.NameResolution
import PgAnalytics.SchemaProvider

/-! The tables that DataFusion finds for the names of a query. A name with a schema is
looked up there; one without is looked for in the schemas of Postgres's search path, in
order, until a schema has a foreign table of these wrappers by that name. The schema
`information_schema` is DataFusion's own, whatever Postgres has in it. -/

namespace PgAnalytics.TableSources
open Basics (Fault Options)
open Commands Lexing NameTables ObjectStores Runs SchemaProvider
open RecordBatches (Oid)

structure PgRelation where
  isForeignTable : Bool
  relation : SchemaProvider.Relation

/-- `fdw_handler != FdwHandler::Other`, of a foreign table. -/
def PgRelation.ours (pgRelation : PgRelation) : Bool :=
  pgRelation.isForeignTable && pgRelation.relation.handler != .other

/-- The options of the trait `ForeignOptions`. -/
def PgRelation.withOptions (pgRelation : PgRelation) : SchemaProvider.Relation :=
  if pgRelation.isForeignTable then pgRelation.relation
  else { pgRelation.relation with
    tableOptions := [], serverOptions := [], userMappingOptions := [] }

abbrev PgCatalog := NameTable (id : String → String) (NameTable (id : String → String) PgRelation)

def PgCatalog.relation (catalog : PgCatalog) (schemaName tableName : String) : Option PgRelation :=
  (catalog.lookup schemaName).bind (·.lookup tableName)

/-- The text that `open_with_name` is given. -/
def quotedName (schemaName tableName : String) : List Char :=
  '"' :: (schemaName.toList ++ '"' :: '.' :: '"' :: (tableName.toList ++ ['"']))

/-- Postgres's reading of a text as two quoted names. -/
def qualifiedName : List Char → Option (String × String)
  | '"' :: text =>
    (takeQuoted '"' text).bind fun schema =>
      match schema.2 with
      | '.' :: '"' :: text =>
        (takeQuoted '"' text).bind fun table =>
          if table.2 = [] then some (String.ofList schema.1, String.ofList table.1) else none
      | _ => none
  | _ => none

def openWithName (catalog : PgCatalog) (schemaName tableName : String) : Option PgRelation :=
  (qualifiedName (quotedName schemaName tableName)).bind fun name =>
    catalog.relation name.1 name.2

def tableExist (catalog : PgCatalog) (schemaName tableName : String) : Bool :=
  (openWithName catalog schemaName tableName).any PgRelation.ours

variable {Store : Type}

/-- `LakehouseSchemaProvider`: the providers of one schema. -/
abbrev LakehouseSchemaProvider := NameTable (id : Oid → Oid) TableProvider

structure SessionContext where
  catalogName : String
  timeZone : String
  schemas : NameTable (id : String → String) LakehouseSchemaProvider

structure Caches (Store : Type) where
  sessionCache : Option SessionContext
  objectStoreRegistryCache : LakehouseObjectStoreRegistry Store

/-- What Postgres and the libraries answer while a query is planned; `ownTable` says which
tables DataFusion's `information_schema` has. -/
structure Environment (Store : Type) where
  catalog : PgCatalog
  ownTable : String → Bool
  currentSchemas : Option (List String)
  catalogName : Except Fault String
  sessionTimezone : String
  configuration : Except Fault Unit
  outside : Outside Store

/-- What a name stands for in a plan. A session is made with an `information_schema` of
DataFusion's own, beside the schemas of its catalog. -/
inductive TableSource where
  | provider (provider : TableProvider)
  | informationSchema (tableName : String)

def INFORMATION_SCHEMA : String := "information_schema"

/-- `Session::init`. -/
def initSession (env : Environment Store) : Except Fault SessionContext := do
  env.configuration
  let catalogName ← env.catalogName
  return ⟨catalogName, env.sessionTimezone, NameTable.empty⟩

def sessionContext (env : Environment Store) :
    Command (Caches Store) CatalogError SessionContext := do
  match (← get).sessionCache with
  | some context => return context
  | none => do
    let context ← ofResult (orFault (initSession env))
    modify fun caches => { caches with sessionCache := some context }
    return context

/-- `context.catalog` of the database. -/
def catalog (env : Environment Store) : Command (Caches Store) CatalogError SessionContext := do
  let context ← sessionContext env
  let catalogName ← ofResult (orFault env.catalogName)
  if context.catalogName = catalogName then return context
  else throw (.fault (.error ("Catalog " ++ catalogName ++ " not found")))

/-- `Session::schema_provider`, which registers a schema that is not there. -/
def schemaProvider (env : Environment Store) (schemaName : String) :
    Command (Caches Store) CatalogError LakehouseSchemaProvider := do
  let context ← catalog env
  let schemas := context.schemas.insertNew schemaName NameTable.empty
  modify fun caches => { caches with sessionCache := some { context with schemas } }
  return (schemas.lookup schemaName).getD NameTable.empty

def opened (catalog : PgCatalog) (schemaName tableName : String) : SchemaProvider.Catalog :=
  match openWithName catalog schemaName tableName with
  | none => NameTable.empty
  | some pgRelation => NameTable.empty.replace tableName pgRelation.withOptions

def putTables (context : SessionContext) (schemaName : String) (_ : Caches Store)
    (session : SchemaProvider.Session Store) : Caches Store where
  sessionCache := some { context with schemas := context.schemas.replace schemaName session.tables }
  objectStoreRegistryCache := session.stores

def getSource (env : Environment Store) (schemaName tableName : String) :
    Command (Caches Store) CatalogError TableSource := do
  if schemaName = INFORMATION_SCHEMA then
    let _ ← sessionContext env
    if env.ownTable tableName then return .informationSchema tableName
    else throw (.fault (.error ("No table named '" ++ tableName ++ "'")))
  else
    let context ← catalog env
    match context.schemas.lookup schemaName with
    | none => throw (.fault (.error ("failed to resolve schema: " ++ schemaName)))
    | some tables =>
      let provider ← onPart (fun caches => ⟨tables, caches.objectStoreRegistryCache⟩)
        (putTables context schemaName)
        (tableImpl env.outside (opened env.catalog schemaName tableName) tableName)
      return .provider provider

structure TableReference where
  schema : Option String
  table : String
  deriving DecidableEq, Repr

def cascade (env : Environment Store) (tableName : String) :
    List String → Command (Caches Store) CatalogError TableSource
  | [] => throw (.fault (.error ("No table registered with name " ++ tableName)))
  | schemaName :: currentSchemas => do
    let _ ← schemaProvider env schemaName
    if !tableExist env.catalog schemaName tableName then
      cascade env tableName currentSchemas
    else
      getSource env schemaName tableName

def getTableSource (env : Environment Store) (reference : TableReference) :
    Command (Caches Store) CatalogError TableSource := do
  let _ ← ofResult (orFault env.catalogName)
  match reference.schema with
  | some schemaName => do
    let _ ← schemaProvider env schemaName
    getSource env schemaName reference.table
  | none => cascade env reference.table (env.currentSchemas.getD [])

def SessionContext.provider (context : SessionContext) (key : String × Oid) :
    Option TableProvider :=
  (context.schemas.lookup key.1).bind (·.lookup key.2)

structure SessionContext.Grows (context later : SessionContext) : Prop where
  catalogName : later.catalogName = context.catalogName
  timeZone : later.timeZone = context.timeZone
  providers : Keeps SessionContext.provider context later

def Grow (caches later : Caches Store) : Prop :=
  ∀ context, caches.sessionCache = some context →
    ∃ context', later.sessionCache = some context' ∧ context.Grows context'

theorem SessionContext.Grows.refl (context : SessionContext) : context.Grows context :=
  ⟨rfl, rfl, Std.Refl.refl _⟩

instance : Std.Refl (@Grow Store) :=
  ⟨fun _ context found => ⟨context, found, .refl context⟩⟩

instance : IsTrans (Caches Store) Grow := by
  refine ⟨fun _ _ _ first second context found => ?_⟩
  obtain ⟨middle, found', one⟩ := first context found
  obtain ⟨last, found'', two⟩ := second middle found'
  exact ⟨last, found'', two.catalogName.trans one.catalogName, two.timeZone.trans one.timeZone,
    IsTrans.trans _ _ _ one.providers two.providers⟩

theorem SessionContext.grows_of_lookup {context : SessionContext}
    {schemas : NameTable (id : String → String) LakehouseSchemaProvider} (schemaName : String)
    (tables : LakehouseSchemaProvider)
    (looked : ∀ name, schemas.lookup name =
      if name = schemaName then some tables else context.schemas.lookup name)
    (kept : ∀ before, context.schemas.lookup schemaName = some before →
      Keeps NameTable.lookup before tables) :
    context.Grows { context with schemas } := by
  refine ⟨rfl, rfl, fun key provider held => ?_⟩
  obtain ⟨before, found, at'⟩ := Option.bind_eq_some_iff.mp held
  rw [SessionContext.provider, looked]
  split
  · rename_i same
    rw [same] at found
    exact kept before found _ _ at'
  · rw [found]
    exact at'

theorem exec_sessionContext_cases (env : Environment Store) (caches : Caches Store) :
    (∃ error, exec (sessionContext env) caches = (.error error, caches)) ∨
      ∃ context, exec (sessionContext env) caches =
        (.ok context, { caches with sessionCache := some context }) ∧
        (caches.sessionCache = some context ∨
          caches.sessionCache = none ∧ initSession env = .ok context) := by
  unfold sessionContext
  rw [exec_bind, exec_get]
  dsimp only
  cases cached : caches.sessionCache with
  | some context =>
    refine .inr ⟨context, ?_, .inl rfl⟩
    obtain ⟨cache, registry⟩ := caches
    cases cached
    rfl
  | none =>
    dsimp only
    rw [exec_bind, exec_ofResult]
    cases made : initSession env with
    | error fault => exact .inl ⟨_, rfl⟩
    | ok context => exact .inr ⟨context, rfl, .inr ⟨rfl, rfl⟩⟩

theorem sessionContext_grows (env : Environment Store) : Respects Grow (sessionContext env) := by
  intro caches
  rcases exec_sessionContext_cases env caches with ⟨error, run⟩ | ⟨context, run, cached⟩
  · rw [run]
    exact Std.Refl.refl _
  · rw [run]
    rintro before found
    rcases cached with same | ⟨absent, -⟩
    · rw [same] at found
      cases found
      exact ⟨context, rfl, .refl context⟩
    · rw [absent] at found
      cases found

theorem exec_catalog_cases (env : Environment Store) (caches : Caches Store) :
    (∃ error caches', exec (catalog env) caches = (.error error, caches') ∧ Grow caches caches') ∨
      ∃ context, exec (catalog env) caches =
        (.ok context, { caches with sessionCache := some context }) ∧
        Grow caches { caches with sessionCache := some context } := by
  unfold catalog
  rcases exec_sessionContext_cases env caches with ⟨error, run⟩ | ⟨context, run, -⟩
  · exact .inl ⟨error, caches, exec_bind_error run, Std.Refl.refl _⟩
  · have grown := sessionContext_grows env caches
    rw [run] at grown
    rw [exec_bind_ok run, exec_bind, exec_ofResult]
    cases env.catalogName with
    | error fault => exact .inl ⟨_, _, rfl, grown⟩
    | ok catalogName =>
      by_cases same : context.catalogName = catalogName
      · exact .inr ⟨context, by simp [orFault, same], grown⟩
      · exact .inl ⟨.fault (.error ("Catalog " ++ catalogName ++ " not found")), _,
          by simp [orFault, same], grown⟩

theorem Grow.trans {caches middle later : Caches Store} (first : Grow caches middle)
    (second : Grow middle later) : Grow caches later := IsTrans.trans _ _ _ first second

theorem schemaProvider_grows (env : Environment Store) (schemaName : String) :
    Respects Grow (schemaProvider env schemaName) := by
  intro caches
  unfold schemaProvider
  rcases exec_catalog_cases env caches with ⟨error, caches', run, grown⟩ | ⟨context, run, grown⟩
  · rw [exec_bind_error run]
    exact grown
  · rw [exec_bind_ok run]
    refine grown.trans ?_
    rintro before found
    cases found
    refine ⟨_, rfl, ?_⟩
    cases free : context.schemas.find schemaName with
    | some entry =>
      rw [NameTable.insertNew_of_some _ free]
      exact .refl context
    | none =>
      refine SessionContext.grows_of_lookup schemaName NameTable.empty (fun name => ?_)
        fun before held => ?_
      · exact NameTable.lookup_insertNew_of_none _ free name
      · rw [NameTable.lookup, free] at held
        cases held

def Caches.provider (caches : Caches Store) (key : String × Oid) : Option TableProvider :=
  caches.sessionCache.bind (·.provider key)

theorem Grow.keeps {caches later : Caches Store} (grown : Grow caches later) :
    Keeps Caches.provider caches later := by
  intro key provider held
  obtain ⟨context, found, at'⟩ := Option.bind_eq_some_iff.mp held
  obtain ⟨context', found', grows⟩ := grown context found
  rw [Caches.provider, found']
  exact grows.providers key provider at'

theorem lookup_opened (pgCatalog : PgCatalog) (schemaName tableName : String) :
    (opened pgCatalog schemaName tableName).lookup tableName =
      (openWithName pgCatalog schemaName tableName).map PgRelation.withOptions := by
  unfold opened
  cases openWithName pgCatalog schemaName tableName with
  | none => rfl
  | some pgRelation => exact (NameTable.lookup_replace _ _ _ _).trans (if_pos rfl)

@[simp] theorem withOptions_oid (pgRelation : PgRelation) :
    pgRelation.withOptions.oid = pgRelation.relation.oid := by
  unfold PgRelation.withOptions
  split <;> rfl

theorem putTables_grows {context : SessionContext} {schemaName : String}
    {tables : LakehouseSchemaProvider} (found : context.schemas.lookup schemaName = some tables)
    {session : SchemaProvider.Session Store} (kept : Keeps NameTable.lookup tables session.tables)
    (caches : Caches Store) :
    Grow { caches with sessionCache := some context }
      (putTables context schemaName caches session) := by
  rintro before cached
  cases cached
  refine ⟨_, rfl, SessionContext.grows_of_lookup schemaName session.tables
    (fun name => NameTable.lookup_replace _ _ _ _) fun before held => ?_⟩
  rw [found] at held
  cases held
  exact kept

theorem provider_putTables (context : SessionContext) (schemaName : String)
    (caches : Caches Store) (session : SchemaProvider.Session Store) (oid : Oid) :
    (putTables context schemaName caches session).provider (schemaName, oid) =
      session.tables.lookup oid := by
  rw [Caches.provider, putTables, Option.bind_some, SessionContext.provider,
    NameTable.lookup_replace, if_pos rfl, Option.bind_some]

theorem keeps_insertNew {tables : LakehouseSchemaProvider} {oid : Oid}
    (absent : tables.lookup oid = none) (provider : TableProvider) :
    Keeps NameTable.lookup tables (tables.insertNew oid provider) := by
  have free : tables.find oid = none := Option.map_eq_none_iff.mp absent
  intro other held at'
  rw [NameTable.lookup_insertNew_of_none provider free]
  split
  · rename_i same
    rw [NameTable.lookup, NameTable.find_congr _ same, free] at at'
    cases at'
  · exact at'

/-- An answer is the provider that is kept under the OID of the relation that the name opens
in the schema, or from DataFusion's own schema. -/
def AnswersFrom (env : Environment Store) (schemaName : Option String) (tableName : String)
    (caches : Caches Store) : TableSource → Prop
  | .provider provider => ∃ schema pgRelation, schemaName = some schema ∧
      schema ≠ INFORMATION_SCHEMA ∧ openWithName env.catalog schema tableName = some pgRelation ∧
        caches.provider (schema, pgRelation.relation.oid) = some provider
  | .informationSchema _ => schemaName = some INFORMATION_SCHEMA

theorem getSource_cases (env : Environment Store) (schemaName tableName : String)
    (caches : Caches Store) :
    ∃ answer caches', exec (getSource env schemaName tableName) caches = (answer, caches') ∧
      Grow caches caches' ∧ ∀ source, answer = .ok source →
        AnswersFrom env (some schemaName) tableName caches' source := by
  unfold getSource
  split
  · rename_i own
    have grown := sessionContext_grows env caches
    rcases exec_sessionContext_cases env caches with ⟨error, run⟩ | ⟨context, run, -⟩
    · exact ⟨_, _, exec_bind_error run, Std.Refl.refl _, fun source ok => by cases ok⟩
    · rw [run] at grown
      rw [exec_bind_ok run]
      cases env.ownTable tableName with
      | false => exact ⟨_, _, rfl, grown, fun source ok => by cases ok⟩
      | true =>
        refine ⟨_, _, rfl, grown, ?_⟩
        rintro _ ⟨⟩
        exact congrArg some own
  rename_i other
  rcases exec_catalog_cases env caches with ⟨error, caches', run, grown⟩ | ⟨context, run, grown⟩
  · exact ⟨_, _, exec_bind_error run, grown, fun source ok => by cases ok⟩
  · rw [exec_bind_ok run]
    cases found : context.schemas.lookup schemaName with
    | none => exact ⟨_, _, rfl, grown, fun source ok => by cases ok⟩
    | some tables =>
      dsimp only
      rw [exec_bind, exec_onPart]
      rcases tableImpl_cases env.outside (opened env.catalog schemaName tableName) tableName
          ⟨tables, caches.objectStoreRegistryCache⟩ with
        ⟨error, session, ran, same⟩ | ⟨pgRelation, provider, session, at', ran, cached | made⟩
      · rw [ran]
        exact ⟨_, _, rfl, grown.trans (putTables_grows found (keeps_of_eq (by rw [same])) _),
          fun source ok => by cases ok⟩
      all_goals
        rw [lookup_opened] at at'
        obtain ⟨pgRelation', open', rfl⟩ := Option.map_eq_some_iff.mp at'
        rw [withOptions_oid] at *
        rw [ran]
      · obtain ⟨cached, rfl⟩ := cached
        refine ⟨_, _, rfl, grown.trans (putTables_grows found (Std.Refl.refl _) _), ?_⟩
        rintro _ ⟨⟩
        exact ⟨schemaName, pgRelation', rfl, other, open', (provider_putTables ..).trans cached⟩
      · obtain ⟨absent, -, kept⟩ := made
        have keeps := keeps_insertNew absent provider
        rw [← kept] at keeps
        refine ⟨_, _, rfl, grown.trans (putTables_grows found keeps _), ?_⟩
        rintro _ ⟨⟩
        refine ⟨schemaName, pgRelation', rfl, other, open', (provider_putTables ..).trans ?_⟩
        rw [kept, NameTable.lookup_insertNew_of_none provider (Option.map_eq_none_iff.mp absent),
          if_pos rfl]

def sourceSchema (env : Environment Store) (reference : TableReference) : Option String :=
  match reference.schema with
  | some schemaName => some schemaName
  | none => (env.currentSchemas.getD []).find? (tableExist env.catalog · reference.table)

def sourceRelation (env : Environment Store) (reference : TableReference) :
    Option (String × PgRelation) :=
  (sourceSchema env reference).bind fun schemaName =>
    (openWithName env.catalog schemaName reference.table).map (schemaName, ·)

theorem cascade_cases (env : Environment Store) (tableName : String) (schemas : List String)
    (caches : Caches Store) :
    ∃ answer caches', exec (cascade env tableName schemas) caches = (answer, caches') ∧
      Grow caches caches' ∧ ∀ source, answer = .ok source →
        AnswersFrom env (schemas.find? (tableExist env.catalog · tableName)) tableName caches'
          source := by
  induction schemas generalizing caches with
  | nil => exact ⟨_, _, rfl, Std.Refl.refl _, fun source ok => by cases ok⟩
  | cons schemaName schemas ih =>
    have grown := schemaProvider_grows env schemaName caches
    rw [cascade]
    rcases run : exec (schemaProvider env schemaName) caches with ⟨error | tables, caches'⟩
    · rw [run] at grown
      exact ⟨_, _, exec_bind_error run, grown, fun source ok => by cases ok⟩
    · rw [run] at grown
      rw [exec_bind_ok run]
      cases held : tableExist env.catalog schemaName tableName with
      | false =>
        obtain ⟨answer, last, ran, later, from'⟩ := ih caches'
        refine ⟨answer, last, ran, grown.trans later, ?_⟩
        simpa only [List.find?_cons, held] using from'
      | true =>
        obtain ⟨answer, last, ran, later, from'⟩ := getSource_cases env schemaName tableName caches'
        refine ⟨answer, last, ran, grown.trans later, ?_⟩
        simpa only [List.find?_cons, held] using from'

/-- The caches grow, and an answer is from the schema of the reference. -/
theorem getTableSource_cases (env : Environment Store) (reference : TableReference)
    (caches : Caches Store) :
    ∃ answer caches', exec (getTableSource env reference) caches = (answer, caches') ∧
      Grow caches caches' ∧ ∀ source, answer = .ok source →
        AnswersFrom env (sourceSchema env reference) reference.table caches' source := by
  unfold getTableSource sourceSchema
  rw [exec_bind, exec_ofResult]
  cases env.catalogName with
  | error fault => exact ⟨_, _, rfl, Std.Refl.refl _, fun source ok => by cases ok⟩
  | ok catalogName =>
    dsimp only [orFault]
    cases reference.schema with
    | none => exact cascade_cases env reference.table _ caches
    | some schemaName =>
      have grown := schemaProvider_grows env schemaName caches
      rcases run : exec (schemaProvider env schemaName) caches with ⟨error | tables, caches'⟩
      · rw [run] at grown
        exact ⟨_, _, exec_bind_error run, grown, fun source ok => by cases ok⟩
      · rw [run] at grown
        obtain ⟨answer, last, ran, later, from'⟩ :=
          getSource_cases env schemaName reference.table caches'
        exact ⟨answer, last, (exec_bind_ok run).trans ran, grown.trans later, from'⟩

theorem getTableSource_provider {env : Environment Store} {reference : TableReference}
    {caches caches' : Caches Store} {provider : TableProvider}
    (answered : exec (getTableSource env reference) caches = (.ok (.provider provider), caches')) :
    ∃ schemaName found, sourceRelation env reference = some (schemaName, found) ∧
      schemaName ≠ INFORMATION_SCHEMA ∧
      caches'.provider (schemaName, found.relation.oid) = some provider := by
  obtain ⟨answer, last, run, -, from'⟩ := getTableSource_cases env reference caches
  cases answered.symm.trans run
  obtain ⟨schemaName, found, named, other, open', kept⟩ := from' _ rfl
  exact ⟨schemaName, found, by rw [sourceRelation, named, Option.bind_some, open']; rfl, other,
    kept⟩

theorem getTableSource_grows (env : Environment Store) (reference : TableReference) :
    Respects Grow (getTableSource env reference) := by
  intro caches
  obtain ⟨answer, caches', run, grown, -⟩ := getTableSource_cases env reference caches
  rw [run]
  exact grown

/-- The relation of a name in the first schema of the search path that has one. -/
def postgresRelation (env : Environment Store) (reference : TableReference) :
    Option (String × PgRelation) :=
  (match reference.schema with
    | some schemaName => some schemaName
    | none => (env.currentSchemas.getD []).find? fun schemaName =>
      (env.catalog.relation schemaName reference.table).isSome).bind
  fun schemaName => (env.catalog.relation schemaName reference.table).map (schemaName, ·)

/-- Postgres finds one of these wrappers' tables under the name. -/
def PostgresReadsOurs (env : Environment Store) (reference : TableReference) : Prop :=
  ∃ schemaName own, postgresRelation env reference = some (schemaName, own) ∧ own.ours = true

def Plain (name : String) : Prop := '"' ∉ name.toList

structure PlainNames (env : Environment Store) (reference : TableReference) : Prop where
  table : Plain reference.table
  schema : ∀ schemaName, reference.schema = some schemaName → Plain schemaName
  path : ∀ schemaName ∈ env.currentSchemas.getD [], Plain schemaName

theorem openWithName_plain {schemaName tableName : String} (schema : Plain schemaName)
    (table : Plain tableName) (pgCatalog : PgCatalog) :
    openWithName pgCatalog schemaName tableName = pgCatalog.relation schemaName tableName := by
  have first := @takeQuoted_plain '"' schemaName.toList
    ('.' :: '"' :: (tableName.toList ++ ['"'])) schema (by simp)
  have second := @takeQuoted_plain '"' tableName.toList [] table (by simp)
  have read : qualifiedName (quotedName schemaName tableName) = some (schemaName, tableName) := by
    simp [qualifiedName, quotedName, first, second]
  rw [openWithName, read, Option.bind_some]

theorem tableExist_iff {schemaName tableName : String} (schema : Plain schemaName)
    (table : Plain tableName) (pgCatalog : PgCatalog) :
    tableExist pgCatalog schemaName tableName = true ↔
      ∃ own, pgCatalog.relation schemaName tableName = some own ∧ own.ours = true := by
  rw [tableExist, openWithName_plain schema table, Option.any_eq_true]

theorem sourceRelation_eq_iff {env : Environment Store} {reference : TableReference}
    (plain : PlainNames env reference) {schemaName : String} {found : PgRelation}
    (source : sourceRelation env reference = some (schemaName, found)) :
    postgresRelation env reference = some (schemaName, found) ↔
      reference.schema.isSome ∨ PostgresReadsOurs env reference := by
  cases qualified : reference.schema with
  | some given =>
    have same : postgresRelation env reference = sourceRelation env reference := by
      simp [postgresRelation, sourceRelation, sourceSchema, qualified,
        openWithName_plain (plain.schema given qualified) plain.table]
    simp [same, source]
  | none =>
    simp only [sourceRelation, sourceSchema, qualified] at source
    obtain ⟨first, found', at'⟩ := Option.bind_eq_some_iff.mp source
    obtain ⟨relation, open', same⟩ := Option.map_eq_some_iff.mp at'
    cases same
    have onPath := plain.path _ (List.mem_of_find?_eq_some found')
    rw [openWithName_plain onPath plain.table] at open'
    have exists' := List.find?_some found'
    obtain ⟨own, held, ours⟩ := (tableExist_iff onPath plain.table _).mp exists'
    obtain rfl : own = found := Option.some.inj (held.symm.trans open')
    constructor
    · intro read
      exact .inr ⟨schemaName, own, read, ours⟩
    · rintro (none | ⟨schema, own', read, ours'⟩)
      · cases none
      simp only [postgresRelation, qualified] at read ⊢
      obtain ⟨schema', resolved, at''⟩ := Option.bind_eq_some_iff.mp read
      obtain ⟨relation, held', same⟩ := Option.map_eq_some_iff.mp at''
      cases same
      have resolvedOnPath := plain.path _ (List.mem_of_find?_eq_some resolved)
      -- no schema before it has a table of these wrappers without having a relation
      have agrees := (NameResolution.find?_agrees_iff (tableExist env.catalog · reference.table)
        (fun name => (env.catalog.relation name reference.table).isSome) _).mpr
        (.inr ⟨schema, resolved,
          (tableExist_iff resolvedOnPath plain.table _).mpr ⟨own', held', ours'⟩,
          fun name before exists' => by
            have here := plain.path _ ((List.takeWhile_sublist _).subset before)
            obtain ⟨relation, listed, -⟩ := (tableExist_iff here plain.table _).mp exists'.1
            exact exists'.2 (by rw [listed]; rfl)⟩)
      rw [agrees _ found', Option.bind_some, open']
      rfl

theorem answered_source {env : Environment Store} {reference : TableReference}
    (plain : PlainNames env reference) {caches caches' : Caches Store} {provider : TableProvider}
    (answered : exec (getTableSource env reference) caches = (.ok (.provider provider), caches')) :
    ∃ schemaName found, sourceRelation env reference = some (schemaName, found) ∧
      env.catalog.relation schemaName reference.table = some found ∧
      caches'.provider (schemaName, found.relation.oid) = some provider := by
  obtain ⟨schemaName, found, source, -, kept⟩ := getTableSource_provider answered
  refine ⟨schemaName, found, source, ?_, kept⟩
  obtain ⟨first, named, at'⟩ := Option.bind_eq_some_iff.mp source
  obtain ⟨relation, open', same⟩ := Option.map_eq_some_iff.mp at'
  cases same
  have plainSchema : Plain schemaName := by
    rw [sourceSchema] at named
    cases qualified : reference.schema with
    | some given =>
      rw [qualified] at named
      cases named
      exact plain.schema _ qualified
    | none =>
      rw [qualified] at named
      exact plain.path _ (List.mem_of_find?_eq_some named)
  rwa [openWithName_plain plainSchema plain.table] at open'

/-- Whatever the session holds, a plan that is given a provider reads the table that Postgres
reads exactly when the name has a schema or the first relation of that name on the search
path is one of these wrappers' tables. -/
theorem getTableSource_agrees_iff {env : Environment Store} {reference : TableReference}
    (plain : PlainNames env reference) {caches caches' : Caches Store} {provider : TableProvider}
    (answered : exec (getTableSource env reference) caches = (.ok (.provider provider), caches')) :
    ∃ schemaName found, env.catalog.relation schemaName reference.table = some found ∧
      caches'.provider (schemaName, found.relation.oid) = some provider ∧
      (postgresRelation env reference = some (schemaName, found) ↔
        reference.schema.isSome ∨ PostgresReadsOurs env reference) := by
  obtain ⟨schemaName, found, source, held, kept⟩ := answered_source plain answered
  exact ⟨schemaName, found, held, kept, sourceRelation_eq_iff plain source⟩

def oneTable : Environment Unit where
  catalog := NameTable.empty.replace "public"
    (NameTable.empty.replace "trips" ⟨true, trips "file:///a" ""⟩)
  ownTable name := ["tables", "views", "columns", "df_settings", "schemata"].contains name
  currentSchemas := some ["public"]
  catalogName := .ok "postgres"
  sessionTimezone := "UTC"
  configuration := .ok ()
  outside := localFiles

def unqualifiedTrips : TableReference := ⟨none, "trips"⟩

theorem plainNames_oneTable : PlainNames oneTable unqualifiedTrips := by
  refine ⟨by simp [Plain, unqualifiedTrips], by simp [unqualifiedTrips], fun schemaName mem => ?_⟩
  rw [List.mem_singleton.mp mem]
  simp [Plain]

theorem exec_getTableSource_oneTable :
    ∃ provider caches', exec (getTableSource oneTable unqualifiedTrips) ⟨none, .new ()⟩ =
      (.ok (.provider provider), caches') := by
  have open' : openWithName oneTable.catalog "public" "trips" =
      some ⟨true, trips "file:///a" ""⟩ :=
    (openWithName_plain (by simp [Plain]) (by simp [Plain]) _).trans rfl
  have exists' : tableExist oneTable.catalog "public" "trips" = true := by
    rw [tableExist, open']
    rfl
  have found : opened oneTable.catalog "public" "trips" = tripsCatalog := by
    rw [opened, open']
    rfl
  have asked : exec (getTableSource oneTable unqualifiedTrips) ⟨none, .new ()⟩ =
      exec (do
        let _ ← schemaProvider oneTable "public"
        getSource oneTable "public" "trips") ⟨none, .new ()⟩ := by
    change exec (cascade oneTable "trips" ["public"]) ⟨none, .new ()⟩ = _
    rw [cascade, exists']
    rfl
  rw [asked, getSource, found]
  exact ⟨_, _, rfl⟩

theorem getTableSource_agrees_iff_oneTable :
    ∃ (provider : TableProvider) (caches' : Caches Unit) (schemaName : String) (found : PgRelation),
      oneTable.catalog.relation schemaName unqualifiedTrips.table = some found ∧
      caches'.provider (schemaName, found.relation.oid) = some provider ∧
      (postgresRelation oneTable unqualifiedTrips = some (schemaName, found) ↔
        unqualifiedTrips.schema.isSome ∨ PostgresReadsOurs oneTable unqualifiedTrips) := by
  obtain ⟨provider, caches', answered⟩ := exec_getTableSource_oneTable
  exact ⟨provider, caches', getTableSource_agrees_iff plainNames_oneTable answered⟩

def lookups : Machine (Caches Store) (Environment Store × TableReference)
    (Except CatalogError TableSource)
  | caches, (env, reference) =>
    let (answer, caches') := exec (getTableSource env reference) caches
    some (caches', answer)

theorem lookups_grow {caches caches' : Caches Store} {lookup : Environment Store × TableReference}
    {answer : Except CatalogError TableSource}
    (step : lookups caches lookup = some (caches', answer)) :
    Grow caches caches' ∧ ∀ source, answer = .ok source →
      AnswersFrom lookup.1 (sourceSchema lookup.1 lookup.2) lookup.2.table caches' source := by
  obtain ⟨answer', caches'', run, grown, from'⟩ := getTableSource_cases lookup.1 lookup.2 caches
  have same : some (caches'', answer') = some (caches', answer) := by
    rw [← step, lookups, run]
  cases same
  exact ⟨grown, from'⟩

/-- Once a table has been read, every later lookup of the session that comes to a table of
that OID in that schema fails or answers the same provider, whatever its name, its options
and its columns have become. -/
theorem provider_stays {env : Environment Store} {reference : TableReference}
    {caches caches' : Caches Store} {provider : TableProvider}
    (answered : exec (getTableSource env reference) caches = (.ok (.provider provider), caches')) :
    ∃ schemaName found, sourceRelation env reference = some (schemaName, found) ∧
      ∀ later, Always lookups (fun _ lookup answer => ∀ found' source,
        sourceRelation lookup.1 lookup.2 = some (schemaName, found') →
          found'.relation.oid = found.relation.oid → answer = .ok source →
            source = .provider provider) caches' later := by
  obtain ⟨schemaName, found, named, other, kept⟩ := getTableSource_provider answered
  refine ⟨schemaName, found, named, always_of_keeps (fun caches lookup caches' answer step =>
    (lookups_grow step).1.keeps) (fun caches lookup caches' answer held step => ?_) kept⟩
  intro found' source named' sameOid ok
  obtain ⟨schema, at', open'⟩ := Option.bind_eq_some_iff.mp named'
  obtain ⟨relation, open', same⟩ := Option.map_eq_some_iff.mp open'
  cases same
  obtain ⟨grown, from'⟩ := lookups_grow step
  have answers := from' source ok
  cases source with
  | informationSchema tableName => exact absurd (Option.some.inj (at'.symm.trans answers)) other
  | provider provider' =>
    obtain ⟨schema, relation, at'', -, open'', kept'⟩ := answers
    cases at'.symm.trans at''
    cases open'.symm.trans open''
    rw [sameOid, grown.keeps _ _ held] at kept'
    rw [Option.some.inj kept']

theorem provider_stays_oneTable :
    ∃ (provider : TableProvider) (caches' : Caches Unit) (schemaName : String) (found : PgRelation),
      sourceRelation oneTable unqualifiedTrips = some (schemaName, found) ∧
      ∀ later, Always lookups (fun _ lookup answer => ∀ found' source,
        sourceRelation lookup.1 lookup.2 = some (schemaName, found') →
          found'.relation.oid = found.relation.oid → answer = .ok source →
            source = .provider provider) caches' later := by
  obtain ⟨provider, caches', answered⟩ := exec_getTableSource_oneTable
  exact ⟨provider, caches', provider_stays answered⟩

end PgAnalytics.TableSources
