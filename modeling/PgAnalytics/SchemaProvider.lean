import PgAnalytics.CellReader
import PgAnalytics.ObjectStores
import PgAnalytics.Runs

/-! The table providers of a DataFusion schema. A provider is made of a table's options
and of the schema of its files, and kept under the OID of the table, while the catalog
of Postgres goes on changing. -/

namespace PgAnalytics.SchemaProvider
open Basics (Fault Options)
open CellReader Commands NameTables ObjectStores Runs
open RecordBatches (Oid INT2OID INT4OID INT8OID)

structure PgAttribute where
  name : String
  oid : Oid
  deriving DecidableEq, Repr

structure Field where
  name : String
  dataType : DataType

inductive SchemaError where
  | columnNameMismatch (field pgAttribute : String)
  | unsupportedArrowType (field : String) (dataType : DataType)
  | unsupportedConversion (field : String) (pgAttribute : PgAttribute) (dataType : DataType)
    (supported : List PgAttribute)

/-- The types of Postgres that an Arrow type is read as. -/
def supportedTypes : DataType → Option (List Oid)
  | .binary | .largeBinary => some [TEXTOID, VARCHAROID, BPCHAROID, BYTEAOID]
  | .boolean => some [BOOLOID]
  | .utf8 | .largeUtf8 => some [TEXTOID, VARCHAROID, BPCHAROID]
  | .int8 | .int16 | .int32 | .int64 | .uint8 | .uint16 | .uint32 | .uint64
  | .float16 | .float32 | .float64 | .decimal128 _ _ =>
    some [INT2OID, INT4OID, INT8OID, FLOAT4OID, FLOAT8OID, NUMERICOID]
  | .date32 | .date64 => some [DATEOID]
  | .time32 _ | .time64 _ => some [TIMEOID]
  | .timestamp _ none => some [TIMESTAMPOID]
  | .timestamp _ (some _) => some [TIMESTAMPTZOID]
  | .null | .interval _ | .list _ | .fixedSizeList _ _ | .struct _ | .other _ => none

def canConvertToAttribute (field : Field) (pgAttribute : PgAttribute) :
    Except SchemaError Unit :=
  if field.name ≠ pgAttribute.name then
    .error (.columnNameMismatch field.name pgAttribute.name)
  else
    match supportedTypes field.dataType with
    | none => .error (.unsupportedArrowType field.name field.dataType)
    | some types =>
      let supportedAttributes := types.map (PgAttribute.mk field.name)
      if pgAttribute ∈ supportedAttributes then .ok ()
      else
        .error (.unsupportedConversion field.name pgAttribute field.dataType supportedAttributes)

inductive FileFormat where
  | avro
  | csv
  | json
  | parquet
  deriving DecidableEq, Repr

inductive CatalogError where
  | fault (fault : Fault)
  | schema (error : SchemaError)

def orFault {α : Type} : Except Fault α → Except CatalogError α
  | .ok a => .ok a
  | .error fault => .error (.fault fault)

/-- Only letters of ASCII are changed; no other has a letter of a file format as its lower
case. -/
def toLowercase (format : String) : String := String.ofList (format.toList.map Char.toLower)

/-- `ListingOptions::try_from`. -/
def listingOptions (format : String) : Except Fault FileFormat :=
  match toLowercase format with
  | "avro" => .ok .avro
  | "csv" => .ok .csv
  | "json" => .ok .json
  | "parquet" => .ok .parquet
  | unsupported =>
    .error (.error ("Invalid format " ++ unsupported ++
      ". Options are avro, csv, json, and parquet."))

structure TableProvider where
  path : String
  format : FileFormat
  schema : List Field

structure Relation where
  oid : Oid
  handler : FdwHandler
  tableOptions : Options
  serverOptions : Options
  userMappingOptions : Options
  attributes : List PgAttribute

abbrev Catalog := NameTable (id : String → String) Relation

variable {Store : Type}

structure Session (Store : Type) where
  tables : NameTable (id : Oid → Oid) TableProvider
  stores : LakehouseObjectStoreRegistry Store

def requireOption (name : String) (options : Options) : Except Fault String :=
  match options.lookup name with
  | none => .error (.error ("required option `" ++ name ++ "` is not specified"))
  | some value => .ok value

def requireOptionOr (name : String) (options : Options) (default : String) : String :=
  (options.lookup name).getD default

structure Outside (Store : Type) where
  parseUrl : String → Except Fault Url
  inferSchema : String → FileFormat → Except Fault (List Field)
  build : FdwHandler → ObjectStoreConfig → Except Fault Store

def createListingProvider (outside : Outside Store) (path extension : String) :
    Except Fault TableProvider := do
  let format ← listingOptions extension
  let schema ← outside.inferSchema path format
  return ⟨path, format, schema⟩

def checkFields : List Field → List PgAttribute → Except SchemaError Unit
  | field :: fields, pgAttribute :: attributes => do
    canConvertToAttribute field pgAttribute
    checkFields fields attributes
  | _, _ => .ok ()

/-- The arm of `table_impl` for a table without a provider; both formats make the same one. -/
def makeProvider (outside : Outside Store) (pgRelation : Relation) (path extension : String)
    (format : TableFormat) : Command (Session Store) CatalogError TableProvider := do
  let url ← ofResult (orFault (outside.parseUrl path))
  let config : ObjectStoreConfig :=
    ⟨url, format, pgRelation.serverOptions, pgRelation.userMappingOptions⟩
  let (registered, stores) :=
    exec (ensureStore outside.build pgRelation.handler config) (← get).stores
  modify fun s => { s with stores }
  ofResult (orFault registered)
  let provider ← ofResult (orFault (match format with
    | .none => createListingProvider outside path extension
    | .delta => createListingProvider outside path extension))
  ofResult ((checkFields provider.schema pgRelation.attributes).mapError .schema)
  modify fun s => { s with tables := s.tables.insertNew pgRelation.oid provider }
  return provider

def tableImpl (outside : Outside Store) (catalog : Catalog) (tableName : String) :
    Command (Session Store) CatalogError TableProvider :=
  match catalog.lookup tableName with
  | none => throw (.fault (.panic "relation does not exist"))
  | some pgRelation => do
    let path ← ofResult (orFault (requireOption "path" pgRelation.tableOptions))
    let extension ← ofResult (orFault (requireOption "extension" pgRelation.tableOptions))
    let format := TableFormat.ofName (requireOptionOr "format" pgRelation.tableOptions "")
    match (← get).tables.lookup pgRelation.oid with
    | some provider => return provider
    | none => makeProvider outside pgRelation path extension format

structure TableProvider.Reads (provider : TableProvider) (pgRelation : Relation) : Prop where
  path : pgRelation.tableOptions.lookup "path" = some provider.path
  extension : ∃ extension, pgRelation.tableOptions.lookup "extension" = some extension ∧
    listingOptions extension = .ok provider.format
  columns : ∀ (i : ℕ) field pgAttribute, provider.schema[i]? = some field →
    pgRelation.attributes[i]? = some pgAttribute → canConvertToAttribute field pgAttribute = .ok ()

theorem checkFields_eq_ok_iff {fields : List Field} {attributes : List PgAttribute} :
    checkFields fields attributes = .ok () ↔
      ∀ (i : ℕ) field pgAttribute, fields[i]? = some field → attributes[i]? = some pgAttribute →
        canConvertToAttribute field pgAttribute = .ok () := by
  induction fields generalizing attributes with
  | nil => simp [checkFields]
  | cons field fields ih =>
    cases attributes with
    | nil => simp [checkFields]
    | cons pgAttribute attributes =>
      have split : checkFields (field :: fields) (pgAttribute :: attributes) = .ok () ↔
          canConvertToAttribute field pgAttribute = .ok () ∧
            checkFields fields attributes = .ok () := by
        rw [checkFields]
        cases canConvertToAttribute field pgAttribute <;> simp [bind, Except.bind]
      rw [split, ih]
      constructor
      · rintro ⟨here, later⟩ i
        cases i with
        | zero => simpa using here
        | succ i => simpa using later i
      · intro all
        exact ⟨all 0 field pgAttribute rfl rfl, fun i => by simpa using all (i + 1)⟩

theorem requireOption_eq_ok {name value : String} {options : Options}
    (h : requireOption name options = .ok value) : options.lookup name = some value := by
  unfold requireOption at h
  cases found : options.lookup name with
  | none =>
    rw [found] at h
    cases h
  | some given =>
    rw [found] at h
    cases h
    rfl

theorem createListingProvider_eq_ok {outside : Outside Store} {path extension : String}
    {provider : TableProvider}
    (h : createListingProvider outside path extension = .ok provider) :
    provider.path = path ∧ listingOptions extension = .ok provider.format := by
  unfold createListingProvider at h
  cases options : listingOptions extension with
  | error fault =>
    rw [options] at h
    cases h
  | ok format =>
    rw [options] at h
    cases inferred : outside.inferSchema path format with
    | error fault => simp [bind, Except.bind, inferred] at h
    | ok schema =>
      simp only [bind, Except.bind, inferred, pure, Except.pure, Except.ok.injEq] at h
      subst h
      exact ⟨rfl, rfl⟩

theorem makeProvider_cases {outside : Outside Store} {pgRelation : Relation}
    {path extension : String} (format : TableFormat)
    (located : pgRelation.tableOptions.lookup "path" = some path)
    (typed : pgRelation.tableOptions.lookup "extension" = some extension) (s : Session Store) :
    (∃ error s', exec (makeProvider outside pgRelation path extension format) s =
      (.error error, s') ∧ s'.tables = s.tables) ∨
    ∃ provider s', exec (makeProvider outside pgRelation path extension format) s =
      (.ok provider, s') ∧ provider.Reads pgRelation ∧
        s'.tables = s.tables.insertNew pgRelation.oid provider := by
  have same : (match format with
      | .none => createListingProvider outside path extension
      | .delta => createListingProvider outside path extension) =
        createListingProvider outside path extension := by
    cases format <;> rfl
  unfold makeProvider
  rw [exec_bind, exec_ofResult, same]
  cases outside.parseUrl path with
  | error fault => exact .inl ⟨_, _, rfl, rfl⟩
  | ok url =>
    simp only [orFault, exec_bind, exec_get, exec_modify, exec_ofResult]
    rcases exec (ensureStore outside.build pgRelation.handler _) s.stores with ⟨fault | _, stores⟩
    · exact .inl ⟨_, _, rfl, rfl⟩
    · cases made : createListingProvider outside path extension with
      | error fault => exact .inl ⟨_, _, rfl, rfl⟩
      | ok provider =>
        cases checked : checkFields provider.schema pgRelation.attributes with
        | error error =>
          exact .inl ⟨.schema error, { s with stores }, by simp [checked, Except.mapError], rfl⟩
        | ok _ =>
          obtain ⟨rfl, formatted⟩ := createListingProvider_eq_ok made
          refine .inr ⟨provider, ⟨s.tables.insertNew pgRelation.oid provider, stores⟩,
            by simp [checked, Except.mapError], ?_, rfl⟩
          exact ⟨located, ⟨extension, typed, formatted⟩, checkFields_eq_ok_iff.mp checked⟩

/-- A lookup fails and keeps the providers, or answers the one under the table's OID, or
makes one that reads the table and keeps it. -/
theorem tableImpl_cases (outside : Outside Store) (catalog : Catalog) (tableName : String)
    (s : Session Store) :
    (∃ error s', exec (tableImpl outside catalog tableName) s = (.error error, s') ∧
      s'.tables = s.tables) ∨
    ∃ pgRelation provider s', catalog.lookup tableName = some pgRelation ∧
      exec (tableImpl outside catalog tableName) s = (.ok provider, s') ∧
      (s.tables.lookup pgRelation.oid = some provider ∧ s' = s ∨
        s.tables.lookup pgRelation.oid = none ∧ provider.Reads pgRelation ∧
          s'.tables = s.tables.insertNew pgRelation.oid provider) := by
  unfold tableImpl
  cases opened : catalog.lookup tableName with
  | none => exact .inl ⟨_, _, rfl, rfl⟩
  | some pgRelation =>
    dsimp only
    rw [exec_bind, exec_ofResult]
    cases located : requireOption "path" pgRelation.tableOptions with
    | error fault => exact .inl ⟨_, _, rfl, rfl⟩
    | ok path =>
      dsimp only [orFault]
      rw [exec_bind, exec_ofResult]
      cases typed : requireOption "extension" pgRelation.tableOptions with
      | error fault => exact .inl ⟨_, _, rfl, rfl⟩
      | ok extension =>
        dsimp only
        rw [exec_bind, exec_get]
        dsimp only
        cases cached : s.tables.lookup pgRelation.oid with
        | some provider =>
          exact .inr ⟨pgRelation, provider, s, rfl, rfl, .inl ⟨cached, rfl⟩⟩
        | none =>
          refine (makeProvider_cases _ (requireOption_eq_ok located)
            (requireOption_eq_ok typed) s).imp_right fun made => ?_
          obtain ⟨provider, s', ran, reads, kept⟩ := made
          exact ⟨pgRelation, provider, s', rfl, ran, .inr ⟨cached, reads, kept⟩⟩

structure World (Store : Type) where
  catalog : Catalog
  session : Session Store

inductive Alteration where
  | options (tableOptions : Options)
  | columnType (index : ℕ) (oid : Oid)
  | renameColumn (index : ℕ) (name : String)

def Relation.alter (pgRelation : Relation) : Alteration → Relation
  | .options tableOptions => { pgRelation with tableOptions }
  | .columnType index oid =>
    { pgRelation with attributes := pgRelation.attributes.modify index ({ · with oid }) }
  | .renameColumn index name =>
    { pgRelation with attributes := pgRelation.attributes.modify index ({ · with name }) }

inductive Action (Store : Type) where
  | alter (tableName : String) (change : Alteration)
  | drop (tableName : String)
  | create (tableName : String) (pgRelation : Relation)
  | tableImpl (tableName : String) (outside : Outside Store)

/-- Postgres refuses to alter or drop a table that is not there, and to create one under a
name or an OID that is in use. Only a lookup has an answer. -/
def session : Machine (World Store) (Action Store) (Option (Except CatalogError TableProvider))
  | w, .alter tableName change =>
    (w.catalog.lookup tableName).map fun pgRelation =>
      ({ w with catalog := w.catalog.replace tableName (pgRelation.alter change) }, none)
  | w, .drop tableName =>
    (w.catalog.lookup tableName).map fun _ =>
      ({ w with catalog := w.catalog.erase tableName }, none)
  | w, .create tableName pgRelation =>
    if (w.catalog.lookup tableName).isSome ∨
        w.catalog.entries.any fun entry => entry.2.oid = pgRelation.oid then
      none
    else
      some ({ w with catalog := w.catalog.replace tableName pgRelation }, none)
  | w, .tableImpl tableName outside =>
    let (answer, session) := exec (tableImpl outside w.catalog tableName) w.session
    some ({ w with session }, some answer)

/-- A provider that a lookup answers reads the table as the catalog has it. -/
def Coherent (w : World Store) : Action Store → Option (Except CatalogError TableProvider) → Prop
  | .tableImpl tableName _, some (.ok provider) =>
    ∃ pgRelation, w.catalog.lookup tableName = some pgRelation ∧ provider.Reads pgRelation
  | _, _ => True

/-- If there is a provider under the relation's OID, it reads the relation. -/
def Fits (tables : NameTable (id : Oid → Oid) TableProvider) (pgRelation : Relation) : Prop :=
  ∀ provider, tables.lookup pgRelation.oid = some provider → provider.Reads pgRelation

/-- A table that is altered or created is still read by the provider under its OID, where
there is one. -/
def Kept (w : World Store) : Action Store → Prop
  | .alter tableName change => ∀ pgRelation, w.catalog.lookup tableName = some pgRelation →
    Fits w.session.tables (pgRelation.alter change)
  | .create _ pgRelation => Fits w.session.tables pgRelation
  | .drop _ | .tableImpl _ _ => True

def Distinct (catalog : Catalog) : Prop :=
  ∀ a b first second, catalog.lookup a = some first → catalog.lookup b = some second →
    first.oid = second.oid → a = b

structure Inv (w : World Store) : Prop where
  distinct : Distinct w.catalog
  fits : ∀ tableName pgRelation, w.catalog.lookup tableName = some pgRelation →
    Fits w.session.tables pgRelation

@[simp] theorem alter_oid (pgRelation : Relation) (change : Alteration) :
    (pgRelation.alter change).oid = pgRelation.oid := by
  cases change <;> rfl

theorem Inv.replace {w : World Store} (inv : Inv w) {tableName : String} {pgRelation : Relation}
    (alone : ∀ other found, other ≠ tableName → w.catalog.lookup other = some found →
      found.oid ≠ pgRelation.oid)
    (fits : Fits w.session.tables pgRelation) :
    Inv { w with catalog := w.catalog.replace tableName pgRelation } := by
  have looked : ∀ name, (w.catalog.replace tableName pgRelation).lookup name =
      if name = tableName then some pgRelation else w.catalog.lookup name := fun name =>
    NameTable.lookup_replace _ _ _ _
  constructor
  · intro a b first second atA atB same
    rw [looked] at atA atB
    by_cases ha : a = tableName <;> by_cases hb : b = tableName
    · rw [ha, hb]
    · rw [if_pos ha] at atA
      rw [if_neg hb] at atB
      cases atA
      exact absurd same.symm (alone b second hb atB)
    · rw [if_neg ha] at atA
      rw [if_pos hb] at atB
      cases atB
      exact absurd same (alone a first ha atA)
    · rw [if_neg ha] at atA
      rw [if_neg hb] at atB
      exact inv.distinct a b first second atA atB same
  · intro name found at'
    rw [looked] at at'
    split at at'
    · cases at'
      exact fits
    · exact inv.fits name found at'

theorem Inv.alter {w : World Store} (inv : Inv w) {tableName : String} {pgRelation : Relation}
    (found : w.catalog.lookup tableName = some pgRelation) {change : Alteration}
    (fits : Fits w.session.tables (pgRelation.alter change)) :
    Inv { w with catalog := w.catalog.replace tableName (pgRelation.alter change) } := by
  refine inv.replace (fun other relation different at' same => different ?_) fits
  exact inv.distinct _ _ _ _ at' found (by rw [same, alter_oid])

theorem Inv.drop {w : World Store} (inv : Inv w) (tableName : String) :
    Inv { w with catalog := w.catalog.erase tableName } := by
  have kept : ∀ {name found}, (w.catalog.erase tableName).lookup name = some found →
      w.catalog.lookup name = some found := by
    intro name found at'
    rw [NameTable.lookup_erase] at at'
    split at at'
    · cases at'
    · exact at'
  exact ⟨fun a b first second atA atB => inv.distinct a b first second (kept atA) (kept atB),
    fun name found at' => inv.fits name found (kept at')⟩

theorem Inv.create {w : World Store} (inv : Inv w) {tableName : String} {pgRelation : Relation}
    (fresh : ¬ w.catalog.entries.any fun entry => entry.2.oid = pgRelation.oid)
    (fits : Fits w.session.tables pgRelation) :
    Inv { w with catalog := w.catalog.replace tableName pgRelation } := by
  refine inv.replace (fun other relation _ at' same => fresh ?_) fits
  obtain ⟨entry, mem, -, rfl⟩ := NameTable.exists_mem_of_lookup at'
  exact List.any_eq_true.mpr ⟨entry, mem, by simpa using same⟩

theorem Inv.tableImpl {w : World Store} (inv : Inv w) (tableName : String)
    (outside : Outside Store) :
    Inv { w with session := (exec (tableImpl outside w.catalog tableName) w.session).2 } ∧
      Coherent w (.tableImpl tableName outside)
        (some (exec (tableImpl outside w.catalog tableName) w.session).1) := by
  rcases tableImpl_cases outside w.catalog tableName w.session with
    ⟨error, s', ran, same⟩ | ⟨pgRelation, provider, s', found, ran, cached | made⟩
  · rw [ran]
    exact ⟨⟨inv.distinct, fun name relation at' => by
      simpa only [Fits, same] using inv.fits name relation at'⟩, trivial⟩
  · obtain ⟨cached, rfl⟩ := cached
    rw [ran]
    exact ⟨inv, pgRelation, found, inv.fits tableName pgRelation found provider cached⟩
  · obtain ⟨absent, reads, kept⟩ := made
    rw [ran]
    refine ⟨⟨inv.distinct, fun name relation at' other looked => ?_⟩, pgRelation, found, reads⟩
    have free : w.session.tables.find pgRelation.oid = none := Option.map_eq_none_iff.mp absent
    simp only [kept] at looked
    rw [NameTable.lookup_insertNew_of_none _ free] at looked
    split at looked
    · rename_i sameOid
      cases looked
      have here := inv.distinct name tableName relation pgRelation at' found sameOid
      rw [here, found] at at'
      cases at'
      exact reads
    · exact inv.fits name relation at' other looked

theorem session_step (w : World Store) (a : Action Store) (w' : World Store)
    (answer : Option (Except CatalogError TableProvider)) (inv : Inv w) (kept : Kept w a)
    (step : session w a = some (w', answer)) : Inv w' ∧ Coherent w a answer := by
  cases a with
  | alter tableName change =>
    obtain ⟨pgRelation, found, same⟩ := Option.map_eq_some_iff.mp step
    cases same
    exact ⟨inv.alter found (kept pgRelation found), trivial⟩
  | drop tableName =>
    obtain ⟨pgRelation, found, same⟩ := Option.map_eq_some_iff.mp step
    cases same
    exact ⟨inv.drop tableName, trivial⟩
  | create tableName pgRelation =>
    by_cases used : (w.catalog.lookup tableName).isSome ∨
        w.catalog.entries.any fun entry => entry.2.oid = pgRelation.oid
    · cases (if_pos used).symm.trans step
    · cases (if_neg used).symm.trans step
      exact ⟨inv.create (not_or.mp used).2 kept, trivial⟩
  | tableImpl tableName outside =>
    cases step
    exact inv.tableImpl tableName outside

/-- A session that starts without providers: as long as every altered or created table is
still read by the provider under its OID, every lookup answers a provider that reads the
table as the catalog has it. -/
theorem lookups_coherent {catalog : Catalog} (distinct : Distinct catalog)
    (stores : LakehouseObjectStoreRegistry Store) (actions : List (Action Store))
    (kept : Along session Kept ⟨catalog, NameTable.empty, stores⟩ actions) :
    Always session Coherent ⟨catalog, NameTable.empty, stores⟩ actions := by
  refine always_of_invariant Inv session_step ⟨distinct, fun _ _ _ provider cached => ?_⟩ actions
    kept
  cases cached

def trips (path format : String) : Relation where
  oid := 16384
  handler := .localFile
  tableOptions := [("path", path), ("extension", "parquet"), ("format", format)]
  serverOptions := []
  userMappingOptions := []
  attributes := [⟨"id", INT8OID⟩]

def tripsProvider (path : String) : TableProvider := ⟨path, .parquet, [⟨"id", .int64⟩]⟩

def localFiles : Outside Unit where
  parseUrl path := .ok ⟨"file", none, none, path, ""⟩
  inferSchema _ _ := .ok [⟨"id", .int64⟩]
  build _ _ := .ok ()

def tripsCatalog : Catalog := NameTable.empty.replace "trips" (trips "file:///a" "")

theorem distinct_tripsCatalog : Distinct tripsCatalog := by
  have named : ∀ {name found}, tripsCatalog.lookup name = some found → name = "trips" := by
    intro name found at'
    rw [tripsCatalog, NameTable.lookup_replace] at at'
    split at at'
    · assumption
    · cases at'
  intro a b first second atA atB _
  rw [named atA, named atB]

theorem tripsProvider_reads (path format : String) :
    (tripsProvider path).Reads (trips path format) := by
  refine ⟨rfl, ⟨"parquet", rfl, rfl⟩, fun i field pgAttribute inSchema inTable => ?_⟩
  cases i with
  | zero =>
    cases inSchema
    cases inTable
    rfl
  | succ i => cases inSchema

theorem lookups_coherent_format :
    Always session Coherent ⟨tripsCatalog, NameTable.empty, .new ()⟩
      [.tableImpl "trips" localFiles,
        .alter "trips" (.options (trips "file:///a" "delta").tableOptions),
        .tableImpl "trips" localFiles] := by
  refine lookups_coherent distinct_tripsCatalog _ _ ?_
  refine (always_cons rfl).mpr ⟨trivial, (always_cons rfl).mpr ⟨?_, ?_⟩⟩
  · intro pgRelation found provider cached
    cases found
    cases cached
    exact tripsProvider_reads "file:///a" "delta"
  · exact (always_cons rfl).mpr ⟨trivial, trivial⟩

theorem altered_path_not_read :
    ¬ Always session Coherent ⟨tripsCatalog, NameTable.empty, .new ()⟩
      [.tableImpl "trips" localFiles,
        .alter "trips" (.options (trips "file:///b" "").tableOptions),
        .tableImpl "trips" localFiles] := by
  intro coherent
  obtain ⟨-, coherent⟩ := (always_cons rfl).mp coherent
  obtain ⟨-, coherent⟩ := (always_cons rfl).mp coherent
  obtain ⟨⟨pgRelation, found, reads⟩, -⟩ := (always_cons rfl).mp coherent
  cases found
  exact absurd reads.path (by decide)

end PgAnalytics.SchemaProvider
