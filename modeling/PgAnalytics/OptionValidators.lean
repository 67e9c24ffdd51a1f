import PgAnalytics.SecretStatements
import PgAnalytics.ViewStatements

/-! The options of a table or a user mapping on their two ways: the validator
that runs when they are set, and the builder of the statement that uses them. -/

namespace PgAnalytics.OptionValidators
open Basics SecretStatements ViewStatements

section Entries

variable {α β : Type} [DecidableEq α]

theorem lookup_eq_some_iff_mem {entries : List (α × β)} (once : (entries.map Prod.fst).Nodup)
    {key : α} {value : β} : entries.lookup key = some value ↔ (key, value) ∈ entries := by
  induction entries with
  | nil => simp
  | cons entry rest ih =>
    obtain ⟨other, value'⟩ := entry
    obtain ⟨fresh, once⟩ := List.nodup_cons.mp once
    rw [List.lookup_cons, List.mem_cons, Prod.mk.injEq]
    by_cases same : key = other
    · subst same
      have gone : (key, value) ∉ rest := fun mem =>
        fresh (List.mem_map.mpr ⟨(key, value), mem, rfl⟩)
      simp [gone, eq_comm]
    · simp only [beq_eq_false_iff_ne.mpr same, same, false_and, false_or]
      exact ih once

/-- The entries under some keys, in the order of the keys. -/
def under (keys : List α) (entries : List (α × β)) : List (α × β) :=
  keys.filterMap fun key => (entries.lookup key).map (key, ·)

theorem mem_under {keys : List α} {entries : List (α × β)}
    (once : (entries.map Prod.fst).Nodup) {entry : α × β} :
    entry ∈ under keys entries ↔ entry.1 ∈ keys ∧ entry ∈ entries := by
  obtain ⟨key, value⟩ := entry
  simp only [under, List.mem_filterMap, Option.map_eq_some_iff, Prod.mk.injEq]
  constructor
  · rintro ⟨key, mem, value, found, rfl, rfl⟩
    exact ⟨mem, (lookup_eq_some_iff_mem once).mp found⟩
  · rintro ⟨mem, given⟩
    exact ⟨key, mem, value, (lookup_eq_some_iff_mem once).mpr given, rfl, rfl⟩

theorem nodup_under {keys : List α} (distinct : keys.Nodup) (entries : List (α × β)) :
    (under keys entries).Nodup := by
  refine List.Nodup.filterMap (fun first second entry left right => ?_) distinct
  obtain ⟨_, -, rfl⟩ := Option.map_eq_some_iff.mp left
  obtain ⟨_, -, same⟩ := Option.map_eq_some_iff.mp right
  exact (Prod.mk.inj same).1.symm

theorem under_perm {keys : List α} (distinct : keys.Nodup) {entries : List (α × β)}
    (once : (entries.map Prod.fst).Nodup) :
    (under keys entries).Perm (entries.filter (·.1 ∈ keys)) := by
  refine (List.perm_ext_iff_of_nodup (nodup_under distinct entries)
    (once.of_map.filter _)).mpr fun entry => ?_
  rw [mem_under once, List.mem_filter, decide_eq_true_iff, and_comm]

theorem forall₂_under {γ δ : Type} {R : α × β → δ → Prop} {key : γ → α} {build : γ → β → δ}
    {table : List γ} (holds : ∀ p ∈ table, ∀ value, R (key p, value) (build p value))
    (entries : List (α × β)) :
    List.Forall₂ R (under (table.map key) entries)
      (table.filterMap fun p => (entries.lookup (key p)).map (build p)) := by
  induction table with
  | nil => exact .nil
  | cons p table ih =>
    obtain ⟨here, later⟩ := List.forall_mem_cons.mp holds
    unfold under at ih ⊢
    rw [List.map_cons, List.filterMap_cons, List.filterMap_cons]
    cases entries.lookup (key p) with
    | none => exact ih later
    | some value => exact .cons (here value) (ih later)

end Entries

class OptionValidator (T : Type) where
  iter : List T
  asRef : T → String
  isRequired : T → Bool

open OptionValidator

/-- The name of an option in `name=value`. -/
def optionName (entry : String) : String := String.ofList (entry.toList.takeWhile (· ≠ '='))

def optionValue (entry : String) : String :=
  String.ofList ((entry.toList.dropWhile (· ≠ '=')).drop 1)

def validateOptions (optList : List (Option String)) (validOptions : List String) :
    Except Fault Unit :=
  forM (optList.filterMap id) fun entry =>
    let opt := optionName entry
    if opt ∈ validOptions then
      .ok ()
    else
      .error (.error ("invalid option: " ++ opt ++ ". valid options are: " ++
        ", ".intercalate validOptions))

section Validation

-- `check_options_contain`, of the crate that the wrappers are built on.
variable (checkOptionsContain : List (Option String) → String → Except Fault Unit)

def validateMappingOption (T : Type) [OptionValidator T] (optList : List (Option String)) :
    Except Fault Unit := do
  let validOptions := (iter : List T).map asRef
  validateOptions optList validOptions
  forM (iter : List T) fun opt =>
    if isRequired opt then checkOptionsContain optList (asRef opt) else .ok ()

end Validation

inductive CsvOption where
  | allVarchar | allowQuotedNulls | autoDetect | autoTypeCandidates | columns | compression
  | dateformat | decimalSeparator | delim | escape | filename | files | forceNotNull | header
  | hivePartitioning | hiveTypes | hiveTypesAutocast | ignoreErrors | maxLineSize | names
  | newLine | normalizeNames | nullPadding | nullstr | parallel | preserveCasing | quote
  | sampleSize | select | sep | skip | timestampformat | types | unionByName
  deriving DecidableEq, Repr

instance : OptionValidator CsvOption where
  iter := [.allVarchar, .allowQuotedNulls, .autoDetect, .autoTypeCandidates, .columns,
    .compression, .dateformat, .decimalSeparator, .delim, .escape, .filename, .files,
    .forceNotNull, .header, .hivePartitioning, .hiveTypes, .hiveTypesAutocast, .ignoreErrors,
    .maxLineSize, .names, .newLine, .normalizeNames, .nullPadding, .nullstr, .parallel,
    .preserveCasing, .quote, .sampleSize, .select, .sep, .skip, .timestampformat, .types,
    .unionByName]
  asRef
    | .allVarchar => "all_varchar"
    | .allowQuotedNulls => "allow_quoted_nulls"
    | .autoDetect => "auto_detect"
    | .autoTypeCandidates => "auto_type_candidates"
    | .columns => "columns"
    | .compression => "compression"
    | .dateformat => "dateformat"
    | .decimalSeparator => "decimal_separator"
    | .delim => "delim"
    | .escape => "escape"
    | .filename => "filename"
    | .files => "files"
    | .forceNotNull => "force_not_null"
    | .header => "header"
    | .hivePartitioning => "hive_partitioning"
    | .hiveTypes => "hive_types"
    | .hiveTypesAutocast => "hive_types_autocast"
    | .ignoreErrors => "ignore_errors"
    | .maxLineSize => "max_line_size"
    | .names => "names"
    | .newLine => "new_line"
    | .normalizeNames => "normalize_names"
    | .nullPadding => "null_padding"
    | .nullstr => "nullstr"
    | .parallel => "parallel"
    | .preserveCasing => "preserve_casing"
    | .quote => "quote"
    | .sampleSize => "sample_size"
    | .select => "select"
    | .sep => "sep"
    | .skip => "skip"
    | .timestampformat => "timestampformat"
    | .types => "types"
    | .unionByName => "union_by_name"
  isRequired option := option = .files

inductive JsonOption where
  | autoDetect | columns | compression | convertStringsToIntegers | dateformat | filename | files
  | format | hivePartitioning | ignoreErrors | maximumDepth | maximumObjectSize | records
  | sampleSize | select | timestampformat | unionByName
  deriving DecidableEq, Repr

instance : OptionValidator JsonOption where
  iter := [.autoDetect, .columns, .compression, .convertStringsToIntegers, .dateformat, .filename,
    .files, .format, .hivePartitioning, .ignoreErrors, .maximumDepth, .maximumObjectSize,
    .records, .sampleSize, .select, .timestampformat, .unionByName]
  asRef
    | .autoDetect => "auto_detect"
    | .columns => "columns"
    | .compression => "compression"
    | .convertStringsToIntegers => "convert_strings_to_integers"
    | .dateformat => "dateformat"
    | .filename => "filename"
    | .files => "files"
    | .format => "format"
    | .hivePartitioning => "hive_partitioning"
    | .ignoreErrors => "ignore_errors"
    | .maximumDepth => "maximum_depth"
    | .maximumObjectSize => "maximum_object_size"
    | .records => "records"
    | .sampleSize => "sample_size"
    | .select => "select"
    | .timestampformat => "timestampformat"
    | .unionByName => "union_by_name"
  isRequired option := option = .files

inductive ParquetOption where
  | binaryAsString | fileName | fileRowNumber | files | hivePartitioning | hiveTypes
  | hiveTypesAutocast | preserveCasing | unionByName | select
  deriving DecidableEq, Repr

instance : OptionValidator ParquetOption where
  iter := [.binaryAsString, .fileName, .fileRowNumber, .files, .hivePartitioning, .hiveTypes,
    .hiveTypesAutocast, .preserveCasing, .unionByName, .select]
  asRef
    | .binaryAsString => "binary_as_string"
    | .fileName => "file_name"
    | .fileRowNumber => "file_row_number"
    | .files => "files"
    | .hivePartitioning => "hive_partitioning"
    | .hiveTypes => "hive_types"
    | .hiveTypesAutocast => "hive_types_autocast"
    | .preserveCasing => "preserve_casing"
    | .unionByName => "union_by_name"
    | .select => "select"
  isRequired option := option = .files

inductive DeltaOption where
  | files | preserveCasing | select
  deriving DecidableEq, Repr

instance : OptionValidator DeltaOption where
  iter := [.files, .preserveCasing, .select]
  asRef
    | .files => "files"
    | .preserveCasing => "preserve_casing"
    | .select => "select"
  isRequired option := option = .files

inductive IcebergOption where
  | allowMovedPaths | metadataCompressionCodec | skipSchemaInference | files | preserveCasing
  | select
  deriving DecidableEq, Repr

instance : OptionValidator IcebergOption where
  iter := [.allowMovedPaths, .metadataCompressionCodec, .skipSchemaInference, .files,
    .preserveCasing, .select]
  asRef
    | .allowMovedPaths => "allow_moved_paths"
    | .metadataCompressionCodec => "metadata_compression_codec"
    | .skipSchemaInference => "skip_schema_inference"
    | .files => "files"
    | .preserveCasing => "preserve_casing"
    | .select => "select"
  isRequired option := option = .files

inductive SpatialOption where
  | files | sequentialLayerScan | spatialFilter | openOptions | layer | allowedDrivers
  | siblingFiles | spatialFilterBox | keepWkb
  deriving DecidableEq, Repr

instance : OptionValidator SpatialOption where
  iter := [.files, .sequentialLayerScan, .spatialFilter, .openOptions, .layer, .allowedDrivers,
    .siblingFiles, .spatialFilterBox, .keepWkb]
  asRef
    | .files => "files"
    | .sequentialLayerScan => "sequential_layer_scan"
    | .spatialFilter => "spatial_filter"
    | .openOptions => "open_options"
    | .layer => "layer"
    | .allowedDrivers => "allowed_drivers"
    | .siblingFiles => "sibling_files"
    | .spatialFilterBox => "spatial_filter_box"
    | .keepWkb => "keep_wkb"
  isRequired option := option = .files

inductive UserMappingOptions where
  | type | provider | scope | chain | keyId | secret | region | sessionToken | endpoint | urlStyle
  | useSsl | urlCompatibilityMode | accountId | connectionString | accountName | tenantId
  | clientId | clientSecret | clientCertificatePath | httpProxy | proxyUserName | proxyPassword
  deriving DecidableEq, Repr

instance : OptionValidator UserMappingOptions where
  iter := [.type, .provider, .scope, .chain, .keyId, .secret, .region, .sessionToken, .endpoint,
    .urlStyle, .useSsl, .urlCompatibilityMode, .accountId, .connectionString, .accountName,
    .tenantId, .clientId, .clientSecret, .clientCertificatePath, .httpProxy, .proxyUserName,
    .proxyPassword]
  asRef
    | .type => "type"
    | .provider => "provider"
    | .scope => "scope"
    | .chain => "chain"
    | .keyId => "key_id"
    | .secret => "secret"
    | .region => "region"
    | .sessionToken => "session_token"
    | .endpoint => "endpoint"
    | .urlStyle => "url_style"
    | .useSsl => "use_ssl"
    | .urlCompatibilityMode => "url_compatibility_mode"
    | .accountId => "account_id"
    | .connectionString => "connection_string"
    | .accountName => "account_name"
    | .tenantId => "tenant_id"
    | .clientId => "client_id"
    | .clientSecret => "client_secret"
    | .clientCertificatePath => "client_certificate_path"
    | .httpProxy => "http_proxy"
    | .proxyUserName => "proxy_user_name"
    | .proxyPassword => "proxy_password"
  isRequired option := option = .type

inductive Catalog where
  | foreignDataWrapper
  | foreignServer
  | foreignTable
  | userMapping
  | other
  deriving DecidableEq, Repr

section Wrappers

variable (checkOptionsContain : List (Option String) → String → Except Fault Unit)

/-- `validator` of a wrapper whose tables have the options `T`. -/
def validator (T : Type) [OptionValidator T] (optList : List (Option String)) :
    Option Catalog → Except Fault Unit
  | some .foreignTable => validateMappingOption checkOptionsContain T optList
  | some .userMapping => validateMappingOption checkOptionsContain UserMappingOptions optList
  | _ => .ok ()

def validatorOf (handler : FdwHandler) (optList : List (Option String))
    (catalog : Option Catalog) : Except Fault Unit :=
  match handler with
  | .csv => validator checkOptionsContain CsvOption optList catalog
  | .json => validator checkOptionsContain JsonOption optList catalog
  | .parquet => validator checkOptionsContain ParquetOption optList catalog
  | .delta => validator checkOptionsContain DeltaOption optList catalog
  | .iceberg => validator checkOptionsContain IcebergOption optList catalog
  | .spatial => validator checkOptionsContain SpatialOption optList catalog
  | .other => .ok ()

end Wrappers

/-- The map of an option list, as the builders are given it. -/
def asMap (optList : List (Option String)) : Options :=
  (optList.filterMap id).map fun entry => (optionName entry, optionValue entry)

theorem mem_asMap {optList : List (Option String)} {option : String × String} :
    option ∈ asMap optList ↔
      ∃ entry, some entry ∈ optList ∧ (optionName entry, optionValue entry) = option := by
  simp [asMap]

theorem forM_eq_ok_iff {ε α : Type} {check : α → Except ε Unit} {items : List α} :
    forM items check = .ok () ↔ ∀ item ∈ items, check item = .ok () := by
  induction items with
  | nil => simp [pure, Except.pure]
  | cons item items ih =>
    rw [List.forM_cons, List.forall_mem_cons, ← ih]
    cases check item with
    | error fault => simp [bind, Except.bind]
    | ok accepted => simp [bind, Except.bind]

theorem validateOptions_eq_ok_iff {optList : List (Option String)} {validOptions : List String} :
    validateOptions optList validOptions = .ok () ↔
      ∀ option ∈ asMap optList, option.1 ∈ validOptions := by
  rw [validateOptions, forM_eq_ok_iff, asMap, List.forall_mem_map]
  refine forall₂_congr fun entry _ => ?_
  by_cases valid : optionName entry ∈ validOptions <;> simp [valid]

theorem optionName_of_starts {name entry : String} (plain : '=' ∉ name.toList)
    (starts : (name ++ "=").toList <+: entry.toList) : optionName entry = name := by
  obtain ⟨rest, split⟩ := starts
  rw [String.toList_append, List.append_assoc] at split
  have kept : ∀ c ∈ name.toList, decide (c ≠ '=') = true := by
    intro c mem
    rw [decide_eq_true_iff]
    rintro rfl
    exact plain mem
  rw [optionName, ← split, List.takeWhile_append_of_pos kept,
    show "=".toList ++ rest = '=' :: rest from rfl, List.takeWhile_cons_of_neg (by simp),
    List.append_nil, String.ofList_toList]

structure Agrees (T : Type) [OptionValidator T] (first : String) (names : List String) :
    Prop where
  distinct : (first :: names).Nodup
  known : ∀ name ∈ (iter : List T).map asRef,
    name ∈ first :: names ↔ name ≠ "select" ∧ name ≠ "preserve_casing"
  required : ∃ opt ∈ (iter : List T), asRef opt = first ∧ isRequired opt = true
  plain : '=' ∉ first.toList

section Accepted

variable {checkOptionsContain : List (Option String) → String → Except Fault Unit}

theorem accepted_iff (contains : ∀ optList name, checkOptionsContain optList name = .ok () ↔
      ∃ entry, some entry ∈ optList ∧ (name ++ "=").toList <+: entry.toList)
    {T : Type} [OptionValidator T] {optList : List (Option String)} :
    validateMappingOption checkOptionsContain T optList = .ok () ↔
      (∀ option ∈ asMap optList, option.1 ∈ (iter : List T).map asRef) ∧
      ∀ opt ∈ (iter : List T), isRequired opt →
        ∃ entry, some entry ∈ optList ∧ (asRef opt ++ "=").toList <+: entry.toList := by
  have bind_ok : ∀ {first second : Except Fault Unit},
      (first >>= fun _ => second) = .ok () ↔ first = .ok () ∧ second = .ok () := by
    intro first second
    cases first <;> simp [bind, Except.bind]
  rw [validateMappingOption, bind_ok, validateOptions_eq_ok_iff, forM_eq_ok_iff]
  refine and_congr_right fun _ => forall₂_congr fun opt _ => ?_
  rw [← contains]
  by_cases required : isRequired opt = true <;> simp [required]

theorem accepted_under (contains : ∀ optList name, checkOptionsContain optList name = .ok () ↔
      ∃ entry, some entry ∈ optList ∧ (name ++ "=").toList <+: entry.toList)
    {T : Type} [OptionValidator T] {first : String} {names : List String}
    (agrees : Agrees T first names) {optList : List (Option String)}
    (once : ((asMap optList).map Prod.fst).Nodup)
    (accepted : validateMappingOption checkOptionsContain T optList = .ok ()) :
    (∃ value, (asMap optList).lookup first = some value ∧
      under (first :: names) (asMap optList) = (first, value) :: under names (asMap optList)) ∧
    (under (first :: names) (asMap optList)).Perm
      ((asMap optList).filter fun option =>
        option.1 ≠ "select" ∧ option.1 ≠ "preserve_casing") := by
  obtain ⟨known, required⟩ := (accepted_iff contains).mp accepted
  constructor
  · obtain ⟨opt, listed, rfl, needed⟩ := agrees.required
    obtain ⟨entry, given, starts⟩ := required opt listed needed
    have named : optionName entry = asRef opt := optionName_of_starts agrees.plain starts
    have present : (asMap optList).lookup (asRef opt) = some (optionValue entry) :=
      (lookup_eq_some_iff_mem once).mpr (mem_asMap.mpr ⟨entry, given, by rw [named]⟩)
    exact ⟨optionValue entry, present, by simp [under, present]⟩
  · refine (under_perm agrees.distinct once).trans (List.Perm.of_eq ?_)
    refine List.filter_congr fun option mem => ?_
    rw [decide_eq_decide]
    exact agrees.known option.1 (known option mem)

end Accepted

/-- One argument for each option that is set, besides the target list and the casing; the
one for `first` comes first. -/
def Arguments (argument : String × String → String → Prop) (first : String)
    (supplied : Options) (texts : List String) : Prop :=
  ∃ value later, List.Forall₂ argument ((first, value) :: later) texts ∧
    ((first, value) :: later).Perm (supplied.filter fun option =>
      option.1 ≠ "select" ∧ option.1 ≠ "preserve_casing")

/-- A value is written as it is, between quotes, or as a list of its parts between quotes; a
single part makes no list. -/
def Writes (option : String) : OptionStyle → String → Prop
  | .plain, value => value = option
  | .quoted, value => value = "'" ++ option ++ "'"
  | .csv, value => ∃ parts : List (List Char),
      option.toList = [','].intercalate parts ∧ (∀ part ∈ parts, ',' ∉ part) ∧
        (parts.length = 1 ∧ value = "'" ++ option ++ "'" ∨
          1 < parts.length ∧ value = "[" ++ ", ".intercalate
            (parts.map fun part => "'" ++ String.ofList (trim part) ++ "'") ++ "]")

/-- A parameter has the name of its option, but for one. -/
def parameter (name : String) : String := if name = "file_name" then "filename" else name

/-- The argument of a reading function that an option becomes: `name = value`. -/
def ViewArgument (r : ViewReader) (option : String × String) (text : String) : Prop :=
  option.1 = "files" ∧ Writes option.2 r.files text ∨
    ∃ p ∈ r.options, p.name = option.1 ∧ ∃ value, Writes option.2 p.style value ∧
      text = parameter option.1 ++ r.assign ++ value

def ViewBuilt (r : ViewReader) (tableName schemaName : String) (supplied : Options) : Prop :=
  ∃ texts, r.createView tableName schemaName supplied =
      .ok ("CREATE VIEW IF NOT EXISTS " ++ schemaName ++ "." ++ tableName ++ " AS SELECT " ++
        (supplied.lookup "select").getD "*" ++ " FROM " ++ r.function ++ "(" ++
        ", ".intercalate texts ++ ")") ∧
    Arguments (ViewArgument r) "files" supplied texts

def SecretClause (option : String × String) (text : String) : Prop :=
  ∃ p ∈ secretType :: secretOptions, p.name = option.1 ∧ ∃ value,
    Writes option.2 (if p.quoted then .quoted else .plain) value ∧
      text = String.ofList (option.1.toList.map Char.toUpper) ++ " " ++ value

def SecretBuilt (secretName : String) (supplied : Options) : Prop :=
  ∃ texts, createSecret secretName supplied =
      .ok ("CREATE OR REPLACE SECRET " ++ secretName ++ " (" ++ ", ".intercalate texts ++ ")") ∧
    Arguments SecretClause "type" supplied texts

theorem writes_format (style : OptionStyle) (option : String) :
    Writes option style (style.format option) := by
  cases style with
  | plain => rfl
  | quoted => rfl
  | csv =>
    refine ⟨option.toList.splitOn ',', (List.intercalate_splitOn ',').symm,
      fun part => ClauseLists.not_mem_of_mem_splitOn, ?_⟩
    have some : 0 < (option.toList.splitOn ',').length :=
      List.length_pos_iff.mpr (List.splitOn_ne_nil ',' _)
    simp only [OptionStyle.format, formatCsv]
    split <;> rename_i one
    · exact .inl ⟨one, rfl⟩
    · exact .inr ⟨by omega, rfl⟩

theorem secretOption_format {p : SecretOption} (known : p ∈ secretType :: secretOptions)
    (option : String) : SecretClause (p.name, option) (p.format option) := by
  have upper : ∀ p ∈ secretType :: secretOptions,
      String.ofList (p.name.toList.map Char.toUpper) = p.keyword := by decide
  refine ⟨p, known, rfl, ?_⟩
  rw [upper p known, SecretOption.format]
  cases p.quoted with
  | true =>
    have joined : " '" = " " ++ "'" := by decide
    exact ⟨"'" ++ option ++ "'", rfl, by simp only [if_true, joined, String.append_assoc]⟩
  | false => exact ⟨option, rfl, rfl⟩

theorem agrees_csv : Agrees CsvOption "files" (ViewReader.csv.options.map ViewOption.name) :=
  ⟨by decide, by decide, by decide, by decide⟩

theorem agrees_json : Agrees JsonOption "files" (ViewReader.json.options.map ViewOption.name) :=
  ⟨by decide, by decide, by decide, by decide⟩

theorem agrees_parquet :
    Agrees ParquetOption "files" (ViewReader.parquet.options.map ViewOption.name) :=
  ⟨by decide, by decide, by decide, by decide⟩

theorem agrees_delta : Agrees DeltaOption "files" (ViewReader.delta.options.map ViewOption.name) :=
  ⟨by decide, by decide, by decide, by decide⟩

theorem agrees_iceberg :
    Agrees IcebergOption "files" (ViewReader.iceberg.options.map ViewOption.name) :=
  ⟨by decide, by decide, by decide, by decide⟩

theorem agrees_spatial :
    Agrees SpatialOption "files" (ViewReader.spatial.options.map ViewOption.name) :=
  ⟨by decide, by decide, by decide, by decide⟩

theorem agrees_userMapping :
    Agrees UserMappingOptions secretType.name (secretOptions.map SecretOption.name) :=
  ⟨by decide, by decide, by decide, by decide⟩

section Built

variable {checkOptionsContain : List (Option String) → String → Except Fault Unit}

theorem view_built (contains : ∀ optList name, checkOptionsContain optList name = .ok () ↔
      ∃ entry, some entry ∈ optList ∧ (name ++ "=").toList <+: entry.toList)
    {T : Type} [OptionValidator T] {r : ViewReader}
    (agrees : Agrees T "files" (r.options.map ViewOption.name))
    (keywords : ∀ p ∈ r.options, parameter p.name = p.keyword)
    (selects : r.selectable = false → "select" ∉ (iter : List T).map asRef)
    {optList : List (Option String)} (once : ((asMap optList).map Prod.fst).Nodup)
    (accepted : validateMappingOption checkOptionsContain T optList = .ok ())
    (tableName schemaName : String) : ViewBuilt r tableName schemaName (asMap optList) := by
  obtain ⟨⟨files, present, first⟩, all⟩ := accepted_under contains agrees once accepted
  have target : r.select (asMap optList) = ((asMap optList).lookup "select").getD "*" := by
    unfold ViewReader.select
    cases selectable : r.selectable with
    | true => rfl
    | false =>
      have absent : (asMap optList).lookup "select" = none := by
        refine List.lookup_eq_none_iff.mpr fun option mem => bne_iff_ne.mpr fun same => ?_
        exact selects selectable (same ▸ ((accepted_iff contains).mp accepted).1 option mem)
      rw [absent]
      rfl
  refine ⟨_, by rw [ViewReader.createView, present, target], files, _, ?_, first ▸ all⟩
  refine .cons (.inl ⟨rfl, writes_format r.files files⟩) ?_
  refine forall₂_under (fun p listed value => .inr ⟨p, listed, rfl, _, writes_format p.style value,
    ?_⟩) _
  rw [keywords p listed]

theorem secret_built (contains : ∀ optList name, checkOptionsContain optList name = .ok () ↔
      ∃ entry, some entry ∈ optList ∧ (name ++ "=").toList <+: entry.toList)
    {optList : List (Option String)} (once : ((asMap optList).map Prod.fst).Nodup)
    (accepted : validateMappingOption checkOptionsContain UserMappingOptions optList = .ok ())
    (secretName : String) : SecretBuilt secretName (asMap optList) := by
  obtain ⟨⟨type, present, first⟩, all⟩ :=
    accepted_under contains agrees_userMapping once accepted
  have nonempty : (asMap optList).isEmpty = false := by
    cases supplied : asMap optList with
    | nil =>
      rw [supplied] at present
      cases present
    | cons option options => rfl
  refine ⟨_, by rw [createSecret, nonempty, if_neg Bool.false_ne_true, present], type, _, ?_,
    first ▸ all⟩
  refine .cons (secretOption_format List.mem_cons_self type) ?_
  exact forall₂_under (fun p listed value =>
    secretOption_format (List.mem_cons_of_mem _ listed) value) _

theorem table_agrees (contains : ∀ optList name, checkOptionsContain optList name = .ok () ↔
      ∃ entry, some entry ∈ optList ∧ (name ++ "=").toList <+: entry.toList)
    {optList : List (Option String)} (once : ((asMap optList).map Prod.fst).Nodup)
    {handler : FdwHandler} {r : ViewReader} (kind : ViewReader.ofHandler handler = some r)
    (accepted : validatorOf checkOptionsContain handler optList (some .foreignTable) = .ok ())
    (tableName schemaName : String) : ViewBuilt r tableName schemaName (asMap optList) := by
  cases handler with
  | csv =>
    cases kind
    exact view_built contains agrees_csv (by decide) nofun once accepted tableName schemaName
  | json =>
    cases kind
    exact view_built contains agrees_json (by decide) nofun once accepted tableName schemaName
  | parquet =>
    cases kind
    exact view_built contains agrees_parquet (by decide) nofun once accepted tableName schemaName
  | delta =>
    cases kind
    exact view_built contains agrees_delta (by decide) nofun once accepted tableName schemaName
  | iceberg =>
    cases kind
    exact view_built contains agrees_iceberg (by decide) nofun once accepted tableName schemaName
  | spatial =>
    cases kind
    exact view_built contains agrees_spatial (by decide) (fun _ => by decide) once accepted
      tableName schemaName
  | other => cases kind

/-- The validators and the builders agree: what a validator accepts is built, with one
argument for each option, and what cannot be built for a missing option is not accepted. -/
theorem accepted_options_build
    (contains : ∀ optList name, checkOptionsContain optList name = .ok () ↔
      ∃ entry, some entry ∈ optList ∧ (name ++ "=").toList <+: entry.toList)
    (optList : List (Option String)) (once : ((asMap optList).map Prod.fst).Nodup) :
    (∀ handler r, ViewReader.ofHandler handler = some r → ∀ tableName schemaName,
      (validatorOf checkOptionsContain handler optList (some .foreignTable) = .ok () →
        ViewBuilt r tableName schemaName (asMap optList)) ∧
      ∀ fault, r.createView tableName schemaName (asMap optList) = .error fault →
        ∃ rejection, validatorOf checkOptionsContain handler optList (some .foreignTable) =
          .error rejection) ∧
    ∀ handler, handler ≠ .other → ∀ secretName,
      (validatorOf checkOptionsContain handler optList (some .userMapping) = .ok () →
        SecretBuilt secretName (asMap optList)) ∧
      ∀ fault, createSecret secretName (asMap optList) = .error fault →
        ∃ rejection, validatorOf checkOptionsContain handler optList (some .userMapping) =
          .error rejection := by
  have rejects : ∀ {validated : Except Fault Unit}, validated ≠ .ok () →
      ∃ rejection, validated = .error rejection := by
    intro validated refused
    cases validated with
    | ok accepted => exact absurd rfl refused
    | error rejection => exact ⟨rejection, rfl⟩
  refine ⟨fun handler r kind tableName schemaName => ?_, fun handler wrapper secretName => ?_⟩
  · have built := fun accepted => table_agrees contains once kind accepted tableName schemaName
    refine ⟨built, fun fault failed => rejects fun accepted => ?_⟩
    obtain ⟨texts, success, -⟩ := built accepted
    rw [success] at failed
    cases failed
  · have validated : validatorOf checkOptionsContain handler optList (some .userMapping) =
        validateMappingOption checkOptionsContain UserMappingOptions optList := by
      cases handler <;> first | rfl | exact absurd rfl wrapper
    rw [validated]
    refine ⟨fun accepted => secret_built contains once accepted secretName,
      fun fault failed => rejects fun accepted => ?_⟩
    obtain ⟨texts, success, -⟩ := secret_built contains once accepted secretName
    rw [success] at failed
    cases failed

end Built

def checkOptionsContain (optList : List (Option String)) (tgt : String) : Except Fault Unit :=
  if (optList.filterMap id).any fun entry => (tgt ++ "=").toList.isPrefixOf entry.toList then
    .ok ()
  else
    .error (.error ("required option `" ++ tgt ++ "` is not specified"))

theorem checkOptionsContain_eq_ok_iff (optList : List (Option String)) (tgt : String) :
    checkOptionsContain optList tgt = .ok () ↔
      ∃ entry, some entry ∈ optList ∧ (tgt ++ "=").toList <+: entry.toList := by
  have found : (optList.filterMap id).any
      (fun entry => (tgt ++ "=").toList.isPrefixOf entry.toList) = true ↔
      ∃ entry, some entry ∈ optList ∧ (tgt ++ "=").toList <+: entry.toList := by
    simp only [List.any_eq_true, List.mem_filterMap, id_eq, exists_eq_right,
      List.isPrefixOf_iff_prefix]
  rw [← found, checkOptionsContain]
  split <;> rename_i given
  · exact iff_of_true rfl given
  · exact iff_of_false nofun given

theorem accepted_options_build_parquet :
    ViewBuilt .parquet "trips" "public"
      (asMap [some "files=/data/trips.parquet", some "select=id", some "file_name=true"]) :=
  ((accepted_options_build checkOptionsContain_eq_ok_iff _ (by decide)).1 .parquet .parquet rfl
    "trips" "public").1 (by decide)

end PgAnalytics.OptionValidators
