import Mathlib.Data.Bool.AllAny
import Mathlib.Data.List.TakeWhile
import PgAnalytics.CellReader
import PgAnalytics.Traversals
import PgAnalytics.TypeTexts

/-! The columns of a table declared with none: each has the Postgres type that its
DuckDB type is converted to, and is read from the Arrow array that DuckDB exports for it.
The cell reader reads the type for some of the nested types only. -/

namespace PgAnalytics.TypeInference
open RecordBatches CellReader ClauseLists DuckdbTypes Traversals TypeTexts

structure Decimal where
  precision : ℕ
  scale : ℕ
  positive : 0 < precision
  fits : precision ≤ 38
  scale_le : scale ≤ precision
  deriving DecidableEq, Repr

inductive Scalar where
  | boolean
  | tinyint
  | smallint
  | integer
  | bigint
  | utinyint
  | usmallint
  | uinteger
  | ubigint
  | hugeint
  | float
  | double
  | decimal (d : Decimal)
  | varchar
  | blob
  | date
  | time
  | timestamp
  | timestampS
  | timestampMs
  | timestampNs
  | timestampTz
  | interval
  | uuid
  deriving DecidableEq, Repr

inductive DuckdbType where
  | scalar (s : Scalar)
  | list (element : DuckdbType)
  | array (element : DuckdbType) (size : ℕ)
  | struct (fields : List (String × DuckdbType))

def digits (n : ℕ) : List Char := Nat.toDigits 10 n

def decimalText (precision scale : ℕ) : List Char :=
  "DECIMAL".toList ++ '(' :: (digits precision ++ ',' :: (digits scale ++ [')']))

def Scalar.text : Scalar → List Char
  | .boolean => "BOOLEAN".toList
  | .tinyint => "TINYINT".toList
  | .smallint => "SMALLINT".toList
  | .integer => "INTEGER".toList
  | .bigint => "BIGINT".toList
  | .utinyint => "UTINYINT".toList
  | .usmallint => "USMALLINT".toList
  | .uinteger => "UINTEGER".toList
  | .ubigint => "UBIGINT".toList
  | .hugeint => "HUGEINT".toList
  | .float => "FLOAT".toList
  | .double => "DOUBLE".toList
  | .decimal d => decimalText d.precision d.scale
  | .varchar => "VARCHAR".toList
  | .blob => "BLOB".toList
  | .date => "DATE".toList
  | .time => "TIME".toList
  | .timestamp => "TIMESTAMP".toList
  | .timestampS => "TIMESTAMP_S".toList
  | .timestampMs => "TIMESTAMP_MS".toList
  | .timestampNs => "TIMESTAMP_NS".toList
  | .timestampTz => "TIMESTAMP WITH TIME ZONE".toList
  | .interval => "INTERVAL".toList
  | .uuid => "UUID".toList

def bound (size : Option ℕ) : List Char := '[' :: (size.elim [] digits ++ [']'])

section Text

variable (fieldName : String → List Char)

def DuckdbType.text : DuckdbType → List Char
  | .scalar s => s.text
  | .list element => element.text ++ bound none
  | .array element size => element.text ++ bound (some size)
  | .struct fields => "STRUCT".toList ++ '(' :: (fieldsText fields ++ [')'])
where
  fieldsText : List (String × DuckdbType) → List Char
    | [] => []
    | [(name, t)] => fieldName name ++ ' ' :: t.text
    | (name, t) :: fields => fieldName name ++ ' ' :: (t.text ++ ", ".toList ++ fieldsText fields)

end Text

def Scalar.arrowType (timeZone : String) : Scalar → DataType
  | .boolean => .boolean
  | .tinyint => .int8
  | .smallint => .int16
  | .integer => .int32
  | .bigint => .int64
  | .utinyint => .uint8
  | .usmallint => .uint16
  | .uinteger => .uint32
  | .ubigint => .uint64
  | .hugeint => .decimal128 38 0
  | .float => .float32
  | .double => .float64
  | .decimal d => .decimal128 d.precision d.scale
  | .varchar | .uuid => .utf8
  | .blob => .binary
  | .date => .date32
  | .time => .time64 .microsecond
  | .timestamp => .timestamp .microsecond none
  | .timestampS => .timestamp .second none
  | .timestampMs => .timestamp .millisecond none
  | .timestampNs => .timestamp .nanosecond none
  | .timestampTz => .timestamp .microsecond (some timeZone)
  | .interval => .interval .monthDayNano

def DuckdbType.arrowType (timeZone : String) : DuckdbType → DataType
  | .scalar s => s.arrowType timeZone
  | .list element => .list (element.arrowType timeZone)
  | .array element size => .fixedSizeList (element.arrowType timeZone) size
  | .struct fields => .struct (arrowFields fields)
where
  arrowFields : List (String × DuckdbType) → List (String × DataType)
    | [] => []
    | (name, t) :: fields => (name, t.arrowType timeZone) :: arrowFields fields

def TIMESTAMPARRAYOID : Oid := 1115
def DATEARRAYOID : Oid := 1182
def TIMEARRAYOID : Oid := 1183
def TIMESTAMPTZARRAYOID : Oid := 1185
def INTERVALARRAYOID : Oid := 1187
def NUMERICARRAYOID : Oid := 1231
def UUIDARRAYOID : Oid := 2951

def typeNames : List (String × Oid) :=
  [("BOOLEAN", BOOLOID), ("SMALLINT", INT2OID), ("INTEGER", INT4OID), ("BIGINT", INT8OID),
    ("NUMERIC", NUMERICOID), ("FLOAT", FLOAT8OID), ("DOUBLE PRECISION", FLOAT8OID),
    ("VARCHAR", VARCHAROID), ("TEXT", TEXTOID), ("DATE", DATEOID), ("TIME", TIMEOID),
    ("TIMESTAMP", TIMESTAMPOID), ("TIMESTAMP WITH TIME ZONE", TIMESTAMPTZOID),
    ("INTERVAL", INTERVALOID), ("UUID", UUIDOID), ("JSONB", JSONBOID)]

def arrayOids : List (Oid × Oid) :=
  [(BOOLOID, BOOLARRAYOID), (INT2OID, INT2ARRAYOID), (INT4OID, INT4ARRAYOID),
    (INT8OID, INT8ARRAYOID), (NUMERICOID, NUMERICARRAYOID), (FLOAT8OID, FLOAT8ARRAYOID),
    (VARCHAROID, VARCHARARRAYOID), (TEXTOID, TEXTARRAYOID), (DATEOID, DATEARRAYOID),
    (TIMEOID, TIMEARRAYOID), (TIMESTAMPOID, TIMESTAMPARRAYOID),
    (TIMESTAMPTZOID, TIMESTAMPTZARRAYOID), (INTERVALOID, INTERVALARRAYOID),
    (UUIDOID, UUIDARRAYOID)]

inductive Bounds : List Char → Prop where
  | one (size : Option ℕ) : Bounds (bound size)
  | more {bounds : List Char} (size : Option ℕ) : Bounds bounds → Bounds (bounds ++ bound size)

/-- What Postgres takes the name of a type for, as far as it is documented: an array has
the same type with any number of bounds. -/
structure TypeNames where
  oidOf : List Char → Option Oid
  named : ∀ n ∈ typeNames, oidOf n.1.toList = some n.2
  decimal : ∀ {precision scale}, 0 < precision → precision ≤ 1000 → scale ≤ precision →
    oidOf (decimalText precision scale) = some NUMERICOID
  arrays : ∀ {name oid array bounds}, oidOf name = some oid → arrayOids.lookup oid = some array →
    Bounds bounds → oidOf (name ++ bounds) = some array

/-- The column is read from whatever array DuckDB exports for it. -/
def ReadsAll (σ : Type) (names : TypeNames) (timeZone : String) (fieldName : String → List Char)
    (t : DuckdbType) : Prop :=
  ∀ columnName postgresType,
    duckdbTypeToPg columnName (String.ofList (t.text fieldName)) = .ok postgresType →
    ∃ oid, names.oidOf postgresType.toList = some oid ∧
      ∀ value : Value σ, value.HasType (t.arrowType timeZone) → value ≠ .null →
        ∀ name, ∃ cell, getCell (t.arrowType timeZone) value oid name = .ok cell

def Scalar.listed : Scalar → Bool
  | .boolean | .smallint | .integer | .bigint | .double | .varchar => true
  | _ => false

def Scalar.inStruct : Scalar → Bool
  | .blob | .date | .time | .timestamp | .timestampS | .timestampMs | .timestampNs | .timestampTz
  | .interval => false
  | _ => true

def DuckdbType.inStruct : DuckdbType → Bool
  | .scalar s => s.inStruct
  | _ => false

/-- The first field of each name may be one. -/
def readableFields (fields : List (String × DuckdbType)) : Bool :=
  fields.all fun field => (fields.find? (·.1 == field.1)).all (·.2.inStruct)

/-- A composite type, or lists of it at any depth. -/
def DuckdbType.readableJson : DuckdbType → Bool
  | .struct fields => readableFields fields
  | .list element => element.readableJson
  | _ => false

def DuckdbType.readable : DuckdbType → Bool
  | .scalar _ => true
  | .list (.scalar s) => s.listed
  | t => t.readableJson

namespace Scalar

def postgresText : Scalar → List Char
  | .tinyint | .smallint => "SMALLINT".toList
  | .utinyint | .usmallint | .integer => "INTEGER".toList
  | .uinteger | .bigint => "BIGINT".toList
  | .ubigint | .hugeint => "NUMERIC".toList
  | .double => "DOUBLE PRECISION".toList
  | .blob => "TEXT".toList
  | .timestampS | .timestampMs | .timestampNs => "TIMESTAMP".toList
  | s => s.text

def oid : Scalar → Oid
  | .boolean => BOOLOID
  | .tinyint | .smallint => INT2OID
  | .utinyint | .usmallint | .integer => INT4OID
  | .uinteger | .bigint => INT8OID
  | .ubigint | .hugeint | .decimal _ => NUMERICOID
  | .float | .double => FLOAT8OID
  | .varchar => VARCHAROID
  | .blob => TEXTOID
  | .date => DATEOID
  | .time => TIMEOID
  | .timestamp | .timestampS | .timestampMs | .timestampNs => TIMESTAMPOID
  | .timestampTz => TIMESTAMPTZOID
  | .interval => INTERVALOID
  | .uuid => UUIDOID

def arrayOid (s : Scalar) : Oid := (arrayOids.lookup s.oid).getD 0

theorem arrayOids_lookup (s : Scalar) : arrayOids.lookup s.oid = some s.arrayOid := by
  cases s <;> rfl

theorem oidOf_postgresText (names : TypeNames) (s : Scalar) :
    names.oidOf s.postgresText = some s.oid := by
  cases s with
  | decimal d => exact names.decimal d.positive (Nat.le_trans d.fits (by decide)) d.scale_le
  | _ => exact names.named (_, _) (by decide)

end Scalar

theorem noUpper_digits {n : ℕ} : ∀ c ∈ digits n, c.isUpper = false := by
  intro c mem
  have digit := Nat.isDigit_of_mem_toDigits (by decide) (by decide) mem
  have small : 48 ≤ c.toNat ∧ c.toNat ≤ 57 := Char.isDigit_iff_toNat.mp digit
  rw [← Bool.not_eq_true, SqlTokens.isUpper_iff_toNat]
  omega

theorem noUpper_bound (size : Option ℕ) : ∀ c ∈ bound size, c.isUpper = false := by
  have inner : ∀ c ∈ size.elim [] digits, c.isUpper = false := by
    cases size with
    | none => exact nofun
    | some n => exact noUpper_digits
  simp only [bound, List.forall_mem_cons, List.forall_mem_append]
  exact ⟨rfl, inner, rfl, nofun⟩

theorem Bounds.noUpper {bounds : List Char} (h : Bounds bounds) :
    (∀ c ∈ bounds, c.isUpper = false) ∧ bounds.head? = some '[' := by
  induction h with
  | one size => exact ⟨noUpper_bound size, rfl⟩
  | more size _ ih =>
    refine ⟨List.forall_mem_append.mpr ⟨ih.1, noUpper_bound size⟩, ?_⟩
    rw [List.head?_append, ih.2]
    rfl

theorem noUpper_arguments (precision scale : ℕ) :
    ∀ c ∈ '(' :: (digits precision ++ ',' :: (digits scale ++ [')'])), c.isUpper = false := by
  simp only [List.forall_mem_cons, List.forall_mem_append]
  exact ⟨rfl, noUpper_digits, rfl, noUpper_digits, rfl, nofun⟩

theorem replaceAll_decimal (precision scale : ℕ) :
    replaceAll replacements (decimalText precision scale) = decimalText precision scale := by
  have name : replaceAll replacements "DECIMAL".toList = "DECIMAL".toList := by decide
  unfold decimalText
  rw [replaceAll_suffix (noUpper_arguments precision scale) rfl, name]

def plainScalars : List Scalar :=
  [.boolean, .tinyint, .smallint, .integer, .bigint, .utinyint, .usmallint, .uinteger, .ubigint,
    .hugeint, .float, .double, .varchar, .blob, .date, .time, .timestamp, .timestampS,
    .timestampMs, .timestampNs, .timestampTz, .interval, .uuid]

theorem replaceAll_plainScalars :
    ∀ s ∈ plainScalars, replaceAll replacements s.text = s.postgresText := by decide +kernel

theorem replaceAll_text (s : Scalar) : replaceAll replacements s.text = s.postgresText := by
  cases s with
  | decimal d => exact replaceAll_decimal d.precision d.scale
  | _ => exact replaceAll_plainScalars _ (by decide)

namespace DuckdbType

def root : DuckdbType → Option Scalar
  | .scalar s => some s
  | .list element | .array element _ => element.root
  | .struct _ => none

def bounds : DuckdbType → List Char
  | .list element => element.bounds ++ bound none
  | .array element size => element.bounds ++ bound (some size)
  | _ => []

theorem bounds_append (t : DuckdbType) (size : Option ℕ) : Bounds (t.bounds ++ bound size) := by
  induction t using bounds.induct generalizing size with
  | case1 element ih => exact .more size (ih none)
  | case2 element size' ih => exact .more size (ih (some size'))
  | case3 t other other' =>
    rw [bounds.eq_3 t other other']
    exact .one size

theorem bounds_cases (t : DuckdbType) : t.bounds = [] ∨ Bounds t.bounds := by
  cases t with
  | scalar s => exact .inl rfl
  | list element => exact .inr (element.bounds_append none)
  | array element size => exact .inr (element.bounds_append (some size))
  | struct fields => exact .inl rfl

variable (fieldName : String → List Char)

theorem text_list (element : DuckdbType) :
    (list element).text fieldName = element.text fieldName ++ bound none := rfl

theorem text_array (element : DuckdbType) (size : ℕ) :
    (array element size).text fieldName = element.text fieldName ++ bound (some size) := rfl

theorem text_of_root {t : DuckdbType} {s : Scalar} (h : t.root = some s) :
    t.text fieldName = s.text ++ t.bounds := by
  induction t using root.induct with
  | case1 s' =>
    cases h
    exact (List.append_nil _).symm
  | case2 element ih => rw [text_list, bounds, ih h, List.append_assoc]
  | case3 element size ih => rw [text_array, bounds, ih h, List.append_assoc]
  | case4 fields => cases h

theorem text_of_struct {t : DuckdbType} (h : t.root = none) :
    ∃ rest, t.text fieldName = "STRUCT".toList ++ '(' :: rest := by
  induction t using root.induct with
  | case1 s => cases h
  | case2 element ih =>
    obtain ⟨rest, same⟩ := ih h
    exact ⟨rest ++ bound none, by rw [text_list, same, List.append_assoc, List.cons_append]⟩
  | case3 element size ih =>
    obtain ⟨rest, same⟩ := ih h
    exact ⟨rest ++ bound (some size), by rw [text_array, same, List.append_assoc, List.cons_append]⟩
  | case4 fields => exact ⟨_, rfl⟩

theorem accepted (t : DuckdbType) (columnName : String) :
    ∃ postgresType, duckdbTypeToPg columnName (String.ofList (t.text fieldName)) =
      .ok postgresType := by
  refine exists_duckdbTypeToPg_ofList columnName ?_
  simp only [unsupported, List.forall_mem_cons]
  cases root : t.root with
  | none =>
    obtain ⟨rest, same⟩ := text_of_struct fieldName root
    rw [same]
    exact ⟨rfl, rfl, rfl, rfl, rfl, nofun⟩
  | some s =>
    rw [text_of_root fieldName root]
    cases s <;> exact ⟨rfl, rfl, rfl, rfl, rfl, nofun⟩

/-- What Postgres takes the converted text for. -/
def oid : DuckdbType → Oid
  | .scalar s => s.oid
  | .list element | .array element _ => (element.root.map Scalar.arrayOid).getD JSONBOID
  | .struct _ => JSONBOID

theorem oid_of_struct {t : DuckdbType} (h : t.root = none) : t.oid = JSONBOID := by
  cases t with
  | scalar s => cases h
  | list element | array element size =>
    rw [root] at h
    rw [oid, h]
    rfl
  | struct fields => rfl

theorem converted_text {t : DuckdbType} {s : Scalar} (h : t.root = some s) :
    converted (t.text fieldName) = s.postgresText ++ t.bounds := by
  have same : replaceAll replacements (s.text ++ t.bounds) = s.postgresText ++ t.bounds := by
    rw [replaceAll_suffix ?_ ?_, replaceAll_text]
    · rcases t.bounds_cases with none | bounds
      · simp [none]
      · exact bounds.noUpper.1
    · rcases t.bounds_cases with none | bounds
      · simp [none]
      · rw [bounds.noUpper.2]
        rfl
  have other : "STRUCT".toList.isPrefixOf (s.postgresText ++ t.bounds) = false := by
    cases s <;> rfl
  rw [converted, text_of_root fieldName h, same, other]
  rfl

theorem oidOf_converted (names : TypeNames) {t : DuckdbType} {columnName postgresType : String}
    (h : duckdbTypeToPg columnName (String.ofList (t.text fieldName)) = .ok postgresType) :
    names.oidOf postgresType.toList = some t.oid := by
  rw [duckdbTypeToPg_ok h, String.toList_ofList]
  cases root : t.root with
  | none =>
    obtain ⟨rest, same⟩ := text_of_struct fieldName root
    rw [same, converted_struct, oid_of_struct root]
    exact names.named ("JSONB", JSONBOID) (by decide)
  | some s =>
    rw [converted_text fieldName root]
    have array : ∀ {bounds}, Bounds bounds →
        names.oidOf (s.postgresText ++ bounds) = some s.arrayOid :=
      names.arrays (s.oidOf_postgresText names) s.arrayOids_lookup
    cases t with
    | scalar s' =>
      cases root
      rw [show (scalar s).bounds = [] from rfl, List.append_nil]
      exact s.oidOf_postgresText names
    | list element =>
      have whole : Bounds (list element).bounds := element.bounds_append none
      rw [array whole, oid, show element.root = some s from root]
      rfl
    | array element size =>
      have whole : Bounds (DuckdbType.array element size).bounds :=
        element.bounds_append (some size)
      rw [array whole, oid, show element.root = some s from root]
      rfl
    | struct fields => cases root

end DuckdbType

section Reading

variable {σ : Type} (timeZone : String)

theorem getCell_scalar (s : Scalar) (v : Value σ) (name : String) :
    ∃ cell, getCell (s.arrowType timeZone) v s.oid name = .ok cell := by
  cases s <;> exact ⟨_, rfl⟩

theorem getCell_listed {s : Scalar} (listed : s.listed) (elements : List (Value σ))
    (name : String) :
    ∃ cell, getCell (.list (s.arrowType timeZone)) (.list elements) s.arrayOid name = .ok cell := by
  cases s <;> first | exact ⟨_, rfl⟩ | cases listed

theorem getCell_list_fails {s : Scalar} {t : DuckdbType} (root : t.root = some s)
    (other : ∀ s, t = .scalar s → s.listed = false) (elements : List (Value σ)) (name : String) :
    ¬ ∃ cell, getCell (.list (t.arrowType timeZone)) (.list elements) s.arrayOid name =
      .ok cell := by
  rintro ⟨cell, read⟩
  cases t with
  | scalar s' =>
    cases root
    have unlisted := other s rfl
    cases s <;> first | exact absurd unlisted (by decide) | cases read
  | list element | array element size => cases s <;> cases read
  | struct fields => cases root

theorem getCell_array_fails (s : Scalar) (t : DataType) (size : ℕ) (v : Value σ) (name : String) :
    ¬ ∃ cell, getCell (.fixedSizeList t size) v s.arrayOid name = .ok cell := by
  rintro ⟨cell, read⟩
  cases s <;> cases read

theorem arrowFields_eq (fields : List (String × DuckdbType)) :
    DuckdbType.arrowType.arrowFields timeZone fields =
      fields.map fun field => (field.1, field.2.arrowType timeZone) := by
  induction fields with
  | nil => rfl
  | cons field fields ih => rw [List.map_cons, ← ih, DuckdbType.arrowType.arrowFields]

theorem getFieldValue_ok_iff (t : DuckdbType) (v : Value σ) :
    (∃ found, getFieldValue (t.arrowType timeZone) v = .ok found) ↔ t.inStruct := by
  cases t with
  | scalar s =>
    cases s <;> first | exact ⟨fun _ => rfl, fun _ => ⟨_, rfl⟩⟩ | exact ⟨nofun, nofun⟩
  | list element | array element size | struct fields => exact ⟨nofun, nofun⟩

/-- A field is read by the type of the first field of its name. -/
theorem readField_ok_iff {fields : List (String × DuckdbType)} {values : List (Value σ)}
    (length : values.length = fields.length) (name : String) :
    (∃ found, readField (DuckdbType.arrowType.arrowFields timeZone fields) values name =
      .ok found) ↔ (fields.find? (·.1 == name)).all (·.2.inStruct) := by
  rw [arrowFields_eq]
  induction fields generalizing values with
  | nil => simp [readField]
  | cons field fields ih =>
    cases values with
    | nil => cases length
    | cons v values =>
      by_cases same : field.1 == name
      · simp only [readField, List.map_cons, List.zip_cons_cons, List.find?_cons, same,
          Option.all_some]
        rw [exists_map_eq_ok, getFieldValue_ok_iff]
      · have rest := ih (Nat.succ.inj length)
        simp only [readField, List.map_cons, List.zip_cons_cons, List.find?_cons, same] at rest ⊢
        exact rest

theorem getStructValue_ok_iff {fields : List (String × DuckdbType)} {values : List (Value σ)}
    (length : values.length = fields.length) :
    (∃ found, getStructValue ((DuckdbType.struct fields).arrowType timeZone) (.struct values) =
      .ok found) ↔ readableFields fields := by
  rw [DuckdbType.arrowType, getStructValue, exists_map_eq_ok, exists_mapM_eq_ok, readableFields,
    List.all_eq_true]
  constructor
  · intro h field mem
    have mem' : (field.1, field.2.arrowType timeZone) ∈
        DuckdbType.arrowType.arrowFields timeZone fields := by
      rw [arrowFields_eq]
      exact List.mem_map_of_mem mem
    exact (readField_ok_iff timeZone length field.1).mp (h _ mem')
  · intro h field mem
    rw [arrowFields_eq, List.mem_map] at mem
    obtain ⟨field', mem', rfl⟩ := mem
    exact (readField_ok_iff timeZone length field'.1).mpr (h field' mem')

theorem hasType_nulls (fields : List (String × DuckdbType)) :
    (Value.struct (List.replicate fields.length .null) : Value σ).HasType
      ((DuckdbType.struct fields).arrowType timeZone) := by
  have length : (DuckdbType.arrowType.arrowFields timeZone fields).length = fields.length := by
    rw [arrowFields_eq, List.length_map]
  refine .struct (by rw [List.length_replicate, length]) fun field mem => ?_
  rw [List.eq_of_mem_replicate (List.of_mem_zip mem).2]
  exact .null _

theorem listValues_ok_iff {t : DuckdbType} (root : t.root = none) :
    (∀ elements : List (Value σ), (∀ v ∈ elements, v.HasType (t.arrowType timeZone)) →
      ∃ found, listValues (t.arrowType timeZone) elements = .ok found) ↔ t.readableJson := by
  induction t using DuckdbType.root.induct with
  | case1 s => cases root
  | case2 element ih =>
    rw [DuckdbType.readableJson, ← ih root]
    constructor
    · intro h elements typed
      obtain ⟨found, read⟩ := h [.list elements] (List.forall_mem_singleton.mpr (.list typed))
      have one := exists_mapM_eq_ok.mp ⟨found, read⟩ _ (List.mem_singleton_self _)
      exact exists_map_eq_ok.mp one
    · intro h elements typed
      refine exists_mapM_eq_ok.mpr fun v mem => ?_
      cases typed v mem with
      | null => exact ⟨_, rfl⟩
      | single value scalar => exact ⟨_, rfl⟩
      | list inner => exact exists_map_eq_ok.mpr (h _ inner)
  | case3 element size ih =>
    refine ⟨fun h => ?_, nofun⟩
    obtain ⟨found, read⟩ := h [] nofun
    cases read
  | case4 fields =>
    have zero : (List.replicate fields.length (Value.null : Value σ)).length = fields.length :=
      List.length_replicate
    rw [DuckdbType.readableJson]
    constructor
    · intro h
      obtain ⟨found, read⟩ := h [.struct (List.replicate fields.length .null)]
        (List.forall_mem_singleton.mpr (hasType_nulls timeZone fields))
      have one := exists_mapM_eq_ok.mp ⟨found, read⟩ _ (List.mem_singleton_self _)
      exact (getStructValue_ok_iff timeZone zero).mp (exists_map_eq_ok.mp one)
    · intro readable elements typed
      refine exists_mapM_eq_ok.mpr fun v mem => exists_map_eq_ok.mpr ?_
      cases typed v mem with
      | null => exact ⟨_, rfl⟩
      | single value scalar => exact ⟨_, rfl⟩
      | struct length inner =>
        rw [arrowFields_eq, List.length_map] at length
        exact (getStructValue_ok_iff timeZone length).mpr readable

theorem readableJson_of_root {t : DuckdbType} {s : Scalar} (h : t.root = some s) :
    t.readableJson = false := by
  induction t using DuckdbType.root.induct with
  | case1 s' | case3 element size ih => rfl
  | case2 element ih => exact ih h
  | case4 fields => cases h

def Reads (σ : Type) (t : DuckdbType) : Prop :=
  ∀ value : Value σ, value.HasType (t.arrowType timeZone) → value ≠ .null →
    ∀ name, ∃ cell, getCell (t.arrowType timeZone) value t.oid name = .ok cell

theorem readsAll_iff_reads (names : TypeNames) (fieldName : String → List Char) (t : DuckdbType) :
    ReadsAll σ names timeZone fieldName t ↔ Reads timeZone σ t := by
  constructor
  · intro h
    obtain ⟨postgresType, ok⟩ := t.accepted fieldName ""
    obtain ⟨oid, named, read⟩ := h "" postgresType ok
    obtain rfl := Option.some.inj ((t.oidOf_converted fieldName names ok).symm.trans named)
    exact read
  · exact fun h columnName postgresType ok => ⟨t.oid, t.oidOf_converted fieldName names ok, h⟩

theorem reads_struct_iff (fields : List (String × DuckdbType)) :
    Reads timeZone σ (.struct fields) ↔ (DuckdbType.struct fields).readable := by
  have arm : ∀ values : List (Value σ), values.length = fields.length → ∀ name,
      (∃ cell, getCell ((DuckdbType.struct fields).arrowType timeZone) (.struct values) JSONBOID
        name = .ok cell) ↔ readableFields fields := fun values length name =>
    exists_map_eq_ok.trans (getStructValue_ok_iff timeZone length)
  constructor
  · intro h
    have read := h _ (hasType_nulls timeZone fields) (by simp) ""
    exact (arm _ List.length_replicate "").mp read
  · intro readable value typed nonnull name
    cases typed with
    | null => exact absurd rfl nonnull
    | single value scalar =>
      exact absurd (by decide : ArrayType.struct ∈ [.list, .fixedSizeList, .struct]) scalar
    | struct length inner =>
      rw [arrowFields_eq, List.length_map] at length
      exact (arm _ length name).mpr readable

theorem not_reads_array (element : DuckdbType) (size : ℕ) :
    ¬ Reads timeZone σ (.array element size) := by
  intro h
  have typed : (Value.list (List.replicate size .null) : Value σ).HasType
      ((DuckdbType.array element size).arrowType timeZone) :=
    .fixedSizeList (fun v mem => List.eq_of_mem_replicate mem ▸ .null _) List.length_replicate
  have read := h _ typed (by simp) ""
  rw [DuckdbType.oid] at read
  cases root : element.root with
  | none =>
    rw [root] at read
    obtain ⟨cell, read⟩ := read
    cases read
  | some s =>
    rw [root] at read
    exact getCell_array_fails s _ size _ "" read

theorem list_of_hasType {element : DuckdbType} {value : Value σ}
    (typed : value.HasType ((DuckdbType.list element).arrowType timeZone))
    (nonnull : value ≠ .null) : ∃ elements, value = .list elements ∧
      ∀ v ∈ elements, v.HasType (element.arrowType timeZone) := by
  cases typed with
  | null => exact absurd rfl nonnull
  | single value scalar =>
    exact absurd (by decide : ArrayType.list ∈ [.list, .fixedSizeList, .struct]) scalar
  | list inner => exact ⟨_, rfl, inner⟩

theorem reads_structs_iff {element : DuckdbType} (root : element.root = none) :
    Reads timeZone σ (.list element) ↔ (DuckdbType.list element).readable := by
  have json : (DuckdbType.list element).readable = element.readableJson := by
    cases element with
    | scalar s => cases root
    | list | array | struct => rfl
  have arm : ∀ (elements : List (Value σ)) name,
      (∃ cell, getCell (.list (element.arrowType timeZone)) (.list elements) JSONBOID name =
        .ok cell) ↔ ∃ found, listValues (element.arrowType timeZone) elements = .ok found :=
    fun elements name => exists_map_eq_ok.trans exists_map_eq_ok
  have oid : (DuckdbType.list element).oid = JSONBOID := DuckdbType.oid_of_struct root
  unfold Reads
  rw [json, ← @listValues_ok_iff σ timeZone element root, oid]
  constructor
  · exact fun h elements typed =>
      (arm elements "").mp (h (.list elements) (.list typed) (by simp) "")
  · intro h value typed nonnull name
    obtain ⟨elements, rfl, inner⟩ := list_of_hasType timeZone typed nonnull
    exact (arm elements name).mpr (h elements inner)

theorem reads_scalars_iff {element : DuckdbType} {s : Scalar} (root : element.root = some s) :
    Reads timeZone σ (.list element) ↔ (DuckdbType.list element).readable := by
  have oid : (DuckdbType.list element).oid = s.arrayOid := by
    rw [DuckdbType.oid, root]
    rfl
  unfold Reads
  rw [oid]
  by_cases fits : element = .scalar s ∧ s.listed
  · obtain ⟨rfl, listed⟩ := fits
    refine ⟨fun _ => listed, fun _ value typed nonnull name => ?_⟩
    obtain ⟨elements, rfl, -⟩ := list_of_hasType timeZone typed nonnull
    exact getCell_listed timeZone listed elements name
  · constructor
    · intro h
      refine absurd (h (.list []) (.list nofun) (by simp) "")
        (getCell_list_fails timeZone root (fun s' same => ?_) [] "")
      obtain rfl := Option.some.inj (root.symm.trans (same ▸ rfl : element.root = some s'))
      exact Bool.eq_false_iff.mpr fun listed => fits ⟨same, listed⟩
    · intro readable
      cases element with
      | scalar s' =>
        cases root
        exact absurd ⟨rfl, readable⟩ fits
      | list | array | struct =>
        have unread : DuckdbType.readableJson _ = false := readableJson_of_root root
        exact absurd (unread.symm.trans readable) Bool.false_ne_true

theorem reads_list_iff (element : DuckdbType) :
    Reads timeZone σ (.list element) ↔ (DuckdbType.list element).readable := by
  cases root : element.root with
  | none => exact reads_structs_iff timeZone root
  | some s => exact reads_scalars_iff timeZone root

end Reading

/-- The column is read whatever it holds exactly when its type is one of those that the
cell reader has an arm for. -/
theorem readsAll_iff (σ : Type) (names : TypeNames) (timeZone : String)
    (fieldName : String → List Char) (t : DuckdbType) :
    ReadsAll σ names timeZone fieldName t ↔ t.readable := by
  rw [readsAll_iff_reads]
  cases t with
  | scalar s => exact ⟨fun _ => rfl, fun _ value _ _ name => getCell_scalar timeZone s value name⟩
  | list element => exact reads_list_iff timeZone element
  | array element size => exact ⟨fun h => absurd h (not_reads_array timeZone element size), nofun⟩
  | struct fields => exact reads_struct_iff timeZone fields

def scalarOid (name : List Char) : Option Oid :=
  if "DECIMAL(".toList.isPrefixOf name then some NUMERICOID
  else (typeNames.find? fun n => n.1.toList == name).map Prod.snd

def oidOf (text : List Char) : Option Oid :=
  (scalarOid (text.takeWhile (· ≠ '['))).bind fun oid =>
    if text.dropWhile (· ≠ '[') = [] then some oid else arrayOids.lookup oid

theorem oidOf_append {name bounds : List Char} (plain : ∀ c ∈ name, c ≠ '[')
    (first : bounds.head? = some '[') :
    oidOf (name ++ bounds) = (scalarOid name).bind fun oid => arrayOids.lookup oid := by
  obtain ⟨rest, rfl⟩ := List.head?_eq_some_iff.mp first
  have all : ∀ c ∈ name, decide (c ≠ '[') = true := fun c mem => decide_eq_true (plain c mem)
  rw [oidOf, List.takeWhile_append_of_pos all, List.dropWhile_append_of_pos all]
  simp

theorem oidOf_plain {name : List Char} (plain : ∀ c ∈ name, c ≠ '[') :
    oidOf name = scalarOid name := by
  have all : ∀ c ∈ name, decide (c ≠ '[') = true := fun c mem => decide_eq_true (plain c mem)
  rw [oidOf, List.takeWhile_eq_self_iff.mpr all, List.dropWhile_eq_nil_iff.mpr all]
  simp

theorem arrayOids_lookup_array {oid array : Oid} (h : arrayOids.lookup oid = some array) :
    arrayOids.lookup array = none := by
  have flat : ∀ p ∈ arrayOids, arrayOids.lookup p.2 = none :=
    List.all_iff_forall_prop.mp (by decide)
  obtain ⟨before, after, same, -⟩ := List.lookup_eq_some_iff.mp h
  exact flat (oid, array) (same ▸ List.mem_append_right _ List.mem_cons_self)

theorem plain_of_oidOf {name : List Char} {oid array : Oid} (h : oidOf name = some oid)
    (element : arrayOids.lookup oid = some array) : ∀ c ∈ name, c ≠ '[' := by
  rintro c mem rfl
  obtain ⟨oid', -, found⟩ := Option.bind_eq_some_iff.mp h
  have bounds : name.dropWhile (· ≠ '[') ≠ [] := by
    intro none
    simpa using List.dropWhile_eq_nil_iff.mp none _ mem
  rw [if_neg bounds] at found
  rw [arrayOids_lookup_array found] at element
  cases element

theorem plain_decimalText (precision scale : ℕ) :
    ∀ c ∈ decimalText precision scale, c ≠ '[' := by
  have digit : ∀ {n : ℕ}, ∀ c ∈ digits n, c ≠ '[' := by
    rintro n c mem rfl
    exact absurd (Nat.isDigit_of_mem_toDigits (by decide) (by decide) mem) (by decide)
  have name : ∀ c ∈ "DECIMAL".toList, c ≠ '[' := List.all_iff_forall_prop.mp (by decide)
  have scale' : ∀ c ∈ digits scale ++ [')'], c ≠ '[' :=
    List.forall_mem_append.mpr ⟨digit, List.all_iff_forall_prop.mp (by decide)⟩
  have both : ∀ c ∈ digits precision ++ ',' :: (digits scale ++ [')']), c ≠ '[' :=
    List.forall_mem_append.mpr ⟨digit, List.forall_mem_cons.mpr ⟨by decide, scale'⟩⟩
  exact List.forall_mem_append.mpr ⟨name, List.forall_mem_cons.mpr ⟨by decide, both⟩⟩

def postgres : TypeNames where
  oidOf := oidOf
  named := by decide
  decimal {precision scale} _ _ _ := by
    rw [oidOf_plain (plain_decimalText precision scale)]
    rfl
  arrays {name oid array bounds} same element h := by
    have plain := plain_of_oidOf same element
    rw [oidOf_append plain h.noUpper.2, ← oidOf_plain plain, same]
    exact element

theorem tinyint_list_not_read :
    ¬ ReadsAll ℕ postgres "UTC" String.toList (.list (.scalar .tinyint)) := by
  rw [readsAll_iff_reads]
  intro h
  have read := h (.list []) (.list nofun) (by simp) "level"
  obtain ⟨cell, read⟩ := read
  cases read

end PgAnalytics.TypeInference
