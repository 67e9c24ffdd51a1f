import Mathlib.Data.Fin.VecNotation
import PgAnalytics.ArrayReader

/-! Lists as JSON: a list of scalars, of structs of scalars or of lists again is an array of
its entries. With the type of the list, the JSON gives the value back. -/

namespace PgAnalytics.NestedJson
open RecordBatches CellReader ArrowArrays ArrowArray Traversals

inductive Scalar where
  | bool (value : Bool)
  | int8 (value : Int8)
  | int16 (value : Int16)
  | int32 (value : Int32)
  | int64 (value : Int64)
  | uint8 (value : UInt8)
  | uint16 (value : UInt16)
  | uint32 (value : UInt32)
  | uint64 (value : UInt64)
  | utf8 (value : String)
  deriving DecidableEq, Repr

def Scalar.dataType : Scalar → DataType
  | .bool _ => .boolean
  | .int8 _ => .int8
  | .int16 _ => .int16
  | .int32 _ => .int32
  | .int64 _ => .int64
  | .uint8 _ => .uint8
  | .uint16 _ => .uint16
  | .uint32 _ => .uint32
  | .uint64 _ => .uint64
  | .utf8 _ => .utf8

inductive Leaf where
  | bool (value : Bool)
  | number (value : ℤ)
  | string (value : String)
  deriving DecidableEq, Repr

/-- `Value::Bool`, `Number::from` and `Value::String`; the unsigned go through `u64`. -/
def Scalar.leaf : Scalar → Leaf
  | .bool value => .bool value
  | .int8 value => .number value.toInt
  | .int16 value => .number value.toInt
  | .int32 value => .number value.toInt
  | .int64 value => .number value.toInt
  | .uint8 value => .number value.toNat
  | .uint16 value => .number value.toNat
  | .uint32 value => .number value.toNat
  | .uint64 value => .number value.toNat
  | .utf8 value => .string value

mutual

def toValue : Json Scalar → Json Leaf
  | .null => .null
  | .single scalar => .single scalar.leaf
  | .parsed text => .parsed text.leaf
  | .array elements => .array (toValues elements)
  | .object fields => .object (toFields fields)

def toValues : List (Json Scalar) → List (Json Leaf)
  | [] => []
  | element :: elements => toValue element :: toValues elements

def toFields : List (String × Json Scalar) → List (String × Json Leaf)
  | [] => []
  | (name, value) :: fields => (name, toValue value) :: toFields fields

end

variable {n : ℕ}

/-- `get_list_value`, with its numbers. -/
def getListValue (array : ArrowArray Scalar n) (index : Fin n) :
    Except ReadFault (Option (Json Leaf)) :=
  (ArrayReader.getListValue array index).map (Option.map toValue)

/-- The buffers of scalars hold scalars of their type. -/
def Typed : {n : ℕ} → ArrowArray Scalar n → Prop
  | _, .null _ => True
  | _, .flat t _ values _ => ∀ i, (values i).dataType = t
  | _, .list _ _ _ values _ => Typed values
  | _, .fixedSizeList _ _ values _ => Typed values
  | _, .struct _ columns _ => ∀ j, Typed (columns j)

def listScalars : List DataType := [.boolean, .int8, .int16, .int32, .int64, .utf8]

def fieldScalars : List DataType := listScalars ++ [.uint8, .uint16, .uint32, .uint64]

inductive Renderable : DataType → Prop where
  | scalar {t : DataType} (mem : t ∈ listScalars) : Renderable t
  | struct {fields : List (String × DataType)} (distinct : (fields.map Prod.fst).Nodup)
    (scalars : ∀ field ∈ fields, field.2 ∈ fieldScalars) : Renderable (.struct fields)
  | list {t : DataType} (element : Renderable t) : Renderable (.list t)

inductive Renders : DataType → Value Scalar → Json Leaf → Prop where
  | null (t : DataType) : Renders t .null .null
  | scalar {t : DataType} (scalar : Scalar) : Renders t (.single scalar) (.single scalar.leaf)
  | list {t : DataType} {elements : List (Value Scalar)} {entries : List (Json Leaf)}
    (length : entries.length = elements.length)
    (each : ∀ (i : ℕ) v j, elements[i]? = some v → entries[i]? = some j → Renders t v j) :
    Renders (.list t) (.list elements) (.array entries)
  | struct {fields : List (String × DataType)} {values : List (Value Scalar)}
    {map : List (String × Json Leaf)} (keys : (map.map Prod.fst).Nodup)
    (present : ∀ name j, (name, j) ∈ map ↔
      ∃ t scalar, ((name, t), .single scalar) ∈ fields.zip values ∧ j = .single scalar.leaf) :
    Renders (.struct fields) (.struct values) (.object map)

def decodeLeaf : DataType → Leaf → Option Scalar
  | .boolean, .bool value => some (.bool value)
  | .int8, .number value => some (.int8 (Int8.ofInt value))
  | .int16, .number value => some (.int16 (Int16.ofInt value))
  | .int32, .number value => some (.int32 (Int32.ofInt value))
  | .int64, .number value => some (.int64 (Int64.ofInt value))
  | .uint8, .number value => some (.uint8 (UInt8.ofNat value.toNat))
  | .uint16, .number value => some (.uint16 (UInt16.ofNat value.toNat))
  | .uint32, .number value => some (.uint32 (UInt32.ofNat value.toNat))
  | .uint64, .number value => some (.uint64 (UInt64.ofNat value.toNat))
  | .utf8, .string value => some (.utf8 value)
  | _, _ => none

def decodeField (map : List (String × Json Leaf)) (field : String × DataType) :
    Option (Value Scalar) :=
  match map.lookup field.1 with
  | none => some .null
  | some (.single leaf) => (decodeLeaf field.2 leaf).map .single
  | some _ => none

def decode : DataType → Json Leaf → Option (Value Scalar)
  | _, .null => some .null
  | .list t, .array entries => (entries.mapM (decode t)).map .list
  | .struct fields, .object map => (fields.mapM (decodeField map)).map .struct
  | t, .single leaf => (decodeLeaf t leaf).map .single
  | _, _ => none

structure Rendered (t : DataType) (v : Value Scalar)
    (result : Except ReadFault (Option (Json Leaf))) : Prop where
  null : result = .ok none ↔ v = .null
  array : v ≠ .null → ∃ elements entries, v = .list elements ∧
    result = .ok (some (.array entries)) ∧ Renders (.list t) (.list elements) (.array entries) ∧
    List.Forall₂ (fun v j => j = .null ↔ v = .null) elements entries ∧
    decode (.list t) (.array entries) = some (.list elements)

inductive Conforms : DataType → Value Scalar → Prop where
  | null (t : DataType) : Conforms t .null
  | single {t : DataType} (scalar : Scalar) (type : scalar.dataType = t) :
    Conforms t (.single scalar)
  | list {t : DataType} {elements : List (Value Scalar)} (each : ∀ v ∈ elements, Conforms t v) :
    Conforms (.list t) (.list elements)
  | fixedSizeList {t : DataType} {size : ℕ} {elements : List (Value Scalar)} :
    Conforms (.fixedSizeList t size) (.list elements)
  | struct {fields : List (String × DataType)} {values : List (Value Scalar)}
    (length : values.length = fields.length)
    (each : ∀ p ∈ fields.zip values, Conforms p.1.2 p.2) :
    Conforms (.struct fields) (.struct values)

theorem conforms_valueAt {array : ArrowArray Scalar n} (typed : Typed array) (index : Fin n) :
    Conforms array.dataType (array.valueAt index) := by
  induction array with
  | null => exact .null _
  | flat t scalar values validity =>
    rw [valueAt]
    split
    · exact .null _
    · exact .single _ (typed index)
  | list offsets ordered within values validity ih =>
    rw [valueAt]
    split
    · exact .null _
    · refine .list fun v mem => ?_
      obtain ⟨j, rfl⟩ := List.mem_ofFn.mp mem
      exact ih typed _
  | fixedSizeList size within values validity ih =>
    rw [valueAt]
    split
    · exact .null _
    · exact .fixedSizeList
  | struct names columns validity ih =>
    rw [valueAt]
    split
    · exact .null _
    · refine .struct (by simp) fun p mem => ?_
      rw [List.ofFn_eq_map, List.ofFn_eq_map, List.zip_map'] at mem
      obtain ⟨j, -, rfl⟩ := List.mem_map.mp mem
      exact ih j (typed j) index

theorem toValues_eq (elements : List (Json Scalar)) : toValues elements = elements.map toValue := by
  induction elements with
  | nil => rfl
  | cons element elements ih => rw [toValues, ih, List.map_cons]

theorem toFields_eq (fields : List (String × Json Scalar)) :
    toFields fields = fields.map fun field => (field.1, toValue field.2) := by
  induction fields with
  | nil => rfl
  | cons field fields ih => rw [toFields, ih, List.map_cons]

theorem decodeLeaf_leaf (s : Scalar) : decodeLeaf s.dataType s.leaf = some s := by
  cases s <;> simp [Scalar.dataType, Scalar.leaf, decodeLeaf]

theorem find?_distinct {α β : Type} [DecidableEq α] {pairs : List ((α × β) × Value Scalar)}
    (distinct : (pairs.map fun p => p.1.1).Nodup) {p : (α × β) × Value Scalar} (mem : p ∈ pairs) :
    pairs.find? (fun q => q.1.1 == p.1.1) = some p := by
  induction pairs with
  | nil => cases mem
  | cons q pairs ih =>
    rw [List.map_cons, List.nodup_cons] at distinct
    cases mem with
    | head => simp
    | tail _ later =>
      have apart : q.1.1 ≠ p.1.1 := by
        intro same
        apply distinct.1
        rw [same]
        exact List.mem_map_of_mem later
      rw [List.find?_cons_of_neg (by simpa using apart)]
      exact ih distinct.2 later

theorem eq_null_or_single {t : DataType} (mem : t ∈ fieldScalars) {v : Value Scalar}
    (conforms : Conforms t v) : v = .null ∨ ∃ s : Scalar, s.dataType = t ∧ v = .single s := by
  cases conforms with
  | null => exact .inl rfl
  | single s type => exact .inr ⟨s, type, rfl⟩
  | list | fixedSizeList | struct => simp [fieldScalars, listScalars] at mem

theorem getFieldValue_eq {t : DataType} (mem : t ∈ fieldScalars) (v : Value Scalar) :
    getFieldValue t v = .ok v.single? := by
  simp only [fieldScalars, listScalars, List.mem_append, List.mem_cons, List.not_mem_nil,
    or_false] at mem
  rcases mem with (rfl | rfl | rfl | rfl | rfl | rfl) | rfl | rfl | rfl | rfl <;> rfl

def present (pairs : List ((String × DataType) × Value Scalar)) : List (String × Scalar) :=
  pairs.filterMap fun p => p.2.single?.map fun s => (p.1.1, s)

theorem getStructValue_struct {fields : List (String × DataType)} {values : List (Value Scalar)}
    (length : values.length = fields.length) (distinct : (fields.map Prod.fst).Nodup)
    (scalars : ∀ field ∈ fields, field.2 ∈ fieldScalars) :
    getStructValue (.struct fields) (.struct values) =
      .ok (some (.object ((present (fields.zip values)).map fun p => (p.1, .single p.2)))) := by
  have own : (fields.zip values).map Prod.fst = fields := List.map_fst_zip length.ge
  have names : ((fields.zip values).map fun p => p.1.1).Nodup := by
    rwa [← own, List.map_map] at distinct
  have each : ∀ p ∈ fields.zip values, readField fields values p.1.1 =
      .ok (p.2.single?.map fun s => (p.1.1, Json.single s)) := fun p mem => by
    rw [readField, find?_distinct names mem]
    dsimp only
    rw [getFieldValue_eq (scalars p.1 (by rw [← own]; exact List.mem_map_of_mem mem))]
    rfl
  have read : fields.mapM (fun field => readField fields values field.1) =
      .ok ((fields.zip values).map fun p => p.2.single?.map fun s => (p.1.1, Json.single s)) := by
    conv_lhs => rw [← own, List.mapM_map]
    rw [own]
    exact mapM_eq_pure each
  rw [getStructValue, read]
  simp [Except.map, present, List.filterMap_map, List.map_filterMap, Function.comp_def]

theorem mem_present {pairs : List ((String × DataType) × Value Scalar)} {name : String}
    {s : Scalar} : (name, s) ∈ present pairs ↔ ∃ t, ((name, t), .single s) ∈ pairs := by
  rw [present, List.mem_filterMap]
  constructor
  · rintro ⟨⟨⟨name', t⟩, v⟩, mem, found⟩
    cases v with
    | single s' =>
      cases found
      exact ⟨t, mem⟩
    | null | list | struct => cases found
  · rintro ⟨t, mem⟩
    exact ⟨((name, t), .single s), mem, rfl⟩

theorem keys_sublist (pairs : List ((String × DataType) × Value Scalar)) :
    ((present pairs).map Prod.fst).Sublist (pairs.map fun p => p.1.1) := by
  induction pairs with
  | nil => exact .slnil
  | cons p pairs ih =>
    rw [present, List.filterMap_cons]
    cases p.2.single? with
    | none => exact ih.cons _
    | some s => exact ih.cons_cons _

theorem lookup_present {pairs : List ((String × DataType) × Value Scalar)}
    (distinct : (pairs.map fun p => p.1.1).Nodup) {p : (String × DataType) × Value Scalar}
    (mem : p ∈ pairs) :
    ((present pairs).map fun field => (field.1, (.single field.2.leaf : Json Leaf))).lookup p.1.1 =
      p.2.single?.map fun s => .single s.leaf := by
  induction pairs with
  | nil => cases mem
  | cons q pairs ih =>
    rw [List.map_cons, List.nodup_cons] at distinct
    rw [present, List.filterMap_cons]
    rcases List.mem_cons.mp mem with rfl | later
    · cases p.2.single? with
      | none =>
        refine List.lookup_eq_none_iff.mpr fun field found => ?_
        obtain ⟨entry, mem', rfl⟩ := List.mem_map.mp found
        have listed := (keys_sublist pairs).mem (List.mem_map_of_mem mem')
        simpa using fun same => distinct.1 (by rwa [same])
      | some s => simp
    · have apart : p.1.1 ≠ q.1.1 := by
        intro same
        apply distinct.1
        rw [← same]
        exact List.mem_map_of_mem later
      cases q.2.single? with
      | none => exact ih distinct.2 later
      | some s =>
        rw [Option.map_some, List.map_cons, List.lookup_cons, beq_false_of_ne apart]
        exact ih distinct.2 later

def entryJson : DataType → Value Scalar → Except ReadFault (Json Scalar)
  | .struct fields, v => (getStructValue (.struct fields) v).map (·.getD .null)
  | .list t, v => (CellReader.getListValue (.list t) v).map (·.getD .null)
  | _, v => .ok (v.single?.elim .null .single)

theorem entryJson_scalar {t : DataType} (mem : t ∈ listScalars) (v : Value Scalar) :
    entryJson t v = .ok (v.single?.elim .null .single) := by
  simp only [listScalars, List.mem_cons, List.not_mem_nil, or_false] at mem
  rcases mem with rfl | rfl | rfl | rfl | rfl | rfl <;> rfl

theorem listValues_eq {t : DataType} (renderable : Renderable t) (elements : List (Value Scalar)) :
    listValues t elements = elements.mapM (entryJson t) := by
  cases renderable with
  | scalar mem =>
    rw [mapM_eq_pure fun v _ => entryJson_scalar mem v]
    simp only [listScalars, List.mem_cons, List.not_mem_nil, or_false] at mem
    rcases mem with rfl | rfl | rfl | rfl | rfl | rfl <;> rfl
  | struct => rfl
  | list => exact ArrayReader.listValues_list _ elements

structure Entry (t : DataType) (v : Value Scalar) (j : Json Scalar) : Prop where
  renders : Renders t v (toValue j)
  decodes : decode t (toValue j) = some v

theorem decode_null (t : DataType) : decode t .null = some .null := by
  cases t <;> rfl

theorem decode_single {t : DataType} (mem : t ∈ listScalars) (leaf : Leaf) :
    decode t (.single leaf) = (decodeLeaf t leaf).map .single := by
  simp only [listScalars, List.mem_cons, List.not_mem_nil, or_false] at mem
  rcases mem with rfl | rfl | rfl | rfl | rfl | rfl <;> rfl

theorem entry_null (t : DataType) : Entry t .null .null := ⟨.null t, decode_null t⟩

theorem entry_scalar {t : DataType} (mem : t ∈ listScalars) {v : Value Scalar}
    (conforms : Conforms t v) : ∃ j, entryJson t v = .ok j ∧ Entry t v j := by
  rw [entryJson_scalar mem]
  obtain rfl | ⟨s, rfl, rfl⟩ := eq_null_or_single (List.mem_append_left _ mem) conforms
  · exact ⟨_, rfl, entry_null t⟩
  · refine ⟨_, rfl, .scalar s, ?_⟩
    change decode s.dataType (.single s.leaf) = _
    rw [decode_single mem, decodeLeaf_leaf]
    rfl

theorem decodeField_eq {pairs : List ((String × DataType) × Value Scalar)}
    (distinct : (pairs.map fun p => p.1.1).Nodup) {p : (String × DataType) × Value Scalar}
    (mem : p ∈ pairs) (scalar : p.1.2 ∈ fieldScalars) (conforms : Conforms p.1.2 p.2) :
    decodeField ((present pairs).map fun field => (field.1, .single field.2.leaf)) p.1 =
      some p.2 := by
  rw [decodeField, lookup_present distinct mem]
  obtain null | ⟨s, type, single⟩ := eq_null_or_single scalar conforms
  · rw [null]
    rfl
  · rw [single, ← type]
    change (decodeLeaf s.dataType s.leaf).map _ = _
    rw [decodeLeaf_leaf]
    rfl

def object (pairs : List ((String × DataType) × Value Scalar)) : Json Leaf :=
  .object ((present pairs).map fun field => (field.1, .single field.2.leaf))

theorem toValue_object (pairs : List ((String × DataType) × Value Scalar)) :
    toValue (.object ((present pairs).map fun p => (p.1, .single p.2))) = object pairs := by
  rw [toValue, toFields_eq, List.map_map]
  rfl

theorem renders_object {fields : List (String × DataType)} {values : List (Value Scalar)}
    (names : ((fields.zip values).map fun p => p.1.1).Nodup) :
    Renders (.struct fields) (.struct values) (object (fields.zip values)) := by
  refine .struct ?_ fun name j => ⟨fun mem => ?_, ?_⟩
  · rw [List.map_map]
    exact (keys_sublist _).nodup names
  · obtain ⟨⟨name', s⟩, mem', same⟩ := List.mem_map.mp mem
    cases same
    obtain ⟨t, found⟩ := mem_present.mp mem'
    exact ⟨t, s, found, rfl⟩
  · rintro ⟨t, s, found, rfl⟩
    exact List.mem_map.mpr ⟨(name, s), mem_present.mpr ⟨t, found⟩, rfl⟩

theorem decode_object {fields : List (String × DataType)} {values : List (Value Scalar)}
    (length : values.length = fields.length)
    (names : ((fields.zip values).map fun p => p.1.1).Nodup)
    (scalars : ∀ field ∈ fields, field.2 ∈ fieldScalars)
    (each : ∀ p ∈ fields.zip values, Conforms p.1.2 p.2) :
    decode (.struct fields) (object (fields.zip values)) = some (.struct values) := by
  have own : (fields.zip values).map Prod.fst = fields := List.map_fst_zip length.ge
  have recovered : ((fields.zip values).map Prod.fst).mapM
      (decodeField ((present (fields.zip values)).map fun p => (p.1, .single p.2.leaf))) =
        some ((fields.zip values).map Prod.snd) := by
    rw [List.mapM_map]
    refine mapM_eq_pure fun p mem => decodeField_eq names mem (scalars p.1 ?_) (each p mem)
    rw [← own]
    exact List.mem_map_of_mem mem
  rw [own, List.map_snd_zip length.le] at recovered
  rw [object, decode, recovered]
  rfl

theorem entry_struct {fields : List (String × DataType)} (distinct : (fields.map Prod.fst).Nodup)
    (scalars : ∀ field ∈ fields, field.2 ∈ fieldScalars) {v : Value Scalar}
    (conforms : Conforms (.struct fields) v) :
    ∃ j, entryJson (.struct fields) v = .ok j ∧ Entry (.struct fields) v j := by
  cases conforms with
  | null => exact ⟨_, rfl, entry_null _⟩
  | single s type => cases s <;> cases type
  | @struct _ values length each =>
    have own : (fields.zip values).map Prod.fst = fields := List.map_fst_zip length.ge
    have names : ((fields.zip values).map fun p => p.1.1).Nodup := by
      rwa [← own, List.map_map] at distinct
    refine ⟨.object ((present (fields.zip values)).map fun p => (p.1, .single p.2)), ?_, ?_, ?_⟩
    · rw [entryJson, getStructValue_struct length distinct scalars]
      rfl
    · rw [toValue_object]
      exact renders_object names
    · rw [toValue_object]
      exact decode_object length names scalars each

theorem decode_entries {t : DataType} {elements : List (Value Scalar)} {js : List (Json Scalar)}
    (entries : List.Forall₂ (Entry t) elements js) :
    (js.map toValue).mapM (decode t) = some elements := by
  apply mapM_of_forall₂
  rw [List.forall₂_map_left_iff]
  exact entries.flip.imp fun _ _ entry => entry.decodes

theorem toValue_array (js : List (Json Scalar)) :
    toValue (.array js) = .array (js.map toValue) := by
  rw [toValue, toValues_eq]

theorem entry_list {t : DataType} {elements : List (Value Scalar)} {js : List (Json Scalar)}
    (entries : List.Forall₂ (Entry t) elements js) :
    Entry (.list t) (.list elements) (.array js) := by
  constructor
  · rw [toValue_array]
    refine .list (by rw [List.length_map, entries.length_eq]) fun i v j atV atJ => ?_
    rw [List.getElem?_map, Option.map_eq_some_iff] at atJ
    obtain ⟨j', atJ, rfl⟩ := atJ
    obtain ⟨within, rfl⟩ := List.getElem?_eq_some_iff.mp atV
    obtain ⟨within', rfl⟩ := List.getElem?_eq_some_iff.mp atJ
    exact ((List.forall₂_iff_get.mp entries).2 i within within').renders
  · rw [toValue_array, decode, decode_entries entries]
    rfl

/-- Every entry of a list becomes JSON, by induction on how its type is built. -/
theorem entry {t : DataType} (renderable : Renderable t) {v : Value Scalar}
    (conforms : Conforms t v) : ∃ j, entryJson t v = .ok j ∧ Entry t v j := by
  induction renderable generalizing v with
  | scalar mem => exact entry_scalar mem conforms
  | struct distinct scalars => exact entry_struct distinct scalars conforms
  | @list t element ih =>
    cases conforms with
    | null => exact ⟨_, rfl, entry_null _⟩
    | single s type => cases s <;> cases type
    | @list _ elements each =>
      obtain ⟨js, made, entries⟩ := exists_forall₂ fun v mem => ih (each v mem)
      refine ⟨.array js, ?_, entry_list entries⟩
      rw [entryJson, CellReader.getListValue, listValues_eq element, made]
      rfl

theorem renders_null_iff {t : DataType} {v : Value Scalar} {j : Json Leaf}
    (renders : Renders t v j) : j = .null ↔ v = .null := by
  cases renders <;> simp

/-- Through the slices of any depth a list becomes its JSON. -/
theorem getListValue_rendered (array : ArrowArray Scalar n) {element : DataType}
    (type : array.dataType = .list element) (renderable : Renderable element)
    (typed : Typed array) (index : Fin n) :
    Rendered element (array.valueAt index) (getListValue array index) := by
  have conforms := conforms_valueAt typed index
  rw [getListValue, ArrayReader.getListValue_eq]
  rw [type] at conforms ⊢
  generalize array.valueAt index = v at conforms ⊢
  cases conforms with
  | null => exact ⟨by simp [CellReader.getListValue, Except.map], fun some' => absurd rfl some'⟩
  | single s type => cases s <;> cases type
  | @list _ elements each =>
    obtain ⟨js, made, entries⟩ := exists_forall₂ fun v mem => entry renderable (each v mem)
    have found : (CellReader.getListValue (.list element) (.list elements)).map
        (Option.map toValue) = .ok (some (.array (js.map toValue))) := by
      rw [CellReader.getListValue, listValues_eq renderable, made, ← toValue_array]
      rfl
    have whole := entry_list entries
    have shown := whole.renders
    have decoded := whole.decodes
    rw [toValue_array] at shown decoded
    rw [found]
    refine ⟨by simp, fun _ => ⟨elements, js.map toValue, rfl, rfl, shown, ?_, decoded⟩⟩
    rw [List.forall₂_map_right_iff]
    exact entries.imp fun v j entry => renders_null_iff entry.renders

def matrix : ArrowArray Scalar 2 :=
  .list ![0, 3, 3] (by decide) (by decide)
    (.list ![0, 2, 2, 2] (by decide) (by decide)
      (.flat .int16 (by decide) ![.int16 1, .int16 0] (some ![true, false]))
      (some ![true, false, true]))
    (some ![true, false])

theorem matrix_rendered :
    getListValue matrix 0 =
        .ok (some (.array [.array [.single (.number 1), .null], .null, .array []])) ∧
      Rendered (.list .int16) (matrix.valueAt 0) (getListValue matrix 0) := by
  have typed : Typed matrix := Fin.forall_fin_two.mpr ⟨rfl, rfl⟩
  have type : matrix.dataType = .list (.list .int16) := rfl
  have renderable : Renderable (.list .int16) := .list (.scalar (by simp [listScalars]))
  exact ⟨rfl, getListValue_rendered matrix type renderable typed 0⟩

end PgAnalytics.NestedJson
