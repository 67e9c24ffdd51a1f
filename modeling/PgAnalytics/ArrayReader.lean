import PgAnalytics.ArrowArrays
import PgAnalytics.Traversals

/-! `get_cell` over the buffers of an array. The getters of lists and structs go through
slices and columns; what they read is what the cell reader reads of the value at the index. -/

namespace PgAnalytics.ArrayReader
open RecordBatches CellReader ArrowArrays ArrowArray Traversals

variable {σ : Type} {n : ℕ}

def entry : ArrowArray σ n → Fin n → Value σ
  | .flat _ _ values validity, index =>
    if validity.any fun valid => !valid index then .null else .single (values index)
  | _, _ => .null

/-- `get_string_list_value` is the one for strings. -/
def getPrimitiveListValue (target : ArrayType) (array : ArrowArray σ n) (index : Fin n) :
    Except ReadFault (Option (List (Option σ))) :=
  match array with
  | .list _ ordered within values validity =>
    if validity.any fun valid => !valid index then .ok none
    else
      let binding := values.slice _ _ (range_fits ordered within index)
      if binding.dataType.arrayType = target then
        .ok (some (List.ofFn fun i => (entry binding i).single?))
      else .error (.downcast "list array")
  | _ => .error (.panic "list array")

/-- `fields.find`: the first column of that name. -/
def readField (names : List String) (columns : Fin names.length → ArrowArray σ n) (index : Fin n)
    (columnName : String) : Except ReadFault (Option (String × Json σ)) :=
  match (List.finRange names.length).find? fun j => names.get j == columnName with
  | none => .ok none
  | some columnIndex =>
    (getFieldValue (columns columnIndex).dataType (entry (columns columnIndex) index)).map
      (Option.map fun value => (columnName, .single value))

def getStructValue (array : ArrowArray σ n) (index : Fin n) :
    Except ReadFault (Option (Json σ)) :=
  match array with
  | .struct names columns validity =>
    if validity.any fun valid => !valid index then .ok none
    else
      (names.mapM (readField names columns index)).map fun map => some (.object (map.filterMap id))
  | _ => .error (.panic "struct array")

/-- `opt.map_or(Value::Null, ..)` over the entries of a list. -/
def jsonEntries (found : Except ReadFault (Option (List (Option σ)))) :
    Except ReadFault (Option (Json σ)) :=
  found.map fun values => some (.array ((values.getD []).map fun opt => opt.elim .null .single))

/-- `get_list_value`, by the type of the elements. -/
def listValue : DataType → {n : ℕ} → ArrowArray σ n → Fin n → Except ReadFault (Option (Json σ))
  | element, n, array@(.list _ ordered within values validity), index =>
    if validity.any fun valid => !valid index then .ok none
    else
      match element with
      | .boolean => jsonEntries (getPrimitiveListValue .boolean array index)
      | .int8 => jsonEntries (getPrimitiveListValue .int8 array index)
      | .int16 => jsonEntries (getPrimitiveListValue .int16 array index)
      | .int32 => jsonEntries (getPrimitiveListValue .int32 array index)
      | .int64 => jsonEntries (getPrimitiveListValue .int64 array index)
      | .utf8 => jsonEntries (getPrimitiveListValue .string array index)
      -- the entries of the array of lists itself are read as strings
      | .largeUtf8 =>
        ((List.finRange n).mapM fun i =>
          (getPrimitiveValue .largeString array.dataType (entry array i)).map fun value =>
            value.elim .null .single).map (some ∘ .array)
      | .struct _ =>
        let listArray := values.slice _ _ (range_fits ordered within index)
        ((List.finRange _).mapM fun i =>
          (getStructValue listArray i).map (·.getD .null)).map (some ∘ .array)
      | .list inner =>
        let listArray := values.slice _ _ (range_fits ordered within index)
        ((List.finRange _).mapM fun i =>
          (listValue inner listArray i).map (·.getD .null)).map (some ∘ .array)
      | unsupported => .error (.unsupported "List" unsupported)
  | _, _, _, _ => .error (.panic "list array")

def valueType : DataType → DataType
  | .list element => element
  | _ => .null

def getListValue (array : ArrowArray σ n) (index : Fin n) : Except ReadFault (Option (Json σ)) :=
  listValue (valueType array.dataType) array index

def readJson (make : Json σ → Cell σ) (array : ArrowArray σ n) (index : Fin n) : Answer σ :=
  match array.dataType with
  | .struct _ => some ((getStructValue array index).map (Option.map make))
  | .list _ => some ((getListValue array index).map (Option.map make))
  | t => CellReader.readJson make t (entry array index)

def readArm (arm : Arm) (array : ArrowArray σ n) (index : Fin n) : Answer σ :=
  match arm with
  | .json => readJson .json array index
  | .jsonb => readJson .jsonb array index
  | .list target kind =>
    some ((getPrimitiveListValue target array index).map (Option.map (.array kind)))
  | arm => CellReader.readArm arm array.dataType (entry array index)

def getCell (array : ArrowArray σ n) (index : Fin n) (oid : Oid) (name : String) :
    Except ReadFault (Option (Cell σ)) :=
  ((arms.lookup oid).bind fun arm => readArm arm array index).getD
    (.error (.mismatch name array.dataType oid))

theorem find?_zip_ofFn {α β : Type} {k : ℕ} (f : Fin k → α) (g : Fin k → β) (p : α × β → Bool) :
    ((List.ofFn f).zip (List.ofFn g)).find? p =
      ((List.finRange k).find? fun j => p (f j, g j)).map fun j => (f j, g j) := by
  rw [List.ofFn_eq_map, List.ofFn_eq_map, List.zip_map', List.find?_map]
  rfl

theorem single?_entry (array : ArrowArray σ n) (index : Fin n) :
    (entry array index).single? = (array.valueAt index).single? := by
  cases array with
  | null | flat => rfl
  | list _ _ _ _ validity | fixedSizeList _ _ _ validity | struct _ _ validity =>
    rw [valueAt]
    split <;> rfl

theorem getPrimitiveValue_congr {v v' : Value σ} (same : v.single? = v'.single?)
    (target : ArrayType) (t : DataType) :
    getPrimitiveValue target t v = getPrimitiveValue target t v' := by
  rw [getPrimitiveValue, getPrimitiveValue, downcast, downcast, same]

theorem getFieldValue_congr {v v' : Value σ} (same : v.single? = v'.single?) (t : DataType) :
    getFieldValue t v = getFieldValue t v' := by
  simp only [getFieldValue, getNumberValue, getPrimitiveValue, getUintValue, getDecimalValue,
    downcast, asPrimitive, same]

theorem readArm_congr {arm : Arm} (json : arm ≠ .json) (jsonb : arm ≠ .jsonb)
    (list : ∀ target kind, arm ≠ .list target kind) {v v' : Value σ}
    (same : v.single? = v'.single?) (t : DataType) :
    CellReader.readArm arm t v = CellReader.readArm arm t v' := by
  cases arm with
  | bool | bytea | text | uuid | void =>
    simp only [CellReader.readArm, readBytea, readText, getPrimitiveValue, getByteValue,
      getBinaryValue, getUuidValue, downcast, same]
  | date | interval | time | timestamp | timestamptz =>
    simp only [CellReader.readArm, readDate, readInterval, readTime, readTimestamp,
      readTimestamptz, getDateValue, getIntervalValue, getTimeValue, getTimestampValue,
      getTimestamptzValue, asPrimitive, same]
  | number kind =>
    simp only [CellReader.readArm, readNumber, getNumberValue, getPrimitiveValue, getUintValue,
      getDecimalValue, downcast, asPrimitive, same]
  | json => exact absurd rfl json
  | jsonb => exact absurd rfl jsonb
  | list target kind => exact absurd rfl (list target kind)

theorem getPrimitiveListValue_eq (target : ArrayType) (array : ArrowArray σ n) (index : Fin n) :
    getPrimitiveListValue target array index =
      CellReader.getPrimitiveListValue target array.dataType (array.valueAt index) := by
  cases array with
  | null | fixedSizeList | struct => rfl
  | flat t scalar values validity =>
    cases t with
    | list => simp [DataType.arrayType, nested] at scalar
    | _ => rfl
  | list offsets ordered within values validity =>
    rw [getPrimitiveListValue, valueAt]
    split
    · rfl
    · dsimp only
      rw [dataType, CellReader.getPrimitiveListValue, dataType_slice, List.map_ofFn]
      simp only [single?_entry, valueAt_slice]
      rfl

theorem readField_eq (names : List String) (columns : Fin names.length → ArrowArray σ n)
    (index : Fin n) (columnName : String) :
    readField names columns index columnName =
      CellReader.readField (List.ofFn fun j => (names.get j, (columns j).dataType))
        (List.ofFn fun j => (columns j).valueAt index) columnName := by
  rw [readField, CellReader.readField, find?_zip_ofFn]
  cases (List.finRange names.length).find? fun j => names.get j == columnName with
  | none => rfl
  | some j =>
    dsimp only [Option.map_some]
    rw [getFieldValue_congr (single?_entry (columns j) index)]

theorem getStructValue_eq (array : ArrowArray σ n) (index : Fin n) :
    getStructValue array index =
      CellReader.getStructValue array.dataType (array.valueAt index) := by
  cases array with
  | null | list | fixedSizeList => rfl
  | flat t scalar values validity =>
    cases t with
    | struct => simp [DataType.arrayType, nested] at scalar
    | _ => rfl
  | struct names columns validity =>
    rw [getStructValue, valueAt]
    split
    · rfl
    · rw [dataType, CellReader.getStructValue]
      simp only [← readField_eq]
      rw [← mapM_finRange, ← mapM_get names]

theorem jsonEntries_eq {element : DataType} {target : ArrayType}
    (same : element.arrayType = target) {array : ArrowArray σ n} {index : Fin n}
    (typed : array.dataType = .list element) {elements : List (Value σ)}
    (found : array.valueAt index = .list elements) :
    jsonEntries (getPrimitiveListValue target array index) =
      .ok (some (.array (elements.map fun v => v.single?.elim .null .single))) := by
  rw [getPrimitiveListValue_eq, typed, found, CellReader.getPrimitiveListValue, if_pos same]
  simp [jsonEntries, Except.map]

theorem mapM_slice {m start k : ℕ} {β : Type} (values : ArrowArray σ m) (fits : start + k ≤ m)
    (read : Value σ → Except ReadFault β) :
    ((List.finRange k).mapM fun i => read ((values.slice start k fits).valueAt i)) =
      (List.ofFn fun j => values.valueAt (shift fits j)).mapM read := by
  simp only [valueAt_slice]
  exact mapM_finRange _ _

theorem listValues_list (element : DataType) (elements : List (Value σ)) :
    listValues (.list element) elements =
      elements.mapM fun v => (CellReader.getListValue (.list element) v).map (·.getD .null) := by
  rw [listValues]
  congr 1
  funext v
  cases v with
  | null | single | struct => rfl
  | list inner =>
    dsimp only
    rw [CellReader.getListValue]
    cases listValues element inner <;> rfl

theorem listValue_eq {n : ℕ} (element : DataType) (array : ArrowArray σ n) (index : Fin n)
    (typed : array.dataType = .list element) :
    listValue element array index =
      CellReader.getListValue (.list element) (array.valueAt index) := by
  cases array with
  | null | fixedSizeList | struct => cases typed
  | flat t scalar values validity =>
    cases typed
    simp [DataType.arrayType, nested] at scalar
  | list offsets ordered within values validity =>
    by_cases null : validity.any fun valid => !valid index
    · rw [listValue.eq_def, valueAt, if_pos null]
      exact if_pos null
    · have found : valueAt (.list offsets ordered within values validity) index =
          .list (List.ofFn fun j => values.valueAt (shift (range_fits ordered within index) j)) :=
        if_neg null
      rw [found, CellReader.getListValue]
      have type : values.dataType = element := by
        cases typed
        rfl
      cases element with
      | list inner =>
        have slices (i) := listValue_eq inner
          (values.slice _ _ (range_fits ordered within index)) i (by rw [dataType_slice, type])
        rw [listValue, if_neg null, listValues_list]
        dsimp only
        rw [← mapM_slice]
        simp only [slices]
      | struct fields =>
        rw [listValue, if_neg null, listValues]
        dsimp only
        rw [← mapM_slice]
        simp only [getStructValue_eq, dataType_slice, type]
      | largeUtf8 =>
        rw [listValue, if_neg null, listValues]
        exact congrArg _ (mapM_error (List.ne_nil_of_mem (List.mem_finRange index)))
      | boolean | int8 | int16 | int32 | int64 | utf8 =>
        rw [listValue, if_neg null]
        exact jsonEntries_eq rfl typed found
      | _ => exact if_neg null

theorem getListValue_eq (array : ArrowArray σ n) (index : Fin n) :
    getListValue array index = CellReader.getListValue array.dataType (array.valueAt index) := by
  cases array with
  | null | fixedSizeList | struct => rfl
  | flat t scalar values validity =>
    cases t with
    | list => simp [DataType.arrayType, nested] at scalar
    | _ => rfl
  | list => exact listValue_eq _ _ index rfl

theorem readJson_eq (make : Json σ → Cell σ) (array : ArrowArray σ n) (index : Fin n) :
    readJson make array index =
      CellReader.readJson make array.dataType (array.valueAt index) := by
  have value := getPrimitiveValue_congr (single?_entry array index)
  rw [readJson, getStructValue_eq, getListValue_eq]
  cases array.dataType <;> simp only [CellReader.readJson, value]

theorem readArm_eq (arm : Arm) (array : ArrowArray σ n) (index : Fin n) :
    readArm arm array index =
      CellReader.readArm arm array.dataType (array.valueAt index) := by
  cases arm with
  | json | jsonb => exact readJson_eq _ array index
  | list target kind => rw [readArm, getPrimitiveListValue_eq, CellReader.readArm]
  | _ =>
    simp only [readArm]
    exact readArm_congr (by simp) (by simp) (by simp) (single?_entry array index) _

/-- The buffers are read as the values that they stand for. -/
theorem getCell_eq (array : ArrowArray σ n) (index : Fin n) (oid : Oid) (name : String) :
    getCell array index oid name =
      CellReader.getCell array.dataType (array.valueAt index) oid name := by
  simp only [getCell, CellReader.getCell, readArm_eq]

end PgAnalytics.ArrayReader
