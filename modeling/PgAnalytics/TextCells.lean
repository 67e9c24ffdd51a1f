import Mathlib.Data.Fin.VecNotation
import PgAnalytics.DatafusionReader

/-! Bytes read as text. The reader of DuckDB's arrays goes through a varlena of Postgres and does
not look at the encoding; the reader of DataFusion's arrays checks it. -/

namespace PgAnalytics.TextCells
open RecordBatches CellReader ArrowArrays ArrowArray

variable {n : ℕ}

structure Varlena where
  Bytea : Type
  rustByteSliceToBytea : ByteArray → Bytea
  textToRustStrUnchecked : Bytea → ByteArray
  unchecked : ∀ bytes, textToRustStrUnchecked (rustByteSliceToBytea bytes) = bytes

/-- `rust_str.to_string()`, as bytes that a `String` may hold or not. -/
def Varlena.toRustString (varlena : Varlena) (value : ByteArray) : ByteArray :=
  varlena.textToRustStrUnchecked (varlena.rustByteSliceToBytea value)

def getBinaryValue (varlena : Varlena) (target : ArrayType) (array : ArrowArray ByteArray n)
    (index : Fin n) : Except ReadFault (Option ByteArray) :=
  (CellReader.getBinaryValue target array.dataType (ArrayReader.entry array index)).map
    (Option.map varlena.toRustString)

/-- The getter of DataFusion, with `String::from_utf8`. -/
def getCheckedValue (target : ArrayType) (array : ArrowArray ByteArray n) (index : Fin n) :
    Except DatafusionReader.Fault (Option String) :=
  match CellReader.getBinaryValue target array.dataType (ArrayReader.entry array index) with
  | .error _ => .error (.error .dataFusionError)
  | .ok none => .ok none
  | .ok (some value) =>
    match String.fromUTF8? value with
    | some text => .ok (some text)
    | none => .error (.error .fromUtf8Error)

/-- `get_cell`; the cells of text from arrays of bytes are made by `get_binary_value`. -/
def getCell (varlena : Varlena) (array : ArrowArray ByteArray n) (index : Fin n) (oid : Oid)
    (name : String) : Except ReadFault (Option (Cell ByteArray)) :=
  (ArrayReader.getCell array index oid name).map (Option.map fun found =>
    match array.dataType, found with
    | .binary, .single .string value => .single .string (varlena.toRustString value)
    | .largeBinary, .single .string value => .single .string (varlena.toRustString value)
    | _, found => found)

def textOids : List Oid := [TEXTOID, VARCHAROID, BPCHAROID, NAMEOID]

def bytesTypes : List DataType := [.binary, .largeBinary]

structure ValidText (varlena : Varlena) (array : ArrowArray ByteArray n) (index : Fin n)
    (oid : Oid) (name : String) : Prop where
  string : ∀ cell, getCell varlena array index oid name = .ok (some cell) →
    ∃ bytes, array.valueAt index = .single bytes ∧ cell = .single .string bytes ∧
      bytes.IsValidUTF8
  agrees : (getBinaryValue varlena array.dataType.arrayType array index).toOption =
    (getCheckedValue array.dataType.arrayType array index).toOption.map
      (Option.map String.toByteArray)

theorem toRustString_eq (varlena : Varlena) (bytes : ByteArray) :
    varlena.toRustString bytes = bytes := varlena.unchecked bytes

theorem lookup_text {oid : Oid} (text : oid ∈ textOids) : arms.lookup oid = some .text := by
  simp only [textOids, List.mem_cons, List.not_mem_nil, or_false] at text
  rcases text with rfl | rfl | rfl | rfl <;> rfl

theorem readText_bytes {t : DataType} (type : t ∈ bytesTypes) (v : Value ByteArray) :
    readText t v = some (.ok (v.single?.map (.single .string))) := by
  simp only [bytesTypes, List.mem_cons, List.not_mem_nil, or_false] at type
  rcases type with rfl | rfl <;> rfl

theorem getBinaryValue_bytes {t : DataType} (type : t ∈ bytesTypes) (v : Value ByteArray) :
    CellReader.getBinaryValue t.arrayType t v = .ok v.single? := by
  simp only [bytesTypes, List.mem_cons, List.not_mem_nil, or_false] at type
  rcases type with rfl | rfl <;> rfl

theorem getCell_text (varlena : Varlena) {array : ArrowArray ByteArray n} {index : Fin n}
    {oid : Oid} (text : oid ∈ textOids) (type : array.dataType ∈ bytesTypes) (name : String) :
    getCell varlena array index oid name =
      .ok ((array.valueAt index).single?.map fun bytes => .single .string bytes) := by
  have read : CellReader.getCell array.dataType (array.valueAt index) oid name =
      .ok ((array.valueAt index).single?.map (.single .string)) := by
    rw [CellReader.getCell, lookup_text text, Option.bind_some, readArm, readText_bytes type]
    rfl
  rw [getCell, ArrayReader.getCell_eq, read]
  cases (array.valueAt index).single? with
  | none => rfl
  | some bytes =>
    simp only [bytesTypes, List.mem_cons, List.not_mem_nil, or_false] at type
    rcases type with type | type <;> simp [type, Except.map, toRustString_eq]

theorem readers_agree_iff (varlena : Varlena) {array : ArrowArray ByteArray n} (index : Fin n)
    (type : array.dataType ∈ bytesTypes) :
    (getBinaryValue varlena array.dataType.arrayType array index).toOption =
        (getCheckedValue array.dataType.arrayType array index).toOption.map
          (Option.map String.toByteArray) ↔
      ∀ bytes, (array.valueAt index).single? = some bytes → bytes.IsValidUTF8 := by
  rw [getBinaryValue, getCheckedValue, getBinaryValue_bytes type, ArrayReader.single?_entry]
  cases (array.valueAt index).single? with
  | none => simp [Except.map, Except.toOption]
  | some bytes =>
    simp only [Except.map, Option.map_some, toRustString_eq, String.fromUTF8?]
    by_cases valid : bytes.IsValidUTF8
    · simp only [valid, dif_pos, Except.toOption, Option.map_some]
      simp [valid]
      rfl
    · simp [valid, Except.toOption]

theorem single?_eq_some_iff {v : Value ByteArray} {bytes : ByteArray} :
    v.single? = some bytes ↔ v = .single bytes := by
  cases v <;> simp [Value.single?]

/-- The bytes are taken for text as they are, so they have to be text already. -/
theorem validText_iff (varlena : Varlena) {array : ArrowArray ByteArray n} {index : Fin n}
    {oid : Oid} (text : oid ∈ textOids) (type : array.dataType ∈ bytesTypes) (name : String) :
    ValidText varlena array index oid name ↔
      ∀ bytes, array.valueAt index = .single bytes → bytes.IsValidUTF8 := by
  have agree := readers_agree_iff varlena index type
  simp only [single?_eq_some_iff] at agree
  constructor
  · exact fun valid => agree.mp valid.agrees
  · intro valid
    refine ⟨fun cell read => ?_, agree.mpr valid⟩
    rw [getCell_text varlena text type] at read
    obtain ⟨bytes, found, rfl⟩ := Option.map_eq_some_iff.mp (Except.ok.inj read)
    have value := single?_eq_some_iff.mp found
    exact ⟨bytes, value, rfl, valid bytes value⟩

def plain : Varlena where
  Bytea := ByteArray
  rustByteSliceToBytea bytes := bytes
  textToRustStrUnchecked bytes := bytes
  unchecked _ := rfl

def oneEntry (bytes : ByteArray) : ArrowArray ByteArray 1 :=
  .flat .binary (by decide) ![bytes] none

theorem ascii_valid : ValidText plain (oneEntry ⟨#[97]⟩) 0 TEXTOID "a" := by
  have text : TEXTOID ∈ textOids := by simp [textOids]
  have type : (oneEntry ⟨#[97]⟩).dataType ∈ bytesTypes := List.mem_cons_self
  refine (validText_iff plain text type "a").mpr fun bytes value => ?_
  cases value
  decide

theorem invalid_text :
    getCell plain (oneEntry ⟨#[255]⟩) 0 TEXTOID "a" =
        .ok (some (.single .string ⟨#[255]⟩)) ∧
      getCheckedValue .binary (oneEntry ⟨#[255]⟩) 0 = .error (.error .fromUtf8Error) ∧
      ¬ValidText plain (oneEntry ⟨#[255]⟩) 0 TEXTOID "a" := by
  have read : getCell plain (oneEntry ⟨#[255]⟩) 0 TEXTOID "a" =
      .ok (some (.single .string ⟨#[255]⟩)) := rfl
  have checked : getCheckedValue .binary (oneEntry ⟨#[255]⟩) 0 =
      .error (.error .fromUtf8Error) := by
    have invalid : String.fromUTF8? ⟨#[255]⟩ = none := dif_neg (by decide)
    have found : CellReader.getBinaryValue .binary (oneEntry ⟨#[255]⟩).dataType
        (ArrayReader.entry (oneEntry ⟨#[255]⟩) 0) = .ok (some ⟨#[255]⟩) := rfl
    rw [getCheckedValue, found]
    dsimp only
    rw [invalid]
  refine ⟨read, checked, fun valid => ?_⟩
  obtain ⟨bytes, -, same, utf8⟩ := valid.string _ read
  cases same
  exact absurd utf8 (by decide)

end PgAnalytics.TextCells
