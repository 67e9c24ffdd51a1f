import Mathlib.Data.Fin.VecNotation
import PgAnalytics.ArrayReader

/-! Lists of strings in the two encodings of Arrow. `get_list_value` has an arm for each, and
the two arrays may be laid out in different ways. -/

namespace PgAnalytics.StringLists
open RecordBatches CellReader ArrowArrays ArrowArray ArrayReader

variable {σ : Type} {n : ℕ}

structure Encodings (σ : Type) (n : ℕ) where
  large : ArrowArray σ n
  small : ArrowArray σ n
  largeType : large.dataType = .list .largeUtf8
  smallType : small.dataType = .list .utf8
  rows : ∀ index, large.valueAt index = small.valueAt index

def jsonStrings (elements : List (Value σ)) : Json σ :=
  .array (elements.map fun v => v.single?.elim .null .single)

structure Agrees (arrays : Encodings σ n) (index : Fin n) : Prop where
  same : getListValue arrays.large index = getListValue arrays.small index
  strings : ∀ elements, arrays.small.valueAt index = .list elements →
    getListValue arrays.small index = .ok (some (jsonStrings elements))

theorem getListValue_large {array : ArrowArray σ n} (type : array.dataType = .list .largeUtf8)
    {index : Fin n} {elements : List (Value σ)} (row : array.valueAt index = .list elements) :
    getListValue array index = .error (.downcast "primitive array") := by
  rw [getListValue_eq, type, row]
  rfl

theorem getListValue_null {array : ArrowArray σ n} {element : DataType}
    (type : array.dataType = .list element) {index : Fin n} (row : array.valueAt index = .null) :
    getListValue array index = .ok none := by
  rw [getListValue_eq, type, row]
  rfl

theorem valueAt_list {array : ArrowArray σ n} {element : DataType}
    (type : array.dataType = .list element) (index : Fin n) :
    array.valueAt index = .null ∨ ∃ elements, array.valueAt index = .list elements := by
  cases array with
  | null | fixedSizeList | struct => cases type
  | flat t scalar =>
    cases type
    simp [DataType.arrayType, nested] at scalar
  | list =>
    rw [valueAt]
    split
    · exact .inl rfl
    · exact .inr ⟨_, rfl⟩

theorem agrees_iff (arrays : Encodings σ n) (index : Fin n) :
    Agrees arrays index ↔ arrays.small.valueAt index = .null := by
  constructor
  · intro agrees
    refine (valueAt_list arrays.smallType index).resolve_right fun ⟨elements, row⟩ => ?_
    have same := agrees.same
    have row' := (arrays.rows index).trans row
    rw [getListValue_large arrays.largeType row', agrees.strings elements row] at same
    cases same
  · intro row
    constructor
    · rw [getListValue_null arrays.smallType row,
        getListValue_null arrays.largeType ((arrays.rows index).trans row)]
    · intro elements row'
      rw [row] at row'
      cases row'

def oneString (t : DataType) (scalar : t.arrayType ∉ nested) : ArrowArray String 1 :=
  .list ![0, 1] (by decide) (by decide) (.flat t scalar ![ "a"] none) none

def oneStringEncodings : Encodings String 1 where
  large := oneString .largeUtf8 (by decide)
  small := oneString .utf8 (by decide)
  largeType := rfl
  smallType := rfl
  rows _ := rfl

theorem oneString_differs :
    getListValue oneStringEncodings.small 0 = .ok (some (.array [.single "a"])) ∧
      getListValue oneStringEncodings.large 0 = .error (.downcast "primitive array") ∧
      ¬Agrees oneStringEncodings 0 := by
  have large : getListValue oneStringEncodings.large 0 = .error (.downcast "primitive array") := rfl
  refine ⟨rfl, large, fun agrees => ?_⟩
  have same := agrees.same
  rw [large] at same
  cases same

end PgAnalytics.StringLists
