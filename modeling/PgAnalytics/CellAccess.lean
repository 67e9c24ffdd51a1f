import PgAnalytics.ArrayReader

/-! The accessors behind the arms of `get_cell`: each arm has no case for a type, or calls one
accessor for one kind of array. All that an arm can do is said here once, and so are the
values that an array of a type has. -/

namespace PgAnalytics.CellAccess
open RecordBatches CellReader ArrowArrays ArrowArray

variable {σ : Type} {n : ℕ}

/-- What an arm calls for a type. The types of the arrays that are asked for with a panic are
those of the column, with one exception. -/
inductive Access (arm : Arm) (t : DataType) (v : Value σ) : Answer σ → Prop where
  | missing : Access arm t v none
  | void (own : t.arrayType = .null) : Access arm t v (some (.ok none))
  | downcast (make : σ → Cell σ) (target : ArrayType) (array : String) (scalar : target ∉ nested) :
    Access arm t v (some ((downcast target array t v).map (Option.map make)))
  | primitive (make : σ → Cell σ) (own : t.arrayType ∉ nested) :
    Access arm t v (some ((asPrimitive t.arrayType t v).map (Option.map make)))
  | uint8 (arm_eq : arm = .number .i16) (t_eq : t = .int64) (make : σ → Cell σ) :
    Access arm t v (some ((asPrimitive .uint8 t v).map (Option.map make)))
  | struct {fields : List (String × DataType)} (t_eq : t = .struct fields)
    (make : Json σ → Cell σ) :
    Access arm t v (some ((getStructValue t v).map (Option.map make)))
  | list {element : DataType} (t_eq : t = .list element) (make : Json σ → Cell σ) :
    Access arm t v (some ((getListValue t v).map (Option.map make)))
  | elements {target : ArrayType} {kind : CellKind} (arm_eq : arm = .list target kind) :
    Access arm t v (some ((getPrimitiveListValue target t v).map (Option.map (.array kind))))

theorem access_number (arm : Arm) (kind : CellKind) (t : DataType) (v : Value σ) :
    Access arm t v ((getNumberValue t v).map (cell kind)) := by
  cases t with
  | int8 | int16 | int32 | int64 | float16 | float32 | float64 | decimal128 =>
    exact .downcast _ _ _ (by decide)
  | uint8 | uint16 | uint32 | uint64 => exact .primitive _ (by decide)
  | _ => exact .missing

theorem access_date (arm : Arm) (kind : CellKind) (t : DataType) (v : Value σ) :
    Access arm t v (readDate kind t v) := by
  cases t with
  | date32 | date64 => exact .primitive _ (by decide)
  | _ => exact .missing

theorem access_json (arm : Arm) (make : Json σ → Cell σ) (t : DataType) (v : Value σ) :
    Access arm t v (readJson make t v) := by
  cases t with
  | utf8 | largeUtf8 => exact .downcast _ _ _ (by decide)
  | struct => exact .struct rfl _
  | list => exact .list rfl _
  | _ => exact .missing

theorem access_readArm (arm : Arm) (t : DataType) (v : Value σ) :
    Access arm t v (readArm arm t v) := by
  cases arm with
  | bool | uuid => exact .downcast _ _ _ (by decide)
  | bytea =>
    cases t with
    | binary | largeBinary | utf8 => exact .downcast _ _ _ (by decide)
    | _ => exact .missing
  | number kind =>
    rw [readArm, readNumber.eq_def]
    split
    · exact .uint8 rfl rfl _
    · exact .downcast _ _ _ (by decide)
    · exact access_number _ kind t v
  | text =>
    cases t with
    | utf8 | largeUtf8 | binary | largeBinary => exact .downcast _ _ _ (by decide)
    | _ => exact .missing
  | date => exact access_date _ _ t v
  | interval =>
    cases t with
    | interval unit => exact .primitive _ (by simp [DataType.arrayType, nested])
    | _ => exact .missing
  | json | jsonb => exact access_json _ _ t v
  | time =>
    cases t with
    | time32 unit =>
      cases unit with
      | second | millisecond => exact .primitive _ (by decide)
      | microsecond | nanosecond => exact .missing
    | time64 unit =>
      cases unit with
      | second | millisecond => exact .missing
      | microsecond | nanosecond => exact .primitive _ (by decide)
    | _ => exact .missing
  | timestamp =>
    cases t with
    | timestamp unit => exact .primitive _ (by simp [DataType.arrayType, nested])
    | _ => exact access_date _ .timestamp _ v
  | timestamptz =>
    cases t with
    | timestamp unit => exact .primitive _ (by simp [DataType.arrayType, nested])
    | _ => exact access_date _ .timestamptz _ v
  | void =>
    by_cases own : t.arrayType = .null
    · rw [readArm, if_pos own]
      exact .void own
    · rw [readArm, if_neg own]
      exact .missing
  | list target kind => exact .elements rfl

inductive Shaped : DataType → Value σ → Prop where
  | null (t : DataType) : Shaped t .null
  | single {t : DataType} (scalar : t.arrayType ∉ nested) (value : σ) : Shaped t (.single value)
  | list (t : DataType) (elements : List (Value σ)) : Shaped (.list t) (.list elements)
  | fixedSizeList (t : DataType) (size : ℕ) (elements : List (Value σ)) :
    Shaped (.fixedSizeList t size) (.list elements)
  | struct (fields : List (String × DataType)) (values : List (Value σ)) :
    Shaped (.struct fields) (.struct values)

theorem shaped_valueAt (array : ArrowArray σ n) (index : Fin n) :
    Shaped array.dataType (array.valueAt index) := by
  cases array with
  | null => exact .null _
  | flat t scalar values validity =>
    rw [valueAt]
    split
    · exact .null _
    · exact .single scalar _
  | list =>
    rw [valueAt]
    split
    · exact .null _
    · exact .list _ _
  | fixedSizeList =>
    rw [valueAt]
    split
    · exact .null _
    · exact .fixedSizeList _ _ _
  | struct =>
    rw [valueAt]
    split
    · exact .null _
    · exact .struct _ _

theorem single?_eq_none_iff {t : DataType} {v : Value σ} (shaped : Shaped t v)
    (scalar : t.arrayType ∉ nested) : v.single? = none ↔ v = .null := by
  cases shaped with
  | null | single => simp [Value.single?]
  | list | fixedSizeList | struct => simp [DataType.arrayType, nested] at scalar

end PgAnalytics.CellAccess
