import Mathlib.Data.Fin.VecNotation
import PgAnalytics.CellAccess
import PgAnalytics.SchemaProvider

/-! The cell reader of DataFusion, and the check of the columns before it. The check goes by
groups of types, the reader by the types themselves. -/

namespace PgAnalytics.DatafusionReader
open CellReader ArrowArrays ArrowArray CellAccess SchemaProvider
open RecordBatches (Oid INT2OID INT4OID INT8OID)

variable {σ β : Type} {n : ℕ}

inductive DataTypeError where
  | arrowError
  | dateTimeConversionError
  | dataFusionError
  | fromUtf8Error
  | numericError
  | dateConversion
  | dateTimeConversion
  | dataTypeMismatch (dataType : DataType) (oid : Oid)
  | uintConversionError

inductive ValueError where
  | dateTimeConversionError
  | fromUtf8Error
  | numericError
  | dateConversion
  | dateTimeConversion
  | uintConversionError
  deriving DecidableEq, Repr

def ValueError.toDataTypeError : ValueError → DataTypeError
  | .dateTimeConversionError => .dateTimeConversionError
  | .fromUtf8Error => .fromUtf8Error
  | .numericError => .numericError
  | .dateConversion => .dateConversion
  | .dateTimeConversion => .dateTimeConversion
  | .uintConversionError => .uintConversionError

inductive Fault where
  | error (error : DataTypeError)
  | panic (array : String)

structure Conversions (σ β : Type) where
  parseZone : String → Bool
  convert : DataType → CellReader.Cell σ → Except ValueError β

inductive Arm where
  | bool
  | number (kind : CellKind)
  | text
  | date
  | time
  | timestamp
  | timestamptz
  deriving DecidableEq, Repr

def arms : List (Oid × Arm) :=
  [(BOOLOID, .bool), (INT2OID, .number .i16), (INT4OID, .number .i32), (INT8OID, .number .i64),
    (FLOAT4OID, .number .f32), (FLOAT8OID, .number .f64), (NUMERICOID, .number .numeric),
    (TEXTOID, .text), (VARCHAROID, .text), (BPCHAROID, .text), (BYTEAOID, .text),
    (DATEOID, .date), (TIMEOID, .time), (TIMESTAMPOID, .timestamp),
    (TIMESTAMPTZOID, .timestamptz)]

/-- The getters ask for the arrays that those of the other reader ask for. -/
def readArm (arm : Arm) (t : DataType) (v : Value σ) : Answer σ :=
  match arm with
  | .bool => some (cell .bool (getPrimitiveValue .boolean t v))
  | .number kind => readNumber kind t v
  | .text => readText t v
  | .date => readDate .date t v
  | .time => readTime t v
  | .timestamp =>
    match t with
    | .timestamp unit _ => some (cell .timestamp (getTimestampValue unit t v))
    | _ => none
  | .timestamptz =>
    match t with
    | .timestamp unit _ => some (cell .timestamptz (getTimestamptzValue unit t v))
    | _ => none

def answer (t : DataType) (v : Value σ) (oid : Oid) : Answer σ :=
  (arms.lookup oid).bind fun arm => readArm arm t v

def convertCell (conversions : Conversions σ β) (t : DataType) (cell : CellReader.Cell σ) :
    Except DataTypeError β :=
  match t, cell with
  | .timestamp unit (some tz), .single .timestamptz value =>
    if conversions.parseZone tz then
      (conversions.convert (.timestamp unit (some tz)) (.single .timestamptz value)).mapError
        ValueError.toDataTypeError
    else .error .arrowError
  | t, cell => (conversions.convert t cell).mapError ValueError.toDataTypeError

def readValue (conversions : Conversions σ β) (t : DataType) (v : Value σ) (oid : Oid) :
    Except Fault (Option β) :=
  match answer t v oid with
  | none => .error (.error (.dataTypeMismatch t oid))
  | some (.error (.panic kind)) => .error (.panic kind)
  -- `downcast_value!`
  | some (.error _) => .error (.error .dataFusionError)
  | some (.ok none) => .ok none
  | some (.ok (some cell)) => ((convertCell conversions t cell).mapError .error).map some

def getCell (conversions : Conversions σ β) (array : ArrowArray σ n) (index : Fin n) (oid : Oid) :
    Except Fault (Option β) :=
  readValue conversions array.dataType (ArrayReader.entry array index) oid

/-- There is a cell, a null or an error of the value. -/
def Sound (result : Except Fault (Option β)) : Prop :=
  ∀ fault, result = .error fault → ∃ e : ValueError, fault = .error e.toDataTypeError

structure Suits (conversions : Conversions σ β) (array : ArrowArray σ n) (index : Fin n)
    (oid : Oid) : Prop where
  int2 : oid = INT2OID → array.dataType ≠ .int64
  time32 : array.dataType ≠ .time32 .microsecond ∧ array.dataType ≠ .time32 .nanosecond
  time64 : array.dataType ≠ .time64 .second ∧ array.dataType ≠ .time64 .millisecond
  zone : ∀ unit tz, array.dataType = .timestamp unit (some tz) → array.valueAt index ≠ .null →
    conversions.parseZone tz = true

theorem supported_of_accepted {field : Field} {pgAttribute : PgAttribute}
    (accepted : canConvertToAttribute field pgAttribute = .ok ()) :
    ∃ types, supportedTypes field.dataType = some types ∧ pgAttribute.oid ∈ types := by
  rw [canConvertToAttribute] at accepted
  split at accepted
  · cases accepted
  · cases supported : supportedTypes field.dataType with
    | none => rw [supported] at accepted; cases accepted
    | some types =>
      rw [supported] at accepted
      dsimp only at accepted
      split at accepted
      · next mem =>
        obtain ⟨oid, listed, rfl⟩ := List.mem_map.mp mem
        exact ⟨types, rfl, listed⟩
      · cases accepted

theorem answer_int2 (v : Value σ) :
    answer .int64 v INT2OID = some (.error (.panic "primitive array")) := rfl

/-- Types of times that Arrow has no arrays of. -/
theorem answer_units (v : Value σ) {t : DataType}
    (unit : t = .time32 .microsecond ∨ t = .time32 .nanosecond ∨ t = .time64 .second ∨
      t = .time64 .millisecond) : answer t v TIMEOID = none := by
  rcases unit with rfl | rfl | rfl | rfl <;> rfl

theorem supportedTypes_units {t : DataType}
    (unit : t = .time32 .microsecond ∨ t = .time32 .nanosecond ∨ t = .time64 .second ∨
      t = .time64 .millisecond) : supportedTypes t = some [TIMEOID] := by
  rcases unit with rfl | rfl | rfl | rfl <;> rfl

theorem answer_accepted {t : DataType} {types : List Oid}
    (supported : supportedTypes t = some types) {oid : Oid} (mem : oid ∈ types)
    (int2 : oid = INT2OID → t ≠ .int64)
    (time32 : t ≠ .time32 .microsecond ∧ t ≠ .time32 .nanosecond)
    (time64 : t ≠ .time64 .second ∧ t ≠ .time64 .millisecond) (v : Value σ) :
    ∃ kind, answer t v oid = some (.ok (v.single?.map (.single kind))) ∧
      ∀ unit tz, t = .timestamp unit (some tz) → kind = .timestamptz := by
  cases t with
  | null | interval | list | fixedSizeList | struct | other => cases supported
  | binary | largeBinary =>
    cases supported
    simp only [List.mem_cons, List.not_mem_nil, or_false] at mem
    rcases mem with rfl | rfl | rfl | rfl <;> exact ⟨_, rfl, by simp⟩
  | utf8 | largeUtf8 =>
    cases supported
    simp only [List.mem_cons, List.not_mem_nil, or_false] at mem
    rcases mem with rfl | rfl | rfl <;> exact ⟨_, rfl, by simp⟩
  | boolean | date32 | date64 =>
    cases supported
    obtain rfl := List.mem_singleton.mp mem
    exact ⟨_, rfl, by simp⟩
  | int64 =>
    cases supported
    simp only [List.mem_cons, List.not_mem_nil, or_false] at mem
    rcases mem with rfl | rfl | rfl | rfl | rfl | rfl
    · exact absurd rfl (int2 rfl)
    all_goals exact ⟨_, rfl, by simp⟩
  | int8 | int16 | int32 | uint8 | uint16 | uint32 | uint64 | float16 | float32 | float64
  | decimal128 =>
    cases supported
    simp only [List.mem_cons, List.not_mem_nil, or_false] at mem
    rcases mem with rfl | rfl | rfl | rfl | rfl | rfl <;> exact ⟨_, rfl, by simp⟩
  | time32 unit =>
    cases supported
    obtain rfl := List.mem_singleton.mp mem
    cases unit with
    | second | millisecond => exact ⟨_, rfl, by simp⟩
    | microsecond => exact absurd rfl time32.1
    | nanosecond => exact absurd rfl time32.2
  | time64 unit =>
    cases supported
    obtain rfl := List.mem_singleton.mp mem
    cases unit with
    | microsecond | nanosecond => exact ⟨_, rfl, by simp⟩
    | second => exact absurd rfl time64.1
    | millisecond => exact absurd rfl time64.2
  | timestamp unit tz =>
    cases tz with
    | none =>
      cases supported
      obtain rfl := List.mem_singleton.mp mem
      exact ⟨.timestamp, by cases unit <;> rfl, by simp⟩
    | some tz =>
      cases supported
      obtain rfl := List.mem_singleton.mp mem
      exact ⟨.timestamptz, by cases unit <;> rfl, fun _ _ _ => rfl⟩

theorem sound_ok (result : Option β) : Sound (.ok result) := fun _ failed => by cases failed

theorem sound_value (made : Except ValueError β) :
    Sound (((made.mapError ValueError.toDataTypeError).mapError Fault.error).map some) := by
  intro fault failed
  cases made with
  | ok cell => cases failed
  | error e =>
    cases failed
    exact ⟨e, rfl⟩

theorem sound_convertCell_iff (conversions : Conversions σ β) (t : DataType) (kind : CellKind)
    (value : σ) :
    Sound (((convertCell conversions t (.single kind value)).mapError Fault.error).map some) ↔
      ∀ unit tz, t = .timestamp unit (some tz) → kind = .timestamptz →
        conversions.parseZone tz = true := by
  rw [convertCell.eq_def]
  split
  · next unit tz value' same =>
    cases same
    constructor
    · rintro sound _ _ ⟨rfl, rfl⟩ -
      by_contra unknown
      rw [if_neg unknown] at sound
      obtain ⟨e, same⟩ := sound _ rfl
      cases e <;> cases same
    · intro known
      rw [if_pos (known unit tz rfl rfl)]
      exact sound_value _
  · next other =>
    refine ⟨fun _ unit tz type kind_eq => ?_, fun _ => sound_value _⟩
    subst type kind_eq
    exact absurd rfl (other unit tz value rfl)

theorem single_of_ne_null {array : ArrowArray σ n} {index : Fin n}
    (scalar : array.dataType.arrayType ∉ nested) (some' : array.valueAt index ≠ .null) :
    ∃ value, array.valueAt index = .single value := by
  have none_iff := single?_eq_none_iff (shaped_valueAt array index) scalar
  cases found : array.valueAt index with
  | single value => exact ⟨value, rfl⟩
  | null | list | struct => exact absurd (none_iff.mp (by rw [found]; rfl)) some'

theorem not_sound_units {conversions : Conversions σ β} {array : ArrowArray σ n} {index : Fin n}
    {oid : Oid} {types : List Oid} (supported : supportedTypes array.dataType = some types)
    (mem : oid ∈ types) (unit : array.dataType = .time32 .microsecond ∨
      array.dataType = .time32 .nanosecond ∨ array.dataType = .time64 .second ∨
        array.dataType = .time64 .millisecond) :
    ¬Sound (getCell conversions array index oid) := by
  obtain rfl := Option.some.inj (supported.symm.trans (supportedTypes_units unit))
  rw [getCell, readValue, List.mem_singleton.mp mem, answer_units _ unit]
  intro sound
  obtain ⟨e, same⟩ := sound _ rfl
  cases e <;> cases same

/-- An accepted column is read without an error of the types where it suits the reader. -/
theorem sound_iff {conversions : Conversions σ β} {array : ArrowArray σ n} {index : Fin n}
    {field : Field} {pgAttribute : PgAttribute}
    (accepted : canConvertToAttribute field pgAttribute = .ok ())
    (type : array.dataType = field.dataType) :
    Sound (getCell conversions array index pgAttribute.oid) ↔
      Suits conversions array index pgAttribute.oid := by
  obtain ⟨types, supported, mem⟩ := supported_of_accepted accepted
  rw [← type] at supported
  constructor
  · intro sound
    have int2 : pgAttribute.oid = INT2OID → array.dataType ≠ .int64 := fun oid_eq type => by
      rw [getCell, readValue, oid_eq, type, answer_int2] at sound
      obtain ⟨e, same⟩ := sound _ rfl
      cases same
    have units := mt (not_sound_units supported mem) (not_not_intro sound)
    simp only [not_or] at units
    obtain ⟨micros, nanos, seconds, millis⟩ := units
    have time32 := And.intro micros nanos
    have time64 := And.intro seconds millis
    refine ⟨int2, time32, time64, fun unit tz type some' => ?_⟩
    obtain ⟨value, value_eq⟩ := single_of_ne_null (by simp [type, DataType.arrayType, nested]) some'
    obtain ⟨kind, answered, zoned⟩ := answer_accepted supported mem int2 time32 time64
      (ArrayReader.entry array index)
    rw [getCell, readValue, answered, ArrayReader.single?_entry, value_eq] at sound
    exact (sound_convertCell_iff conversions _ kind value).mp sound unit tz type
      (zoned unit tz type)
  · intro suits
    obtain ⟨kind, answered, zoned⟩ := answer_accepted supported mem suits.int2 suits.time32
      suits.time64 (ArrayReader.entry array index)
    rw [getCell, readValue, answered, ArrayReader.single?_entry]
    cases value_eq : array.valueAt index with
    | single value =>
      refine (sound_convertCell_iff conversions _ kind value).mpr fun unit tz type _ => ?_
      exact suits.zone unit tz type (by simp [value_eq])
    | null | list | struct => exact sound_ok none

theorem readValue_null {conversions : Conversions σ β} {field : Field} {pgAttribute : PgAttribute}
    (accepted : canConvertToAttribute field pgAttribute = .ok ()) {v : Value σ} {cell : β}
    (read : readValue conversions field.dataType v pgAttribute.oid = .ok (some cell)) :
    readValue conversions field.dataType .null pgAttribute.oid = .ok none := by
  obtain ⟨types, supported, mem⟩ := supported_of_accepted accepted
  have int2 : pgAttribute.oid = INT2OID → field.dataType ≠ .int64 := fun oid_eq type => by
    rw [readValue, oid_eq, type, answer_int2] at read
    cases read
  have unit : ¬ (field.dataType = .time32 .microsecond ∨ field.dataType = .time32 .nanosecond ∨
      field.dataType = .time64 .second ∨ field.dataType = .time64 .millisecond) := by
    intro unit
    obtain rfl := Option.some.inj (supported.symm.trans (supportedTypes_units unit))
    rw [readValue, List.mem_singleton.mp mem, answer_units _ unit] at read
    cases read
  simp only [not_or] at unit
  obtain ⟨micros, nanos, seconds, millis⟩ := unit
  obtain ⟨kind, answered, -⟩ := answer_accepted supported mem int2 ⟨micros, nanos⟩
    ⟨seconds, millis⟩ (.null : Value σ)
  rw [readValue, answered]
  rfl

def accepting : Conversions Unit Unit where
  parseZone _ := true
  convert _ _ := .ok ()

def oneEntry (t : DataType) (scalar : t.arrayType ∉ nested) : ArrowArray Unit 1 :=
  .flat t scalar ![()] none

theorem oneEntry_sound : Sound (getCell accepting (oneEntry .int32 (by decide)) 0 INT2OID) := by
  have accepted : canConvertToAttribute ⟨"a", .int32⟩ ⟨"a", INT2OID⟩ = .ok () := rfl
  refine (sound_iff accepted rfl).mpr ⟨?_, ?_, ?_, ?_⟩
  · intro _ type
    cases type
  · constructor <;> intro type <;> cases type
  · constructor <;> intro type <;> cases type
  · intro _ _ type
    cases type

theorem int64_panics :
    canConvertToAttribute ⟨"a", .int64⟩ ⟨"a", INT2OID⟩ = .ok () ∧
      getCell accepting (oneEntry .int64 (by decide)) 0 INT2OID =
        .error (.panic "primitive array") ∧
      ¬Sound (getCell accepting (oneEntry .int64 (by decide)) 0 INT2OID) := by
  have panics : getCell accepting (oneEntry .int64 (by decide)) 0 INT2OID =
      .error (.panic "primitive array") := rfl
  refine ⟨rfl, panics, fun sound => ?_⟩
  obtain ⟨e, same⟩ := sound _ panics
  cases same

end PgAnalytics.DatafusionReader
