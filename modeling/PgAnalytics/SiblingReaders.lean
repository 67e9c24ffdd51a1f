import PgAnalytics.DatafusionReader
import PgAnalytics.IntegerCells

/-! The cell readers of the DuckDB wrappers and of the DataFusion wrappers, one written after
the other. From the columns that DataFusion accepts they read the same, but for bytes; of
integers they make the same cells, but for those that `i64` does not have. -/

namespace PgAnalytics.SiblingReaders
open CellReader ArrowArrays ArrowArray CellAccess SchemaProvider
open IntegerCells (IntegerType Numerics toInt asU64 castSource castSource_eq)
open DatafusionReader (ValueError Conversions answer supported_of_accepted)
open RecordBatches (Oid INT2OID INT4OID INT8OID)

variable {σ : Type} {n : ℕ}

/-- `get_uint_value`: what is not signed passes through `i64`, if it is one. -/
def i64TryFrom (n : ℕ) : Except ValueError Int64 :=
  if n < 2 ^ 63 then .ok (.ofNat n) else .error .uintConversionError

def uintValue : (t : IntegerType) → t.Native → Option (Except ValueError Int64)
  | .uint8, v => some (i64TryFrom v.toNat)
  | .uint16, v => some (i64TryFrom v.toNat)
  | .uint32, v => some (i64TryFrom v.toNat)
  | .uint64, v => some (i64TryFrom v.toNat)
  | _, _ => none

variable (numerics : Numerics)

def convert (t : IntegerType) :
    CellReader.Cell t.Native → Except ValueError (IntegerCells.Cell numerics t.Native)
  | .single kind v =>
    match uintValue t v with
    | none => .ok (IntegerCells.convert numerics t (.single kind v))
    | some found => found.map fun value =>
      match kind with
      | .i16 => .i16 (.ofInt value.toInt)
      | .i32 => .i32 (.ofInt value.toInt)
      | .i64 => .i64 value
      | .numeric => .numeric (numerics.ofU64 value.toUInt64)
      | kind => .other (.single kind v)
  | cell => .ok (.other cell)

def conversions (t : IntegerType) : Conversions t.Native (IntegerCells.Cell numerics t.Native) where
  parseZone _ := false
  convert _ := convert numerics t

theorem scalar_dataType (t : IntegerType) : t.dataType.arrayType ∉ nested := by
  cases t <;> decide

def integers (t : IntegerType) (values : Fin n → t.Native) (validity : Option (Fin n → Bool)) :
    ArrowArray t.Native n :=
  .flat t.dataType (scalar_dataType t) values validity

theorem uintValue_eq (t : IntegerType) (v : t.Native) :
    uintValue t v = (asU64 t v).map fun wide => i64TryFrom wide.toNat := by
  cases t <;> simp [uintValue, asU64]

theorem toInt_of_asU64 {t : IntegerType} {v : t.Native} {wide : UInt64}
    (unsigned : asU64 t v = some wide) : toInt t v = wide.toNat := by
  rw [← castSource_eq, castSource, unsigned, Option.elim_some]

theorem convert_fits {t : IntegerType} {v : t.Native} (fits : toInt t v < 2 ^ 63)
    (kind : CellKind) :
    convert numerics t (.single kind v) =
      .ok (IntegerCells.convert numerics t (.single kind v)) := by
  rw [convert, uintValue_eq]
  cases unsigned : asU64 t v with
  | none => rfl
  | some wide =>
    have within : wide.toNat < 2 ^ 63 := by
      have worth := toInt_of_asU64 unsigned
      omega
    have worth : (Int64.ofNat wide.toNat).toInt = castSource t v := by
      rw [Int64.toInt_ofNat_of_lt within, castSource_eq, toInt_of_asU64 unsigned]
    have back : (Int64.ofNat wide.toNat).toUInt64 = wide := by simp
    simp only [Option.map_some, i64TryFrom, if_pos within, Except.map]
    cases kind with
    | i16 | i32 => rw [IntegerCells.convert, ← worth]
    | i64 => rw [IntegerCells.convert, ← worth, Int64.ofInt_toInt]
    | numeric =>
      dsimp only
      rw [IntegerCells.convert, unsigned, Option.elim_some, back]
    | _ => rfl

theorem convert_large {t : IntegerType} {v : t.Native} (large : 2 ^ 63 ≤ toInt t v)
    (kind : CellKind) :
    convert numerics t (.single kind v) = .error .uintConversionError := by
  rw [convert, uintValue_eq]
  cases unsigned : asU64 t v with
  | none =>
    have signed := IntegerCells.int8_holds t v unsigned
    exact absurd signed.2 (Int.not_lt.mpr large)
  | some wide =>
    have beyond : ¬wide.toNat < 2 ^ 63 := by
      have worth := toInt_of_asU64 unsigned
      omega
    simp only [Option.map_some, i64TryFrom, if_neg beyond, Except.map]

def numberOids : List Oid := [INT2OID, INT4OID, INT8OID, FLOAT4OID, FLOAT8OID, NUMERICOID]

theorem readNumber_integer (t : IntegerType) (kind : CellKind) (v : Value σ) :
    readNumber kind t.dataType v =
      some (if kind = .i16 ∧ t = .int64 then .error (.panic "primitive array")
        else .ok (v.single?.map (.single kind))) := by
  cases kind <;> cases t <;> rfl

theorem readArm_integer {arm : Arm} (other : ∀ kind, arm ≠ .number kind) (t : IntegerType)
    (v : Value σ) : (readArm arm t.dataType v).bind Except.toOption = none := by
  cases arm with
  | number kind => exact absurd rfl (other kind)
  | _ => cases t <;> rfl

theorem readArm_integer_datafusion {arm : DatafusionReader.Arm} (other : ∀ kind, arm ≠ .number kind)
    (t : IntegerType) (v : Value σ) :
    (DatafusionReader.readArm arm t.dataType v).bind Except.toOption = none := by
  cases arm with
  | number kind => exact absurd rfl (other kind)
  | _ => cases t <;> rfl

theorem mem_of_lookup {α β : Type} [DecidableEq α] {l : List (α × β)} {a : α} {b : β}
    (found : l.lookup a = some b) : (a, b) ∈ l := by
  obtain ⟨before, after, split, -⟩ := List.lookup_eq_some_iff.mp found
  rw [split]
  exact List.mem_append_right before List.mem_cons_self

theorem lookup_of_mem_numberOids {oid : Oid} (number : oid ∈ numberOids) :
    ∃ kind, arms.lookup oid = some (.number kind) ∧
      DatafusionReader.arms.lookup oid = some (.number kind) := by
  simp only [numberOids, List.mem_cons, List.not_mem_nil, or_false] at number
  rcases number with rfl | rfl | rfl | rfl | rfl | rfl <;> exact ⟨_, rfl, rfl⟩

theorem mem_numberOids_of_lookup {oid : Oid} {kind : CellKind}
    (found : arms.lookup oid = some (.number kind)) : oid ∈ numberOids := by
  have listed := mem_of_lookup found
  simp only [arms, List.mem_cons, Prod.mk.injEq, reduceCtorEq, and_false, false_or, or_false,
    Arm.number.injEq, List.not_mem_nil] at listed
  simp only [numberOids, List.mem_cons, List.not_mem_nil, or_false]
  tauto

theorem mem_numberOids_of_lookup_datafusion {oid : Oid} {kind : CellKind}
    (found : DatafusionReader.arms.lookup oid = some (.number kind)) : oid ∈ numberOids := by
  have listed := mem_of_lookup found
  simp only [DatafusionReader.arms, List.mem_cons, Prod.mk.injEq, reduceCtorEq, and_false,
    false_or, or_false, DatafusionReader.Arm.number.injEq, List.not_mem_nil] at listed
  simp only [numberOids, List.mem_cons, List.not_mem_nil, or_false]
  tauto

theorem getCell_other {oid : Oid} (other : oid ∉ numberOids) (t : IntegerType) (v : Value σ)
    (name : String) : (getCell t.dataType v oid name).toOption = none := by
  rw [getCell]
  cases found : arms.lookup oid with
  | none => rfl
  | some arm =>
    have fails : (readArm arm t.dataType v).bind Except.toOption = none := by
      refine readArm_integer (fun kind number => other ?_) t v
      exact mem_numberOids_of_lookup (number ▸ found)
    rw [Option.bind_some]
    cases read : readArm arm t.dataType v with
    | none => rfl
    | some answered => rwa [read] at fails

theorem answer_other {oid : Oid} (other : oid ∉ numberOids) (t : IntegerType) (v : Value σ) :
    (answer t.dataType v oid).bind Except.toOption = none := by
  rw [answer]
  cases found : DatafusionReader.arms.lookup oid with
  | none => rfl
  | some arm =>
    refine readArm_integer_datafusion (fun kind number => other ?_) t v
    exact mem_numberOids_of_lookup_datafusion (number ▸ found)

theorem convertCell_integer (t : IntegerType) (cell : CellReader.Cell t.Native) :
    DatafusionReader.convertCell (conversions numerics t) t.dataType cell =
      (convert numerics t cell).mapError ValueError.toDataTypeError := by
  cases t <;> rfl

theorem entry_integers (t : IntegerType) (values : Fin n → t.Native)
    (validity : Option (Fin n → Bool)) (index : Fin n) :
    ArrayReader.entry (integers t values validity) index =
      (integers t values validity).valueAt index := rfl

theorem getCell_number (t : IntegerType) (values : Fin n → t.Native)
    (validity : Option (Fin n → Bool)) (index : Fin n) {oid : Oid} {kind : CellKind}
    (found : DatafusionReader.arms.lookup oid = some (.number kind)) :
    DatafusionReader.getCell (conversions numerics t) (integers t values validity) index oid =
      if kind = .i16 ∧ t = .int64 then .error (.panic "primitive array")
      else ((integers t values validity).valueAt index).single?.elim (.ok none) fun v =>
        (((convert numerics t (.single kind v)).mapError ValueError.toDataTypeError).mapError
          .error).map some := by
  have type : (integers t values validity).dataType = t.dataType := rfl
  have read : ∀ v : Value t.Native, answer t.dataType v oid = readNumber kind t.dataType v := by
    intro v
    rw [answer, found]
    rfl
  rw [DatafusionReader.getCell, DatafusionReader.readValue, entry_integers, type, read,
    readNumber_integer]
  by_cases mismatched : kind = .i16 ∧ t = .int64
  · rw [if_pos mismatched, if_pos mismatched]
  · rw [if_neg mismatched, if_neg mismatched]
    cases ((integers t values validity).valueAt index).single? with
    | none => rfl
    | some v => simp only [Option.map_some, Option.elim_some, convertCell_integer]

/-- Of an array of integers both readers make the same, a cell, a null or no answer, but for what
`i64` does not have: there DataFusion has no answer, and DuckDB a cell. -/
theorem integers_alike_iff (t : IntegerType) (values : Fin n → t.Native)
    (validity : Option (Fin n → Bool)) (index : Fin n) (oid : Oid) (name : String) :
    (DatafusionReader.getCell (conversions numerics t) (integers t values validity) index
          oid).toOption =
        ((ArrayReader.getCell (integers t values validity) index oid name).map
          (Option.map (IntegerCells.convert numerics t))).toOption ↔
      (oid ∈ numberOids → ∀ v, (integers t values validity).valueAt index = .single v →
        toInt t v < 2 ^ 63) := by
  have type : (integers t values validity).dataType = t.dataType := rfl
  rw [ArrayReader.getCell_eq, type]
  by_cases number : oid ∈ numberOids
  · obtain ⟨kind, found, found'⟩ := lookup_of_mem_numberOids number
    rw [getCell_number numerics t values validity index found']
    generalize (integers t values validity).valueAt index = v
    have read : getCell t.dataType v oid name = (readNumber kind t.dataType v).getD
        (.error (.mismatch name t.dataType oid)) := by
      rw [getCell, found]
      rfl
    rw [read, readNumber_integer, Option.getD_some]
    by_cases mismatched : kind = .i16 ∧ t = .int64
    · rw [if_pos mismatched, if_pos mismatched]
      refine iff_of_true rfl fun _ v _ => ?_
      obtain ⟨-, rfl⟩ := mismatched
      exact Int64.toInt_lt v
    · rw [if_neg mismatched, if_neg mismatched]
      cases v with
      | single value =>
        simp only [Value.single?, Option.elim_some, Option.map_some]
        by_cases fits : toInt t value < 2 ^ 63
        · rw [convert_fits numerics fits]
          refine iff_of_true rfl fun _ v same => ?_
          obtain rfl := Value.single.inj same
          exact fits
        · rw [convert_large numerics (Int.not_lt.mp fits)]
          refine iff_of_false (fun same => ?_) fun all => fits (all number value rfl)
          cases same
      | null | list | struct => exact iff_of_true rfl fun _ v same => by cases same
  · refine iff_of_true ?_ fun is => absurd is number
    rw [DatafusionReader.getCell, DatafusionReader.readValue, entry_integers, type]
    generalize (integers t values validity).valueAt index = v
    have fails := getCell_other number t v name
    have fails' := answer_other number t v
    cases read : getCell t.dataType v oid name with
    | ok cell => rw [read] at fails; cases fails
    | error fault =>
      cases read' : answer t.dataType v oid with
      | none => rfl
      | some answered =>
        rw [read', Option.bind_some] at fails'
        cases answered with
        | ok cell => cases fails'
        | error fault' => cases fault' <;> rfl

structure KeepsValue {t : IntegerType} (entry : Value t.Native)
    (answer : Except DatafusionReader.Fault (Option (IntegerCells.Cell numerics t.Native))) :
    Prop where
  null_iff : answer = .ok none ↔ entry = .null
  value : ∀ cell, answer = .ok (some cell) →
    ∃ v, entry = .single v ∧ cell.value = some ↑(toInt t v)
  noPanic : ∀ array, answer ≠ .error (.panic array)

theorem keepsValue_null {t : IntegerType} :
    KeepsValue numerics (.null : Value t.Native) (.ok none) where
  null_iff := iff_of_true rfl rfl
  value _ answered := by cases answered
  noPanic _ same := by cases same

theorem keepsValue_error {t : IntegerType} (v : t.Native) (e : DatafusionReader.DataTypeError) :
    KeepsValue numerics (.single v) (.error (.error e)) where
  null_iff := by simp
  value _ answered := by cases answered
  noPanic _ same := by cases same

theorem keepsValue_cell_iff {t : IntegerType} (v : t.Native)
    (cell : IntegerCells.Cell numerics t.Native) :
    KeepsValue numerics (.single v) (.ok (some cell)) ↔ cell.value = some ↑(toInt t v) := by
  constructor
  · intro keeps
    obtain ⟨w, same, value⟩ := keeps.value cell rfl
    obtain rfl := Value.single.inj same
    exact value
  · intro value
    constructor
    · simp
    · intro cell' answered
      cases answered
      exact ⟨v, rfl, value⟩
    · simp

theorem lookup_target (target : IntegerCells.Target) :
    DatafusionReader.arms.lookup target.oid = some (.number target.kind) := by
  cases target <;> rfl

theorem kind_eq_i16_iff (target : IntegerCells.Target) : target.kind = .i16 ↔ target = .int2 := by
  cases target <;> simp [IntegerCells.Target.kind]

/-- The integers are stored as they are or refused, but for those that a narrower type does not
have; these lose their upper bits. -/
theorem integers_kept_iff (t : IntegerType) (values : Fin n → t.Native)
    (validity : Option (Fin n → Bool)) (index : Fin n) (target : IntegerCells.Target) :
    KeepsValue numerics ((integers t values validity).valueAt index)
        (DatafusionReader.getCell (conversions numerics t) (integers t values validity) index
          target.oid) ↔
      ¬(t = .int64 ∧ target = .int2) ∧ ∀ v, (integers t values validity).valueAt index = .single v →
        target.Holds (toInt t v) ∨ 2 ^ 63 ≤ toInt t v := by
  have null_iff : ((integers t values validity).valueAt index).single? = none ↔ _ :=
    single?_eq_none_iff (shaped_valueAt _ index) (scalar_dataType t)
  rw [getCell_number numerics t values validity index (lookup_target target)]
  generalize (integers t values validity).valueAt index = entry at null_iff ⊢
  by_cases mismatched : t = .int64 ∧ target = .int2
  · rw [if_pos ⟨(kind_eq_i16_iff target).mpr mismatched.2, mismatched.1⟩]
    constructor
    · intro keeps
      exact absurd rfl (keeps.noPanic _)
    · intro right
      exact absurd mismatched right.1
  · rw [if_neg fun both => mismatched ⟨both.2, (kind_eq_i16_iff target).mp both.1⟩]
    cases entry with
    | single v =>
      rw [Value.single?, Option.elim_some]
      have all : (∀ w, Value.single v = .single w → target.Holds (toInt t w) ∨
          2 ^ 63 ≤ toInt t w) ↔ target.Holds (toInt t v) ∨ 2 ^ 63 ≤ toInt t v := by simp
      rw [all, and_iff_right mismatched]
      by_cases fits : toInt t v < 2 ^ 63
      · rw [convert_fits numerics fits, or_iff_left (Int.not_le.mpr fits),
          ← IntegerCells.convert_value_iff numerics t target v]
        exact keepsValue_cell_iff numerics v _
      · rw [convert_large numerics (Int.not_lt.mp fits)]
        exact iff_of_true (keepsValue_error numerics v _) (.inr (Int.not_lt.mp fits))
    | null =>
      refine iff_of_true (keepsValue_null numerics) ⟨mismatched, fun v same => ?_⟩
      cases same
    | list | struct => cases null_iff.mp rfl

end PgAnalytics.SiblingReaders
