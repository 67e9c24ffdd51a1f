import Mathlib.Algebra.Order.Ring.Int
import Mathlib.Data.Rat.Defs
import PgAnalytics.CellReader

/-! `get_cell` on the arrays of integers, for the integer types and `numeric`. Unsigned
entries pass through the `u64` of `get_uint_value`, and `as` takes a number modulo the
width of its target. -/

namespace PgAnalytics.IntegerCells
open CellReader RecordBatches

inductive IntegerType where
  | int8
  | int16
  | int32
  | int64
  | uint8
  | uint16
  | uint32
  | uint64
  deriving DecidableEq, Repr

def IntegerType.dataType : IntegerType → DataType
  | .int8 => .int8
  | .int16 => .int16
  | .int32 => .int32
  | .int64 => .int64
  | .uint8 => .uint8
  | .uint16 => .uint16
  | .uint32 => .uint32
  | .uint64 => .uint64

/-- The `Native` type of the array. -/
abbrev IntegerType.Native : IntegerType → Type
  | .int8 => Int8
  | .int16 => Int16
  | .int32 => Int32
  | .int64 => Int64
  | .uint8 => UInt8
  | .uint16 => UInt16
  | .uint32 => UInt32
  | .uint64 => UInt64

structure IntegerArray where
  type : IntegerType
  entries : List (Option type.Native)

def toInt : (t : IntegerType) → t.Native → ℤ
  | .int8, v => v.toInt
  | .int16, v => v.toInt
  | .int32, v => v.toInt
  | .int64, v => v.toInt
  | .uint8, v => v.toNat
  | .uint16, v => v.toNat
  | .uint32, v => v.toNat
  | .uint64, v => v.toNat

structure Numerics where
  Numeric : Type
  value : Numeric → Option ℚ
  ofI64 : Int64 → Numeric
  ofU64 : UInt64 → Numeric
  value_ofI64 : ∀ n, value (ofI64 n) = some n.toInt
  value_ofU64 : ∀ n, value (ofU64 n) = some n.toNat

variable (numerics : Numerics)

inductive Cell (σ : Type) where
  | i16 (value : Int16)
  | i32 (value : Int32)
  | i64 (value : Int64)
  | numeric (value : numerics.Numeric)
  | other (cell : CellReader.Cell σ)

/-- `u64::try_from`, which the unsigned types go through. -/
def asU64 : (t : IntegerType) → t.Native → Option UInt64
  | .uint8, v => some v.toUInt64
  | .uint16, v => some v.toUInt64
  | .uint32, v => some v.toUInt64
  | .uint64, v => some v
  | _, _ => none

def castSource (t : IntegerType) (v : t.Native) : ℤ :=
  (asU64 t v).elim (toInt t v) fun wide => wide.toNat

def convert (t : IntegerType) : CellReader.Cell t.Native → Cell numerics t.Native
  | .single .i16 v => .i16 (.ofInt (castSource t v))
  | .single .i32 v => .i32 (.ofInt (castSource t v))
  | .single .i64 v => .i64 (.ofInt (castSource t v))
  | .single .numeric v =>
    .numeric ((asU64 t v).elim (numerics.ofI64 (.ofInt (toInt t v))) numerics.ofU64)
  | cell => .other cell

def getCell (a : IntegerArray) (index : Fin a.entries.length) (oid : Oid) (name : String) :
    Except ReadFault (Option (Cell numerics a.type.Native)) :=
  (CellReader.getCell a.type.dataType (a.entries[index].elim .null .single) oid name).map
    (Option.map (convert numerics a.type))

def Cell.value {numerics : Numerics} {σ : Type} : Cell numerics σ → Option ℚ
  | .i16 v => some v.toInt
  | .i32 v => some v.toInt
  | .i64 v => some v.toInt
  | .numeric v => numerics.value v
  | .other _ => none

structure KeepsValue {t : IntegerType} (entry : Option t.Native)
    (answer : Except ReadFault (Option (Cell numerics t.Native))) : Prop where
  null_iff : answer = .ok none ↔ entry = none
  value : ∀ cell, answer = .ok (some cell) → ∃ v, entry = some v ∧ cell.value = some ↑(toInt t v)
  noPanic : ∀ array, answer ≠ .error (.panic array)

inductive Target where
  | int2
  | int4
  | int8
  | numeric
  deriving DecidableEq, Repr

def Target.oid : Target → Oid
  | .int2 => INT2OID
  | .int4 => INT4OID
  | .int8 => INT8OID
  | .numeric => NUMERICOID

def Target.Holds : Target → ℤ → Prop
  | .int2, n => -2 ^ 15 ≤ n ∧ n < 2 ^ 15
  | .int4, n => -2 ^ 31 ≤ n ∧ n < 2 ^ 31
  | .int8, n => -2 ^ 63 ≤ n ∧ n < 2 ^ 63
  | .numeric, _ => True

def Target.kind : Target → CellKind
  | .int2 => .i16
  | .int4 => .i32
  | .int8 => .i64
  | .numeric => .numeric

theorem bmod_eq_self_iff {n : ℤ} {size : ℕ} (even : 2 ∣ size) (positive : 0 < size) :
    n.bmod size = n ↔ -(size / 2 : ℤ) ≤ n ∧ n < (size / 2 : ℤ) := by
  have trivial : (size : ℤ) ∣ n - n := by simp
  rw [Int.bmod_eq_iff positive]
  omega

theorem int16_cast_iff (n : ℤ) : (Int16.ofInt n).toInt = n ↔ Target.int2.Holds n := by
  rw [Int16.toInt_ofInt, bmod_eq_self_iff (by decide) (by decide)]
  exact Iff.rfl

theorem int32_cast_iff (n : ℤ) : (Int32.ofInt n).toInt = n ↔ Target.int4.Holds n := by
  rw [Int32.toInt_ofInt, bmod_eq_self_iff (by decide) (by decide)]
  exact Iff.rfl

theorem int64_cast_iff (n : ℤ) : (Int64.ofInt n).toInt = n ↔ Target.int8.Holds n := by
  rw [Int64.toInt_ofInt, bmod_eq_self_iff (by decide) (by decide)]
  exact Iff.rfl

theorem castSource_eq (t : IntegerType) (v : t.Native) : castSource t v = toInt t v := by
  cases t <;> simp [castSource, asU64, toInt]

theorem int8_holds_of_narrow {bits : ℕ} (narrow : bits ≤ 63) {n : ℤ} (low : -2 ^ bits ≤ n)
    (high : n < 2 ^ bits) : Target.int8.Holds n := by
  have wider : (2 : ℤ) ^ bits ≤ 2 ^ 63 := pow_le_pow_right₀ (by decide) narrow
  exact ⟨(neg_le_neg wider).trans low, high.trans_le wider⟩

theorem int8_holds (t : IntegerType) (v : t.Native) (signed : asU64 t v = none) :
    Target.int8.Holds (toInt t v) := by
  cases t with
  | int8 => exact int8_holds_of_narrow (by decide) (Int8.le_toInt v) (Int8.toInt_lt v)
  | int16 => exact int8_holds_of_narrow (by decide) (Int16.le_toInt v) (Int16.toInt_lt v)
  | int32 => exact int8_holds_of_narrow (by decide) (Int32.le_toInt v) (Int32.toInt_lt v)
  | int64 => exact ⟨Int64.le_toInt v, Int64.toInt_lt v⟩
  | uint8 | uint16 | uint32 | uint64 => simp [asU64] at signed

theorem convert_value_iff (t : IntegerType) (target : Target) (v : t.Native) :
    (convert numerics t (.single target.kind v)).value = some ↑(toInt t v) ↔
      target.Holds (toInt t v) := by
  cases target with
  | int2 => simp [Target.kind, convert, Cell.value, castSource_eq, ← int16_cast_iff]
  | int4 => simp [Target.kind, convert, Cell.value, castSource_eq, ← int32_cast_iff]
  | int8 => simp [Target.kind, convert, Cell.value, castSource_eq, ← int64_cast_iff]
  | numeric =>
    simp only [Target.kind, convert, Cell.value, Target.Holds, iff_true]
    cases wide : asU64 t v with
    | none =>
      have fits := (int64_cast_iff _).mpr (int8_holds t v wide)
      simp [numerics.value_ofI64, fits]
    | some u =>
      have source := castSource_eq t v
      rw [castSource, wide, Option.elim_some] at source
      simp only [Option.elim_some, numerics.value_ofU64, ← source]
      rfl

theorem readNumber_target (t : IntegerType) (target : Target) (entry : Option t.Native)
    (name : String) :
    CellReader.getCell t.dataType (entry.elim .null .single) target.oid name =
      if t = .int64 ∧ target = .int2 then .error (.panic "primitive array")
      else .ok (entry.map (.single target.kind)) := by
  cases entry <;> cases target <;> cases t <;> rfl

theorem getCell_target (a : IntegerArray) (index : Fin a.entries.length) (target : Target)
    (name : String) :
    getCell numerics a index target.oid name =
      if a.type = .int64 ∧ target = .int2 then .error (.panic "primitive array")
      else .ok (a.entries[index].map fun v => convert numerics a.type (.single target.kind v)) := by
  rw [getCell, readNumber_target]
  split
  · rfl
  · simp only [Except.map, Option.map_map]
    rfl

theorem getCell_keepsValue_iff (a : IntegerArray) (index : Fin a.entries.length) (target : Target)
    (name : String) :
    KeepsValue numerics a.entries[index] (getCell numerics a index target.oid name) ↔
      ¬(a.type = .int64 ∧ target = .int2) ∧
        ∀ v, a.entries[index] = some v → target.Holds (toInt a.type v) := by
  rw [getCell_target]
  by_cases mismatched : a.type = .int64 ∧ target = .int2
  · rw [if_pos mismatched]
    constructor
    · intro keeps
      exact absurd rfl (keeps.noPanic _)
    · intro right
      exact absurd mismatched right.1
  · rw [if_neg mismatched]
    constructor
    · intro keeps
      refine ⟨mismatched, fun v entry => ?_⟩
      have answered := keeps.value (convert numerics a.type (.single target.kind v)) (by
        rw [entry]
        rfl)
      obtain ⟨w, same, value⟩ := answered
      rw [entry, Option.some.injEq] at same
      subst same
      exact (convert_value_iff numerics a.type target v).mp value
    · intro right
      constructor
      · simp
      · intro cell answered
        obtain ⟨v, entry, rfl⟩ := Option.map_eq_some_iff.mp (Except.ok.inj answered)
        exact ⟨v, entry, (convert_value_iff numerics a.type target v).mpr (right.2 v entry)⟩
      · simp

def integers : Numerics where
  Numeric := ℤ
  value n := some n
  ofI64 := Int64.toInt
  ofU64 n := n.toNat
  value_ofI64 _ := rfl
  value_ofU64 _ := rfl

def largest : IntegerArray := ⟨.uint64, [some 18446744073709551615]⟩

def firstIndex : Fin largest.entries.length := ⟨0, by decide⟩

theorem largest_u64_stored_negative :
    getCell integers largest firstIndex INT8OID "quantity" = .ok (some (.i64 (-1))) ∧
      ¬KeepsValue integers largest.entries[firstIndex]
        (getCell integers largest firstIndex INT8OID "quantity") := by
  have answered : getCell integers largest firstIndex INT8OID "quantity" =
      .ok (some (.i64 (-1))) := by rfl
  refine ⟨answered, fun keeps => ?_⟩
  obtain ⟨v, entry, value⟩ := keeps.value _ answered
  cases entry
  have differ : ((-1 : ℤ) : ℚ) ≠ ((18446744073709551615 : ℤ) : ℚ) := by decide
  exact differ (Option.some.inj value)

end PgAnalytics.IntegerCells
