import Mathlib.Data.Fin.VecNotation
import PgAnalytics.CellAccess
import PgAnalytics.Intervals
import PgAnalytics.Traversals

/-! Panics of `get_cell`: of an accessor that is called on an array of another type, and of the
one product that it computes in a build that checks for overflow. -/

namespace PgAnalytics.CellPanics
open RecordBatches CellReader ArrowArrays ArrowArray CellAccess Intervals Traversals

variable {σ β : Type} {n : ℕ}

inductive Single (σ : Type) where
  | dayTime (interval : DayTime)
  | other (value : σ)

structure Conversions (σ β : Type) where
  datum : IntervalDatum
  interval : datum.Interval → β
  convert : DataType → CellReader.Cell (Single σ) → Except String β

def convertCell (conversions : Conversions σ β) (checked : Bool) (t : DataType)
    (cell : CellReader.Cell (Single σ)) : Except ConversionFault β :=
  match t, cell with
  | .interval .dayTime, .single .interval (.dayTime interval) =>
    (Intervals.convert conversions.datum checked .dayTime interval).map conversions.interval
  | t, cell => (conversions.convert t cell).mapError .error

/-- `get_cell`, in a build that checks for overflow or in one that wraps. -/
def getCell (conversions : Conversions σ β) (checked : Bool) (array : ArrowArray (Single σ) n)
    (index : Fin n) (oid : Oid) (name : String) : Except ConversionFault (Option β) :=
  convertEntry (convertCell conversions checked array.dataType)
    (ArrayReader.getCell array index oid name)

def Panics {α : Type} (result : Except ConversionFault α) : Prop :=
  result = .error .overflow ∨ ∃ array, result = .error (.read (.panic array))

/-- The types of Postgres that are read with `get_primitive_list_value` and its sibling. -/
def listOids : List Oid :=
  [BOOLARRAYOID, TEXTARRAYOID, VARCHARARRAYOID, BPCHARARRAYOID, INT2ARRAYOID, INT4ARRAYOID,
    INT8ARRAYOID, FLOAT4ARRAYOID, FLOAT8ARRAYOID]

structure Compatible (checked : Bool) (array : ArrowArray (Single σ) n) (index : Fin n)
    (oid : Oid) : Prop where
  lists : oid ∈ listOids → ∃ element, array.dataType = .list element
  int2 : oid = INT2OID → array.dataType ≠ .int64
  product : checked = true → oid = INTERVALOID → array.dataType = .interval .dayTime →
    ∀ interval, array.valueAt index = .single (.dayTime interval) → Fits .dayTime interval

def NoPanic {α : Type} (read : Except ReadFault α) : Prop := ∀ array, read ≠ .error (.panic array)

theorem NoPanic.ok {α : Type} (a : α) : NoPanic (.ok a) := fun _ => by simp

theorem noPanic_map_iff {α γ : Type} {read : Except ReadFault α} {f : α → γ} :
    NoPanic (read.map f) ↔ NoPanic read := by
  cases read <;> simp [NoPanic, Except.map]

theorem NoPanic.mapM {α γ : Type} {l : List α} {f : α → Except ReadFault γ}
    (each : ∀ a ∈ l, NoPanic (f a)) : NoPanic (l.mapM f) := by
  intro array panics
  obtain ⟨a, mem, fails⟩ := exists_eq_error panics
  exact each a mem array fails

theorem noPanic_downcast (target : ArrayType) (array : String) (t : DataType) (v : Value σ) :
    NoPanic (downcast target array t v) := by
  intro _
  rw [downcast]
  split <;> simp

theorem noPanic_asPrimitive_iff (target : ArrayType) (t : DataType) (v : Value σ) :
    NoPanic (asPrimitive target t v) ↔ t.arrayType = target := by
  by_cases same : t.arrayType = target <;> simp [NoPanic, asPrimitive, same]

theorem noPanic_getFieldValue (t : DataType) (v : Value σ) : NoPanic (getFieldValue t v) := by
  cases t with
  | boolean | utf8 | int8 | int16 | int32 | int64 | uint8 | uint16 | uint32 | uint64
  | float16 | float32 | float64 | decimal128 => exact NoPanic.ok v.single?
  | _ => exact fun _ panics => by cases panics

theorem noPanic_getStructValue (fields : List (String × DataType)) (v : Value σ) :
    NoPanic (getStructValue (.struct fields) v) := by
  cases v with
  | null | single | list => exact .ok none
  | struct values =>
    refine noPanic_map_iff.mpr (.mapM fun field _ => ?_)
    rw [readField]
    cases (fields.zip values).find? fun f => f.1.1 == field.1 with
    | none => exact .ok none
    | some found => exact noPanic_map_iff.mpr (noPanic_getFieldValue _ _)

theorem noPanic_listValues (t : DataType) (elements : List (Value σ)) :
    NoPanic (listValues t elements) := by
  cases t with
  | boolean | int8 | int16 | int32 | int64 | utf8 => exact .ok _
  | struct fields =>
    exact .mapM fun v _ => noPanic_map_iff.mpr (noPanic_getStructValue fields v)
  | list element =>
    rw [listValues]
    refine .mapM fun v _ => ?_
    cases v with
    | null | single | struct => exact .ok _
    | list inner => exact noPanic_map_iff.mpr (noPanic_listValues element inner)
  | _ => exact fun _ panics => by cases panics

theorem noPanic_getListValue (element : DataType) (v : Value σ) :
    NoPanic (getListValue (.list element) v) := by
  cases v with
  | null | single | struct => exact .ok none
  | list elements => exact noPanic_map_iff.mpr (noPanic_listValues element elements)

theorem noPanic_getPrimitiveListValue_iff (target : ArrayType) (t : DataType) (v : Value σ) :
    NoPanic (getPrimitiveListValue target t v) ↔ ∃ element, t = .list element := by
  cases t with
  | list element =>
    refine ⟨fun _ => ⟨element, rfl⟩, fun _ array => ?_⟩
    cases v with
    | null | single | struct => simp [getPrimitiveListValue]
    | list elements =>
      rw [getPrimitiveListValue]
      split <;> simp
  | _ => simp [NoPanic, getPrimitiveListValue]

def Mismatched (arm : Arm) (t : DataType) : Prop :=
  (∃ target kind, arm = .list target kind ∧ ∀ element, t ≠ .list element) ∨
    arm = .number .i16 ∧ t = .int64

theorem noPanic_of_suited {arm : Arm} {t : DataType} {v : Value σ}
    {answer : Except ReadFault (Option (CellReader.Cell σ))}
    (answered : readArm arm t v = some answer) (suited : ¬Mismatched arm t) : NoPanic answer := by
  have access := access_readArm arm t v
  rw [answered] at access
  generalize same : some answer = found at access
  cases access with
  | missing => cases same
  | void =>
    cases same
    exact .ok none
  | downcast =>
    cases same
    exact noPanic_map_iff.mpr (noPanic_downcast _ _ t v)
  | primitive =>
    cases same
    exact noPanic_map_iff.mpr ((noPanic_asPrimitive_iff _ t v).mpr rfl)
  | uint8 arm_eq t_eq => exact absurd (.inr ⟨arm_eq, t_eq⟩) suited
  | struct t_eq =>
    cases same
    rw [t_eq]
    exact noPanic_map_iff.mpr (noPanic_getStructValue _ v)
  | list t_eq =>
    cases same
    rw [t_eq]
    exact noPanic_map_iff.mpr (noPanic_getListValue _ v)
  | elements arm_eq =>
    cases same
    rw [noPanic_map_iff, noPanic_getPrimitiveListValue_iff]
    by_contra other
    exact suited (.inl ⟨_, _, arm_eq, fun element same => other ⟨element, same⟩⟩)

theorem panics_of_mismatched {arm : Arm} {t : DataType} (mismatched : Mismatched arm t)
    (v : Value σ) : ∃ array, readArm arm t v = some (.error (.panic array)) := by
  rcases mismatched with ⟨target, kind, rfl, other⟩ | ⟨rfl, rfl⟩
  · refine ⟨"list array", ?_⟩
    cases t with
    | list element => exact absurd rfl (other element)
    | _ => rfl
  · exact ⟨"primitive array", rfl⟩

theorem mem_arms_of_lookup {oid : Oid} {arm : Arm} (found : arms.lookup oid = some arm) :
    (oid, arm) ∈ arms := by
  obtain ⟨before, after, split, -⟩ := List.lookup_eq_some_iff.mp found
  rw [split]
  exact List.mem_append_right before List.mem_cons_self

theorem list_arm_iff (oid : Oid) :
    (∃ target kind, arms.lookup oid = some (.list target kind)) ↔ oid ∈ listOids := by
  constructor
  · rintro ⟨target, kind, found⟩
    have mem := mem_arms_of_lookup found
    simp only [arms, List.mem_cons, Prod.mk.injEq, reduceCtorEq, and_false, false_or,
      List.not_mem_nil, or_false] at mem
    simp only [listOids, List.mem_cons, List.not_mem_nil, or_false]
    tauto
  · intro mem
    simp only [listOids, List.mem_cons, List.not_mem_nil, or_false] at mem
    rcases mem with rfl | rfl | rfl | rfl | rfl | rfl | rfl | rfl | rfl <;> exact ⟨_, _, rfl⟩

theorem lookup_number_i16_iff (oid : Oid) :
    arms.lookup oid = some (.number .i16) ↔ oid = INT2OID := by
  constructor
  · intro found
    simpa [arms] using mem_arms_of_lookup found
  · rintro rfl
    rfl

theorem lookup_interval_iff (oid : Oid) :
    arms.lookup oid = some .interval ↔ oid = INTERVALOID := by
  constructor
  · intro found
    simpa [arms] using mem_arms_of_lookup found
  · rintro rfl
    rfl

theorem not_mismatched_iff (arm : Arm) (t : DataType) :
    ¬Mismatched arm t ↔
      ((∃ target kind, arm = .list target kind) → ∃ element, t = .list element) ∧
        (arm = .number .i16 → t ≠ .int64) := by
  simp only [Mismatched, not_or, not_exists, not_and, not_forall, not_not, forall_exists_index]

theorem noPanic_getCell_iff (t : DataType) (v : Value σ) (oid : Oid) (name : String) :
    NoPanic (CellReader.getCell t v oid name) ↔
      (oid ∈ listOids → ∃ element, t = .list element) ∧ (oid = INT2OID → t ≠ .int64) := by
  rw [← list_arm_iff, ← lookup_number_i16_iff, CellReader.getCell]
  cases found : arms.lookup oid with
  | none => simp [NoPanic]
  | some arm =>
    simp only [Option.some.injEq, Option.bind_some]
    rw [← not_mismatched_iff]
    constructor
    · intro noPanic mismatched
      obtain ⟨array, panics⟩ := panics_of_mismatched mismatched v
      rw [panics] at noPanic
      exact noPanic array rfl
    · intro suited
      cases answered : readArm arm t v with
      | none => simp [NoPanic]
      | some answer => exact noPanic_of_suited answered suited

theorem panics_map_iff {α γ : Type} {result : Except ConversionFault α} {f : α → γ} :
    Panics (result.map f) ↔ Panics result := by
  cases result <;> simp [Panics, Except.map]

theorem not_panics_mapError {α : Type} (made : Except String α) :
    ¬Panics (made.mapError ConversionFault.error) := by
  cases made <;> simp [Panics, Except.mapError]

theorem panics_convert_iff (datum : IntervalDatum) (checked : Bool) (interval : DayTime) :
    Panics (Intervals.convert datum checked .dayTime interval) ↔
      checked = true ∧ ¬Fits .dayTime interval := by
  by_cases fits : Fits .dayTime interval
  · rw [convert_dayTime datum checked fits]
    exact ⟨fun panics => absurd panics (not_panics_mapError _), fun h => absurd fits h.2⟩
  · have overflows := mt (product_toInt_iff interval.milliseconds).mp fits
    cases checked with
    | false =>
      rw [Intervals.convert, mulI32, if_neg (by simp)]
      exact ⟨fun panics => absurd panics (not_panics_mapError _), fun h => absurd h.1 (by simp)⟩
    | true =>
      rw [Intervals.convert, mulI32, if_pos ⟨rfl, overflows⟩]
      exact ⟨fun _ => ⟨rfl, fits⟩, fun _ => .inl rfl⟩

theorem panics_convertCell_iff (conversions : Conversions σ β) (checked : Bool) (t : DataType)
    (cell : CellReader.Cell (Single σ)) :
    Panics (convertCell conversions checked t cell) ↔
      checked = true ∧ t = .interval .dayTime ∧
        ∃ interval, cell = .single .interval (.dayTime interval) ∧ ¬Fits .dayTime interval := by
  rw [convertCell.eq_def]
  split
  · next interval =>
    rw [panics_map_iff, panics_convert_iff]
    simp
  · next other =>
    refine ⟨fun panics => absurd panics (not_panics_mapError _), ?_⟩
    rintro ⟨-, rfl, interval, rfl, -⟩
    exact absurd rfl (other interval rfl)

theorem getCell_dayTime_iff (v : Value (Single σ)) (oid : Oid) (name : String)
    (interval : DayTime) :
    CellReader.getCell (.interval .dayTime) v oid name =
        .ok (some (.single .interval (.dayTime interval))) ↔
      oid = INTERVALOID ∧ v = .single (.dayTime interval) := by
  constructor
  · intro read
    rw [CellReader.getCell] at read
    cases found : arms.lookup oid with
    | none => rw [found] at read; cases read
    | some arm =>
      rw [found, Option.bind_some] at read
      cases arm with
      | interval =>
        refine ⟨(lookup_interval_iff oid).mp found, ?_⟩
        cases v with
        | single value =>
          cases read
          rfl
        | null | list | struct => cases read
      | number kind => cases kind <;> cases read
      | _ => cases read
  · rintro ⟨rfl, rfl⟩
    rfl

theorem not_panics_convertEntry_iff {α : Type} {convert : α → Except ConversionFault β}
    {entry : Except ReadFault (Option α)} :
    ¬Panics (convertEntry convert entry) ↔
      NoPanic entry ∧ ∀ cell, entry = .ok (some cell) → ¬Panics (convert cell) := by
  cases entry with
  | error fault => simp [Panics, convertEntry, NoPanic]
  | ok found =>
    cases found with
    | none => simp [Panics, convertEntry, NoPanic]
    | some cell => simp [convertEntry, panics_map_iff, NoPanic]

theorem not_panics_iff (conversions : Conversions σ β) (checked : Bool)
    (array : ArrowArray (Single σ) n) (index : Fin n) (oid : Oid) (name : String) :
    ¬Panics (getCell conversions checked array index oid name) ↔
      Compatible checked array index oid := by
  rw [getCell, not_panics_convertEntry_iff, ArrayReader.getCell_eq, noPanic_getCell_iff]
  simp only [panics_convertCell_iff]
  constructor
  · rintro ⟨⟨lists, int2⟩, product⟩
    refine ⟨lists, int2, fun checks oid_eq type interval value => ?_⟩
    by_contra beyond
    refine product (.single .interval (.dayTime interval)) ?_ ⟨checks, type, interval, rfl, beyond⟩
    rw [type]
    exact (getCell_dayTime_iff _ oid name interval).mpr ⟨oid_eq, value⟩
  · intro compatible
    refine ⟨⟨compatible.lists, compatible.int2⟩, ?_⟩
    rintro cell read ⟨checks, type, interval, rfl, beyond⟩
    rw [type] at read
    obtain ⟨oid_eq, value⟩ := (getCell_dayTime_iff _ oid name interval).mp read
    exact beyond (compatible.product checks oid_eq type interval value)

def accepting : Conversions Unit Unit where
  datum := parts
  interval _ := ()
  convert _ _ := .ok ()

def oneEntry (t : DataType) (scalar : t.arrayType ∉ nested) (value : Single Unit) :
    ArrowArray (Single Unit) 1 :=
  .flat t scalar ![value] none

theorem columns_panic :
    Panics (getCell accepting false (oneEntry .int64 (by decide) (.other ())) 0 INT2OID "a") ∧
      Panics (getCell accepting false (oneEntry .utf8 (by decide) (.other ())) 0 TEXTARRAYOID
        "a") ∧
      Panics (getCell accepting true
        (oneEntry (.interval .dayTime) (by decide) (.dayTime ⟨0, 2147484⟩)) 0 INTERVALOID "a") :=
  ⟨.inr ⟨"primitive array", rfl⟩, .inr ⟨"list array", rfl⟩, .inl rfl⟩

end PgAnalytics.CellPanics
