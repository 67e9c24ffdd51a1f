import PgAnalytics.CellReader

/-! Intervals: the three layouts of Arrow go to months, days and microseconds. The layout of
days and milliseconds scales its milliseconds in 32 bits. -/

namespace PgAnalytics.Intervals
open CellReader RecordBatches

structure DayTime where
  days : Int32
  milliseconds : Int32
  deriving DecidableEq, Repr

structure MonthDayNano where
  months : Int32
  days : Int32
  nanoseconds : Int64
  deriving DecidableEq, Repr

abbrev Native : IntervalUnit → Type
  | .yearMonth => Int32
  | .dayTime => DayTime
  | .monthDayNano => MonthDayNano

structure IntervalDatum where
  Interval : Type
  months : Interval → ℤ
  days : Interval → ℤ
  micros : Interval → ℤ
  new : Int32 → Int32 → Int64 → Except String Interval
  fromMonths : Int32 → Interval
  new_stores : ∀ {m d us interval}, new m d us = .ok interval →
    months interval = m.toInt ∧ days interval = d.toInt ∧ micros interval = us.toInt
  fromMonths_stores : ∀ m, months (fromMonths m) = m.toInt ∧ days (fromMonths m) = 0 ∧
    micros (fromMonths m) = 0

variable (datum : IntervalDatum)

/-- The product of two `i32`, in a build that checks for overflow or in one that wraps. -/
def mulI32 (checked : Bool) (a b : Int32) : Except ConversionFault Int32 :=
  if checked ∧ (a * b).toInt ≠ a.toInt * b.toInt then .error .overflow else .ok (a * b)

def convert (checked : Bool) : (unit : IntervalUnit) → Native unit →
    Except ConversionFault datum.Interval
  | .dayTime, interval => do
    let micros ← mulI32 checked interval.milliseconds 1000
    (datum.new 0 interval.days micros.toInt64).mapError .error
  | .monthDayNano, interval =>
    (datum.new interval.months interval.days (interval.nanoseconds / 1000)).mapError .error
  | .yearMonth, months => .ok (datum.fromMonths months)

/-- The getters of the three layouts; the arms of `get_cell` call the one of their unit. -/
def getIntervalValue (checked : Bool) (unit : IntervalUnit) (t : DataType)
    (v : Value (Native unit)) : Except ConversionFault (Option datum.Interval) :=
  convertEntry (convert datum checked unit) (CellReader.getIntervalValue unit t v)

def getIntervalDayTimeValue (checked : Bool) := getIntervalValue datum checked .dayTime

def getIntervalMonthDayNanoValue (checked : Bool) := getIntervalValue datum checked .monthDayNano

def getIntervalYearMonthValue (checked : Bool) := getIntervalValue datum checked .yearMonth

theorem getCell_interval (unit : IntervalUnit) (v : Value (Native unit)) (name : String) :
    CellReader.getCell (.interval unit) v INTERVALOID name =
      cell .interval (CellReader.getIntervalValue unit (.interval unit) v) := rfl

def monthsOf : (unit : IntervalUnit) → Native unit → ℤ
  | .yearMonth, months => months.toInt
  | .dayTime, _ => 0
  | .monthDayNano, interval => interval.months.toInt

def daysOf : (unit : IntervalUnit) → Native unit → ℤ
  | .yearMonth, _ => 0
  | .dayTime, interval => interval.days.toInt
  | .monthDayNano, interval => interval.days.toInt

/-- Microseconds, rounded toward zero. -/
def microsOf : (unit : IntervalUnit) → Native unit → ℤ
  | .yearMonth, _ => 0
  | .dayTime, interval => 1000 * interval.milliseconds.toInt
  | .monthDayNano, interval => interval.nanoseconds.toInt.tdiv 1000

structure KeepsLength (unit : IntervalUnit) (v : Native unit) : Prop where
  noOverflow : ∀ checked,
    getIntervalValue datum checked unit (.interval unit) (.single v) ≠ .error .overflow
  length : ∀ checked interval,
    getIntervalValue datum checked unit (.interval unit) (.single v) = .ok (some interval) →
      datum.months interval = monthsOf unit v ∧ datum.days interval = daysOf unit v ∧
        datum.micros interval = microsOf unit v

/-- The microseconds fit into the 32 bits that they are computed in. -/
def Fits : (unit : IntervalUnit) → Native unit → Prop
  | .dayTime, interval =>
    -2147483 ≤ interval.milliseconds.toInt ∧ interval.milliseconds.toInt ≤ 2147483
  | _, _ => True

theorem product_toInt_iff (ms : Int32) :
    (ms * 1000).toInt = ms.toInt * (1000 : Int32).toInt ↔
      -2147483 ≤ ms.toInt ∧ ms.toInt ≤ 2147483 := by
  have thousand : (1000 : Int32).toInt = 1000 := by decide
  rw [Int32.toInt_mul, thousand, Int.bmod_eq_iff (by decide)]
  omega

theorem mulI32_eq (checked : Bool) {a b : Int32} (exact : (a * b).toInt = a.toInt * b.toInt) :
    mulI32 checked a b = .ok (a * b) := by
  rw [mulI32, if_neg]
  exact fun overflows => overflows.2 exact

theorem convert_dayTime (checked : Bool) {interval : DayTime} (fits : Fits .dayTime interval) :
    convert datum checked .dayTime interval =
      (datum.new 0 interval.days (interval.milliseconds * 1000).toInt64).mapError .error := by
  rw [convert, mulI32_eq checked ((product_toInt_iff _).mpr fits)]
  rfl

theorem new_ne_overflow (months days : Int32) (micros : Int64) :
    (datum.new months days micros).mapError ConversionFault.error ≠ .error .overflow := by
  cases datum.new months days micros <;> simp [Except.mapError]

theorem new_stores {months days : Int32} {micros : Int64} {interval : datum.Interval}
    (built : (datum.new months days micros).mapError ConversionFault.error = .ok interval) :
    datum.months interval = months.toInt ∧ datum.days interval = days.toInt ∧
      datum.micros interval = micros.toInt :=
  datum.new_stores (mapError_eq_ok_iff.mp built)

theorem convert_ne_overflow (checked : Bool) (unit : IntervalUnit) (v : Native unit)
    (fits : Fits unit v) : convert datum checked unit v ≠ .error .overflow := by
  cases unit with
  | yearMonth => simp [convert]
  | dayTime =>
    rw [convert_dayTime datum checked fits]
    exact new_ne_overflow datum _ _ _
  | monthDayNano => exact new_ne_overflow datum _ _ _

theorem convert_stores {checked : Bool} {unit : IntervalUnit} {v : Native unit}
    {interval : datum.Interval} (fits : Fits unit v)
    (built : convert datum checked unit v = .ok interval) :
    datum.months interval = monthsOf unit v ∧ datum.days interval = daysOf unit v ∧
      datum.micros interval = microsOf unit v := by
  cases unit with
  | yearMonth =>
    cases built
    exact datum.fromMonths_stores v
  | dayTime =>
    rw [convert_dayTime datum checked fits] at built
    obtain ⟨months, days, micros⟩ := new_stores datum built
    have product := (product_toInt_iff v.milliseconds).mpr fits
    refine ⟨months, days, ?_⟩
    rw [micros, Int32.toInt_toInt64, product, mul_comm]
    rfl
  | monthDayNano =>
    obtain ⟨months, days, micros⟩ := new_stores datum built
    refine ⟨months, days, ?_⟩
    rw [micros, Int64.toInt_div_of_ne_right _ _ (by decide)]
    rfl

theorem getIntervalValue_eq (checked : Bool) (unit : IntervalUnit) (v : Native unit) :
    getIntervalValue datum checked unit (.interval unit) (.single v) =
      (convert datum checked unit v).map some := by
  cases unit <;> rfl

theorem keepsLength_of_fits (unit : IntervalUnit) (v : Native unit) (fits : Fits unit v) :
    KeepsLength datum unit v := by
  constructor
  · intro checked overflows
    rw [getIntervalValue_eq] at overflows
    apply convert_ne_overflow datum checked unit v fits
    cases built : convert datum checked unit v with
    | ok interval => simp [built, Except.map] at overflows
    | error fault =>
      rw [built] at overflows
      cases overflows
      rfl
  · intro checked interval answered
    rw [getIntervalValue_eq] at answered
    cases built : convert datum checked unit v with
    | error fault => simp [built, Except.map] at answered
    | ok found =>
      rw [built] at answered
      cases answered
      exact convert_stores datum fits built

theorem fits_of_noOverflow (unit : IntervalUnit) (v : Native unit)
    (noOverflow :
      getIntervalValue datum true unit (.interval unit) (.single v) ≠ .error .overflow) :
    Fits unit v := by
  cases unit with
  | yearMonth | monthDayNano => trivial
  | dayTime =>
    by_contra beyond
    apply noOverflow
    have overflows := mt (product_toInt_iff v.milliseconds).mp beyond
    rw [getIntervalValue_eq, convert, mulI32, if_pos ⟨rfl, overflows⟩]
    rfl

theorem keepsLength_iff (unit : IntervalUnit) (v : Native unit) :
    KeepsLength datum unit v ↔ Fits unit v := by
  constructor
  · intro keeps
    exact fits_of_noOverflow datum unit v (keeps.noOverflow true)
  · exact keepsLength_of_fits datum unit v

def parts : IntervalDatum where
  Interval := ℤ × ℤ × ℤ
  months i := i.1
  days i := i.2.1
  micros i := i.2.2
  new m d us := .ok (m.toInt, d.toInt, us.toInt)
  fromMonths m := (m.toInt, 0, 0)
  new_stores := by
    intro m d us interval stored
    cases stored
    exact ⟨rfl, rfl, rfl⟩
  fromMonths_stores _ := ⟨rfl, rfl, rfl⟩

theorem minutes_overflow :
    getIntervalDayTimeValue parts false (.interval .dayTime) (.single ⟨0, 2147484⟩) =
        .ok (some (0, 0, -2147483296)) ∧
      getIntervalDayTimeValue parts true (.interval .dayTime) (.single ⟨0, 2147484⟩) =
        .error .overflow ∧
      ¬KeepsLength parts .dayTime ⟨0, 2147484⟩ := by
  have panics : getIntervalDayTimeValue parts true (.interval .dayTime) (.single ⟨0, 2147484⟩) =
      .error .overflow := by rfl
  exact ⟨by rfl, panics, fun keeps => keeps.noOverflow true panics⟩

end PgAnalytics.Intervals
