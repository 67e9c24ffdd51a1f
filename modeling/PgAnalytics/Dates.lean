import PgAnalytics.CellReader
import PgAnalytics.CivilCalendar

/-! Dates: a date of Arrow becomes a civil date, and its fields those of a date of Postgres,
which counts the years before Christ without a year 0. -/

namespace PgAnalytics.Dates
open CellReader RecordBatches CivilCalendar

structure NaiveDates where
  naiveDate : ℤ → Option CivilDate
  dayNumber_naiveDate : ∀ {n d}, naiveDate n = some d → d.dayNumber = n

/-- The year of the calendar that `make_date` takes a year for. -/
def makeDateYear (year : ℤ) : Option ℤ :=
  if year = 0 then none else if year < 0 then some (year + 1) else some year

/-- From the first Julian day, 4714-11-24 BC, to 5874897-12-31. -/
def InPostgres (n : ℤ) : Prop := -2440588 ≤ n ∧ n ≤ 2145042905

instance (n : ℤ) : Decidable (InPostgres n) := inferInstanceAs (Decidable (_ ∧ _))

example : InPostgres (CivilDate.dayNumber ⟨-4713, 11, 24, by decide⟩) ∧
    ¬InPostgres (CivilDate.dayNumber ⟨-4713, 11, 23, by decide⟩) ∧
    InPostgres (CivilDate.dayNumber ⟨5874897, 12, 31, by decide⟩) ∧
    ¬InPostgres (CivilDate.dayNumber ⟨5874898, 1, 1, by decide⟩) := by decide

structure DateDatum where
  Date : Type
  dayNumber : Date → ℤ
  new : ℤ → ℕ → ℕ → Except String Date
  new_sound : ∀ {year month day date}, new year month day = .ok date → ∃ d : CivilDate,
    makeDateYear year = some d.year ∧ d.month = month ∧ d.day = day ∧ dayNumber date = d.dayNumber
  new_complete : ∀ {year} {d : CivilDate}, makeDateYear year = some d.year →
    InPostgres d.dayNumber → ∃ date, new year d.month d.day = .ok date

inductive DateValue where
  | date32 (days : Int32)
  | date64 (milliseconds : Int64)

namespace DateValue

def dataType : DateValue → DataType
  | .date32 _ => .date32
  | .date64 _ => .date64

def day : DateValue → ℤ
  | .date32 days => days.toInt
  | .date64 milliseconds => milliseconds.toInt / 86400000

end DateValue

variable (chrono : NaiveDates) (datum : DateDatum)

def asU8 (n : ℕ) : ℕ := n % 256

/-- `TryFrom<Date>`. -/
def tryFrom (date : CivilDate) : Except String datum.Date :=
  datum.new date.year (asU8 date.month) (asU8 date.day)

def convert (value : DateValue) : Except ConversionFault datum.Date :=
  match chrono.naiveDate value.day with
  | none => .error (.error "failed to convert date to NaiveDate")
  | some date => (tryFrom datum date).mapError .error

def getDateValue (target : ArrayType) (t : DataType) (v : Value DateValue) :
    Except ConversionFault (Option datum.Date) :=
  convertEntry (convert chrono datum) (CellReader.getDateValue target t v)

/-- What the arm of `get_cell` calls for a value. -/
def getDate (value : DateValue) : Except ConversionFault (Option datum.Date) :=
  getDateValue chrono datum value.dataType.arrayType value.dataType (.single value)

theorem getCell_date (value : DateValue) (name : String) :
    CellReader.getCell value.dataType (.single value) DATEOID name =
      cell .date (CellReader.getDateValue value.dataType.arrayType value.dataType
        (.single value)) := by
  cases value <;> rfl

def KeepsDay (value : DateValue) : Prop :=
  ∃ date, getDate chrono datum value = .ok (some date) ∧ datum.dayNumber date = value.day

theorem asU8_month (d : CivilDate) : asU8 d.month = d.month := by
  have bound := d.month_le
  exact Nat.mod_eq_of_lt (by omega)

theorem asU8_day (d : CivilDate) : asU8 d.day = d.day := by
  have bound := d.day_le
  exact Nat.mod_eq_of_lt (by omega)

theorem makeDateYear_eq_self_iff (year : ℤ) : makeDateYear year = some year ↔ 1 ≤ year := by
  unfold makeDateYear
  split
  · simp
    omega
  · split
    · simp
      omega
    · simp
      omega

theorem getDate_eq_ok_iff {value : DateValue} {d : CivilDate}
    (represented : chrono.naiveDate value.day = some d) (date : datum.Date) :
    getDate chrono datum value = .ok (some date) ↔ datum.new d.year d.month d.day = .ok date := by
  rw [getDate, getDateValue, CellReader.getDateValue,
    convertEntry_single _ (asPrimitive_single _ value.dataType rfl value), convert, represented]
  simp only [tryFrom, asU8_month, asU8_day, mapError_eq_ok_iff]

theorem new_dayNumber_iff (d : CivilDate) (storable : InPostgres d.dayNumber) :
    (∃ date, datum.new d.year d.month d.day = .ok date ∧ datum.dayNumber date = d.dayNumber) ↔
      1 ≤ d.year := by
  rw [← makeDateYear_eq_self_iff]
  constructor
  · rintro ⟨date, built, same⟩
    obtain ⟨stored, year, _, _, number⟩ := datum.new_sound built
    have equal : stored = d := CivilDate.dayNumber_injective (number.symm.trans same)
    rw [year, equal]
  · intro kept
    obtain ⟨date, built⟩ := datum.new_complete kept storable
    obtain ⟨stored, year, month, day, number⟩ := datum.new_sound built
    have equal : stored = d := by
      ext
      · exact (Option.some.inj (kept.symm.trans year)).symm
      · exact month
      · exact day
    exact ⟨date, built, equal ▸ number⟩

theorem keepsDay_iff (value : DateValue) (represented : (chrono.naiveDate value.day).isSome)
    (storable : InPostgres value.day) :
    KeepsDay chrono datum value ↔ -719162 ≤ value.day := by
  obtain ⟨d, found⟩ := Option.isSome_iff_exists.mp represented
  have number := chrono.dayNumber_naiveDate found
  have first : yearStart 1 = -719162 := by decide
  rw [← number, ← first, ← CivilDate.le_year_iff, ← new_dayNumber_iff datum d (number ▸ storable)]
  simp only [KeepsDay, getDate_eq_ok_iff chrono datum found, number]

/-- `NaiveDate::MIN` and `NaiveDate::MAX` are in the years -262143 and 262142. -/
def naiveDates : NaiveDates where
  naiveDate n := if -262143 ≤ yearOf n ∧ yearOf n ≤ 262142 then some (.ofDayNumber n) else none
  dayNumber_naiveDate := by
    intro n d found
    rw [Option.ite_none_right_eq_some] at found
    rw [← Option.some.inj found.2, CivilDate.dayNumber_ofDayNumber]

def makeDate (year : ℤ) (month day : ℕ) : Except String ℤ :=
  (makeDateYear year).elim (.error "date field value out of range") fun year =>
    if date : IsDate year month day then
      if InPostgres (CivilDate.dayNumber ⟨year, month, day, date⟩) then
        .ok (CivilDate.dayNumber ⟨year, month, day, date⟩)
      else .error "date out of range"
    else .error "date field value out of range"

def dayNumbers : DateDatum where
  Date := ℤ
  dayNumber := id
  new := makeDate
  new_sound := by
    intro year month day date built
    unfold makeDate at built
    cases found : makeDateYear year with
    | none => simp [found] at built
    | some calendarYear =>
      rw [found, Option.elim_some] at built
      split at built
      · split at built
        · exact ⟨⟨calendarYear, month, day, ‹_›⟩, rfl, rfl, rfl, (Except.ok.inj built).symm⟩
        · cases built
      · cases built
  new_complete := by
    intro year d found storable
    refine ⟨d.dayNumber, ?_⟩
    rw [makeDate, found, Option.elim_some, dif_pos d.valid, if_pos storable]

theorem keepsDay_iff_epoch :
    KeepsDay naiveDates dayNumbers (.date64 (-1)) ↔ -719162 ≤ (DateValue.date64 (-1)).day :=
  keepsDay_iff naiveDates dayNumbers (.date64 (-1)) (by decide) (by decide)

theorem last_day_of_year_zero_lost :
    getDate naiveDates dayNumbers (.date32 (-719163)) =
        .error (.error "date field value out of range") ∧
      (naiveDates.naiveDate (-719163)).isSome ∧ InPostgres (DateValue.date32 (-719163)).day ∧
      ¬KeepsDay naiveDates dayNumbers (.date32 (-719163)) := by
  have lost : getDate naiveDates dayNumbers (.date32 (-719163)) =
      .error (.error "date field value out of range") := by rfl
  refine ⟨lost, by decide, by decide, ?_⟩
  rintro ⟨date, answered, _⟩
  rw [lost] at answered
  cases answered

end PgAnalytics.Dates
