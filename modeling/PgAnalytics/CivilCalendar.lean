import Mathlib.Algebra.Order.Ring.Int
import Mathlib.Logic.Equiv.Defs
import Mathlib.Order.Monotone.Basic

/-! The proleptic Gregorian calendar, in which year 0 is 1 BC. Days are numbered from
1970-01-01; a day is a place in a month, and a month a block of a year. -/

namespace PgAnalytics.CivilCalendar

/-- The block that a position is in, and its place there. -/
def locate : List ℕ → ℕ → ℕ × ℕ
  | [], n => (0, n)
  | length :: rest, n =>
    if n < length then (0, n)
    else ((locate rest (n - length)).1 + 1, (locate rest (n - length)).2)

def position (lengths : List ℕ) (block place : ℕ) : ℕ := (lengths.take block).sum + place

theorem position_locate {lengths : List ℕ} {n : ℕ} (inside : n < lengths.sum) :
    position lengths (locate lengths n).1 (locate lengths n).2 = n := by
  induction lengths generalizing n with
  | nil => simp at inside
  | cons length rest ih =>
    rw [locate]
    split
    · simp [position]
    · have tail := @ih (n - length) (by
        rw [List.sum_cons] at inside
        omega)
      simp only [position, List.take_succ_cons, List.sum_cons] at tail ⊢
      omega

theorem locate_lt {lengths : List ℕ} {n : ℕ} (inside : n < lengths.sum) :
    (locate lengths n).2 < lengths.getD (locate lengths n).1 0 := by
  induction lengths generalizing n with
  | nil => simp at inside
  | cons length rest ih =>
    rw [locate]
    split
    · simpa
    · rw [List.getD_cons_succ]
      refine ih ?_
      rw [List.sum_cons] at inside
      omega

theorem locate_position {lengths : List ℕ} {block place : ℕ}
    (inside : place < lengths.getD block 0) :
    locate lengths (position lengths block place) = (block, place) := by
  induction lengths generalizing block with
  | nil => simp at inside
  | cons length rest ih =>
    cases block with
    | zero => simpa [position, locate] using inside
    | succ block =>
      rw [List.getD_cons_succ] at inside
      have later : position (length :: rest) (block + 1) place =
          length + position rest block place := by
        simp only [position, List.take_succ_cons, List.sum_cons]
        omega
      rw [later, locate, if_neg (by omega), Nat.add_sub_cancel_left, ih inside]

theorem position_lt {lengths : List ℕ} {block place : ℕ}
    (inside : place < lengths.getD block 0) : position lengths block place < lengths.sum := by
  induction lengths generalizing block with
  | nil => simp at inside
  | cons length rest ih =>
    cases block with
    | zero =>
      simp only [List.getD_cons_zero] at inside
      simp only [position, List.take_zero, List.sum_nil, List.sum_cons]
      omega
    | succ block =>
      rw [List.getD_cons_succ] at inside
      have tail := ih inside
      simp only [position, List.take_succ_cons, List.sum_cons] at tail ⊢
      omega

def IsLeap (year : ℤ) : Prop := year % 4 = 0 ∧ (year % 100 ≠ 0 ∨ year % 400 = 0)

instance (year : ℤ) : Decidable (IsLeap year) := inferInstanceAs (Decidable (_ ∧ _))

def monthLengths (year : ℤ) : List ℕ :=
  [31, if IsLeap year then 29 else 28, 31, 30, 31, 30, 31, 31, 30, 31, 30, 31]

/-- The number of the first day of a year; 477 leap years come before 1970. -/
def yearStart (year : ℤ) : ℤ :=
  365 * (year - 1970) + ((year - 1) / 4 - (year - 1) / 100 + (year - 1) / 400 - 477)

theorem sum_monthLengths (year : ℤ) :
    (monthLengths year).sum = if IsLeap year then 366 else 365 := by
  unfold monthLengths
  split <;> rfl

theorem yearStart_succ (year : ℤ) :
    yearStart (year + 1) = yearStart year + ((monthLengths year).sum : ℕ) := by
  rw [sum_monthLengths]
  by_cases leap : IsLeap year
  · rw [if_pos leap]
    unfold IsLeap at leap
    unfold yearStart
    omega
  · rw [if_neg leap]
    unfold IsLeap at leap
    unfold yearStart
    omega

theorem yearStart_lt_iff (year year' : ℤ) : yearStart year < yearStart year' ↔ year < year' := by
  have strict : StrictMono yearStart := by
    refine strictMono_int_of_lt_succ fun year => ?_
    rw [yearStart_succ, sum_monthLengths]
    split <;> omega
  exact strict.lt_iff_lt

/-- A guess from the mean length of a year is off by one at most. -/
def yearOf (n : ℤ) : ℤ :=
  let guess := 1970 + 400 * n / 146097
  if n < yearStart guess then guess - 1 else if yearStart (guess + 1) ≤ n then guess + 1 else guess

theorem yearStart_le (n : ℤ) : yearStart (yearOf n) ≤ n := by
  unfold yearOf
  dsimp only
  split
  · unfold yearStart
    omega
  · split
    · assumption
    · omega

theorem lt_yearStart_succ (n : ℤ) : n < yearStart (yearOf n + 1) := by
  unfold yearOf
  dsimp only
  split
  · simpa using ‹n < _›
  · split
    · unfold yearStart
      omega
    · omega

theorem le_yearOf_iff (year n : ℤ) : year ≤ yearOf n ↔ yearStart year ≤ n := by
  have started := yearStart_le n
  have inside := lt_yearStart_succ n
  constructor
  · intro before
    have later := (yearStart_lt_iff (yearOf n) year).not.mpr (not_lt.mpr before)
    omega
  · intro reached
    have earlier := (yearStart_lt_iff year (yearOf n + 1)).mp (by omega)
    omega

theorem yearOf_eq {year n : ℤ} (started : yearStart year ≤ n) (inside : n < yearStart (year + 1)) :
    yearOf n = year := by
  have low := (le_yearOf_iff year n).mpr started
  have high := mt (le_yearOf_iff (year + 1) n).mp (not_le.mpr inside)
  omega

def monthLength (year : ℤ) (month : ℕ) : ℕ := (monthLengths year).getD (month - 1) 0

theorem monthLength_le (year : ℤ) (month : ℕ) : monthLength year month ≤ 31 := by
  have bound : ∀ length ∈ monthLengths year, length ≤ 31 := by
    intro length mem
    simp only [monthLengths, List.mem_cons, List.not_mem_nil, or_false] at mem
    split at mem <;> omega
  rw [monthLength, List.getD_eq_getElem?_getD]
  cases found : (monthLengths year)[month - 1]? with
  | none => simp
  | some length => exact bound length (List.mem_of_getElem? found)

def IsDate (year : ℤ) (month day : ℕ) : Prop :=
  1 ≤ month ∧ 1 ≤ day ∧ day ≤ monthLength year month

instance (year : ℤ) (month day : ℕ) : Decidable (IsDate year month day) :=
  inferInstanceAs (Decidable (_ ∧ _))

@[ext] structure CivilDate where
  year : ℤ
  month : ℕ
  day : ℕ
  valid : IsDate year month day
  deriving DecidableEq

namespace CivilDate

theorem day_place (d : CivilDate) : d.day - 1 < (monthLengths d.year).getD (d.month - 1) 0 := by
  obtain ⟨_, first, last⟩ := d.valid
  change d.day - 1 < monthLength d.year d.month
  omega

theorem month_le (d : CivilDate) : d.month ≤ 12 := by
  by_contra late
  have beyond : (monthLengths d.year).length ≤ d.month - 1 := by
    simp only [monthLengths, List.length_cons, List.length_nil]
    omega
  have place := d.day_place
  rw [List.getD_eq_getElem?_getD, List.getElem?_eq_none beyond] at place
  exact absurd place (Nat.not_lt_zero _)

theorem day_le (d : CivilDate) : d.day ≤ 31 := d.valid.2.2.trans (monthLength_le ..)

def dayNumber (d : CivilDate) : ℤ :=
  yearStart d.year + (position (monthLengths d.year) (d.month - 1) (d.day - 1) : ℕ)

def dayOfYear (n : ℤ) : ℕ := (n - yearStart (yearOf n)).toNat

theorem dayOfYear_lt (n : ℤ) : dayOfYear n < (monthLengths (yearOf n)).sum := by
  have started := yearStart_le n
  have inside := lt_yearStart_succ n
  rw [yearStart_succ] at inside
  unfold dayOfYear
  omega

def ofDayNumber (n : ℤ) : CivilDate where
  year := yearOf n
  month := (locate (monthLengths (yearOf n)) (dayOfYear n)).1 + 1
  day := (locate (monthLengths (yearOf n)) (dayOfYear n)).2 + 1
  valid := ⟨Nat.le_add_left .., Nat.le_add_left .., locate_lt (dayOfYear_lt n)⟩

theorem dayNumber_ofDayNumber (n : ℤ) : (ofDayNumber n).dayNumber = n := by
  have place := position_locate (dayOfYear_lt n)
  have started := yearStart_le n
  simp only [dayNumber, ofDayNumber, Nat.add_sub_cancel, place]
  unfold dayOfYear
  omega

theorem yearOf_dayNumber (d : CivilDate) : yearOf d.dayNumber = d.year := by
  have inside := position_lt d.day_place
  apply yearOf_eq
  · unfold dayNumber
    omega
  · rw [yearStart_succ]
    unfold dayNumber
    omega

theorem ofDayNumber_dayNumber (d : CivilDate) : ofDayNumber d.dayNumber = d := by
  have year := d.yearOf_dayNumber
  have place : dayOfYear d.dayNumber =
      position (monthLengths d.year) (d.month - 1) (d.day - 1) := by
    rw [dayOfYear, year, dayNumber]
    omega
  have located := locate_position d.day_place
  obtain ⟨month, day, _⟩ := d.valid
  ext
  · exact year
  · simp only [ofDayNumber, year, place, located]
    omega
  · simp only [ofDayNumber, year, place, located]
    omega

def dayEquiv : CivilDate ≃ ℤ where
  toFun := dayNumber
  invFun := ofDayNumber
  left_inv := ofDayNumber_dayNumber
  right_inv := dayNumber_ofDayNumber

-- 2000-02-29 and 0000-12-31
example : (ofDayNumber 11016).day = 29 ∧ (ofDayNumber (-719163)).day = 31 := by decide

theorem dayNumber_injective : Function.Injective dayNumber := dayEquiv.injective

theorem le_year_iff (year : ℤ) (d : CivilDate) : year ≤ d.year ↔ yearStart year ≤ d.dayNumber := by
  rw [← le_yearOf_iff, yearOf_dayNumber]

theorem sum_take_monthLengths_le (year year' : ℤ) (months : ℕ) :
    ((monthLengths year).take months).sum ≤ ((monthLengths year').take months).sum + 1 := by
  match months with
  | 0 | 1 => simp [monthLengths]
  | months + 2 =>
    simp only [monthLengths, List.take_succ_cons, List.sum_cons]
    split <;> split <;> omega

theorem dayNumber_succ_year {c d : CivilDate} (year : d.year = c.year + 1)
    (month : d.month = c.month) (day : d.day = c.day) : c.dayNumber + 364 ≤ d.dayNumber := by
  have months := sum_take_monthLengths_le c.year d.year (c.month - 1)
  have length : 365 ≤ (monthLengths c.year).sum := by
    rw [sum_monthLengths]
    split <;> omega
  have next := yearStart_succ c.year
  rw [← year] at next
  simp only [dayNumber, position, month, day, next]
  omega

end CivilDate

@[ext] structure CivilTime where
  date : CivilDate
  hour : ℕ
  minute : ℕ
  second : ℕ
  nanosecond : ℕ
  valid : hour < 24 ∧ minute < 60 ∧ second < 60 ∧ nanosecond < 1000000000
  deriving DecidableEq

namespace CivilTime

def seconds (t : CivilTime) : ℤ :=
  86400 * t.date.dayNumber + ((3600 * t.hour + 60 * t.minute + t.second : ℕ) : ℤ)

def nanoseconds (t : CivilTime) : ℤ := 1000000000 * t.seconds + (t.nanosecond : ℤ)

def ofNanoseconds (n : ℤ) : CivilTime where
  date := .ofDayNumber (n / 86400000000000)
  hour := (n % 86400000000000).toNat / 3600000000000
  minute := (n % 3600000000000).toNat / 60000000000
  second := (n % 60000000000).toNat / 1000000000
  nanosecond := (n % 1000000000).toNat
  valid := by omega

theorem seconds_ofNanoseconds (n : ℤ) : (ofNanoseconds n).seconds = n / 1000000000 := by
  simp only [seconds, ofNanoseconds, CivilDate.dayNumber_ofDayNumber]
  omega

theorem nanoseconds_ofNanoseconds (n : ℤ) : (ofNanoseconds n).nanoseconds = n := by
  rw [nanoseconds, seconds_ofNanoseconds]
  simp only [ofNanoseconds]
  omega

theorem eq_of_seconds_eq {s t : CivilTime} (same : s.seconds = t.seconds) :
    s.date = t.date ∧ s.hour = t.hour ∧ s.minute = t.minute ∧ s.second = t.second := by
  obtain ⟨_, _, _, _⟩ := s.valid
  obtain ⟨_, _, _, _⟩ := t.valid
  unfold seconds at same
  refine ⟨CivilDate.dayNumber_injective ?_, ?_, ?_, ?_⟩ <;> omega

theorem nanoseconds_injective : Function.Injective nanoseconds := by
  intro s t same
  have below := s.valid.2.2.2
  have below' := t.valid.2.2.2
  unfold nanoseconds at same
  obtain ⟨date, hour, minute, second⟩ := @eq_of_seconds_eq s t (by omega)
  ext1 <;> first | assumption | omega

def nanosecondEquiv : CivilTime ≃ ℤ where
  toFun := nanoseconds
  invFun := ofNanoseconds
  left_inv t := nanoseconds_injective (nanoseconds_ofNanoseconds t.nanoseconds)
  right_inv := nanoseconds_ofNanoseconds

end CivilTime

end PgAnalytics.CivilCalendar
