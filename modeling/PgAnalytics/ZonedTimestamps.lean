import Mathlib.Data.Int.LeastGreatest
import PgAnalytics.Timestamps

/-! Timestamps with a time zone pass through the reading of a clock: the instant goes to the
civil time in the zone, and its fields go back to an instant by the zone's name. -/

namespace PgAnalytics.ZonedTimestamps
open CellReader RecordBatches CivilCalendar Dates Timestamps

def reading (zone : Zone) (second : ℤ) : ℤ := second + zone.offset second

theorem within_days {zone : Zone} {first second : ℤ}
    (same : reading zone second = reading zone first) : second < first + 172800 := by
  have ahead := abs_lt.mp (zone.lt_day first)
  have behind := abs_lt.mp (zone.lt_day second)
  unfold reading at same
  omega

/-- The clock does not show this reading again. -/
def ShownLast (zone : Zone) (second : ℤ) : Prop :=
  ∀ later, second < later → reading zone later ≠ reading zone second

theorem exists_shownLast (zone : Zone) (second : ℤ) :
    ∃ last, second ≤ last ∧ reading zone last = reading zone second ∧ ShownLast zone last := by
  have bounded : ∀ s, reading zone s = reading zone second → s ≤ second + 172800 :=
    fun s same => (within_days same).le
  obtain ⟨last, shown, greatest⟩ :=
    Int.exists_greatest_of_bdd ⟨second + 172800, bounded⟩ ⟨second, rfl⟩
  refine ⟨last, greatest second rfl, shown, fun later after again => ?_⟩
  exact absurd (greatest later (again.trans shown)) (not_le.mpr after)

/-- The microseconds of the reading that `make_timestamptz` takes the fields for. -/
def makeReading (fields : CivilFields) : Option ℤ :=
  (makeDateYear fields.year).bind fun year => CivilFields.micros { fields with year }

/-- `datum::TimestampWithTimeZone` where Postgres has the zone under the name. The instant is
the reading less an offset of the zone, and after a change back the later instant. -/
structure ZoneDatum (zone : Zone) (name : String) where
  TimestampTz : Type
  micros : TimestampTz → ℤ
  constructors : TimestampTzDatum TimestampTz
  withTimezone_sound : ∀ {fields timestamp},
    constructors.withTimezone fields name = .ok timestamp →
      ∃ shown second, makeReading fields = some shown ∧
        micros timestamp = shown - 1000000 * zone.offset second
  withTimezone_last : ∀ {fields second}, 1 ≤ fields.year → fields.year ≤ 262142 →
    makeReading fields = some (1000000 * reading zone second) → ShownLast zone second →
      ∃ timestamp, constructors.withTimezone fields name = .ok timestamp ∧
        micros timestamp = 1000000 * second

variable (chrono : Chrono) {zone : Zone} {name : String} (datum : ZoneDatum zone name)

def getZoned (unit : TimeUnit) (value : Int64) :
    Except ConversionFault (Option datum.TimestampTz) :=
  Timestamps.getTimestamptzValue chrono datum.constructors unit (some name)
    (.timestamp unit (some name)) (.single value)

def secondOf (unit : TimeUnit) (value : Int64) : ℤ := instant unit value / 1000000000

def KeepsSecond (unit : TimeUnit) (value : Int64) : Prop :=
  ∃ timestamp, getZoned chrono datum unit value = .ok (some timestamp) ∧
    datum.micros timestamp / 1000000 = secondOf unit value

structure KeepsInstants (unit unit' : TimeUnit) (value value' : Int64) : Prop where
  first : KeepsSecond chrono datum unit value
  second : KeepsSecond chrono datum unit' value'
  apart : ∃ timestamp timestamp', getZoned chrono datum unit value = .ok (some timestamp) ∧
    getZoned chrono datum unit' value' = .ok (some timestamp') ∧
    datum.micros timestamp ≠ datum.micros timestamp'

/-- The value has a civil time in the zone, after Christ, which is not shown again. -/
def ReadOnce (zone : Zone) (unit : TimeUnit) (value : Int64) : Prop :=
  (∃ t, chrono.datetimeWithTz zone (instant unit value) = some t ∧ 1 ≤ t.date.year) ∧
    ShownLast zone (secondOf unit value)

theorem seconds_eq_reading {unit : TimeUnit} {value : Int64} {t : CivilTime}
    (represented : chrono.datetimeWithTz zone (instant unit value) = some t) :
    t.seconds = reading zone (secondOf unit value) := by
  have number := chrono.nanoseconds_datetimeWithTz represented
  have below := t.valid.2.2.2
  unfold CivilTime.nanoseconds at number
  unfold reading secondOf
  omega

theorem getZoned_eq (known : chrono.fromStr name = .ok zone) {unit : TimeUnit} {value : Int64}
    {t : CivilTime} (represented : chrono.datetimeWithTz zone (instant unit value) = some t) :
    getZoned chrono datum unit value =
      ((datum.constructors.withTimezone (civilFields t) name).mapError .error).map some := by
  have found := asPrimitive_single (.timestamp unit) (.timestamp unit (some name)) rfl value
  rw [getZoned, Timestamps.getTimestamptzValue, CellReader.getTimestamptzValue, found,
    convertEntry, convertTimestamptz, known]
  simp only [Except.mapError, bind, Except.bind, represented]

theorem getZoned_eq_ok_iff (known : chrono.fromStr name = .ok zone) {unit : TimeUnit}
    {value : Int64} {t : CivilTime}
    (represented : chrono.datetimeWithTz zone (instant unit value) = some t)
    (timestamp : datum.TimestampTz) :
    getZoned chrono datum unit value = .ok (some timestamp) ↔
      datum.constructors.withTimezone (civilFields t) name = .ok timestamp := by
  rw [getZoned_eq chrono datum known represented]
  cases datum.constructors.withTimezone (civilFields t) name <;> simp [Except.mapError, Except.map]

theorem represented_of_ok (known : chrono.fromStr name = .ok zone) {unit : TimeUnit}
    {value : Int64} {timestamp : datum.TimestampTz}
    (answered : getZoned chrono datum unit value = .ok (some timestamp)) :
    ∃ t, chrono.datetimeWithTz zone (instant unit value) = some t := by
  refine Option.ne_none_iff_exists'.mp fun beyond => ?_
  have found := asPrimitive_single (.timestamp unit) (.timestamp unit (some name)) rfl value
  rw [getZoned, Timestamps.getTimestamptzValue, CellReader.getTimestamptzValue,
    convertEntry_single _ found, convertTimestamptz, known] at answered
  simp [Except.mapError, bind, Except.bind, beyond] at answered

/-- Whatever the constructors do, values at one reading are answered alike. -/
theorem getZoned_eq_of_reading_eq (known : chrono.fromStr name = .ok zone) {unit unit' : TimeUnit}
    {value value' : Int64} {t t' : CivilTime}
    (represented : chrono.datetimeWithTz zone (instant unit value) = some t)
    (represented' : chrono.datetimeWithTz zone (instant unit' value') = some t')
    (same : reading zone (secondOf unit value) = reading zone (secondOf unit' value')) :
    getZoned chrono datum unit value = getZoned chrono datum unit' value' := by
  have seconds : t.seconds = t'.seconds := by
    rw [seconds_eq_reading chrono represented, seconds_eq_reading chrono represented', same]
  obtain ⟨date, hour, minute, second⟩ := CivilTime.eq_of_seconds_eq seconds
  rw [getZoned_eq chrono datum known represented, getZoned_eq chrono datum known represented',
    civilFields_eq, civilFields_eq, date, hour, minute, second]

theorem makeReading_civilFields {t : CivilTime} (year : 1 ≤ t.date.year) :
    makeReading (civilFields t) = some (1000000 * t.seconds) := by
  have kept := (makeDateYear_eq_self_iff (civilFields t).year).mpr year
  rw [makeReading, kept, Option.bind_some]
  exact micros_civilFields t

theorem later_of_makeReading {t : CivilTime} {shown : ℤ} (before : t.date.year < 1)
    (taken : makeReading (civilFields t) = some shown) :
    1000000 * (t.seconds + 364 * 86400) ≤ shown := by
  rw [makeReading, civilFields_eq, Option.bind_eq_some_iff] at taken
  obtain ⟨year, next, micros⟩ := taken
  have succ : year = t.date.year + 1 := by
    unfold makeDateYear at next
    dsimp only at next
    split at next
    · cases next
    · split at next
      · exact (Option.some.inj next).symm
      · omega
  by_cases date : IsDate year t.date.month t.date.day
  · have later := CivilDate.dayNumber_succ_year (c := t.date)
      (d := ⟨year, t.date.month, t.date.day, date⟩) succ rfl rfl
    have denoted := micros_civilFields { t with date := ⟨year, t.date.month, t.date.day, date⟩ }
    rw [civilFields_eq] at denoted
    have equal := Option.some.inj (denoted.symm.trans micros)
    simp only [CivilTime.seconds] at equal ⊢
    omega
  · rw [CivilFields.micros, dif_neg date] at micros
    cases micros

/-- A reading before Christ is not brought back to its instant: it is most of a year off. -/
theorem year_of_kept {t : CivilTime} {second : ℤ} {timestamp : datum.TimestampTz}
    (seconds : t.seconds = reading zone second)
    (built : datum.constructors.withTimezone (civilFields t) name = .ok timestamp)
    (kept : datum.micros timestamp / 1000000 = second) : 1 ≤ t.date.year := by
  by_contra before
  obtain ⟨shown, changed, taken, micros⟩ := datum.withTimezone_sound built
  have later := later_of_makeReading (not_le.mp before) taken
  have ahead := abs_lt.mp (zone.lt_day second)
  have behind := abs_lt.mp (zone.lt_day changed)
  unfold reading at seconds
  omega

theorem keepsSecond_iff (known : chrono.fromStr name = .ok zone) (unit : TimeUnit)
    (value : Int64) : KeepsSecond chrono datum unit value ↔ ReadOnce chrono zone unit value := by
  constructor
  · rintro ⟨timestamp, answered, kept⟩
    obtain ⟨t, represented⟩ := represented_of_ok chrono datum known answered
    have built := (getZoned_eq_ok_iff chrono datum known represented timestamp).mp answered
    have seconds := seconds_eq_reading chrono represented
    have year := year_of_kept datum seconds built kept
    refine ⟨⟨t, represented, year⟩, ?_⟩
    obtain ⟨last, after, same, shownLast⟩ := exists_shownLast zone (secondOf unit value)
    have taken := makeReading_civilFields year
    rw [seconds, ← same] at taken
    obtain ⟨timestamp', rebuilt, micros⟩ :=
      datum.withTimezone_last year (chrono.year_le represented) taken shownLast
    rw [built, Except.ok.injEq] at rebuilt
    subst rebuilt
    have equal : last = secondOf unit value := by omega
    exact equal ▸ shownLast
  · rintro ⟨⟨t, represented, year⟩, shownLast⟩
    have taken := makeReading_civilFields year
    rw [seconds_eq_reading chrono represented] at taken
    obtain ⟨timestamp, built, micros⟩ :=
      datum.withTimezone_last year (chrono.year_le represented) taken shownLast
    exact ⟨timestamp, (getZoned_eq_ok_iff chrono datum known represented timestamp).mpr built,
      by omega⟩

theorem keepsInstants_iff (known : chrono.fromStr name = .ok zone) (unit unit' : TimeUnit)
    (value value' : Int64) (different : secondOf unit value ≠ secondOf unit' value') :
    KeepsInstants chrono datum unit unit' value value' ↔
      ReadOnce chrono zone unit value ∧ ReadOnce chrono zone unit' value' := by
  constructor
  · intro keeps
    exact ⟨(keepsSecond_iff chrono datum known unit value).mp keeps.first,
      (keepsSecond_iff chrono datum known unit' value').mp keeps.second⟩
  · rintro ⟨once, once'⟩
    have first := (keepsSecond_iff chrono datum known unit value).mpr once
    have second := (keepsSecond_iff chrono datum known unit' value').mpr once'
    refine ⟨first, second, ?_⟩
    obtain ⟨timestamp, answered, kept⟩ := first
    obtain ⟨timestamp', answered', kept'⟩ := second
    refine ⟨timestamp, timestamp', answered, answered', fun same => different ?_⟩
    rw [← kept, ← kept', same]

/-- The last change of 2023, from two hours ahead to one. -/
def paris : Zone where
  offset second := if second < 1698541200 then 7200 else 3600
  lt_day second := by split <;> decide

def parisInstant (shown : ℤ) : ℤ :=
  if 1698544800000000 ≤ shown then shown - 3600000000 else shown - 7200000000

def makeParis (fields : CivilFields) : Except String ℤ :=
  (makeReading fields).elim (.error "timestamp out of range") (.ok ∘ parisInstant)

def parisDatum : ZoneDatum paris "Europe/Paris" where
  TimestampTz := ℤ
  micros := id
  constructors := { new := makeParis, withTimezone := fun fields _ => makeParis fields }
  withTimezone_sound := by
    intro fields timestamp built
    dsimp only [makeParis] at built
    cases taken : makeReading fields with
    | none => simp [taken] at built
    | some shown =>
      rw [taken, Option.elim_some] at built
      cases built
      refine ⟨shown, if 1698544800000000 ≤ shown then 1698541200 else 0, rfl, ?_⟩
      simp only [parisInstant, paris, id]
      split <;> simp
  withTimezone_last := by
    intro fields second _ _ taken last
    dsimp only [makeParis]
    rw [taken]
    refine ⟨parisInstant (1000000 * reading paris second), rfl, ?_⟩
    have unshown := last (second + 3600)
    simp only [parisInstant, reading, paris, id] at unshown ⊢
    split <;> split <;> split at unshown <;> omega

theorem keepsInstants_iff_summer :
    KeepsInstants (clocks "Europe/Paris" paris) parisDatum .second .millisecond 1690000000
        1690000001500 ↔
      ReadOnce (clocks "Europe/Paris" paris) paris .second 1690000000 ∧
        ReadOnce (clocks "Europe/Paris" paris) paris .millisecond 1690000001500 :=
  keepsInstants_iff (clocks "Europe/Paris" paris) parisDatum rfl .second .millisecond 1690000000
    1690000001500 (by decide)

theorem repeated_hour_collapses :
    secondOf .second 1698539400 ≠ secondOf .second 1698543000 ∧
      getZoned (clocks "Europe/Paris" paris) parisDatum .second 1698539400 =
        getZoned (clocks "Europe/Paris" paris) parisDatum .second 1698543000 ∧
      ¬KeepsInstants (clocks "Europe/Paris" paris) parisDatum .second .second 1698539400
        1698543000 := by
  have alike : getZoned (clocks "Europe/Paris" paris) parisDatum .second 1698539400 =
      getZoned (clocks "Europe/Paris" paris) parisDatum .second 1698543000 :=
    getZoned_eq_of_reading_eq _ parisDatum rfl rfl rfl rfl
  refine ⟨by decide, alike, fun keeps => ?_⟩
  obtain ⟨timestamp, timestamp', answered, answered', apart⟩ := keeps.apart
  rw [alike, answered'] at answered
  cases answered
  exact apart rfl

end PgAnalytics.ZonedTimestamps
