import Mathlib.Algebra.Order.Round
import Mathlib.Data.Rat.Floor
import PgAnalytics.Dates

/-! Timestamps: a timestamp of Arrow becomes a civil time, whose fields make one of Postgres.
The fraction of the second goes through a division of integers. -/

namespace PgAnalytics.Timestamps
open CellReader RecordBatches CivilCalendar Dates

/-- A time zone: the seconds that its clocks are ahead by, at a second of UTC. -/
structure Zone where
  offset : ℤ → ℤ
  lt_day : ∀ second, |offset second| < 86400

structure Chrono where
  datetime : ℤ → Option CivilTime
  datetimeWithTz : Zone → ℤ → Option CivilTime
  fromStr : String → Except String Zone
  nanoseconds_datetime : ∀ {n t}, datetime n = some t → t.nanoseconds = n
  nanoseconds_datetimeWithTz : ∀ {zone n t}, datetimeWithTz zone n = some t →
    t.nanoseconds = n + 1000000000 * zone.offset (n / 1000000000)
  datetime_isSome : ∀ {n}, 1 ≤ (CivilTime.ofNanoseconds n).date.year →
    (CivilTime.ofNanoseconds n).date.year ≤ 9999 → (datetime n).isSome
  year_le : ∀ {zone n t}, datetimeWithTz zone n = some t → t.date.year ≤ 262142

structure CivilFields where
  year : ℤ
  month : ℕ
  day : ℕ
  hour : ℕ
  minute : ℕ
  second : ℚ

/-- The microseconds since 1970 that the fields denote, in the calendar's years. -/
def CivilFields.micros (fields : CivilFields) : Option ℤ :=
  if date : IsDate fields.year fields.month fields.day then
    if fields.hour < 24 ∧ fields.minute < 60 ∧ 0 ≤ fields.second ∧ fields.second < 60 then
      some (86400000000 * CivilDate.dayNumber ⟨fields.year, fields.month, fields.day, date⟩ +
        ((3600000000 * fields.hour + 60000000 * fields.minute : ℕ) : ℤ) +
        round (fields.second * 1000000))
    else none
  else none

structure TimestampDatum where
  Timestamp : Type
  micros : Timestamp → ℤ
  new : CivilFields → Except String Timestamp
  new_denotes : ∀ {fields us}, fields.micros = some us → 1 ≤ fields.year → fields.year ≤ 9999 →
    ∃ timestamp, new fields = .ok timestamp ∧ micros timestamp = us

structure TimestampTzDatum (β : Type) where
  new : CivilFields → Except String β
  withTimezone : CivilFields → String → Except String β

def NANOSECONDS_IN_SECOND : ℕ := 1000000000

/-- The arguments that `TryFrom<DateTimeNoTz>` and `TryFrom<DateTimeTz>` give a constructor. -/
def civilFields (datetime : CivilTime) : CivilFields where
  year := datetime.date.year
  month := asU8 datetime.date.month
  day := asU8 datetime.date.day
  hour := asU8 datetime.hour
  minute := asU8 datetime.minute
  second := (datetime.second + datetime.nanosecond / NANOSECONDS_IN_SECOND : ℕ)

def nanosPerUnit : TimeUnit → ℤ
  | .second => 1000000000
  | .millisecond => 1000000
  | .microsecond => 1000
  | .nanosecond => 1

def instant (unit : TimeUnit) (value : Int64) : ℤ := nanosPerUnit unit * value.toInt

variable (chrono : Chrono) (datum : TimestampDatum) {β : Type} (tzDatum : TimestampTzDatum β)

def convertTimestamp (unit : TimeUnit) (value : Int64) :
    Except ConversionFault datum.Timestamp :=
  match chrono.datetime (instant unit value) with
  | none => .error (.error "failed to convert timestamp to NaiveDateTime")
  | some datetime => (datum.new (civilFields datetime)).mapError .error

def getTimestampValue (unit : TimeUnit) (t : DataType) (v : Value Int64) :
    Except ConversionFault (Option datum.Timestamp) :=
  convertEntry (convertTimestamp chrono datum unit) (CellReader.getTimestampValue unit t v)

def convertTimestamptz (unit : TimeUnit) (tz : Option String) (value : Int64) :
    Except ConversionFault β :=
  match tz with
  | some tz => do
    let zone ← (chrono.fromStr tz).mapError .error
    match chrono.datetimeWithTz zone (instant unit value) with
    | none => .error (.error "failed to convert timestamp to NaiveDateTime")
    | some datetime => (tzDatum.withTimezone (civilFields datetime) tz).mapError .error
  | none =>
    match chrono.datetime (instant unit value) with
    | none => .error (.error "failed to convert timestamp to NaiveDateTime")
    | some datetime => (tzDatum.new (civilFields datetime)).mapError .error

def getTimestamptzValue (unit : TimeUnit) (tz : Option String) (t : DataType) (v : Value Int64) :
    Except ConversionFault (Option β) :=
  convertEntry (convertTimestamptz chrono tzDatum unit tz)
    (CellReader.getTimestamptzValue unit t v)

theorem getCell_timestamp (unit : TimeUnit) (tz : Option String) (v : Value Int64)
    (name : String) :
    CellReader.getCell (.timestamp unit tz) v TIMESTAMPOID name =
      cell .timestamp (CellReader.getTimestampValue unit (.timestamp unit tz) v) := rfl

theorem getCell_timestamptz (unit : TimeUnit) (tz : Option String) (v : Value Int64)
    (name : String) :
    CellReader.getCell (.timestamp unit tz) v TIMESTAMPTZOID name =
      cell .timestamptz (CellReader.getTimestamptzValue unit (.timestamp unit tz) v) := rfl

theorem asU8_of_lt {n : ℕ} (small : n < 256) : asU8 n = n := Nat.mod_eq_of_lt small

theorem civilFields_eq (t : CivilTime) :
    civilFields t = ⟨t.date.year, t.date.month, t.date.day, t.hour, t.minute, t.second⟩ := by
  obtain ⟨hour, minute, _, nanosecond⟩ := t.valid
  have whole : t.nanosecond / NANOSECONDS_IN_SECOND = 0 := Nat.div_eq_of_lt nanosecond
  simp only [civilFields, asU8_month, asU8_day, whole, add_zero]
  rw [asU8_of_lt (by omega), asU8_of_lt (by omega)]

theorem micros_civilFields (t : CivilTime) :
    (civilFields t).micros = some (1000000 * t.seconds) := by
  obtain ⟨hour, minute, second, _⟩ := t.valid
  have clock : t.hour < 24 ∧ t.minute < 60 ∧ (0 : ℚ) ≤ t.second ∧ (t.second : ℚ) < 60 :=
    ⟨hour, minute, Nat.cast_nonneg _, by exact_mod_cast second⟩
  have rounded : round ((t.second : ℚ) * 1000000) = (t.second * 1000000 : ℕ) := by
    have cast : (t.second : ℚ) * 1000000 = ((t.second * 1000000 : ℕ) : ℚ) := by push_cast; rfl
    rw [cast, round_natCast]
  rw [civilFields_eq, CivilFields.micros, dif_pos t.date.valid, if_pos clock, rounded]
  simp only [CivilTime.seconds, Option.some.injEq]
  change 86400000000 * t.date.dayNumber + _ + _ = _
  push_cast
  omega

def passing : TimestampTzDatum CivilFields where
  new := .ok
  withTimezone fields _ := .ok fields

structure KeepsMicroseconds (unit : TimeUnit) (value : Int64) : Prop where
  timestamp : ∀ tz, ∃ timestamp,
    getTimestampValue chrono datum unit (.timestamp unit tz) (.single value) =
      .ok (some timestamp) ∧ datum.micros timestamp = instant unit value / 1000
  passed : ∃ fields,
    getTimestamptzValue chrono passing unit none (.timestamp unit none) (.single value) =
      .ok (some fields) ∧ fields.micros = some (instant unit value / 1000)

theorem getTimestampValue_eq_ok_iff (unit : TimeUnit) (tz : Option String) {value : Int64}
    {t : CivilTime} (represented : chrono.datetime (instant unit value) = some t)
    (timestamp : datum.Timestamp) :
    getTimestampValue chrono datum unit (.timestamp unit tz) (.single value) =
      .ok (some timestamp) ↔ datum.new (civilFields t) = .ok timestamp := by
  have found := asPrimitive_single (.timestamp unit) (.timestamp unit tz) rfl value
  rw [getTimestampValue, CellReader.getTimestampValue, convertEntry_single _ found,
    convertTimestamp, represented]
  exact mapError_eq_ok_iff

theorem getTimestamptzValue_passes {unit : TimeUnit} {value : Int64} {t : CivilTime}
    (represented : chrono.datetime (instant unit value) = some t) :
    getTimestamptzValue chrono passing unit none (.timestamp unit none) (.single value) =
      .ok (some (civilFields t)) := by
  have found := asPrimitive_single (.timestamp unit) (.timestamp unit none) rfl value
  rw [getTimestamptzValue, CellReader.getTimestamptzValue, convertEntry_single _ found,
    convertTimestamptz, represented]
  rfl

/-- The instant lies in the years that timestamps are kept for. -/
def InEra (unit : TimeUnit) (value : Int64) : Prop :=
  1 ≤ (CivilTime.ofNanoseconds (instant unit value)).date.year ∧
    (CivilTime.ofNanoseconds (instant unit value)).date.year ≤ 9999

instance (unit : TimeUnit) (value : Int64) : Decidable (InEra unit value) :=
  inferInstanceAs (Decidable (_ ∧ _))

theorem datetime_eq {unit : TimeUnit} {value : Int64} (era : InEra unit value) :
    chrono.datetime (instant unit value) = some (.ofNanoseconds (instant unit value)) := by
  obtain ⟨t, represented⟩ := Option.isSome_iff_exists.mp (chrono.datetime_isSome era.1 era.2)
  have number := chrono.nanoseconds_datetime represented
  rw [represented, Option.some.injEq]
  exact CivilTime.nanosecondEquiv.eq_symm_apply.mpr number

theorem getTimestampValue_floors {unit : TimeUnit} {value : Int64} (era : InEra unit value)
    (tz : Option String) : ∃ timestamp,
      getTimestampValue chrono datum unit (.timestamp unit tz) (.single value) =
        .ok (some timestamp) ∧
      datum.micros timestamp = 1000000 * (instant unit value / 1000000000) := by
  have represented := datetime_eq chrono era
  have denoted := micros_civilFields (.ofNanoseconds (instant unit value))
  obtain ⟨timestamp, built, micros⟩ := datum.new_denotes denoted era.1 era.2
  rw [CivilTime.seconds_ofNanoseconds] at micros
  exact ⟨timestamp,
    (getTimestampValue_eq_ok_iff chrono datum unit tz represented timestamp).mpr built, micros⟩

theorem getTimestamptzValue_floors {unit : TimeUnit} {value : Int64} (era : InEra unit value) :
    ∃ fields, getTimestamptzValue chrono passing unit none (.timestamp unit none) (.single value) =
        .ok (some fields) ∧
      fields.micros = some (1000000 * (instant unit value / 1000000000)) := by
  have denoted := micros_civilFields (.ofNanoseconds (instant unit value))
  rw [CivilTime.seconds_ofNanoseconds] at denoted
  exact ⟨_, getTimestamptzValue_passes chrono (datetime_eq chrono era), denoted⟩

theorem keepsMicroseconds_iff (unit : TimeUnit) (value : Int64) (era : InEra unit value) :
    KeepsMicroseconds chrono datum unit value ↔ instant unit value / 1000 % 1000000 = 0 := by
  have whole : 1000000 * (instant unit value / 1000000000) = instant unit value / 1000 ↔
      instant unit value / 1000 % 1000000 = 0 := by omega
  rw [← whole]
  obtain ⟨passed, floored, floor⟩ := getTimestamptzValue_floors chrono era
  constructor
  · intro keeps
    obtain ⟨fields, answered, micros⟩ := keeps.passed
    rw [floored] at answered
    cases answered
    exact Option.some.inj (floor.symm.trans micros)
  · intro kept
    constructor
    · intro tz
      obtain ⟨timestamp, answered, micros⟩ := getTimestampValue_floors chrono datum era tz
      exact ⟨timestamp, answered, micros.trans kept⟩
    · exact ⟨passed, floored, kept ▸ floor⟩

/-- The years of `NaiveDate`, and one time zone. -/
def clocks (name : String) (zone : Zone) : Chrono where
  datetime n :=
    if -262143 ≤ (CivilTime.ofNanoseconds n).date.year ∧
        (CivilTime.ofNanoseconds n).date.year ≤ 262142 then some (.ofNanoseconds n)
    else none
  datetimeWithTz zone n :=
    let read := CivilTime.ofNanoseconds (n + 1000000000 * zone.offset (n / 1000000000))
    if -262143 ≤ read.date.year ∧ read.date.year ≤ 262142 then some read else none
  fromStr asked := if asked = name then .ok zone else .error "failed to parse timezone"
  nanoseconds_datetime := by
    intro n t found
    rw [Option.ite_none_right_eq_some] at found
    rw [← Option.some.inj found.2, CivilTime.nanoseconds_ofNanoseconds]
  nanoseconds_datetimeWithTz := by
    intro zone n t found
    simp only [Option.ite_none_right_eq_some] at found
    rw [← Option.some.inj found.2, CivilTime.nanoseconds_ofNanoseconds]
  datetime_isSome := by
    intro n first last
    rw [if_pos ⟨by omega, by omega⟩]
    rfl
  year_le := by
    intro zone n t found
    simp only [Option.ite_none_right_eq_some] at found
    rw [← Option.some.inj found.2]
    exact found.1.2

def utc : Zone := ⟨fun _ => 0, by simp⟩

def microseconds : TimestampDatum where
  Timestamp := ℤ
  micros := id
  new fields := fields.micros.elim (.error "timestamp out of range") .ok
  new_denotes := by
    intro fields us denoted _ _
    exact ⟨us, by rw [denoted, Option.elim_some], rfl⟩

theorem keepsMicroseconds_iff_before_epoch :
    KeepsMicroseconds (clocks "UTC" utc) microseconds .second (-1) ↔
      instant .second (-1) / 1000 % 1000000 = 0 :=
  keepsMicroseconds_iff (clocks "UTC" utc) microseconds .second (-1) (by decide)

theorem half_second_lost :
    InEra .millisecond 1500 ∧ (∃ timestamp : ℤ,
      getTimestampValue (clocks "UTC" utc) microseconds .millisecond (.timestamp .millisecond none)
        (.single 1500) = .ok (some timestamp) ∧ timestamp = 1000000) ∧
      ¬KeepsMicroseconds (clocks "UTC" utc) microseconds .millisecond 1500 := by
  have era : InEra .millisecond 1500 := by decide
  have floored := getTimestampValue_floors (clocks "UTC" utc) microseconds era none
  refine ⟨era, floored, fun keeps => ?_⟩
  obtain ⟨passed, answered, floor⟩ := getTimestamptzValue_floors (clocks "UTC" utc) era
  obtain ⟨fields, kept, micros⟩ := keeps.passed
  rw [answered] at kept
  cases kept
  rw [floor] at micros
  revert micros
  decide

end PgAnalytics.Timestamps
