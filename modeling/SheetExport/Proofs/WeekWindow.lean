import Mathlib
import SheetExport.Proofs.StorageOrder
import SheetExport.FailingSteps

/-!
# The weekly filter counts each instant in its ISO week

The weekly summaries count the events whose stored time lies between the storage texts of the
window's first and last second, comparing text. For a window whose years have four digits and an
instant of such a year, that text comparison says exactly that the instant falls in the seven
days from the window's Monday at midnight: the storage form orders values to the second, and the
window's last second is the one before the next Monday. The windows start at multiples of seven
days from January 1 of year 1, a Monday, so the window of a base instant is the ISO week that
contains it, and an instant is counted in one window only, its own.

Two weeks fall outside: the week of January 1 of year 1000 starts in year 999, whose storage texts
have three digits in the year and sort after every later year, and the last ISO week of 9999 has
no window, its Sunday falling in year 10000 (`ofInstant_refuses_last_iso_week_of_9999`). The events
of these weeks are counted in no week.
-/

namespace SheetExport.Calendar

theorem microsPerSecond_eq : microsPerSecond = 1000000 := rfl

theorem microsPerMinute_eq : microsPerMinute = 60000000 := by
  norm_num [microsPerMinute, microsPerSecond]

theorem microsPerHour_eq : microsPerHour = 3600000000 := by
  norm_num [microsPerHour, microsPerMinute, microsPerSecond]

theorem microsPerDay_eq : microsPerDay = 86400000000 := by
  norm_num [microsPerDay, microsPerHour, microsPerMinute, microsPerSecond]

namespace DateTime

/-- A value whose date is valid and whose time of day is in range. -/
structure Valid (value : DateTime) : Prop where
  date_valid : value.date.Valid
  hour_lt : value.hour < 24
  minute_lt : value.minute < 60
  second_lt : value.second < 60
  microsecond_lt : value.microsecond < 1000000

/-- Validity does not look at the offset. -/
theorem Valid.withOffset {value : DateTime} (valid : value.Valid) (offset : Option Int) :
    ({ value with offset := offset } : DateTime).Valid :=
  ⟨valid.date_valid, valid.hour_lt, valid.minute_lt, valid.second_lt, valid.microsecond_lt⟩

/-- The month, the day and the clock of a valid value fit the places the written forms give
them. -/
theorem Valid.fields_fit {value : DateTime} (valid : value.Valid) :
    value.date.month < 10 ^ 2 ∧ value.date.day < 10 ^ 2 ∧ value.hour < 10 ^ 2 ∧
      value.minute < 10 ^ 2 ∧ value.second < 10 ^ 2 ∧ value.microsecond < 10 ^ 6 := by
  have := valid.date_valid.month_le
  have := valid.date_valid.day_le
  have := Date.daysInMonth_le value.date.year value.date.month
  have := valid.hour_lt
  have := valid.minute_lt
  have := valid.second_lt
  have := valid.microsecond_lt
  omega

/-- A value that passes its checks is valid, in the years 1 to 9999. -/
theorem valid_of_check {value : DateTime} (checked : value.check = .ok value) :
    value.Valid ∧ 1 ≤ value.date.year ∧ value.date.year ≤ 9999 := by
  unfold check at checked
  dsimp only at checked
  split_ifs at checked with year month day hour minute second micro
  simp only [Bool.or_eq_true, decide_eq_true_eq, not_or, not_lt] at year month day
  exact ⟨⟨⟨month.1, month.2, day.1, day.2⟩, by omega, by omega, by omega, by omega⟩,
    year.1, year.2⟩

theorem check_of_valid {value : DateTime} (valid : value.Valid) (early : 1 ≤ value.date.year)
    (late : value.date.year ≤ 9999) : value.check = .ok value := by
  have := valid.date_valid.month_pos
  have := valid.date_valid.month_le
  have := valid.date_valid.day_pos
  have := valid.date_valid.day_le
  have := valid.hour_lt
  have := valid.minute_lt
  have := valid.second_lt
  have := valid.microsecond_lt
  unfold check
  rw [if_neg (by simp; omega), if_neg (by simp; omega), if_neg (by simp; omega),
    if_neg (by omega), if_neg (by omega), if_neg (by omega), if_neg (by omega)]

/-- The microseconds of a valid value split into its whole seconds and the rest. -/
theorem localMicros_eq (value : DateTime) :
    value.localMicros = value.wholeSeconds * 1000000 + value.microsecond := by
  simp only [localMicros, timeOfDay, wholeSeconds, microsPerDay_eq, microsPerHour_eq,
    microsPerMinute_eq, microsPerSecond_eq]
  ring

theorem wholeSeconds_eq_div {value : DateTime} (valid : value.Valid) :
    value.wholeSeconds = value.localMicros / 1000000 := by
  have := valid.microsecond_lt
  rw [localMicros_eq]
  omega

/-- A valid value falls within its day. -/
theorem localMicros_bounds {value : DateTime} (valid : value.Valid) :
    (value.date.toOrdinal - 1) * microsPerDay ≤ value.localMicros ∧
      value.localMicros < value.date.toOrdinal * microsPerDay := by
  have := valid.hour_lt
  have := valid.minute_lt
  have := valid.second_lt
  have := valid.microsecond_lt
  simp only [localMicros, timeOfDay, microsPerDay_eq, microsPerHour_eq,
    microsPerMinute_eq, microsPerSecond_eq]
  omega

theorem valid_ofLocalMicros (micros : Int) (offset : Option Int) :
    (ofLocalMicros micros offset).Valid := by
  refine ⟨Date.ofOrdinal_valid _, ?_, ?_, ?_, ?_⟩ <;>
    simp only [ofLocalMicros, microsPerDay_eq, microsPerHour_eq, microsPerMinute_eq,
      microsPerSecond_eq] <;> omega

/-- The hours, minutes, seconds and microseconds that a time of day splits into make it up
again. -/
theorem timeOfDay_fields {rest : Int} (nonnegative : 0 ≤ rest) :
    ((rest / 3600000000).toNat : Int) * 3600000000 +
      ((rest % 3600000000 / 60000000).toNat : Int) * 60000000 +
      ((rest % 60000000 / 1000000).toNat : Int) * 1000000 + ((rest % 1000000).toNat : Int) =
      rest := by
  have split : ∀ {unit larger : Int}, unit ∣ larger →
      rest % larger / unit * unit + rest % unit = rest % larger := fun divides => by
    rw [← Int.emod_emod_of_dvd rest divides, Int.ediv_mul_add_emod]
  have minutes : 0 ≤ rest % 3600000000 / 60000000 :=
    Int.ediv_nonneg (Int.emod_nonneg _ (by decide)) (by decide)
  have seconds : 0 ≤ rest % 60000000 / 1000000 :=
    Int.ediv_nonneg (Int.emod_nonneg _ (by decide)) (by decide)
  rw [Int.toNat_of_nonneg (Int.ediv_nonneg nonnegative (by decide)), Int.toNat_of_nonneg minutes,
    Int.toNat_of_nonneg seconds, Int.toNat_of_nonneg (Int.emod_nonneg _ (by decide)), add_assoc,
    split (by decide : (1000000 : Int) ∣ 60000000), add_assoc,
    split (by decide : (60000000 : Int) ∣ 3600000000), Int.ediv_mul_add_emod]

@[simp] theorem localMicros_ofLocalMicros (micros : Int) (offset : Option Int) :
    (ofLocalMicros micros offset).localMicros = micros := by
  have within : 0 ≤ micros % 86400000000 := Int.emod_nonneg _ (by decide)
  simp only [ofLocalMicros, localMicros, timeOfDay, Date.toOrdinal_ofOrdinal, microsPerDay_eq,
    microsPerHour_eq, microsPerMinute_eq, microsPerSecond_eq, add_sub_cancel_right]
  linarith [timeOfDay_fields within, Int.ediv_mul_add_emod micros 86400000000]

/-- A valid value is the value its own microseconds and offset give. -/
theorem ofLocalMicros_localMicros {value : DateTime} (valid : value.Valid) :
    ofLocalMicros value.localMicros value.offset = value := by
  have bounds := localMicros_bounds valid
  have days : value.localMicros / microsPerDay + 1 = value.date.toOrdinal := by
    rw [microsPerDay_eq] at bounds ⊢
    omega
  have := valid.hour_lt
  have := valid.minute_lt
  have := valid.second_lt
  have := valid.microsecond_lt
  obtain ⟨date, hour, minute, second, microsecond, offset⟩ := value
  simp only [ofLocalMicros, days, Date.ofOrdinal_toOrdinal valid.date_valid, mk.injEq, true_and,
    and_true]
  simp only [localMicros, timeOfDay, microsPerDay_eq, microsPerHour_eq,
    microsPerMinute_eq, microsPerSecond_eq] at *
  refine ⟨?_, ?_, ?_, ?_⟩ <;> omega

/-- Moving a value to UTC keeps its instant and gives a valid value, whose storage form is the
value's storage text. -/
theorem toUtc_spec {value utc : DateTime} (checked : value.check = .ok value)
    (converted : value.toUtc = .ok utc) :
    utc.Valid ∧ 1 ≤ utc.date.year ∧ utc.date.year ≤ 9999 ∧ utc.localMicros = value.utcMicros ∧
      value.stamp = .ok utc.storageText := by
  obtain ⟨valid, early, late⟩ := valid_of_check checked
  unfold toUtc at converted
  cases aware : value.offset with
  | none =>
      simp only [aware, Except.ok.injEq] at converted
      subst converted
      exact ⟨valid.withOffset _, early, late, by simp [localMicros, utcMicros, aware, timeOfDay],
        by simp [stamp, aware, storageText]⟩
  | some offset =>
      simp only [aware] at converted
      split_ifs at converted with outside
      simp only [Except.ok.injEq] at converted
      subst converted
      simp only [Bool.or_eq_true, decide_eq_true_eq, not_or, not_lt] at outside
      refine ⟨valid_ofLocalMicros _ _, outside.1, outside.2, localMicros_ofLocalMicros _ _, ?_⟩
      simp only [stamp, aware, toUtc, Bool.or_eq_true, decide_eq_true_eq]
      rw [if_neg (by omega)]
      rfl

/-- A valid value at UTC in the years 1 to 9999 is its own value in UTC. -/
theorem toUtc_of_utc {value : DateTime} (valid : value.Valid) (atUtc : value.offset = some 0)
    (early : 1 ≤ value.date.year) (late : value.date.year ≤ 9999) : value.toUtc = .ok value := by
  have same : ofLocalMicros value.utcMicros (some 0) = value := by
    have := ofLocalMicros_localMicros valid
    rw [atUtc] at this
    simpa [utcMicros, atUtc] using this
  simp only [toUtc, atUtc, same, Bool.or_eq_true, decide_eq_true_eq]
  rw [if_neg (by omega)]

/-- A writable value is valid with a four-digit year and a time of day. -/
theorem writable_of_valid {value : DateTime} (valid : value.Valid) (early : 1000 ≤ value.date.year)
    (late : value.date.year ≤ 9999) : value.Writable :=
  ⟨valid.date_valid, early, late, valid.hour_lt, valid.minute_lt, valid.second_lt⟩

/-- A valid value at UTC in the years 1 to 9999 is stored as its own storage text. -/
theorem stamp_of_utc {value : DateTime} (valid : value.Valid) (atUtc : value.offset = some 0)
    (early : 1 ≤ value.date.year) (late : value.date.year ≤ 9999) :
    value.stamp = .ok value.storageText := by
  simp only [stamp, atUtc, toUtc_of_utc valid atUtc early late]
  rfl

theorem storageText_le_iff {value other : DateTime} (writable : value.Writable)
    (writable' : other.Writable) :
    value.storageText ≤ other.storageText ↔ value.wholeSeconds ≤ other.wholeSeconds := by
  rw [← not_lt, storageText_lt_iff writable' writable, not_lt]

end DateTime

namespace Window

open DateTime

/-- The window of the ISO week whose Monday has the ordinal `monday`: from that Monday at
00:00:00 to the Sunday after it at 23:59:59, both at UTC. -/
def ofMonday (monday : Int) : Window :=
  ⟨atUtc (Date.ofOrdinal monday) 0 0 0, atUtc (Date.ofOrdinal (monday + 6)) 23 59 59⟩

/-- The window of an instant is the week from the Monday of its ISO calendar in UTC, a Monday
whose Sunday falls in year 9999 at the latest. -/
theorem ofInstant_eq_ok {base : DateTime} {window : Window}
    (windowed : ofInstant base = .ok window) :
    ∃ utc year week weekday, base.toUtc = .ok utc ∧ utc.date.isoCalendar = (year, week, weekday) ∧
      window = ofMonday (Date.isoOrdinal year week 1) ∧
      (Date.isoOrdinal year week 1 + 6) % 7 = 0 ∧
      (Date.ofOrdinal (Date.isoOrdinal year week 1 + 6)).year ≤ 9999 := by
  unfold ofInstant at windowed
  obtain ⟨utc, converted, windowed⟩ := bind_eq_ok.mp windowed
  rcases calendar : utc.date.isoCalendar with ⟨year, week, weekday⟩
  simp only [calendar, Date.isoOrdinal_seven] at windowed
  split_ifs at windowed with tooLate
  cases windowed
  have monday := (Date.weekOneMonday_bounds year).1
  refine ⟨utc, year, week, weekday, converted, calendar, rfl, ?_, not_lt.1 tooLate⟩
  simp only [Date.isoOrdinal]
  omega

/-- A valid date at a time of day in range, at UTC, is a valid value. -/
theorem atUtc_valid {date : Date} (valid : date.Valid) {hour minute second : Nat}
    (hourLt : hour < 24) (minuteLt : minute < 60) (secondLt : second < 60) :
    (atUtc date hour minute second).Valid :=
  ⟨valid, hourLt, minuteLt, secondLt, by simp [atUtc]⟩

theorem start_ofMonday_valid (monday : Int) : (ofMonday monday).start.Valid :=
  atUtc_valid (Date.ofOrdinal_valid _) (by decide) (by decide) (by decide)

theorem finish_ofMonday_valid (monday : Int) : (ofMonday monday).finish.Valid :=
  atUtc_valid (Date.ofOrdinal_valid _) (by decide) (by decide) (by decide)

theorem start_ofMonday_utcMicros (monday : Int) :
    (ofMonday monday).start.utcMicros = (monday - 1) * microsPerDay := by
  simp [ofMonday, atUtc, utcMicros, localMicros, timeOfDay]

theorem start_ofMonday_wholeSeconds (monday : Int) :
    (ofMonday monday).start.wholeSeconds = (monday - 1) * 86400 := by
  simp [ofMonday, atUtc, wholeSeconds]

theorem finish_ofMonday_wholeSeconds (monday : Int) :
    (ofMonday monday).finish.wholeSeconds = (monday - 1) * 86400 + 7 * 86400 - 1 := by
  simp only [ofMonday, atUtc, wholeSeconds, Date.toOrdinal_ofOrdinal]
  omega

/-- A window's Sunday comes after its Monday, so its years are in order. -/
theorem ofMonday_years_le (monday : Int) :
    (ofMonday monday).start.date.year ≤ (ofMonday monday).finish.date.year := by
  have ordered := (Date.Valid.toOrdinal_lt_iff (Date.ofOrdinal_valid monday)
    (Date.ofOrdinal_valid (monday + 6))).1 (by simp)
  simp only [ofMonday, atUtc]
  omega

/-- Whether a stored time lies between the storage texts of a window's first and last second, in
code-point order: the texts the windowed summaries bind, and the filter they apply to the stored
times of the events. -/
def Admits (window : Window) (text : String) : Prop :=
  ∃ first last, window.start.stamp = .ok first ∧ window.finish.stamp = .ok last ∧
    first ≤ text ∧ text ≤ last

/-- Within the years 1000 to 9999, the filter of a week admits the stored time of exactly the
instants of the seven days from its Monday at midnight: the text drops only the microseconds,
and the last second of the Sunday is the last whole second before the next Monday. -/
theorem ofMonday_admits_iff {monday : Int} {t utc : DateTime}
    (early : 1000 ≤ (ofMonday monday).start.date.year)
    (late : (ofMonday monday).finish.date.year ≤ 9999) (checked : t.check = .ok t)
    (converted : t.toUtc = .ok utc) (instantEarly : 1000 ≤ utc.date.year) :
    (∃ text, t.stamp = .ok text ∧ (ofMonday monday).Admits text) ↔
      (ofMonday monday).start.utcMicros ≤ t.utcMicros ∧
        t.utcMicros < (ofMonday monday).start.utcMicros + 7 * microsPerDay := by
  obtain ⟨valid, -, instantLate, sameInstant, stamped⟩ := toUtc_spec checked converted
  have ordered := ofMonday_years_le monday
  have startStamp := stamp_of_utc (start_ofMonday_valid monday) rfl (by omega) (by omega)
  have finishStamp := stamp_of_utc (finish_ofMonday_valid monday) rfl (by omega) late
  have startWritable := writable_of_valid (start_ofMonday_valid monday) early (by omega)
  have finishWritable := writable_of_valid (finish_ofMonday_valid monday) (by omega) late
  have instantWritable := writable_of_valid valid instantEarly instantLate
  simp only [Admits, stamped, startStamp, finishStamp, Except.ok.injEq, exists_and_left,
    exists_eq_left']
  rw [storageText_le_iff startWritable instantWritable,
    storageText_le_iff instantWritable finishWritable, start_ofMonday_wholeSeconds,
    finish_ofMonday_wholeSeconds, wholeSeconds_eq_div valid, sameInstant,
    start_ofMonday_utcMicros, microsPerDay_eq]
  omega

/-- The window of a valid base instant holds it: the base falls in the seven days from the
window's Monday at midnight. -/
theorem ofInstant_holds_base {base : DateTime} {window : Window}
    (checked : base.check = .ok base) (windowed : ofInstant base = .ok window) :
    window.start.utcMicros ≤ base.utcMicros ∧
      base.utcMicros < window.start.utcMicros + 7 * microsPerDay := by
  obtain ⟨utc, year, week, weekday, converted, calendar, rfl, -, -⟩ := ofInstant_eq_ok windowed
  obtain ⟨valid, -, -, sameInstant, -⟩ := toUtc_spec checked converted
  obtain ⟨after, before, -⟩ := Date.isoCalendar_monday valid.date_valid calendar
  have within := localMicros_bounds valid
  rw [start_ofMonday_utcMicros, ← sameInstant]
  rw [microsPerDay_eq] at within ⊢
  omega

/-- Two weeks that hold one instant are one week: their Mondays are less than seven days apart,
and both are a whole number of weeks from day 1. -/
theorem monday_eq_of_holds {monday other : Int} {instant : Int} (isMonday : (monday + 6) % 7 = 0)
    (isMonday' : (other + 6) % 7 = 0)
    (holds : (ofMonday monday).start.utcMicros ≤ instant ∧
      instant < (ofMonday monday).start.utcMicros + 7 * microsPerDay)
    (holds' : (ofMonday other).start.utcMicros ≤ instant ∧
      instant < (ofMonday other).start.utcMicros + 7 * microsPerDay) :
    monday = other := by
  rw [start_ofMonday_utcMicros, microsPerDay_eq] at holds holds'
  omega

/-- What the weekly filter does with the stored time of an instant `t`. For every window of a base
instant whose first year has four digits, the filter admits the stored time of `t` exactly when
`t` falls in the seven days from the window's first second, that is, when `t` lies in the ISO week
of the base, the weeks being counted from the Monday January 1 of year 1. When the ISO week of `t`
has such a window, that window is the only one whose filter admits it. -/
def CountsInItsWeek (t : DateTime) : Prop :=
  (∀ base window, base.check = .ok base → ofInstant base = .ok window →
      1000 ≤ window.start.date.year →
      ((∃ text, t.stamp = .ok text ∧ window.Admits text) ↔
        window.start.utcMicros ≤ t.utcMicros ∧
          t.utcMicros < window.start.utcMicros + 7 * microsPerDay) ∧
      (window.start.utcMicros ≤ t.utcMicros ∧
          t.utcMicros < window.start.utcMicros + 7 * microsPerDay ↔
        t.utcMicros / (7 * microsPerDay) = base.utcMicros / (7 * microsPerDay))) ∧
    ∀ week, ofInstant t = .ok week → 1000 ≤ week.start.date.year →
      ∀ base window, ofInstant base = .ok window → 1000 ≤ window.start.date.year →
        ((∃ text, t.stamp = .ok text ∧ window.Admits text) ↔ window = week)

/-- The stored time of a valid instant of the years 1000 to 9999 is counted in the weekly
summaries of its own ISO week and of no other. -/
theorem storedInstant_counted_in_its_week (t utc : DateTime) (checked : t.check = .ok t)
    (converted : t.toUtc = .ok utc) (instantEarly : 1000 ≤ utc.date.year) :
    CountsInItsWeek t := by
  have admits : ∀ base window, ofInstant base = .ok window → 1000 ≤ window.start.date.year →
      ((∃ text, t.stamp = .ok text ∧ window.Admits text) ↔
        window.start.utcMicros ≤ t.utcMicros ∧
          t.utcMicros < window.start.utcMicros + 7 * microsPerDay) := by
    intro base window windowed early
    obtain ⟨-, year, week, -, -, -, rfl, -, late⟩ := ofInstant_eq_ok windowed
    exact ofMonday_admits_iff early late checked converted instantEarly
  refine ⟨fun base window baseChecked windowed early => ⟨admits base window windowed early, ?_⟩,
    fun week weekWindowed weekEarly base window windowed early => ?_⟩
  · obtain ⟨-, year, week, -, -, -, rfl, isMonday, -⟩ := ofInstant_eq_ok windowed
    have holdsBase := ofInstant_holds_base baseChecked windowed
    rw [start_ofMonday_utcMicros, microsPerDay_eq] at holdsBase ⊢
    omega
  · obtain ⟨-, year, week, -, -, -, rfl, isMonday, -⟩ := ofInstant_eq_ok windowed
    obtain ⟨-, weekYear, weekNumber, -, -, -, rfl, isMonday', -⟩ := ofInstant_eq_ok weekWindowed
    have holdsInstant := ofInstant_holds_base checked weekWindowed
    rw [admits base _ windowed early]
    constructor
    · intro holds
      rw [monday_eq_of_holds isMonday isMonday' holds holdsInstant]
    · intro same
      rw [same]
      exact holdsInstant

/-- The stored time of the last microsecond of a Sunday, its sub-second dropped, is counted in the
week that the Sunday ends. -/
theorem sunday_last_instant_counted_in_its_week :
    DateTime.check ⟨⟨2024, 1, 7⟩, 23, 59, 59, 999999, none⟩ =
        .ok ⟨⟨2024, 1, 7⟩, 23, 59, 59, 999999, none⟩ ∧
      DateTime.toUtc ⟨⟨2024, 1, 7⟩, 23, 59, 59, 999999, none⟩ =
        .ok ⟨⟨2024, 1, 7⟩, 23, 59, 59, 999999, some 0⟩ ∧
      1000 ≤ (2024 : Int) ∧ CountsInItsWeek ⟨⟨2024, 1, 7⟩, 23, 59, 59, 999999, none⟩ :=
  ⟨by decide, rfl, by decide,
    storedInstant_counted_in_its_week _ ⟨⟨2024, 1, 7⟩, 23, 59, 59, 999999, some 0⟩ (by decide)
      rfl (by decide)⟩

/-- The last ISO week of 9999 has no window: its Sunday falls in year 10000. -/
theorem ofInstant_refuses_last_iso_week_of_9999 :
    ofInstant ⟨⟨9999, 12, 28⟩, 12, 0, 0, 0, none⟩ = .error (.yearOutOfRange 10000) := by
  decide

end Window

end SheetExport.Calendar
