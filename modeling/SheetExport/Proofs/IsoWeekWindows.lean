import Mathlib
import SheetExport.Proofs.WeekWindow

/-!
# The window of a base instant, in closed form

The reporting window of a base instant is found through its ISO calendar: the ISO year and week
of its date in UTC, then the Monday and the Sunday of that week. Counted in microseconds of UTC
from the start of day 1, a Monday, the ISO weeks are the blocks of seven days, so the window of an
instant `b` starts at `7 * (b / week) + 1`, the ordinal of the Monday of its block
(`ofInstant_eq_cases`).

The closed form also says where the window is refused. Moving an aware base to UTC fails exactly
when the instant falls outside the years 1 to 9999, and a naive base never does. The last ISO
week of 9999 starts on Monday, December 27, and its Sunday falls in year 10000, which no value
can hold: every base from that Monday on is refused with the year of that Sunday.

Two bases therefore have one window exactly when they share an ISO year and week
(`isoWeekOf`), and windows of different weeks hold no instant in common.
-/

namespace SheetExport.Calendar

namespace Date

/-- The year of an ordinal is at most `year` exactly when the ordinal falls within the years up
to `year`. -/
theorem year_ofOrdinal_le_iff (ordinal year : Int) :
    (ofOrdinal ordinal).year ≤ year ↔ ordinal ≤ daysBeforeYear (year + 1) := by
  have bounds := daysBeforeYear_ofOrdinal ordinal
  constructor
  · intro atMost
    have := daysBeforeYear_le_daysBeforeYear (show (ofOrdinal ordinal).year + 1 ≤ year + 1 by omega)
    omega
  · intro within
    by_contra later
    have := daysBeforeYear_le_daysBeforeYear (show year + 1 ≤ (ofOrdinal ordinal).year by omega)
    omega

/-- The Mondays of week 1 of two years lie at least 52 weeks apart. -/
theorem weekOneMonday_add_le {year other : Int} (earlier : year < other) :
    weekOneMonday year + 364 ≤ weekOneMonday other := by
  have first := weekOneMonday_bounds year
  have second := weekOneMonday_bounds other
  have next := daysBeforeYear_succ year
  have long := daysInYear_ge year
  have later := daysBeforeYear_le_daysBeforeYear (show year + 1 ≤ other by omega)
  omega

/-- The ISO week of a valid date is a week of its ISO year: it starts on or after the Monday of
that year's week 1 and before the Monday of the next year's. The date falls before week 1 of its
year, in week 1 of the next, or in its own year's weeks. -/
theorem isoCalendar_week_bounds {date : Date} (valid : date.Valid) {year : Int}
    {week weekday : Nat} (calendar : date.isoCalendar = (year, week, weekday)) :
    weekOneMonday year ≤ isoOrdinal year week 1 ∧
      isoOrdinal year week 1 < weekOneMonday (year + 1) := by
  have within := valid.toOrdinal_bounds
  have previousYear : daysBeforeYear date.year =
      daysBeforeYear (date.year - 1) + daysInYear (date.year - 1) := by
    simpa using daysBeforeYear_succ (date.year - 1)
  have long := daysInYear_ge (date.year - 1)
  have previousMonday := weekOneMonday_bounds (date.year - 1)
  have thisMonday := weekOneMonday_bounds date.year
  have yearApart := weekOneMonday_add_le (show date.year < date.year + 1 by omega)
  have nextApart := weekOneMonday_add_le (show date.year + 1 < date.year + 1 + 1 by omega)
  unfold isoCalendar at calendar
  dsimp only at calendar
  simp only [isoOrdinal]
  split_ifs at calendar with before after <;> simp only [Prod.mk.injEq] at calendar <;>
    obtain ⟨rfl, rfl, rfl⟩ := calendar
  · rw [sub_add_cancel]
    omega
  · simp only [Bool.and_eq_true, decide_eq_true_eq] at after
    omega
  · simp only [Bool.and_eq_true, decide_eq_true_eq, not_and, not_le] at after
    omega

theorem weekOneMonday_le_weekOneMonday {year other : Int} (earlier : year ≤ other) :
    weekOneMonday year ≤ weekOneMonday other := by
  rcases earlier.lt_or_eq with before | same
  · have := weekOneMonday_add_le before
    omega
  · rw [same]

/-- The ISO week of a valid date starts on the Monday on or before it that is a whole number of
weeks from day 1. -/
theorem isoOrdinal_monday_eq {date : Date} (valid : date.Valid) {year : Int} {week weekday : Nat}
    (calendar : date.isoCalendar = (year, week, weekday)) :
    isoOrdinal year week 1 = 7 * ((date.toOrdinal - 1) / 7) + 1 := by
  have monday := isoCalendar_monday valid calendar
  omega

/-- Two valid dates share an ISO year and week exactly when their ISO weeks start on one Monday:
the weeks of an ISO year lie between the Mondays of its week 1 and of the next year's. -/
theorem isoWeek_eq_iff {date other : Date} (valid : date.Valid) (valid' : other.Valid)
    {year year' : Int} {week week' weekday weekday' : Nat}
    (calendar : date.isoCalendar = (year, week, weekday))
    (calendar' : other.isoCalendar = (year', week', weekday')) :
    (year, week) = (year', week') ↔ isoOrdinal year week 1 = isoOrdinal year' week' 1 := by
  constructor
  · intro same
    simp only [Prod.mk.injEq] at same
    rw [same.1, same.2]
  · intro sameMonday
    have bounds := isoCalendar_week_bounds valid calendar
    have bounds' := isoCalendar_week_bounds valid' calendar'
    have sameYear : year = year' := by
      by_contra differ
      rcases lt_or_gt_of_ne differ with earlier | later
      · have := weekOneMonday_le_weekOneMonday (show year + 1 ≤ year' by omega)
        omega
      · have := weekOneMonday_le_weekOneMonday (show year' + 1 ≤ year by omega)
        omega
    subst sameYear
    simp only [isoOrdinal] at sameMonday
    simp only [Prod.mk.injEq, true_and]
    omega

@[simp] theorem daysBeforeYear_one : daysBeforeYear 1 = 0 := by decide

theorem daysBeforeYear_ten_thousand : daysBeforeYear 10000 = 3652059 := by decide

theorem daysBeforeYear_ten_thousand_one : daysBeforeYear 10001 = 3652425 := by decide

end Date

namespace DateTime

/-- The first microsecond after year 9999, counted from the start of day 1: the instants that a
value can hold in UTC are those from zero up to it. -/
def pastYear9999 : Int := Date.daysBeforeYear 10000 * microsPerDay

theorem pastYear9999_eq : pastYear9999 = 3652059 * 86400000000 := by
  rw [pastYear9999, Date.daysBeforeYear_ten_thousand, microsPerDay_eq]

/-- A valid value of the years 1 to 9999 holds an instant from the start of year 1 up to the
end of year 9999, read as it stands. -/
theorem localMicros_representable {value : DateTime} (checked : value.check = .ok value) :
    0 ≤ value.localMicros ∧ value.localMicros < pastYear9999 := by
  obtain ⟨valid, early, late⟩ := valid_of_check checked
  have within := localMicros_bounds valid
  have ordinal := valid.date_valid.toOrdinal_bounds
  have fromStart := Date.daysBeforeYear_le_daysBeforeYear early
  have toEnd := Date.daysBeforeYear_le_daysBeforeYear (show value.date.year + 1 ≤ 10000 by omega)
  rw [Date.daysBeforeYear_one] at fromStart
  rw [pastYear9999_eq]
  rw [Date.daysBeforeYear_ten_thousand] at toEnd
  rw [microsPerDay_eq] at within
  constructor <;> nlinarith

/-- Moving a valid value to UTC fails exactly when its instant falls outside the years 1 to
9999, and otherwise gives the aware UTC value of that instant. A naive value is read as UTC, so
its instant is always within those years. -/
theorem toUtc_eq_cases {value : DateTime} (checked : value.check = .ok value) :
    value.toUtc = if value.utcMicros < 0 ∨ pastYear9999 ≤ value.utcMicros then .error .outOfRange
      else .ok (ofLocalMicros value.utcMicros (some 0)) := by
  cases aware : value.offset with
  | none =>
      have naive : value.utcMicros = value.localMicros := by simp [utcMicros, aware]
      have representable := localMicros_representable checked
      obtain ⟨valid, -, -⟩ := valid_of_check checked
      have atUtc : ofLocalMicros value.localMicros (some 0) = { value with offset := some 0 } :=
        ofLocalMicros_localMicros (valid.withOffset (some 0))
      rw [if_neg (by omega), naive, atUtc]
      simp [toUtc, aware]
  | some offset =>
      have year := Date.year_ofOrdinal_le_iff (value.utcMicros / microsPerDay + 1)
      have before := year 0
      have after := year 9999
      simp only [zero_add, Date.daysBeforeYear_one, show (9999 : Int) + 1 = 10000 by norm_num,
        Date.daysBeforeYear_ten_thousand, microsPerDay_eq] at before after
      simp only [toUtc, aware, ofLocalMicros, Bool.or_eq_true, decide_eq_true_eq, microsPerDay_eq,
        pastYear9999_eq]
      split_ifs with yearOutside instantOutside instantOutside
      · rfl
      · omega
      · omega
      · rfl

end DateTime

namespace Window

open DateTime

/-- Microseconds per week. -/
def microsPerWeek : Int := 7 * microsPerDay

theorem microsPerWeek_eq : microsPerWeek = 604800000000 := by
  rw [microsPerWeek, microsPerDay_eq]
  norm_num

/-- The first microsecond of the last ISO week of year 9999, Monday, December 27. -/
def lastWeekStart : Int := (Date.toOrdinal ⟨9999, 12, 27⟩ - 1) * microsPerDay

theorem lastWeekStart_eq : lastWeekStart = 3652054 * 86400000000 := by
  rw [lastWeekStart, microsPerDay_eq, show Date.toOrdinal ⟨9999, 12, 27⟩ = 3652055 by decide]
  norm_num

/-- The window of a valid base instant `b`, in microseconds of UTC: refused as out of range when
`b` falls outside the years 1 to 9999; refused with the year 10000 of its Sunday from the last ISO
week of 9999 on; and otherwise the week starting on the Monday `7 * (b / week) + 1`. -/
theorem ofInstant_eq_cases {base : DateTime} (checked : base.check = .ok base) :
    ofInstant base =
      if base.utcMicros < 0 ∨ pastYear9999 ≤ base.utcMicros then .error .outOfRange
      else if lastWeekStart ≤ base.utcMicros then .error (.yearOutOfRange 10000)
      else .ok (ofMonday (7 * (base.utcMicros / microsPerWeek) + 1)) := by
  unfold ofInstant
  rw [toUtc_eq_cases checked]
  by_cases outside : base.utcMicros < 0 ∨ pastYear9999 ≤ base.utcMicros
  · simp only [if_pos outside]
    rfl
  simp only [if_neg outside, bind, Except.bind]
  set utc := ofLocalMicros base.utcMicros (some 0)
  have valid : utc.date.Valid := (valid_ofLocalMicros _ _).date_valid
  have ordinal : utc.date.toOrdinal = base.utcMicros / microsPerDay + 1 :=
    Date.toOrdinal_ofOrdinal _
  rcases calendar : utc.date.isoCalendar with ⟨year, week, weekday⟩
  have monday : Date.isoOrdinal year week 1 = 7 * (base.utcMicros / microsPerWeek) + 1 := by
    rw [Date.isoOrdinal_monday_eq valid calendar, ordinal, microsPerWeek_eq, microsPerDay_eq]
    omega
  have sunday := Date.year_ofOrdinal_le_iff (Date.isoOrdinal year week 1 + 6)
  have throughYear9999 := sunday 9999
  have throughYear10000 := sunday 10000
  simp only [show (9999 : Int) + 1 = 10000 by norm_num, show (10000 : Int) + 1 = 10001 by norm_num,
    Date.daysBeforeYear_ten_thousand, Date.daysBeforeYear_ten_thousand_one]
    at throughYear9999 throughYear10000
  rw [pastYear9999_eq] at outside
  dsimp only
  simp only [Date.isoOrdinal_seven, ofMonday, monday, lastWeekStart_eq, microsPerWeek_eq]
  rw [monday, microsPerWeek_eq] at throughYear9999 throughYear10000
  split_ifs with late early early
  · have : (Date.ofOrdinal (7 * (base.utcMicros / 604800000000) + 1 + 6)).year = 10000 := by
      omega
    rw [this]
  · omega
  · omega
  · rfl

/-- The window of a valid base is the week from the Monday of the base's block of seven days,
a block from day 1 on. -/
theorem ofInstant_eq_ok_ofMonday {base : DateTime} {window : Window}
    (checked : base.check = .ok base) (windowed : ofInstant base = .ok window) :
    0 ≤ base.utcMicros / microsPerWeek ∧
      window = ofMonday (7 * (base.utcMicros / microsPerWeek) + 1) := by
  rw [ofInstant_eq_cases checked] at windowed
  split_ifs at windowed with outside late
  cases windowed
  have nonneg : 0 ≤ base.utcMicros := by omega
  exact ⟨Int.ediv_nonneg nonneg (by rw [microsPerWeek_eq]; norm_num), rfl⟩

/-- The ISO year and week of an instant's date in UTC. -/
def isoWeekOf (micros : Int) : Int × Nat :=
  ((ofLocalMicros micros (some 0)).date.isoCalendar.1,
    (ofLocalMicros micros (some 0)).date.isoCalendar.2.1)

/-- Two instants share an ISO year and week exactly when they fall in one block of seven days
from day 1. -/
theorem isoWeekOf_eq_iff (micros other : Int) :
    isoWeekOf micros = isoWeekOf other ↔ micros / microsPerWeek = other / microsPerWeek := by
  have valid := (valid_ofLocalMicros micros (some 0)).date_valid
  have valid' := (valid_ofLocalMicros other (some 0)).date_valid
  have ordinal : (ofLocalMicros micros (some 0)).date.toOrdinal = micros / microsPerDay + 1 :=
    Date.toOrdinal_ofOrdinal _
  have ordinal' : (ofLocalMicros other (some 0)).date.toOrdinal = other / microsPerDay + 1 :=
    Date.toOrdinal_ofOrdinal _
  rcases calendar : (ofLocalMicros micros (some 0)).date.isoCalendar with ⟨year, week, weekday⟩
  rcases calendar' : (ofLocalMicros other (some 0)).date.isoCalendar with
    ⟨year', week', weekday'⟩
  have monday := Date.isoOrdinal_monday_eq valid calendar
  have monday' := Date.isoOrdinal_monday_eq valid' calendar'
  simp only [isoWeekOf, calendar, calendar']
  rw [Date.isoWeek_eq_iff valid valid' calendar calendar', monday, monday', ordinal, ordinal',
    microsPerWeek_eq, microsPerDay_eq]
  omega

/-- Whether a window holds an instant: the instant falls in the seven days from the window's
first second. -/
def Holds (window : Window) (micros : Int) : Prop :=
  window.start.utcMicros ≤ micros ∧ micros < window.start.utcMicros + microsPerWeek

/-- The week from a Monday a whole number `weeks` of weeks after day 1 holds exactly the instants
of that block of seven days. -/
theorem ofMonday_holds_iff (weeks micros : Int) :
    (ofMonday (7 * weeks + 1)).Holds micros ↔ micros / microsPerWeek = weeks := by
  simp only [Holds, start_ofMonday_utcMicros, microsPerWeek_eq, microsPerDay_eq]
  omega

/-- A window ends one second before the Monday after it. -/
theorem finish_ofMonday_utcMicros (monday : Int) :
    (ofMonday monday).finish.utcMicros =
      (ofMonday monday).start.utcMicros + microsPerWeek - microsPerSecond := by
  simp only [ofMonday, atUtc, utcMicros, localMicros, timeOfDay, Date.toOrdinal_ofOrdinal,
    microsPerWeek_eq, microsPerDay_eq, microsPerHour_eq, microsPerMinute_eq, microsPerSecond_eq]
  omega

/-- What the window of a base instant is, `b` being the base in microseconds of UTC (a naive base
read as UTC). It is refused with an overflow exactly when the base is aware and `b` falls outside
the years 1 to 9999, and with a value error exactly when `b` lies from Monday, December 27, 9999
on. Otherwise it is the ISO week of `b`: from its Monday at 00:00:00 UTC, holding `b` within its
seven days, to its Sunday at 23:59:59 UTC, one second before the next Monday. Two bases with
windows have one window exactly when they share an ISO year and week, and the windows of two
weeks hold no instant in common. -/
def SpansIsoWeek (base : DateTime) : Prop :=
  ((∃ e, ofInstant base = .error e ∧ e.className = "OverflowError") ↔
      base.offset.isSome ∧ (base.utcMicros < 0 ∨ pastYear9999 ≤ base.utcMicros)) ∧
    ((∃ e, ofInstant base = .error e ∧ e.className = "ValueError") ↔
      0 ≤ base.utcMicros ∧ base.utcMicros < pastYear9999 ∧ lastWeekStart ≤ base.utcMicros) ∧
    (0 ≤ base.utcMicros → base.utcMicros < lastWeekStart →
      ∃ window, ofInstant base = .ok window ∧
        window.start = atUtc (Date.ofOrdinal (7 * (base.utcMicros / microsPerWeek) + 1)) 0 0 0 ∧
        Date.weekdayOf (7 * (base.utcMicros / microsPerWeek) + 1) = 0 ∧
        window.Holds base.utcMicros ∧
        window.finish = atUtc (Date.ofOrdinal (7 * (base.utcMicros / microsPerWeek) + 7)) 23 59 59 ∧
        window.finish.utcMicros = window.start.utcMicros + microsPerWeek - microsPerSecond) ∧
    ∀ other window window', other.check = .ok other → ofInstant base = .ok window →
      ofInstant other = .ok window' →
      (window = window' ↔ isoWeekOf base.utcMicros = isoWeekOf other.utcMicros) ∧
      (window ≠ window' → ∀ t, ¬ (window.Holds t ∧ window'.Holds t))

/-- Every valid base instant has the window of its ISO week, or is refused at the two ends of the
calendar. -/
theorem ofInstant_spans_iso_week (base : DateTime) (checked : base.check = .ok base) :
    SpansIsoWeek base := by
  have closed := ofInstant_eq_cases checked
  have naive : base.offset = none → 0 ≤ base.utcMicros ∧ base.utcMicros < pastYear9999 := by
    intro aware
    simpa [utcMicros, aware] using localMicros_representable checked
  have lastWeek := lastWeekStart_eq
  have yearsEnd := pastYear9999_eq
  refine ⟨?overflow, ?value, ?week, ?windows⟩
  case overflow =>
    cases aware : base.offset with
    | none =>
        have representable := naive aware
        simp only [closed, Option.isSome_none, Bool.false_eq_true, false_and, iff_false]
        rintro ⟨e, refused, named⟩
        rw [if_neg (by omega)] at refused
        split_ifs at refused
        cases refused
        simp [CalendarError.className] at named
    | some offset =>
        simp only [closed, Option.isSome_some, true_and]
        constructor
        · rintro ⟨e, refused, named⟩
          split_ifs at refused with outside
          · exact outside
          · cases refused
            simp [CalendarError.className] at named
        · intro outside
          exact ⟨_, by rw [if_pos outside], rfl⟩
  case value =>
    simp only [closed]
    constructor
    · rintro ⟨e, refused, named⟩
      split_ifs at refused with outside late
      · cases refused
        simp [CalendarError.className] at named
      · omega
    · rintro ⟨early, within, late⟩
      exact ⟨_, by rw [if_neg (by omega), if_pos late], rfl⟩
  case week =>
    intro early late
    refine ⟨_, by rw [closed, if_neg (by omega), if_neg (by omega)], rfl, ?_, ?_, ?_, ?_⟩
    · rw [Date.weekdayOf]
      omega
    · exact (ofMonday_holds_iff _ _).2 rfl
    · simp only [ofMonday]
      ring_nf
    · exact finish_ofMonday_utcMicros _
  case windows =>
    intro other window window' checked' windowed windowed'
    obtain ⟨-, rfl⟩ := ofInstant_eq_ok_ofMonday checked windowed
    obtain ⟨-, rfl⟩ := ofInstant_eq_ok_ofMonday checked' windowed'
    have holdsIff := fun t => ofMonday_holds_iff (base.utcMicros / microsPerWeek) t
    have holdsIff' := fun t => ofMonday_holds_iff (other.utcMicros / microsPerWeek) t
    constructor
    · rw [isoWeekOf_eq_iff]
      constructor
      · intro same
        have := (holdsIff base.utcMicros).2 rfl
        rwa [same, holdsIff'] at this
      · intro same
        rw [same]
    · rintro different t ⟨held, held'⟩
      rw [holdsIff] at held
      rw [holdsIff'] at held'
      exact different (by rw [← held, held'])

/-- A base late on a Sunday west of Greenwich is early on Monday in UTC, and has the window of the
first ISO week of 2021. -/
theorem ofInstant_spans_iso_week_across_new_year :
    DateTime.check ⟨⟨2021, 1, 3⟩, 23, 30, 0, 0, some (-3600000000)⟩ =
        .ok ⟨⟨2021, 1, 3⟩, 23, 30, 0, 0, some (-3600000000)⟩ ∧
      SpansIsoWeek ⟨⟨2021, 1, 3⟩, 23, 30, 0, 0, some (-3600000000)⟩ :=
  ⟨by decide, ofInstant_spans_iso_week _ (by decide)⟩

end Window

end SheetExport.Calendar
