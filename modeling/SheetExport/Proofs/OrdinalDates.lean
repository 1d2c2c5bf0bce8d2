import Mathlib
import SheetExport.Calendar.Week

/-!
# Ordinal dates

The days of the proleptic Gregorian calendar are counted by ordinals, day 1 being January 1 of
year 1. A date is valid when its month and its day exist; its year may be any integer.
`Date.toOrdinal` and `Date.ofOrdinal` are inverse between the integers and the valid dates, and
the ordinals order the valid dates as their years, months and days do.

`Date.ofOrdinal` finds the year from an estimate within a cycle of 400 years, which is never more
than one year off (`daysBeforeYear_ofOrdinal`), then walks the months of that year
(`monthAndDay_go`).

The ISO week of a valid date starts on the Monday `isoOrdinal year week 1` of its ISO calendar,
at most six days before it (`isoCalendar_monday`).
-/

namespace SheetExport.Calendar.Date

/-- The number of days of a year. -/
def daysInYear (year : Int) : Nat := if isLeapYear year then 366 else 365

/-- A date whose month and day exist, in any year. -/
structure Valid (date : Date) : Prop where
  month_pos : 1 ≤ date.month
  month_le : date.month ≤ 12
  day_pos : 1 ≤ date.day
  day_le : date.day ≤ daysInMonth date.year date.month

theorem daysBeforeYear_succ (year : Int) :
    daysBeforeYear (year + 1) = daysBeforeYear year + daysInYear year := by
  unfold daysInYear
  by_cases leap : isLeapYear year = true
  · rw [if_pos leap]
    simp only [isLeapYear, Bool.and_eq_true, beq_iff_eq, Bool.or_eq_true, bne_iff_ne,
      ne_eq] at leap
    simp only [daysBeforeYear]
    omega
  · rw [if_neg leap]
    simp only [isLeapYear, Bool.and_eq_true, beq_iff_eq, Bool.or_eq_true, bne_iff_ne,
      ne_eq] at leap
    simp only [daysBeforeYear]
    omega

theorem daysBeforeYear_le_daysBeforeYear {year other : Int} (earlier : year ≤ other) :
    daysBeforeYear year ≤ daysBeforeYear other := by
  simp only [daysBeforeYear]
  omega

theorem daysInMonth_le (year : Int) (month : Nat) : daysInMonth year month ≤ 31 := by
  unfold daysInMonth
  split <;> (try split) <;> omega

theorem daysBeforeMonth_succ (year : Int) {month : Nat} (positive : 1 ≤ month) :
    daysBeforeMonth year (month + 1) = daysBeforeMonth year month + daysInMonth year month := by
  obtain ⟨previous, rfl⟩ : ∃ previous, month = previous + 1 := ⟨month - 1, by omega⟩
  simp only [daysBeforeMonth, Nat.add_sub_cancel, List.range_succ, List.map_append,
    List.map_singleton, List.foldr_append, List.foldr_cons, List.foldr_nil]
  generalize List.map (fun index => daysInMonth year (index + 1)) (List.range previous) = days
  induction days with
  | nil => simp
  | cons first rest ih => simp only [List.foldr_cons, ih]; omega

theorem daysBeforeMonth_thirteen (year : Int) : daysBeforeMonth year 13 = daysInYear year := by
  unfold daysInYear
  by_cases leap : isLeapYear year = true <;>
    simp [daysBeforeMonth, daysInMonth, List.range_succ, leap]

theorem daysBeforeMonth_le_daysBeforeMonth (year : Int) {month other : Nat} (positive : 1 ≤ month)
    (earlier : month ≤ other) : daysBeforeMonth year month ≤ daysBeforeMonth year other := by
  induction other, earlier using Nat.le_induction with
  | base => exact Nat.le_refl _
  | succ other earlier ih =>
      rw [daysBeforeMonth_succ year (by omega)]
      omega

namespace Valid

variable {date other : Date}

/-- The day of its year that a valid date is, counted from one, lies within the year. -/
theorem dayOfYear_le (valid : date.Valid) :
    daysBeforeMonth date.year date.month + date.day ≤ daysInYear date.year := by
  have next := daysBeforeMonth_succ date.year valid.month_pos
  have last := daysBeforeMonth_le_daysBeforeMonth date.year
    (show 1 ≤ date.month + 1 by omega) (show date.month + 1 ≤ 13 by have := valid.month_le; omega)
  rw [daysBeforeMonth_thirteen] at last
  have := valid.day_le
  omega

/-- A valid date falls after the years before it and within its own. -/
theorem toOrdinal_bounds (valid : date.Valid) :
    daysBeforeYear date.year < date.toOrdinal ∧
      date.toOrdinal ≤ daysBeforeYear (date.year + 1) := by
  have within := valid.dayOfYear_le
  have positive := valid.day_pos
  rw [daysBeforeYear_succ, toOrdinal]
  omega

/-- Valid dates in one year are ordered by their ordinals as by their months and days. -/
private theorem toOrdinal_lt_of_same_year (valid : date.Valid) (valid' : other.Valid)
    (sameYear : date.year = other.year)
    (before : date.month < other.month ∨ (date.month = other.month ∧ date.day < other.day)) :
    date.toOrdinal < other.toOrdinal := by
  unfold toOrdinal
  rw [sameYear]
  rcases before with earlierMonth | ⟨sameMonth, earlierDay⟩
  · have next := daysBeforeMonth_succ other.year valid.month_pos
    have later := daysBeforeMonth_le_daysBeforeMonth other.year
      (show 1 ≤ date.month + 1 by omega) earlierMonth
    have dayAtMost := valid.day_le
    have dayPositive := valid'.day_pos
    rw [sameYear] at dayAtMost
    omega
  · rw [sameMonth]
    omega

/-- Valid dates are ordered by their ordinals as by their years, months and days. -/
theorem toOrdinal_lt_of_lex (valid : date.Valid) (valid' : other.Valid)
    (before : date.year < other.year ∨ (date.year = other.year ∧
      (date.month < other.month ∨ (date.month = other.month ∧ date.day < other.day)))) :
    date.toOrdinal < other.toOrdinal := by
  rcases before with earlierYear | ⟨sameYear, within⟩
  · have first := valid.toOrdinal_bounds
    have second := valid'.toOrdinal_bounds
    have years := daysBeforeYear_le_daysBeforeYear (show date.year + 1 ≤ other.year by omega)
    omega
  · exact toOrdinal_lt_of_same_year valid valid' sameYear within

/-- Two valid dates with one ordinal are one date. -/
theorem eq_of_toOrdinal_eq (valid : date.Valid) (valid' : other.Valid)
    (same : date.toOrdinal = other.toOrdinal) : date = other := by
  obtain ⟨year, month, day⟩ := date
  obtain ⟨year', month', day'⟩ := other
  simp only [mk.injEq]
  by_contra differ
  have ordered : (year < year' ∨ (year = year' ∧ (month < month' ∨ (month = month' ∧ day < day'))))
      ∨ (year' < year ∨ (year' = year ∧ (month' < month ∨ (month' = month ∧ day' < day)))) := by
    omega
  rcases ordered with before | after
  · exact absurd same (ne_of_lt (toOrdinal_lt_of_lex valid valid' before))
  · exact absurd same.symm (ne_of_lt (toOrdinal_lt_of_lex valid' valid after))

theorem toOrdinal_lt_iff (valid : date.Valid) (valid' : other.Valid) :
    date.toOrdinal < other.toOrdinal ↔
      date.year < other.year ∨ (date.year = other.year ∧
        (date.month < other.month ∨ (date.month = other.month ∧ date.day < other.day))) := by
  constructor
  · intro before
    by_contra notBefore
    have atMost : other.toOrdinal ≤ date.toOrdinal := by
      by_cases same : date = other
      · rw [same]
      · obtain ⟨year, month, day⟩ := date
        obtain ⟨year', month', day'⟩ := other
        simp only [mk.injEq] at same notBefore
        have after : year' < year ∨ (year' = year ∧ (month' < month ∨ (month' = month ∧ day' < day))) := by
          omega
        exact le_of_lt (toOrdinal_lt_of_lex valid' valid after)
    omega
  · exact toOrdinal_lt_of_lex valid valid'

end Valid

/-- Walking the months from `month` on, `remaining` days into it, ends at the month and day that
many days later, as long as they fall within the year. -/
theorem monthAndDay_go (year : Int) :
    ∀ (fuel month remaining : Nat), 1 ≤ month → month + fuel = 13 →
      daysBeforeMonth year month + remaining < daysInYear year →
      month ≤ (monthAndDay.go year month remaining fuel).1 ∧
        (monthAndDay.go year month remaining fuel).1 ≤ 12 ∧
        1 ≤ (monthAndDay.go year month remaining fuel).2 ∧
        (monthAndDay.go year month remaining fuel).2 ≤
          daysInMonth year (monthAndDay.go year month remaining fuel).1 ∧
        daysBeforeMonth year (monthAndDay.go year month remaining fuel).1 +
            (monthAndDay.go year month remaining fuel).2 =
          daysBeforeMonth year month + remaining + 1 := by
  intro fuel
  induction fuel with
  | zero =>
      intro month remaining positive last within
      obtain rfl : month = 13 := by omega
      rw [daysBeforeMonth_thirteen] at within
      omega
  | succ fuel ih =>
      intro month remaining positive last within
      simp only [monthAndDay.go]
      split_ifs with inMonth
      · simp only
        omega
      · have next := daysBeforeMonth_succ year positive
        obtain ⟨after, atMost, dayPositive, dayAtMost, total⟩ :=
          ih (month + 1) (remaining - daysInMonth year month) (by omega) (by omega) (by omega)
        omega

/-- The month and day of a day of a year lie within the year, that many days into it. -/
theorem monthAndDay_spec (year : Int) {dayOfYear : Nat} (within : dayOfYear < daysInYear year) :
    (Date.mk year (monthAndDay year dayOfYear).1 (monthAndDay year dayOfYear).2).Valid ∧
      daysBeforeMonth year (monthAndDay year dayOfYear).1 + (monthAndDay year dayOfYear).2 =
        dayOfYear + 1 := by
  have start : daysBeforeMonth year 1 = 0 := rfl
  obtain ⟨positive, atMost, dayPositive, dayAtMost, total⟩ :=
    monthAndDay_go year 12 1 dayOfYear le_rfl rfl (by omega)
  unfold monthAndDay
  exact ⟨⟨positive, atMost, dayPositive, dayAtMost⟩, by omega⟩

/-- The year `Date.ofOrdinal` settles on holds the ordinal: the estimate within the cycle of 400
years is at most one year off, and the correction moves it by one. -/
theorem daysBeforeYear_ofOrdinal (ordinal : Int) :
    daysBeforeYear (ofOrdinal ordinal).year ≤ ordinal - 1 ∧
      ordinal - 1 < daysBeforeYear ((ofOrdinal ordinal).year + 1) := by
  have estimate : daysBeforeYear ((ordinal - 1) / 146097 * 400 +
        (ordinal - 1) % 146097 * 400 / 146097 + 1 - 1) ≤ ordinal - 1 ∧
      ordinal - 1 < daysBeforeYear ((ordinal - 1) / 146097 * 400 +
        (ordinal - 1) % 146097 * 400 / 146097 + 1 + 2) := by
    simp only [daysBeforeYear]
    omega
  simp only [ofOrdinal]
  split_ifs with later earlier <;> simp only [daysBeforeYear] at * <;> omega

theorem ofOrdinal_eq_mk (ordinal : Int) :
    ofOrdinal ordinal = ⟨(ofOrdinal ordinal).year,
      (monthAndDay (ofOrdinal ordinal).year
        (ordinal - 1 - daysBeforeYear (ofOrdinal ordinal).year).toNat).1,
      (monthAndDay (ofOrdinal ordinal).year
        (ordinal - 1 - daysBeforeYear (ofOrdinal ordinal).year).toNat).2⟩ := rfl

/-- The day of its year that `Date.ofOrdinal` walks to lies within the year. -/
private theorem dayOfYear_ofOrdinal_lt (ordinal : Int) :
    (ordinal - 1 - daysBeforeYear (ofOrdinal ordinal).year).toNat <
      daysInYear (ofOrdinal ordinal).year := by
  have bounds := daysBeforeYear_ofOrdinal ordinal
  rw [daysBeforeYear_succ] at bounds
  omega

/-- Every integer is the ordinal of a valid date, the one `Date.ofOrdinal` finds. -/
theorem ofOrdinal_valid (ordinal : Int) : (ofOrdinal ordinal).Valid := by
  rw [ofOrdinal_eq_mk]
  exact (monthAndDay_spec _ (dayOfYear_ofOrdinal_lt ordinal)).1

@[simp] theorem toOrdinal_ofOrdinal (ordinal : Int) : (ofOrdinal ordinal).toOrdinal = ordinal := by
  have bounds := daysBeforeYear_ofOrdinal ordinal
  have total := (monthAndDay_spec _ (dayOfYear_ofOrdinal_lt ordinal)).2
  rw [ofOrdinal_eq_mk, toOrdinal]
  dsimp only
  omega

theorem ofOrdinal_toOrdinal {date : Date} (valid : date.Valid) : ofOrdinal date.toOrdinal = date :=
  Valid.eq_of_toOrdinal_eq (ofOrdinal_valid _) valid (toOrdinal_ofOrdinal _)

theorem daysInYear_ge (year : Int) : 365 ≤ daysInYear year := by
  unfold daysInYear
  split <;> omega

/-- The weekday of an ordinal, as an integer. -/
theorem weekdayOf_eq (ordinal : Int) : (weekdayOf ordinal : Int) = (ordinal + 6) % 7 := by
  unfold weekdayOf
  omega

/-- The Monday of week 1 of an ISO year is within three days of its January 1. -/
theorem weekOneMonday_bounds (year : Int) :
    (weekOneMonday year + 6) % 7 = 0 ∧ daysBeforeYear year + 1 - 3 ≤ weekOneMonday year ∧
      weekOneMonday year ≤ daysBeforeYear year + 1 + 3 := by
  have first : toOrdinal ⟨year, 1, 1⟩ = daysBeforeYear year + 1 := by
    simp [toOrdinal, daysBeforeMonth]
  have weekday := weekdayOf_eq (toOrdinal ⟨year, 1, 1⟩)
  unfold weekOneMonday
  simp only [first] at weekday ⊢
  split <;> omega

theorem isoOrdinal_seven (year : Int) (week : Nat) :
    isoOrdinal year week 7 = isoOrdinal year week 1 + 6 := by
  simp only [isoOrdinal]
  omega

/-- The ISO week of a valid date starts on a Monday at most six days before the date, whether the
date falls before week 1 of its year, in week 1 of the next, or in its own year's weeks. -/
theorem isoCalendar_monday {date : Date} (valid : date.Valid) {year : Int} {week weekday : Nat}
    (calendar : date.isoCalendar = (year, week, weekday)) :
    isoOrdinal year week 1 ≤ date.toOrdinal ∧ date.toOrdinal < isoOrdinal year week 1 + 7 ∧
      (isoOrdinal year week 1 + 6) % 7 = 0 := by
  have within := valid.toOrdinal_bounds
  have previousYear : daysBeforeYear date.year =
      daysBeforeYear (date.year - 1) + daysInYear (date.year - 1) := by
    simpa using daysBeforeYear_succ (date.year - 1)
  have long := daysInYear_ge (date.year - 1)
  have thisMonday := weekOneMonday_bounds date.year
  have previousMonday := weekOneMonday_bounds (date.year - 1)
  have nextMonday := weekOneMonday_bounds (date.year + 1)
  unfold isoCalendar at calendar
  dsimp only at calendar
  simp only [isoOrdinal]
  split_ifs at calendar with before after <;> simp only [Prod.mk.injEq] at calendar <;>
    obtain ⟨rfl, rfl, rfl⟩ := calendar
  · omega
  · simp only [Bool.and_eq_true, decide_eq_true_eq] at after
    omega
  · simp only [Bool.and_eq_true, decide_eq_true_eq] at after
    omega

end SheetExport.Calendar.Date
