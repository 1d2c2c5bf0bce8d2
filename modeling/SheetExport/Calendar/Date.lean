/-!
# Calendar dates

Dates of the proleptic Gregorian calendar, counted by their ordinal: day 1 is Monday, January 1
of year 1, and each later day counts one more. The ISO week calendar groups the days into weeks
from Monday to Sunday; week 1 of a year is the week that holds its first Thursday, so a year has
52 or 53 weeks and its first days may belong to the last week of the year before.

On valid dates `ofOrdinal` inverts `toOrdinal`, and a day's ISO week starts on the Monday at most
six days before it.
-/

namespace SheetExport.Calendar

/-- A date: year, month from 1 to 12, day of the month from 1. -/
structure Date where
  year : Int
  month : Nat
  day : Nat
  deriving DecidableEq, Repr, Inhabited

namespace Date

/-- Whether a year has a February 29. -/
def isLeapYear (year : Int) : Bool :=
  year % 4 == 0 && (year % 100 != 0 || year % 400 == 0)

/-- The number of days of a month of a year. -/
def daysInMonth (year : Int) (month : Nat) : Nat :=
  match month with
  | 2 => if isLeapYear year then 29 else 28
  | 4 | 6 | 9 | 11 => 30
  | _ => 31

/-- The number of days of the months before `month` in a year. -/
def daysBeforeMonth (year : Int) (month : Nat) : Nat :=
  ((List.range (month - 1)).map (fun index => daysInMonth year (index + 1))).foldr (· + ·) 0

/-- The number of days of the years before `year`, counted from year 1. -/
def daysBeforeYear (year : Int) : Int :=
  let previous := year - 1
  previous * 365 + previous / 4 - previous / 100 + previous / 400

/-- The ordinal of a date. -/
def toOrdinal (date : Date) : Int :=
  daysBeforeYear date.year + daysBeforeMonth date.year date.month + date.day

/-- Whether the fields of a date name a day of years 1 to 9999. -/
def isValid (date : Date) : Bool :=
  1 ≤ date.year && date.year ≤ 9999 && 1 ≤ date.month && date.month ≤ 12 && 1 ≤ date.day &&
    date.day ≤ daysInMonth date.year date.month

/-- The month and day of the `dayOfYear`-th day of a year, counted from zero. -/
def monthAndDay (year : Int) (dayOfYear : Nat) : Nat × Nat :=
  go 1 dayOfYear 12
where
  go (month remaining : Nat) : Nat → Nat × Nat
    | 0 => (month, remaining + 1)
    | fuel + 1 =>
      if remaining < daysInMonth year month then (month, remaining + 1)
      else go (month + 1) (remaining - daysInMonth year month) fuel

/-- The date of an ordinal. Whole cycles of 400 years have 146097 days; within a cycle the year is
found from an estimate and corrected by one. -/
def ofOrdinal (ordinal : Int) : Date :=
  let days := ordinal - 1
  let cycles := days / 146097
  let withinCycle := days % 146097
  let estimate := withinCycle * 400 / 146097
  let year0 := cycles * 400 + estimate + 1
  let year :=
    if daysBeforeYear (year0 + 1) ≤ days then year0 + 1
    else if days < daysBeforeYear year0 then year0 - 1
    else year0
  let (month, day) := monthAndDay year (days - daysBeforeYear year).toNat
  ⟨year, month, day⟩

/-- The day of the week of an ordinal: 0 for Monday to 6 for Sunday. -/
def weekdayOf (ordinal : Int) : Nat := ((ordinal + 6) % 7).toNat

/-- The ordinal of the Monday of week 1 of a year: the Monday on or before January 1 when
January 1 falls from Monday to Thursday, the Monday after it otherwise. -/
def weekOneMonday (year : Int) : Int :=
  let first := toOrdinal ⟨year, 1, 1⟩
  let weekday := weekdayOf first
  if 3 < weekday then first - weekday + 7 else first - weekday

/-- The ISO year, week and weekday (1 for Monday to 7 for Sunday) of a date. -/
def isoCalendar (date : Date) : Int × Nat × Nat :=
  let ordinal := date.toOrdinal
  let offset := ordinal - weekOneMonday date.year
  if offset < 0 then
    let previous := date.year - 1
    let offset := ordinal - weekOneMonday previous
    (previous, (offset / 7).toNat + 1, (offset % 7).toNat + 1)
  else if 52 * 7 ≤ offset && weekOneMonday (date.year + 1) ≤ ordinal then
    (date.year + 1, 1, (offset % 7).toNat + 1)
  else (date.year, (offset / 7).toNat + 1, (offset % 7).toNat + 1)

/-- Whether an ISO year has a week 53: it starts on a Thursday, or it is a leap year starting on a
Wednesday. -/
def hasWeekFiftyThree (year : Int) : Bool :=
  let weekday := weekdayOf (toOrdinal ⟨year, 1, 1⟩)
  weekday == 3 || (weekday == 2 && isLeapYear year)

/-- The ordinal of a day given by ISO year, week and weekday, without checking the fields. -/
def isoOrdinal (year : Int) (week weekday : Nat) : Int :=
  weekOneMonday year + ((week : Int) - 1) * 7 + ((weekday : Int) - 1)

/-- The English name of a month. -/
def monthName (month : Nat) : String :=
  match month with
  | 1 => "January" | 2 => "February" | 3 => "March" | 4 => "April"
  | 5 => "May" | 6 => "June" | 7 => "July" | 8 => "August"
  | 9 => "September" | 10 => "October" | 11 => "November" | _ => "December"

end Date

end SheetExport.Calendar
