import SheetExport.Calendar.Instant

/-!
# The weekly reporting window

The reporting window of an instant is its ISO week in UTC: Monday 00:00:00 to Sunday 23:59:59,
both aware at offset zero. A naive instant is read as UTC; an aware one is moved to UTC first,
which fails when the move leaves the years 1 to 9999. The Sunday of the last week of year 9999
falls in year 10000, so instants of that week have no window.

The window is written in two labels: `start to end` with each date as `Month-day-year`, and the
period row that sets a week's summary apart, the same text between two rules.
-/

namespace SheetExport.Calendar

/-- A reporting window: its first and last second. -/
structure Window where
  start : DateTime
  finish : DateTime
  deriving DecidableEq, Repr, Inhabited

namespace Window

/-- The aware UTC value at a time of day of a date. -/
def atUtc (date : Date) (hour minute second : Nat) : DateTime :=
  ⟨date, hour, minute, second, 0, some 0⟩

/-- The ISO week in UTC of an instant: its Monday at 00:00:00 and its Sunday at 23:59:59. -/
def ofInstant (base : DateTime) : Except CalendarError Window := do
  let utc ← base.toUtc
  let (year, week, _) := utc.date.isoCalendar
  let monday := Date.ofOrdinal (Date.isoOrdinal year week 1)
  let sunday := Date.ofOrdinal (Date.isoOrdinal year week 7)
  if 9999 < sunday.year then .error (.yearOutOfRange sunday.year)
  else pure ⟨atUtc monday 0 0 0, atUtc sunday 23 59 59⟩

/-- The rule on each side of a period row. -/
def rule : String := "⎯⎯⎯⎯⎯"

/-- The label of a window, `start to end`; the dates are read as they stand. -/
def label (start finish : DateTime) : String :=
  start.label ++ " to " ++ finish.label

/-- The period row of a window: its label between two rules. -/
def periodLabel (start finish : DateTime) : String :=
  rule ++ " " ++ label start finish ++ " " ++ rule

end Window

end SheetExport.Calendar
