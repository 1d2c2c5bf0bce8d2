import SheetExport.Calendar.Date
import SheetExport.Text.Quoted

/-!
# Date and time values

A date-time value is a date, a time of day to the microsecond and, when it is aware of its zone,
an offset east of UTC below one day. A naive value is read as UTC wherever an instant is needed,
except where it is read as local time (`localToNaiveUtc`), which on the hosts modelled here is UTC
but refuses the first day of the calendar. Moving a value to UTC subtracts its offset; a result
outside the years 1 to 9999 is refused.

Values are written in the ISO 8601 extended form, `YYYY-MM-DDTHH:MM:SS`, with `.ffffff` when
there are microseconds and `+HH:MM` (with `:SS` and `.ffffff` when needed) when aware, and in the
storage form `Y-MM-DD HH:MM:SS`, whose year has no padding.
-/

namespace SheetExport.Calendar

/-- Microseconds per second, minute, hour and day. -/
def microsPerSecond : Int := 1000000
def microsPerMinute : Int := 60 * microsPerSecond
def microsPerHour : Int := 60 * microsPerMinute
def microsPerDay : Int := 24 * microsPerHour

/-- Why a date-time value cannot be made. -/
inductive CalendarError where
  | invalidText (text : String)
  | yearOutOfRange (year : Int)
  | monthOutOfRange
  | dayOutOfRange
  | hourOutOfRange
  | minuteOutOfRange
  | secondOutOfRange
  | microsecondOutOfRange
  /-- An offset of a day or more, in microseconds. -/
  | offsetOutOfRange (offset : Int)
  /-- A move to UTC left the years 1 to 9999. -/
  | outOfRange
  /-- Something other than text was given to read. -/
  | notText
  deriving DecidableEq, Repr

namespace CalendarError

/-- The text of a duration as a constructor call with days, seconds and microseconds, the way an
offset of a day or more is shown. -/
def durationText (micros : Int) : String :=
  let days := micros / microsPerDay
  let rest := micros % microsPerDay
  let seconds := rest / microsPerSecond
  let fraction := rest % microsPerSecond
  let parts :=
    (if days != 0 then ["days=" ++ toString days] else []) ++
      (if seconds != 0 then ["seconds=" ++ toString seconds] else []) ++
      (if fraction != 0 then ["microseconds=" ++ toString fraction] else [])
  "datetime.timedelta(" ++ (if parts.isEmpty then "0" else String.intercalate ", " parts) ++ ")"

/-- The message of a refusal. -/
def message : CalendarError → String
  | .invalidText text => "Invalid isoformat string: " ++ Text.quote text
  | .yearOutOfRange year => "year " ++ toString year ++ " is out of range"
  | .monthOutOfRange => "month must be in 1..12"
  | .dayOutOfRange => "day is out of range for month"
  | .hourOutOfRange => "hour must be in 0..23"
  | .minuteOutOfRange => "minute must be in 0..59"
  | .secondOutOfRange => "second must be in 0..59"
  | .microsecondOutOfRange => "microsecond must be in 0..999999"
  | .offsetOutOfRange offset =>
    "offset must be a timedelta strictly between -timedelta(hours=24) and " ++
      "timedelta(hours=24), not " ++ durationText offset ++ "."
  | .outOfRange => "date value out of range"
  | .notText => "fromisoformat: argument must be str"

/-- The class of a refusal. -/
def className : CalendarError → String
  | .outOfRange => "OverflowError"
  | .notText => "TypeError"
  | _ => "ValueError"

end CalendarError

/-- A date and a time of day, with an offset east of UTC in microseconds when aware. -/
structure DateTime where
  date : Date
  hour : Nat
  minute : Nat
  second : Nat
  microsecond : Nat
  offset : Option Int
  deriving DecidableEq, Repr, Inhabited

namespace DateTime

/-- Checks the fields of a date-time value in the order year, month, day, hour, minute, second,
microsecond. -/
def check (value : DateTime) : Except CalendarError DateTime :=
  let date := value.date
  if date.year < 1 || 9999 < date.year then .error (.yearOutOfRange date.year)
  else if date.month < 1 || 12 < date.month then .error .monthOutOfRange
  else if date.day < 1 || Date.daysInMonth date.year date.month < date.day then
    .error .dayOutOfRange
  else if 23 < value.hour then .error .hourOutOfRange
  else if 59 < value.minute then .error .minuteOutOfRange
  else if 59 < value.second then .error .secondOutOfRange
  else if 999999 < value.microsecond then .error .microsecondOutOfRange
  else .ok value

/-- Midnight of a date, naive. -/
def midnight (date : Date) : DateTime := ⟨date, 0, 0, 0, 0, none⟩

/-- The microseconds since midnight. -/
def timeOfDay (value : DateTime) : Int :=
  value.hour * microsPerHour + value.minute * microsPerMinute + value.second * microsPerSecond +
    value.microsecond

/-- The microseconds since the start of day 1, reading the clock as it stands. -/
def localMicros (value : DateTime) : Int :=
  (value.date.toOrdinal - 1) * microsPerDay + value.timeOfDay

/-- The value at a count of microseconds since the start of day 1, with an offset. -/
def ofLocalMicros (micros : Int) (offset : Option Int) : DateTime :=
  let days := micros / microsPerDay
  let rest := micros % microsPerDay
  ⟨Date.ofOrdinal (days + 1), (rest / microsPerHour).toNat, (rest % microsPerHour / microsPerMinute).toNat,
    (rest % microsPerMinute / microsPerSecond).toNat, (rest % microsPerSecond).toNat, offset⟩

/-- The instant of a value in microseconds of UTC since the start of day 1; a naive value is
read as UTC. -/
def utcMicros (value : DateTime) : Int := value.localMicros - value.offset.getD 0

/-- The same instant in UTC, aware; a naive value is read as UTC. -/
def toUtc (value : DateTime) : Except CalendarError DateTime :=
  match value.offset with
  | none => .ok { value with offset := some 0 }
  | some _ =>
    let moved := ofLocalMicros value.utcMicros (some 0)
    if moved.date.year < 1 || 9999 < moved.date.year then .error .outOfRange else .ok moved

/-- The same instant in UTC, without its zone. -/
def toNaiveUtc (value : DateTime) : Except CalendarError DateTime := do
  let moved ← value.toUtc
  pure { moved with offset := none }

/-- The same instant in UTC without its zone, the way a move to UTC reads a naive value: as local
time, which on the hosts modelled here is UTC. Reading local time looks a day back for a second
reading of the same wall time, so a naive value on the first day of the calendar is refused, the
day before it lying in year 0. -/
def localToNaiveUtc (value : DateTime) : Except CalendarError DateTime :=
  match value.offset with
  | none => if value.date = ⟨1, 1, 1⟩ then .error (.yearOutOfRange 0) else .ok value
  | some _ => value.toNaiveUtc

/-- Two digits. -/
def twoDigits (n : Nat) : String := if n < 10 then "0" ++ Nat.repr n else Nat.repr n

/-- A number padded with zeros to a width. -/
def paddedNumber (width : Nat) (n : Nat) : String :=
  let text := Nat.repr n
  String.ofList (List.replicate (width - text.length) '0') ++ text

/-- The year as a number, with a sign when negative. -/
def yearText (year : Int) : String := toString year

/-- The offset part of the ISO form: sign, hours and minutes, then seconds and microseconds when
they are not zero. -/
def offsetText (offset : Int) : String :=
  let sign := if offset < 0 then "-" else "+"
  let magnitude := offset.natAbs
  let hours := magnitude / microsPerHour.toNat
  let minutes := magnitude % microsPerHour.toNat / microsPerMinute.toNat
  let seconds := magnitude % microsPerMinute.toNat / microsPerSecond.toNat
  let micros := magnitude % microsPerSecond.toNat
  sign ++ twoDigits hours ++ ":" ++ twoDigits minutes ++
    (if seconds != 0 || micros != 0 then
      ":" ++ twoDigits seconds ++ (if micros != 0 then "." ++ paddedNumber 6 micros else "")
    else "")

/-- The ISO 8601 extended form of a value. -/
def isoText (value : DateTime) : String :=
  paddedNumber 4 value.date.year.toNat ++ "-" ++ twoDigits value.date.month ++ "-" ++
    twoDigits value.date.day ++ "T" ++ twoDigits value.hour ++ ":" ++ twoDigits value.minute ++
    ":" ++ twoDigits value.second ++
    (if value.microsecond != 0 then "." ++ paddedNumber 6 value.microsecond else "") ++
    (match value.offset with
     | some offset => offsetText offset
     | none => "")

/-- The storage form of a value as it stands, `Y-MM-DD HH:MM:SS`, the year without padding and
the microseconds left out. -/
def storageText (value : DateTime) : String :=
  yearText value.date.year ++ "-" ++ twoDigits value.date.month ++ "-" ++
    twoDigits value.date.day ++ " " ++ twoDigits value.hour ++ ":" ++ twoDigits value.minute ++
    ":" ++ twoDigits value.second

/-- The storage form of an instant: an aware value is moved to UTC first, a naive one is written
as it stands. -/
def stamp (value : DateTime) : Except CalendarError String :=
  match value.offset with
  | none => .ok value.storageText
  | some _ => value.toUtc.map storageText

/-- The label of a date, `Month-day-year`, with neither day nor year padded. -/
def label (value : DateTime) : String :=
  Date.monthName value.date.month ++ "-" ++ Nat.repr value.date.day ++ "-" ++
    yearText value.date.year

end DateTime

end SheetExport.Calendar
