import SheetExport.Calendar.Instant

/-!
# Reading ISO 8601 date-time text

The reader takes a date, optionally a separator of any one character and a time, and optionally a
zone. The date is `YYYY-MM-DD`, `YYYYMMDD`, or a week date `YYYY-Www[-D]` or `YYYYWww[D]`; where
the date ends is told by its fourth and fifth characters. The time is `HH[:MM[:SS]]` or
`HH[MM[SS]]`, and a fraction of any length after `.` or `,` keeps six digits. The zone is `Z` or a
sign with the same shape as a time. A `Z` must end the text or be followed by a NUL character,
which ends what is read, as it ends a C string. A text of fewer than seven characters is refused.

A text that breaks this grammar is refused as invalid; fields out of range are refused with the
field's own message, checked from the year down, after the zone's offset is checked.
-/

namespace SheetExport.Calendar

namespace IsoText

/-- The character at a position, NUL beyond the end. -/
def at! (chars : Array Char) (position : Nat) : Char := chars[position]?.getD '\x00'

/-- Whether a character is an ASCII digit. -/
def isDigit (c : Char) : Bool := '0' ≤ c && c ≤ '9'

/-- The value of `count` digits from `position`, and the position after them. -/
def digits (chars : Array Char) (position count : Nat) : Option (Nat × Nat) :=
  (List.range count).foldlM (fun (acc : Nat × Nat) _ =>
    let c := at! chars acc.2
    if isDigit c then some (acc.1 * 10 + (c.toNat - '0'.toNat), acc.2 + 1) else none)
    (0, position)

/-- The position where the date ends and the separator stands. -/
def separatorAt (chars : Array Char) : Int :=
  let size := chars.size
  if size == 7 then 7
  else if at! chars 4 == '-' then
    if at! chars 5 == 'W' then
      if size < 8 then -1
      else if 8 < size && at! chars 8 == '-' then
        if size == 9 then -1
        else if 10 < size && isDigit (at! chars 10) then 8
        else 10
      else 8
    else 10
  else if at! chars 4 == 'W' then
    let stop := ((List.range (size - 7)).find? (fun offset => !isDigit (at! chars (7 + offset)))).map
      (· + 7) |>.getD (max size 7)
    if stop < 9 then stop else if stop % 2 == 0 then 7 else 8
  else 8

/-- A date read from the start: the year, month and day, or `none` when the text breaks the
grammar. A week date is turned into its calendar date. -/
def readDate (chars : Array Char) (dateLength : Int) : Option Date := do
  let (year, afterYear) ← digits chars 0 4
  let dashed := at! chars afterYear == '-'
  let position := if dashed then afterYear + 1 else afterYear
  if at! chars position == 'W' then
    let (week, afterWeek) ← digits chars (position + 1) 2
    let weekday ← if dateLength < 0 || (afterWeek : Int) < dateLength then do
        let position := if dashed then
            (if at! chars afterWeek == '-' then some (afterWeek + 1) else none)
          else some afterWeek
        let position ← position
        let (weekday, _) ← digits chars position 1
        pure weekday
      else pure 1
    let weekValid := (1 ≤ week && week ≤ 52) || (week == 53 && Date.hasWeekFiftyThree year)
    if !weekValid || weekday < 1 || 7 < weekday then none
    -- a week date of year 0 lies before day 1: it has no month
    else if year == 0 then pure ⟨1, 0, 1⟩
    else pure (Date.ofOrdinal (Date.isoOrdinal year week weekday))
  else
    let (month, afterMonth) ← digits chars position 2
    let position ← if dashed then
        (if at! chars afterMonth == '-' then some (afterMonth + 1) else none)
      else some afterMonth
    let (day, _) ← digits chars position 2
    pure ⟨year, month, day⟩

/-- The outcome of reading a clock: the fields, and whether characters were left before `stop`
(or the character that ended the read was not NUL). -/
structure Clock where
  hour : Nat
  minute : Nat
  second : Nat
  microsecond : Nat
  leftover : Bool

/-- The fraction of a second from `position` to `stop`: at most six digits are read and scaled to
microseconds, further digits skipped. -/
def readFraction (chars : Array Char) (position stop : Nat) : Option (Nat × Bool) := do
  let remaining := stop - position
  let count := min remaining 6
  let (value, after) ← digits chars position count
  let scaled := if count < 6 then value * Nat.pow 10 (6 - count) else value
  let afterDigits := ((List.range (chars.size + 1 - after)).find?
    (fun offset => !isDigit (at! chars (after + offset)))).map (· + after) |>.getD after
  pure (scaled, at! chars afterDigits != '\x00')

/-- Reads `HH[:MM[:SS]][.f]` or `HH[MM[SS]][.f]` between `start` and `stop`. -/
def readClock (chars : Array Char) (start stop : Nat) : Option Clock := do
  let (hour, p0) ← digits chars start 2
  let c0 := at! chars p0
  let colons := c0 == ':'
  let p0 := p0 + 1
  if stop ≤ p0 then return ⟨hour, 0, 0, 0, c0 != '\x00'⟩
  let next1 ← if colons && c0 == ':' then some (some p0)
    else if c0 == '.' || c0 == ',' then some none
    else if !colons then some (some (p0 - 1))
    else none
  match next1 with
  | none =>
    let (micros, leftover) ← readFraction chars p0 stop
    pure ⟨hour, 0, 0, micros, leftover⟩
  | some p1 =>
    let (minute, p1) ← digits chars p1 2
    let c1 := at! chars p1
    let p1 := p1 + 1
    if stop ≤ p1 then return ⟨hour, minute, 0, 0, c1 != '\x00'⟩
    let next2 ← if colons && c1 == ':' then some (some p1)
      else if c1 == '.' || c1 == ',' then some none
      else if !colons then some (some (p1 - 1))
      else none
    match next2 with
    | none =>
      let (micros, leftover) ← readFraction chars p1 stop
      pure ⟨hour, minute, 0, micros, leftover⟩
    | some p2 =>
      let (second, p2) ← digits chars p2 2
      let c2 := at! chars p2
      let p2 := p2 + 1
      if stop ≤ p2 then return ⟨hour, minute, second, 0, c2 != '\x00'⟩
      let fractionStart ← if colons && c2 == ':' then some p2
        else if c2 == '.' || c2 == ',' then some p2
        else if !colons then some (p2 - 1)
        else none
      let (micros, leftover) ← readFraction chars fractionStart stop
      pure ⟨hour, minute, second, micros, leftover⟩

/-- A time with an optional zone, from `start` to the end: the clock and the offset in
microseconds, or `none` when the text breaks the grammar. -/
def readTime (chars : Array Char) (start : Nat) : Option (Clock × Option Int) := do
  let stop := chars.size
  let zoneAt := ((List.range (stop - start)).find? (fun offset =>
    let c := at! chars (start + offset)
    c == 'Z' || c == '+' || c == '-')).map (· + start)
  match zoneAt with
  | none =>
    let clock ← readClock chars start (max stop (start + 1))
    if clock.leftover then none else pure (clock, none)
  | some zone =>
    let clock ← readClock chars start zone
    if at! chars zone == 'Z' then
      if at! chars (zone + 1) == '\x00' then pure (clock, some 0) else none
    else
      let zoneClock ← readClock chars (zone + 1) stop
      if zoneClock.leftover then none
      else
        let sign : Int := if at! chars zone == '-' then -1 else 1
        let seconds : Int := zoneClock.hour * 3600 + zoneClock.minute * 60 + zoneClock.second
        let offset := if seconds == 0 then 0
          else sign * (seconds * microsPerSecond + zoneClock.microsecond)
        pure (clock, some offset)

/-- The text as single-byte characters of its UTF-8 encoding, after a character outside ASCII at
the first of positions 7, 8 and 10 that holds one is replaced by `T`: the separator may be any
character, and every other part of the grammar is ASCII. -/
def asciiView (text : String) : Array Char :=
  let chars := text.toList
  let separator := [7, 8, 10].find? (fun position =>
    match chars[position]? with
    | some c => 0x7F < c.toNat
    | none => false)
  let chars := match separator with
    | some position => chars.set position 'T'
    | none => chars
  ((String.ofList chars).toUTF8.toList.map (fun byte => Char.ofNat byte.toNat)).toArray

end IsoText

open IsoText in
/-- Reads a date-time value from ISO 8601 text. -/
def DateTime.ofIsoText (text : String) : Except CalendarError DateTime :=
  let chars := asciiView text
  let invalid : Except CalendarError DateTime := .error (.invalidText text)
  if text.length < 7 then invalid
  else
    let separator := separatorAt chars
    match readDate chars separator with
    | none => invalid
    | some date =>
      let timePart : Option (Clock × Option Int) :=
        if separator < chars.size then readTime chars (separator.toNat + 1)
        else some (⟨0, 0, 0, 0, false⟩, none)
      match timePart with
      | none => invalid
      | some (clock, offset) =>
        match offset with
        | some micros =>
          if micros ≤ -microsPerDay || microsPerDay ≤ micros then .error (.offsetOutOfRange micros)
          else DateTime.check ⟨date, clock.hour, clock.minute, clock.second, clock.microsecond, offset⟩
        | none =>
          DateTime.check ⟨date, clock.hour, clock.minute, clock.second, clock.microsecond, none⟩

end SheetExport.Calendar
