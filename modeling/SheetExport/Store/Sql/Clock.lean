import SheetExport.Store.Sql.Format

/-!
# Dates and times

The functions `date`, `time`, `datetime`, `julianday`, `unixepoch` and `strftime` read a moment
from their first argument and change it by each later argument, a *modifier*.

A moment is held as a `Moment`: a Julian day in milliseconds, a calendar date, a time of day and
a zone offset, each with a flag saying whether it is known, and converted between on demand. The
Julian day counts from noon of 4714-11-24 BC; the date functions accept the days from that noon
to the end of 9999-12-31, and the calendar years from -4713 to 9999.

**Reading.** A number (integer or real, or text that is wholly a numeral) is a raw number: a
Julian day when it lies in `[0, 5373484.5)`, otherwise unusable unless a modifier says what it is.
Text is read as `[-]YYYY-MM-DD`, then blanks or `T`, then an optional time `HH:MM[:SS[.F…]]` and
a zone (`Z`, or `±HH:MM`), or as a time alone (on 2000-01-01). A day up to 31 is read in any
month and carried into the next. `now`, in any ASCII case, and a call with no argument read the
store's clock, which stands still at 2026-01-01 00:00:00.

**Modifiers.** `±N unit[s]` for seconds, minutes, hours, days, months and years (months and
years change the calendar fields and keep the day, any fraction going at thirty days a month or
365 a year), `±HH:MM[:SS[.F…]]`, `start of day|month|year`, `weekday N`, `unixepoch` and `auto`
and `julianday` (ways to read a raw number, allowed only as the first modifier), and `localtime`
and `utc`, which change nothing as the store's clock runs on UTC. Names are read in any ASCII case; anything else fails, and so does
every result outside the accepted days. A failure makes the function NULL.

The arithmetic of these conversions is integer arithmetic where the calendar formulas allow it
(their binary64 quotients truncate exactly as the rational ones do), and binary64 arithmetic for
seconds and fractions, so that rounding goes as it does in the store.
-/

namespace SheetExport.Store.Sql

namespace Clock

/-- Milliseconds in a day. -/
def msPerDay : Int := 86400000

/-- The last millisecond of 9999-12-31 as a Julian day in milliseconds. -/
def greatestJulian : Int := 464269060799999

/-- Whether a Julian day in milliseconds is one the date functions accept. -/
def acceptsJulian (julian : Int) : Bool := 0 ≤ julian && julian ≤ greatestJulian

/-- A moment while the date functions read it. -/
structure Moment where
  /-- The Julian day in milliseconds. -/
  julian : Int
  year : Int
  month : Int
  day : Int
  hour : Int
  minute : Int
  /-- The zone offset written with the time, in minutes east of UTC. -/
  zone : Int
  /-- The seconds of the time of day, or a raw number not yet read as a moment. -/
  seconds : Binary64
  hasJulian : Bool
  /-- Whether `seconds` holds a raw number. -/
  raw : Bool
  hasDate : Bool
  hasTime : Bool
  hasZone : Bool
  /-- Whether a zone was written at all, so that `utc` changes nothing more. -/
  zoneSet : Bool
  /-- Whether a conversion has failed. -/
  failed : Bool
  deriving DecidableEq, Repr

/-- A binary64 integer. -/
def real (n : Int) : Binary64 := Binary64.ofInt n

/-- The integer a binary64 number truncates to. -/
def truncated (x : Binary64) : Int := x.truncate?.getD 0

namespace Moment

/-- Nothing known yet. -/
def empty : Moment :=
  ⟨0, 0, 0, 0, 0, 0, 0, real 0, false, false, false, false, false, false, false⟩

/-- The store's clock: 2026-01-01 00:00:00 as a Julian day in milliseconds. -/
def now : Moment := { empty with julian := 212633985600000, hasJulian := true }

/-- A failed moment: everything forgotten. -/
def failure : Moment := { empty with failed := true }

/-- Forgets the date, the time and the zone, keeping the Julian day. -/
def clearFields (m : Moment) : Moment :=
  { m with hasDate := false, hasTime := false, hasZone := false }

/-- The milliseconds of a number of seconds, rounded half up in binary64. -/
def secondsMillis (seconds : Binary64) : Int :=
  truncated (Binary64.add (Binary64.mul seconds (real 1000)) (Binary64.ofDecimal false 5 (-1)))

/-- The moment with its Julian day known: from the date (2000-01-01 when there is none), the time
of day and the zone, which is then folded into the day. A year outside -4713 to 9999, or a raw
number, fails. -/
def withJulian (m : Moment) : Moment :=
  if m.hasJulian then m
  else
    let (y, mo, d) := if m.hasDate then (m.year, m.month, m.day) else (2000, 1, 1)
    if y < -4713 || 9999 < y || m.raw then failure
    else
      let (y, mo) := if mo ≤ 2 then (y - 1, mo + 12) else (y, mo)
      let a := y.tdiv 100
      let b := 2 - a + a.tdiv 4
      let x1 := (36525 * (y + 4716)).tdiv 100
      let x2 := (306001 * (mo + 1)).tdiv 10000
      let m := { m with julian := (x1 + x2 + d + b) * msPerDay - 131716800000, hasJulian := true }
      if m.hasTime then
        let julian := m.julian + m.hour * 3600000 + m.minute * 60000 + secondsMillis m.seconds
        if m.hasZone then
          { m with julian := julian - m.zone * 60000, hasDate := false, hasTime := false,
                   hasZone := false }
        else { m with julian := julian }
      else m

/-- The moment with its calendar date known: from the Julian day, or 2000-01-01 when there is
none; a day outside the accepted ones fails. -/
def withDate (m : Moment) : Moment :=
  if m.hasDate then m
  else if !m.hasJulian then { m with year := 2000, month := 1, day := 1, hasDate := true }
  else if !acceptsJulian m.julian then failure
  else
    let z := (m.julian + 43200000).tdiv msPerDay
    let a := (4 * z - 7468865).tdiv 146097
    let a := z + 1 + a - a.tdiv 4
    let b := a + 1524
    let c := (20 * b - 2442).tdiv 7305
    let d := (36525 * (c % 32768)).tdiv 100
    let e := (10000 * (b - d)).tdiv 306001
    let x1 := (306001 * e).tdiv 10000
    let month := if e < 14 then e - 1 else e - 13
    { m with day := b - d - x1, month := month, year := if 2 < month then c - 4716 else c - 4715,
             hasDate := true }

/-- The moment with its time of day known, from the Julian day. -/
def withTime (m : Moment) : Moment :=
  if m.hasTime then m
  else
    let m := withJulian m
    let millis := (m.julian + 43200000).tmod msPerDay
    let seconds := Binary64.div (real millis) (real 1000)
    let whole := truncated seconds
    let seconds := Binary64.sub seconds (real whole)
    let hour := whole.tdiv 3600
    let rest := whole - hour * 3600
    let minute := rest.tdiv 60
    { m with hour := hour, minute := minute,
             seconds := Binary64.add seconds (real (rest - minute * 60)), raw := false,
             hasTime := true }

/-- The moment with its date and time known. -/
def withFields (m : Moment) : Moment := withTime (withDate m)

/-- A raw number: a Julian day when it lies in `[0, 5373484.5)`. -/
def ofRaw (r : Binary64) : Moment :=
  let m := { empty with seconds := r, raw := true }
  if (r.compareWith (real 0)).any (· != .lt) &&
      r.compareWith (Binary64.ofDecimal false 53734845 (-1)) == some .lt then
    { m with julian := truncated (Binary64.add (Binary64.mul r (real msPerDay))
                        (Binary64.ofDecimal false 5 (-1))),
             hasJulian := true }
  else m

end Moment

/-- Whether two texts are equal, ASCII letters in either case. -/
def sameWord (chars : List Char) (word : String) : Bool :=
  chars.length == word.length &&
    (chars.zip word.toList).all fun (a, b) => Value.foldCase a == Value.foldCase b

/-- Reads exactly `count` ASCII digits as a number within bounds. -/
def field (count low high : Nat) (chars : List Char) : Option (Nat × List Char) :=
  let digits := chars.take count
  if digits.length == count && digits.all Char.isDigit then
    let value := digits.foldl (fun n c => n * 10 + (c.toNat - 48)) 0
    if low ≤ value && value ≤ high then some (value, chars.drop count) else none
  else none

/-- Reads one expected character. -/
def expect (c : Char) : List Char → Option (List Char)
  | d :: rest => if c == d then some rest else none
  | [] => none

/-- Reads what may follow a time: blanks, then nothing, or `Z`, or `±HH:MM`, then blanks. -/
def readZone (chars : List Char) (m : Moment) : Option Moment :=
  let finish (rest : List Char) (m : Moment) : Option Moment :=
    if (rest.dropWhile isSpace).isEmpty then some { m with zoneSet := true } else none
  let m := { m with zone := 0 }
  match chars.dropWhile isSpace with
  | [] => some m
  | c :: rest =>
    if c == 'Z' || c == 'z' then finish rest m
    else if c == '-' || c == '+' then do
      let (hours, rest) ← field 2 0 14 rest
      let rest ← expect ':' rest
      let (minutes, rest) ← field 2 0 59 rest
      let offset : Int := (minutes + hours * 60 : Nat)
      finish rest { m with zone := if c == '-' then -offset else offset }
    else none

/-- The fraction of a second written by its digits after the point: the digits gathered as a
binary64 number, then divided by the power of ten. -/
def fractionOf (digits : List Char) : Binary64 :=
  let (value, scale) := digits.foldl (fun (value, scale) c =>
    (Binary64.sub (Binary64.add (Binary64.mul value (real 10)) (real c.toNat)) (real 48),
     Binary64.mul scale (real 10))) (real 0, real 1)
  Binary64.div value scale

/-- Reads a time of day `HH:MM[:SS[.F…]]` and what follows it. -/
def readTime (chars : List Char) (m : Moment) : Option Moment := do
  let (hour, rest) ← field 2 0 24 chars
  let rest ← expect ':' rest
  let (minute, rest) ← field 2 0 59 rest
  let (seconds, rest) ← match rest with
    | ':' :: more => do
      let (second, more) ← field 2 0 59 more
      match more with
      | '.' :: d :: after =>
        if d.isDigit then
          let digits := (d :: after).takeWhile Char.isDigit
          pure (Binary64.add (real second) (fractionOf digits), (d :: after).drop digits.length)
        else pure (real second, more)
      | _ => pure (real second, more)
    | _ => pure (real 0, rest)
  let m := { m with hasJulian := false, raw := false, hasTime := true, hour := hour,
                    minute := minute, seconds := seconds }
  let m ← readZone rest m
  pure { m with hasZone := m.zone != 0 }

/-- Reads a date `[-]YYYY-MM-DD`, then blanks or `T`, then a time or nothing. -/
def readDate (chars : List Char) (m : Moment) : Option Moment := do
  let (negative, chars) := match chars with
    | '-' :: rest => (true, rest)
    | _ => (false, chars)
  let (year, rest) ← field 4 0 14712 chars
  let rest ← expect '-' rest
  let (month, rest) ← field 2 1 12 rest
  let rest ← expect '-' rest
  let (day, rest) ← field 2 1 31 rest
  let rest := rest.dropWhile fun c => isSpace c || c == 'T'
  let m ← match readTime rest m with
    | some m => some m
    | none => if rest.isEmpty then some { m with hasTime := false } else none
  let m := { m with hasJulian := false, hasDate := true,
                    year := if negative then -(year : Int) else year, month := month, day := day }
  pure (if m.hasZone then m.withJulian else m)

/-- Whether the text is wholly a numeral, and its value. -/
def wholeNumber (chars : List Char) : Option Binary64 :=
  let reading := readReal chars
  if reading.fit == .integer || reading.fit == .real then some reading.value else none

/-- How reading the arguments of a date function ends: with a moment, with nothing usable, or at
a step that reads the clock or the local zone where the value must not change with them. -/
inductive Reading where
  | moment (m : Moment)
  | unusable
  | unsteady

/-- Reads the first argument's text: a date, a time, `now` (unsteady where the value must be
`steady`), or a raw number. -/
def readText (steady : Bool) (chars : List Char) : Reading :=
  match readDate chars Moment.empty with
  | some m => .moment m
  | none =>
    match readTime chars Moment.empty with
    | some m => .moment m
    | none =>
      if chars.map Char.toLower == ['n', 'o', 'w'] && !steady then .moment Moment.now
      else if chars.map Char.toLower == ['n', 'o', 'w'] then .unsteady
      else match wholeNumber chars with
        | some r => .moment (Moment.ofRaw r)
        | none => .unusable

/-- The first Julian day in milliseconds of the Unix epoch, and the range of seconds the
`unixepoch` and `auto` modifiers accept. -/
def unixEpochMillis : Int := 210866760000000

/-- Reads a raw number as seconds since 1970 when it lies in the accepted range: for `auto`, the
whole seconds from -4713-11-24 12:00:00 to 9999-12-31 23:59:59; for `unixepoch`, any number
whose Julian milliseconds come before the end of 9999. -/
def fromUnixSeconds (automatic : Bool) (m : Moment) : Option Moment :=
  let r := Binary64.add (Binary64.mul m.seconds (real 1000)) (real unixEpochMillis)
  let accepted := if automatic then
      (m.seconds.compareWith (real (-210866760000))).any (· != .lt) &&
        (m.seconds.compareWith (real 253402300799)).any (· != .gt)
    else
      (r.compareWith (real 0)).any (· != .lt) &&
        r.compareWith (real (greatestJulian + 1)) == some .lt
  if accepted then
    some { m.clearFields with julian := truncated (Binary64.add r (Binary64.ofDecimal false 5 (-1))),
                              hasJulian := true, raw := false }
  else none

/-- The units of `±N unit` modifiers: name, the bound on `|N|`, and the seconds in one. -/
def units : List (String × Int × Int) :=
  [("second", 464269992787968, 1), ("minute", 7737900007424, 60), ("hour", 128969998336, 3600),
   ("day", 5373485, 86400), ("month", 176546, 2592000), ("year", 14713, 31536000)]

/-- Moves a moment by `r` units: months and years first through the calendar by their whole
part, then the rest as milliseconds, rounded half away from zero. -/
def shift (unit : String) (seconds : Int) (r : Binary64) (m : Moment) : Moment :=
  let half := Binary64.ofDecimal (r.compareWith (real 0) == some .lt) 5 (-1)
  let whole := truncated r
  let (m, r) :=
    if unit == "month" then
      let m := m.withFields
      let month := m.month + whole
      let carry := if 0 < month then (month - 1).tdiv 12 else (month - 12).tdiv 12
      ({ m with year := m.year + carry, month := month - carry * 12, hasJulian := false },
       Binary64.sub r (real whole))
    else if unit == "year" then
      let m := m.withFields
      ({ m with year := m.year + whole, hasJulian := false }, Binary64.sub r (real whole))
    else (m, r)
  let m := m.withJulian
  let step := Binary64.add (Binary64.mul (Binary64.mul r (real 1000)) (real seconds)) half
  { m with julian := m.julian + truncated step }

/-- Applies a `±HH:MM[:SS[.F…]]` modifier: the time read (with any zone) as a duration below a
day, added or subtracted. -/
def shiftByTime (negative : Bool) (chars : List Char) (m : Moment) : Option Moment := do
  let time ← readTime chars Moment.empty
  let julian := time.withJulian.julian - 43200000
  let julian := julian - julian.tdiv msPerDay * msPerDay
  let m := m.withJulian.clearFields
  pure { m with julian := m.julian + (if negative then -julian else julian) }

/-- Applies a modifier starting with a sign or a digit. -/
def shiftModifier (chars : List Char) (m : Moment) : Option Moment := do
  let first := chars.take 1 ++ (chars.drop 1).takeWhile fun c => c != ':' && !isSpace c
  let r ← wholeNumber first
  let rest := chars.drop first.length
  if rest.head? == some ':' then
    shiftByTime (chars.head? == some '-')
      (if chars.head?.any Char.isDigit then chars else chars.drop 1) m
  else
    let unit := rest.dropWhile isSpace
    if unit.length < 3 || 10 < unit.length then none
    else
      let unit := if unit.getLast?.map Value.foldCase == some 's' then unit.dropLast else unit
      let m := m.withJulian
      match units.find? fun (name, _, _) => sameWord unit name with
      | some (name, bound, seconds) =>
        if r.compareWith (real (-bound)) == some .gt && r.compareWith (real bound) == some .lt then
          some (shift name seconds r m).clearFields
        else none
      | none => none

/-- Applies one modifier, `first` when it is the first; none when it fails. The modifiers that say
how to read a raw number, `auto`, `julianday` and `unixepoch`, fail unless they come first. -/
def modify (first : Bool) (chars : List Char) (m : Moment) : Option Moment :=
  match chars.head?.map Value.foldCase with
  | some 'a' =>
    if sameWord chars "auto" && first then
      if !m.raw || m.hasJulian then some { m with raw := false } else fromUnixSeconds true m
    else none
  | some 'j' =>
    if sameWord chars "julianday" && first && m.hasJulian && m.raw then some { m with raw := false }
    else none
  | some 'l' =>
    if sameWord chars "localtime" then some m.withJulian.clearFields else none
  | some 'u' =>
    if sameWord chars "unixepoch" && m.raw then (if first then fromUnixSeconds false m else none)
    else if sameWord chars "utc" then
      if m.zoneSet then some m else some { m.withJulian.clearFields with zoneSet := true }
    else none
  | some 'w' =>
    if sameWord (chars.take 8) "weekday " then do
      let r ← wholeNumber (chars.drop 8)
      let n := truncated r
      if r.isIntegral && 0 ≤ n && r.compareWith (real 7) == some .lt then
        let m := { m.withFields with hasZone := false, hasJulian := false }.withJulian
        let z := ((m.julian + 129600000).tdiv msPerDay).tmod 7
        let z := if n < z then z - 7 else z
        some { m with julian := m.julian + (n - z) * msPerDay }.clearFields
      else none
    else none
  | some 's' =>
    if sameWord (chars.take 9) "start of " && (m.hasJulian || m.hasDate || m.hasTime) then
      let m := { m.withDate with hasTime := true, hour := 0, minute := 0, seconds := real 0,
                                 raw := false, hasZone := false, hasJulian := false }
      let unit := chars.drop 9
      if sameWord unit "month" then some { m with day := 1 }
      else if sameWord unit "year" then some { m with month := 1, day := 1 }
      else if sameWord unit "day" then some m
      else none
    else none
  | some c => if c == '+' || c == '-' || c.isDigit then shiftModifier chars m else none
  | none => none

/-- The characters a value gives as text to the date functions, one for each byte, cut at the
first NUL; none for NULL. -/
def textOf : Value → Option (List Char)
  | .null => none
  | value => some (Value.byteChars (value.textBytes.takeWhile (· != 0)))

/-- Whether a modifier reads the local zone: `localtime` and `utc`. -/
def readsZone (chars : List Char) : Bool := sameWord chars "localtime" || sameWord chars "utc"

/-- Applies the modifiers in order; a modifier that reads the local zone where the value must be
`steady` stops the reading, as does one that fails. -/
def modifyAll (steady : Bool) (m : Moment) : List (Value × Nat) → Reading
  | [] => .moment m
  | (modifier, i) :: rest =>
    match textOf modifier with
    | none => .unusable
    | some chars =>
      if steady && readsZone chars then .unsteady
      else
        match modify (i == 0) chars m with
        | some m => modifyAll steady m rest
        | none => .unusable

/-- Reads the arguments of a date function into a moment with its Julian day known, the clock
when there is none; unusable when one fails, or when the day is not accepted. Where the value must
be `steady`, reading the clock or the local zone is unsteady. -/
def readArguments (steady : Bool) (arguments : List Value) : Reading :=
  match arguments with
  | [] => if steady then .unsteady else .moment Moment.now
  | first :: modifiers =>
    let start := match first with
      | .integer _ | .real _ => Reading.moment (Moment.ofRaw first.realValue)
      | value => match textOf value with
        | some chars => readText steady chars
        | none => .unusable
    match start with
    | .moment m =>
      match modifyAll steady m modifiers.zipIdx with
      | .moment m =>
        let m := m.withJulian
        if m.failed || !acceptsJulian m.julian then .unusable else .moment m
      | other => other
    | other => other

/-- A number as the date functions write it with `%0Nd`: zero-padded to a width, a minus sign
counting. -/
def padded (width : Nat) (n : Int) : String :=
  String.ofList ((Format.integerBody { Format.Flags.none with zeroPad := true } width none
    (.decimal true) (.integer n)).map fun b => Char.ofNat b.toNat)

/-- The seconds of the time of day as whole seconds. -/
def wholeSeconds (m : Moment) : Int := truncated m.seconds

/-- `date`: `YYYY-MM-DD`. -/
def dateText (m : Moment) : String :=
  let m := m.withDate
  padded 4 m.year ++ "-" ++ padded 2 m.month ++ "-" ++ padded 2 m.day

/-- `time`: `HH:MM:SS`. -/
def timeText (m : Moment) : String :=
  let m := m.withTime
  padded 2 m.hour ++ ":" ++ padded 2 m.minute ++ ":" ++ padded 2 (wholeSeconds m)

/-- `datetime`: `YYYY-MM-DD HH:MM:SS`. -/
def dateTimeText (m : Moment) : String :=
  let m := m.withFields
  dateText m ++ " " ++ timeText m

/-- The Julian day as a real number of days. -/
def julianDays (m : Moment) : Binary64 := Binary64.div (real m.julian) (real msPerDay)

/-- The seconds since 1970. -/
def unixSeconds (m : Moment) : Int := m.julian.tdiv 1000 - 210866760000

/-- Bytes of ASCII text as characters. -/
def asChars (bytes : List UInt8) : List Char := bytes.map fun b => Char.ofNat b.toNat

/-- What a `strftime` substitution writes; none for a character that is not one. -/
def substitution (m : Moment) (code : Char) : Option String :=
  match code with
  | 'd' => some (padded 2 m.day)
  | 'f' =>
    let s := if m.seconds.compareWith (Binary64.ofDecimal false 59999 (-3)) == some .gt then
      Binary64.ofDecimal false 59999 (-3) else m.seconds
    some (String.ofList (asChars (Format.pad false 6 (Format.realBody
      { Format.Flags.none with zeroPad := true } 6 (some 3) .fixed false s))))
  | 'H' => some (padded 2 m.hour)
  | 'W' | 'j' =>
    let first := { m with hasJulian := false, month := 1, day := 1 }.withJulian
    let days := (m.julian - first.julian + 43200000).tdiv msPerDay
    if code == 'W' then
      let weekday := ((m.julian + 43200000).tdiv msPerDay).tmod 7
      some (padded 2 ((days + 7 - weekday).tdiv 7))
    else some (padded 3 (days + 1))
  | 'J' =>
    some (String.ofList (asChars (Format.realBody Format.Flags.none 0 (some 16) .general false
      (julianDays m))))
  | 'm' => some (padded 2 m.month)
  | 'M' => some (padded 2 m.minute)
  | 's' => some (toString (unixSeconds m))
  | 'S' => some (padded 2 (wholeSeconds m))
  | 'w' => some (toString (((m.julian + 129600000).tdiv msPerDay).tmod 7))
  | 'Y' => some (padded 4 m.year)
  | '%' => some "%"
  | _ => none

/-- `strftime`: the format with each `%` substitution written; none when one is unknown. -/
def formatText (m : Moment) : List Char → Option String
  | [] => some ""
  | '%' :: code :: rest => do
    let written ← substitution m code
    pure (written ++ (← formatText m rest))
  | '%' :: [] => none
  | c :: rest => do pure (String.singleton c ++ (← formatText m rest))

end Clock

/-- The failure of a date function that reads the clock or the local zone where its value must
not change with them, at a place such as "a CHECK constraint". -/
def unsteadyUse (name place : String) : StoreError :=
  .refused ("non-deterministic use of " ++ name ++ "() in " ++ place)

/-- Calls a date function by its lower-case name; NULL when its arguments do not read as a
moment. Where the value must not change with the clock (`steadyPlace` names where), reading the
clock or the local zone fails. -/
def clockCall (name : String) (steadyPlace : Option String) (arguments : List Value) :
    Except StoreError Value :=
  let steady := steadyPlace.isSome
  let read (arguments : List Value) (write : Clock.Moment → Value) : Except StoreError Value :=
    match Clock.readArguments steady arguments with
    | .moment m => .ok (write m)
    | .unusable => .ok .null
    | .unsteady => .error (unsteadyUse name (steadyPlace.getD ""))
  match name with
  | "strftime" =>
    match arguments with
    | format :: rest =>
      match Clock.textOf format with
      | some chars =>
        read rest fun m =>
          match Clock.formatText m.withFields chars with
          | some text => .text (text.toList.map fun c => c.toNat.toUInt8)
          | none => .null
      | none => .ok .null
    | [] => .ok .null
  | "date" => read arguments fun m => Value.ofString (Clock.dateText m)
  | "time" => read arguments fun m => Value.ofString (Clock.timeText m)
  | "datetime" => read arguments fun m => Value.ofString (Clock.dateTimeText m)
  | "julianday" => read arguments fun m => .real (Clock.julianDays m)
  | "unixepoch" => read arguments fun m => .integer (Clock.unixSeconds m)
  | _ => .ok .null

end SheetExport.Store.Sql
