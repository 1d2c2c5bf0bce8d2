import Mathlib
import SheetExport.Calendar.IsoText
import SheetExport.Proofs.WeekWindow
import SheetExport.Proofs.TextLayout

/-!
# Reading back the ISO form of a date-time value

The ISO form of a valid value of the years 1 to 9999 whose offset is below a day is a row of
fields in fixed places: four digits of the year, two each of the month and the day, a `T`, the
clock `HH:MM:SS` with `.ffffff` when there are microseconds, and the zone, `+HH:MM` with the
seconds and their fraction when these are not zero (`DateTime.isoText_toList`). Reading the text
back walks the same places: the date ends at the tenth character (`IsoText.separatorAt_dashed`),
its fields are read as digits (`IsoText.readDate_dashed`), and the clock stops where the sign of
the zone stands (`IsoText.readTime_zone`).

So the form reads back as the value (`DateTime.ofIsoText_isoText`), with one exception: the reader
takes a zone whose hours, minutes and seconds are all zero for UTC, so an offset smaller than a
second reads back as zero (`DateTime.readOffset`).
-/

namespace SheetExport.Calendar

open Text

/-! ## Numbers in a fixed number of places -/

theorem fixedDigits_zero : ∀ width, fixedDigits width 0 = List.replicate width '0'
  | 0 => rfl
  | width + 1 => by
      rw [fixedDigits, fixedDigits_zero width, List.replicate_succ']
      rfl

/-- The decimal digits of a number that fits a width, padded with zeros to it, are its digits in
that many places. -/
theorem replicate_append_toDigits : ∀ {width n : Nat}, 0 < width → n < 10 ^ width →
    List.replicate (width - (Nat.toDigits 10 n).length) '0' ++ Nat.toDigits 10 n =
      fixedDigits width n
  | 0, _, wide, _ => absurd wide (Nat.lt_irrefl 0)
  | width + 1, n, _, fits => by
      by_cases single : n < 10
      · rw [Nat.toDigits_of_lt_base single, fixedDigits, Nat.div_eq_of_lt single,
          Nat.mod_eq_of_lt single, fixedDigits_zero]
        simp
      · have fitsRest : n / 10 < 10 ^ width := by
          rw [pow_succ] at fits
          omega
        have wide : 0 < width := by
          rcases Nat.eq_zero_or_pos width with rfl | wide
          · simp at fits
            omega
          · exact wide
        rw [Nat.toDigits_of_base_le (by decide) (by omega), fixedDigits,
          ← replicate_append_toDigits wide fitsRest, List.length_append, List.length_singleton,
          show width + 1 - ((Nat.toDigits 10 (n / 10)).length + 1) =
            width - (Nat.toDigits 10 (n / 10)).length by omega, List.append_assoc]

namespace DateTime

theorem paddedNumber_toList {width n : Nat} (wide : 0 < width) (fits : n < 10 ^ width) :
    (paddedNumber width n).toList = fixedDigits width n := by
  rw [← replicate_append_toDigits wide fits]
  simp [paddedNumber, Nat.repr]

/-! ## The written form, field by field -/

/-- The fraction of a second as the ISO form writes it: nothing when there are no microseconds,
else a point and six digits. -/
def fractionChars (micro : Nat) : List Char := if micro = 0 then [] else '.' :: fixedDigits 6 micro

/-- A time of day as the ISO form writes it: hours, minutes and seconds between colons, then the
fraction of a second. -/
def clockChars (hour minute second micro : Nat) : List Char :=
  fixedDigits 2 hour ++ (':' :: (fixedDigits 2 minute ++ (':' :: (fixedDigits 2 second ++
    fractionChars micro))))

/-- The size of an offset as the ISO form writes it after the sign: hours and minutes, then the
seconds and the fraction of a second unless both are zero. -/
def zoneChars (magnitude : Nat) : List Char :=
  let hours := magnitude / 3600000000
  let minutes := magnitude % 3600000000 / 60000000
  let seconds := magnitude % 60000000 / 1000000
  let micros := magnitude % 1000000
  if seconds = 0 ∧ micros = 0 then fixedDigits 2 hours ++ (':' :: fixedDigits 2 minutes)
  else clockChars hours minutes seconds micros

/-- The zone of a value as the ISO form writes it: nothing when naive, else the sign of the
offset and its size. -/
def offsetChars : Option Int → List Char
  | none => []
  | some offset => (if offset < 0 then '-' else '+') :: zoneChars offset.natAbs

/-- The offset read back from its written form: one smaller than a second reads as UTC, its hours,
minutes and seconds being all zero. -/
def readOffset (offset : Int) : Int := if offset.natAbs < 1000000 then 0 else offset

theorem fraction_toList {micro : Nat} (small : micro < 10 ^ 6) :
    (if micro = 0 then "" else "." ++ paddedNumber 6 micro).toList = fractionChars micro := by
  by_cases zero : micro = 0
  · simp [zero, fractionChars]
  · simp [zero, fractionChars, paddedNumber_toList (by decide : 0 < 6) small]

theorem offsetText_toList {offset : Int} (small : offset.natAbs < 86400000000) :
    (offsetText offset).toList = (if offset < 0 then '-' else '+') :: zoneChars offset.natAbs := by
  have hours : offset.natAbs / 3600000000 < 100 := by omega
  have minutes : offset.natAbs % 3600000000 / 60000000 < 100 := by omega
  have seconds : offset.natAbs % 60000000 / 1000000 < 100 := by omega
  have micros : offset.natAbs % 1000000 < 10 ^ 6 := by omega
  have sign : (if offset < 0 then "-" else "+").toList = [if offset < 0 then '-' else '+'] := by
    split_ifs <;> rfl
  have hourUnit : microsPerHour.toNat = 3600000000 := rfl
  have minuteUnit : microsPerMinute.toNat = 60000000 := rfl
  have secondUnit : microsPerSecond.toNat = 1000000 := rfl
  simp only [offsetText, hourUnit, minuteUnit, secondUnit, zoneChars, String.toList_append, sign,
    twoDigits_toList hours, twoDigits_toList minutes, List.singleton_append]
  generalize offset.natAbs % 60000000 / 1000000 = second at seconds ⊢
  generalize offset.natAbs % 1000000 = micro at micros ⊢
  by_cases whole : second = 0 ∧ micro = 0
  · rw [if_neg (show ¬(second != 0 || micro != 0) = true by simp [whole.1, whole.2]), if_pos whole]
    simp
  · have shown : (second != 0 || micro != 0) = true := by
      simp only [Bool.or_eq_true, bne_iff_ne, ne_eq]
      omega
    rw [if_pos shown,
      if_neg whole]
    simp [clockChars, String.toList_append, twoDigits_toList seconds, ← fraction_toList micros]

/-- The ISO form of a valid value of the years 1 to 9999 whose offset is below a day, field by
field. -/
theorem isoText_toList {value : DateTime} (valid : value.Valid) (early : 1 ≤ value.date.year)
    (late : value.date.year ≤ 9999)
    (offsetSmall : ∀ offset ∈ value.offset, offset.natAbs < 86400000000) :
    value.isoText.toList = fixedDigits 4 value.date.year.toNat ++ ('-' :: (fixedDigits 2
      value.date.month ++ ('-' :: (fixedDigits 2 value.date.day ++ ('T' :: (clockChars value.hour
        value.minute value.second value.microsecond ++ offsetChars value.offset)))))) := by
  have year : value.date.year.toNat < 10 ^ 4 := by omega
  obtain ⟨month, day, hour, minute, second, micro⟩ := valid.fields_fit
  simp only [isoText, String.toList_append, paddedNumber_toList (by decide : 0 < 4) year,
    twoDigits_toList month, twoDigits_toList day, twoDigits_toList hour, twoDigits_toList minute,
    twoDigits_toList second, bne_iff_ne, ne_eq, ite_not, fraction_toList micro]
  cases written : value.offset with
  | none => simp [offsetChars, clockChars]
  | some offset => simp [offsetChars, clockChars, offsetText_toList (offsetSmall offset written)]

end DateTime

/-! ## Reading the fields back -/

namespace IsoText

open DateTime

theorem at!_of_drop {chars : Array Char} {position : Nat} {c : Char} {rest : List Char}
    (found : chars.toList.drop position = c :: rest) : at! chars position = c := by
  rw [at!, getElem?_of_drop found, Option.getD_some]

theorem at!_of_drop_nil {chars : Array Char} {position : Nat}
    (ended : chars.toList.drop position = []) : at! chars position = '\x00' := by
  rw [at!, getElem?_of_drop_nil ended, Option.getD_none]

theorem at!_mem_of_drop {chars : Array Char} {position i : Nat} {front rest : List Char}
    (found : chars.toList.drop position = front ++ rest) (inside : i < front.length) :
    at! chars (position + i) ∈ front := by
  have entry : chars[position + i]? = front[i]? := by
    rw [← Array.getElem?_toList, ← List.getElem?_drop, found, List.getElem?_append_left inside]
  rw [at!, entry, List.getElem?_eq_getElem inside, Option.getD_some]
  exact List.getElem_mem inside

theorem digits_succ (chars : Array Char) (position width : Nat) :
    digits chars position (width + 1) = (digits chars position width).bind fun acc =>
      if isDigit (at! chars acc.2) then
        some (acc.1 * 10 + ((at! chars acc.2).toNat - '0'.toNat), acc.2 + 1)
      else none := by
  simp only [digits, List.range_succ, List.foldlM_append, List.foldlM_cons, List.foldlM_nil, bind_pure]
  rfl

theorem digitChar_read : ∀ {d : Nat}, d < 10 →
    isDigit (Nat.digitChar d) = true ∧ (Nat.digitChar d).toNat - '0'.toNat = d := by
  decide

theorem digits_fixedDigits {chars : Array Char} : ∀ {width n position : Nat} {rest : List Char},
    chars.toList.drop position = fixedDigits width n ++ rest →
      digits chars position width = some (n % 10 ^ width, position + width)
  | 0, n, position, rest, _ => by simp [digits, Nat.mod_one]
  | width + 1, n, position, rest, found => by
      have front : chars.toList.drop position =
          fixedDigits width (n / 10) ++ (Nat.digitChar (n % 10) :: rest) := by
        simpa [fixedDigits] using found
      have last := at!_of_drop (drop_of_drop_append front)
      rw [length_fixedDigits] at last
      obtain ⟨isDigit', value⟩ := digitChar_read (Nat.mod_lt n (by decide : 10 > 0))
      have lowest : n / 10 % 10 ^ width * 10 + n % 10 = n % 10 ^ (width + 1) := by
        rw [pow_succ', Nat.mod_mul]
        ring
      rw [digits_succ, digits_fixedDigits front]
      simp only [Option.bind_some, last, isDigit', if_true, value, lowest]
      rfl

theorem mem_fixedDigits : ∀ {width n : Nat} {c : Char}, c ∈ fixedDigits width n →
    ∃ d < 10, c = Nat.digitChar d
  | 0, _, _, inside => absurd inside List.not_mem_nil
  | width + 1, n, c, inside => by
      rw [fixedDigits, List.mem_append, List.mem_singleton] at inside
      rcases inside with earlier | rfl
      · exact mem_fixedDigits earlier
      · exact ⟨n % 10, Nat.mod_lt n (by decide), rfl⟩

theorem fixedDigits_succ_cons (width n : Nat) :
    ∃ d < 10, ∃ tail, fixedDigits (width + 1) n = Nat.digitChar d :: tail := by
  induction width generalizing n with
  | zero => exact ⟨n % 10, Nat.mod_lt n (by decide), [], rfl⟩
  | succ width ih =>
      obtain ⟨d, digit, tail, first⟩ := ih (n / 10)
      exact ⟨d, digit, tail ++ [Nat.digitChar (n % 10)], by rw [fixedDigits, first]; rfl⟩

/-- The first digit of a month stands where a week date has its W. -/
theorem month_not_week {chars : Array Char} {month : Nat} {rest : List Char}
    (atMonth : chars.toList.drop 5 = fixedDigits 2 month ++ rest) : at! chars 5 ≠ 'W' := by
  obtain ⟨d, digit, tail, first⟩ := fixedDigits_succ_cons 1 month
  have digitsAreNotW : ∀ d < 10, Nat.digitChar d ≠ 'W' := by decide
  rw [at!_of_drop (show chars.toList.drop 5 = Nat.digitChar d :: _ by rw [atMonth, first]; rfl)]
  exact digitsAreNotW d digit

/-- A calendar date with dashes ends at position 10, where the separator stands. -/
theorem separatorAt_dashed {chars : Array Char} {year month day : Nat} {rest : List Char}
    (long : 8 ≤ chars.size)
    (found : chars.toList = fixedDigits 4 year ++ ('-' :: (fixedDigits 2 month ++
      ('-' :: (fixedDigits 2 day ++ rest))))) :
    separatorAt chars = 10 := by
  have atYear : chars.toList.drop 0 = fixedDigits 4 year ++ _ := found
  have atDash : chars.toList.drop 4 = '-' :: (fixedDigits 2 month ++ _) :=
    drop_of_drop_append atYear
  have atMonth : chars.toList.drop 5 = fixedDigits 2 month ++ _ := drop_succ_of_drop atDash
  have notSeven : chars.size ≠ 7 := by omega
  simp [separatorAt, notSeven, at!_of_drop atDash, month_not_week atMonth]

/-- A calendar date written with dashes, read from the start of the text. -/
theorem readDate_dashed {chars : Array Char} {year month day : Nat} {rest : List Char}
    (fits : year < 10 ^ 4 ∧ month < 10 ^ 2 ∧ day < 10 ^ 2)
    (found : chars.toList = fixedDigits 4 year ++ ('-' :: (fixedDigits 2 month ++
      ('-' :: (fixedDigits 2 day ++ rest))))) :
    readDate chars 10 = some ⟨year, month, day⟩ := by
  have atYear : chars.toList.drop 0 = fixedDigits 4 year ++ _ := found
  have atDash : chars.toList.drop 4 = '-' :: (fixedDigits 2 month ++ _) :=
    drop_of_drop_append atYear
  have atMonth : chars.toList.drop 5 = fixedDigits 2 month ++ _ := drop_succ_of_drop atDash
  have atDash' : chars.toList.drop 7 = '-' :: (fixedDigits 2 day ++ rest) :=
    drop_of_drop_append atMonth
  have atDay : chars.toList.drop 8 = fixedDigits 2 day ++ rest := drop_succ_of_drop atDash'
  have readYear : digits chars 0 4 = some (year, 4) := by
    rw [digits_fixedDigits atYear, Nat.mod_eq_of_lt fits.1]
  have readMonth : digits chars 5 2 = some (month, 7) := by
    rw [digits_fixedDigits atMonth, Nat.mod_eq_of_lt fits.2.1]
  have readDay : digits chars 8 2 = some (day, 10) := by
    rw [digits_fixedDigits atDay, Nat.mod_eq_of_lt fits.2.2]
  simp [readDate, readYear, readMonth, readDay, at!_of_drop atDash, at!_of_drop atDash',
    month_not_week atMonth]

/-- Past a field that no digit follows stands no digit: the next character, or the NUL beyond
the end. -/
theorem not_isDigit_after {chars : Array Char} {position : Nat} {front after : List Char}
    (found : chars.toList.drop position = front ++ after)
    (stops : ∀ c ∈ after.head?, isDigit c = false) :
    isDigit (at! chars (position + front.length)) = false := by
  have past := drop_of_drop_append found
  cases after with
  | nil => rw [at!_of_drop_nil past]; decide
  | cons c rest => rw [at!_of_drop past]; exact stops c rfl

/-- Six digits of a fraction of a second that no digit follows. -/
theorem readFraction_six {chars : Array Char} {position micro : Nat} {after : List Char}
    (small : micro < 10 ^ 6) (found : chars.toList.drop position = fixedDigits 6 micro ++ after)
    (stops : ∀ c ∈ after.head?, isDigit c = false) :
    readFraction chars position (position + 6) =
      some (micro, at! chars (position + 6) != '\x00') := by
  have ending := not_isDigit_after found stops
  rw [length_fixedDigits] at ending
  have inside : position + 6 ≤ chars.size := by
    have long := congrArg List.length found
    simp only [List.length_drop, Array.length_toList, List.length_append, length_fixedDigits] at long
    omega
  have skipped : (List.range (chars.size + 1 - (position + 6))).find?
      (fun offset => !isDigit (at! chars (position + 6 + offset))) = some 0 := by
    rw [List.find?_range_eq_some]
    refine ⟨by simpa using ending, by simp; omega, fun j below => absurd below (Nat.not_lt_zero j)⟩
  have below : micro < 1000000 := small
  simp [readFraction, digits_fixedDigits found, skipped, below]

/-- A time of day is written with digits, colons and a point. -/
theorem mem_clockChars {hour minute second micro : Nat} {c : Char}
    (inside : c ∈ clockChars hour minute second micro) :
    (∃ d < 10, c = Nat.digitChar d) ∨ c = ':' ∨ c = '.' := by
  simp only [clockChars, fractionChars, List.mem_append, List.mem_cons] at inside
  rcases inside with digit | rfl | digit | rfl | digit | fraction
  · exact .inl (mem_fixedDigits digit)
  · exact .inr (.inl rfl)
  · exact .inl (mem_fixedDigits digit)
  · exact .inr (.inl rfl)
  · exact .inl (mem_fixedDigits digit)
  · split_ifs at fraction
    · exact absurd fraction List.not_mem_nil
    · rcases List.mem_cons.mp fraction with rfl | digit
      · exact .inr (.inr rfl)
      · exact .inl (mem_fixedDigits digit)

/-- The size of an offset is written like a time of day. -/
theorem mem_zoneChars {magnitude : Nat} {c : Char} (inside : c ∈ zoneChars magnitude) :
    (∃ d < 10, c = Nat.digitChar d) ∨ c = ':' ∨ c = '.' := by
  unfold zoneChars at inside
  simp only at inside
  split_ifs at inside
  · simp only [List.mem_append, List.mem_cons] at inside
    rcases inside with digit | rfl | digit
    · exact .inl (mem_fixedDigits digit)
    · exact .inr (.inl rfl)
    · exact .inl (mem_fixedDigits digit)
  · exact mem_clockChars inside

/-- No character of a time of day marks a zone. -/
theorem clockChars_no_zone {hour minute second micro : Nat} {c : Char}
    (inside : c ∈ clockChars hour minute second micro) :
    (c == 'Z' || c == '+' || c == '-') = false := by
  have digitsAreNoMarks : ∀ d < 10,
      (Nat.digitChar d == 'Z' || Nat.digitChar d == '+' || Nat.digitChar d == '-') = false := by
    decide
  rcases mem_clockChars inside with ⟨d, small, rfl⟩ | rfl | rfl
  · exact digitsAreNoMarks d small
  · decide
  · decide

/-- A time of day with colons, read from its first digit to its end. -/
theorem readClock_clockChars {chars : Array Char} {start hour minute second micro : Nat}
    {after : List Char} (fits : hour < 10 ^ 2 ∧ minute < 10 ^ 2 ∧ second < 10 ^ 2)
    (small : micro < 10 ^ 6)
    (found : chars.toList.drop start = clockChars hour minute second micro ++ after)
    (stops : ∀ c ∈ after.head?, isDigit c = false) :
    readClock chars start (start + (clockChars hour minute second micro).length) =
      some ⟨hour, minute, second, micro,
        at! chars (start + (clockChars hour minute second micro).length) != '\x00'⟩ := by
  have atHour : chars.toList.drop start = fixedDigits 2 hour ++
      (':' :: (fixedDigits 2 minute ++ (':' :: (fixedDigits 2 second ++
        (fractionChars micro ++ after))))) := by
    simpa [clockChars] using found
  have atColon := drop_of_drop_append atHour
  have atMinute : chars.toList.drop (start + 3) = fixedDigits 2 minute ++ _ :=
    drop_succ_of_drop atColon
  have atColon' := drop_of_drop_append atMinute
  have atSecond : chars.toList.drop (start + 6) = fixedDigits 2 second ++ _ :=
    drop_succ_of_drop atColon'
  have atFraction := drop_of_drop_append atSecond
  have readHour : digits chars start 2 = some (hour, start + 2) := by
    rw [digits_fixedDigits atHour, Nat.mod_eq_of_lt fits.1]
  have readMinute : digits chars (start + 3) 2 = some (minute, start + 5) := by
    rw [digits_fixedDigits atMinute, Nat.mod_eq_of_lt fits.2.1]
  have readSecond : digits chars (start + 6) 2 = some (second, start + 8) := by
    rw [digits_fixedDigits atSecond, Nat.mod_eq_of_lt fits.2.2]
  simp only [length_fixedDigits] at atColon atColon' atFraction
  by_cases zero : micro = 0
  · subst zero
    simp only [readClock, readHour, readMinute, readSecond, at!_of_drop atColon,
      at!_of_drop atColon', clockChars, fractionChars, ↓reduceIte, List.append_nil,
      List.length_append, length_fixedDigits, List.length_cons, Nat.reduceAdd, Nat.reduceLeDiff,
      Option.pure_def, Bool.and_self, beq_iff_eq, Option.bind_eq_bind, Bool.and_eq_true,
      Option.bind_some, Bool.or_eq_true, Bool.not_eq_eq_eq_not, Bool.not_true, beq_eq_false_iff_ne,
      ne_eq, add_tsub_cancel_right, Option.bind_none, ite_not, add_le_add_iff_left, true_and]
  · have atPoint : chars.toList.drop (start + 6 + 2) = '.' :: (fixedDigits 6 micro ++ after) := by
      simpa [fractionChars, zero] using atFraction
    have readMicro : readFraction chars (start + 8 + 1) (start + 15) =
        some (micro, at! chars (start + 15) != '\x00') :=
      readFraction_six small (drop_succ_of_drop atPoint) stops
    simp only [readClock, readHour, readMinute, readSecond, at!_of_drop atColon,
      at!_of_drop atColon', at!_of_drop atPoint, readMicro, clockChars, fractionChars, zero,
      ↓reduceIte, List.length_append, length_fixedDigits, List.length_cons, Nat.reduceAdd,
      Nat.reduceLeDiff, Option.pure_def, Bool.and_self, beq_iff_eq, Option.bind_eq_bind,
      Bool.and_eq_true, Option.bind_some, Bool.or_eq_true, Bool.not_eq_eq_eq_not, Bool.not_true,
      beq_eq_false_iff_ne, ne_eq, add_tsub_cancel_right, Option.bind_none, ite_not,
      add_le_add_iff_left, true_and, Char.reduceEq, or_false]

/-- Hours and minutes that end the text. -/
theorem readClock_minutes {chars : Array Char} {start hour minute : Nat}
    (fits : hour < 10 ^ 2 ∧ minute < 10 ^ 2)
    (found : chars.toList.drop start = fixedDigits 2 hour ++ (':' :: fixedDigits 2 minute)) :
    readClock chars start (start + 5) = some ⟨hour, minute, 0, 0, false⟩ := by
  have atColon := drop_of_drop_append found
  have atMinute : chars.toList.drop (start + 3) = fixedDigits 2 minute ++ [] := by
    simpa using drop_succ_of_drop atColon
  have ended : chars.toList.drop (start + 5) = [] := by
    simpa using drop_of_drop_append atMinute
  have readHour : digits chars start 2 = some (hour, start + 2) := by
    rw [digits_fixedDigits found, Nat.mod_eq_of_lt fits.1]
  have readMinute : digits chars (start + 3) 2 = some (minute, start + 5) := by
    rw [digits_fixedDigits atMinute, Nat.mod_eq_of_lt fits.2]
  simp only [length_fixedDigits] at atColon
  simp only [readClock, readHour, readMinute, at!_of_drop atColon, at!_of_drop_nil ended,
    Nat.reduceLeDiff, Option.pure_def, Bool.and_self, beq_iff_eq, Option.bind_eq_bind,
    Bool.and_eq_true, Option.bind_some, Bool.or_eq_true, Bool.not_eq_eq_eq_not, Bool.not_true,
    beq_eq_false_iff_ne, ne_eq, add_tsub_cancel_right, Option.bind_none, ite_not,
    add_le_add_iff_left, ↓reduceIte, true_and, bne_self_eq_false]

/-- The size of an offset that ends the text reads back as its hours, minutes, seconds and
microseconds. -/
theorem readClock_zoneChars {chars : Array Char} {start magnitude : Nat}
    (small : magnitude < 86400000000) (found : chars.toList.drop start = zoneChars magnitude) :
    readClock chars start (start + (zoneChars magnitude).length) =
      some ⟨magnitude / 3600000000, magnitude % 3600000000 / 60000000,
        magnitude % 60000000 / 1000000, magnitude % 1000000, false⟩ := by
  have fits : magnitude / 3600000000 < 10 ^ 2 ∧ magnitude % 3600000000 / 60000000 < 10 ^ 2 ∧
      magnitude % 60000000 / 1000000 < 10 ^ 2 := by omega
  unfold zoneChars at found ⊢
  simp only at found ⊢
  split_ifs at found ⊢ with whole
  · rw [whole.1, whole.2]
    exact readClock_minutes ⟨fits.1, fits.2.1⟩ found
  · have ended : chars.toList.drop (start + (clockChars (magnitude / 3600000000)
        (magnitude % 3600000000 / 60000000) (magnitude % 60000000 / 1000000)
        (magnitude % 1000000)).length) = [] := by
      simpa using drop_of_drop_append (show chars.toList.drop start = _ ++ [] by simpa using found)
    rw [readClock_clockChars fits (by omega) (show chars.toList.drop start = _ ++ [] by simpa using found)
      (by simp), at!_of_drop_nil ended]
    rfl

/-- The hours, minutes and seconds of a written zone make the offset's whole seconds. -/
theorem zoneFields_wholeSeconds (magnitude : Int) :
    magnitude / 3600000000 * 3600 + magnitude % 3600000000 / 60000000 * 60 +
      magnitude % 60000000 / 1000000 = magnitude / 1000000 := by
  omega

/-- A time of day that ends the text, with no zone. -/
theorem readTime_naive {chars : Array Char} {start hour minute second micro : Nat}
    (fits : hour < 10 ^ 2 ∧ minute < 10 ^ 2 ∧ second < 10 ^ 2) (small : micro < 10 ^ 6)
    (found : chars.toList.drop start = clockChars hour minute second micro) :
    readTime chars start = some (⟨hour, minute, second, micro, false⟩, none) := by
  have ending : chars.toList.drop start = clockChars hour minute second micro ++ [] := by
    simpa using found
  have eight : 8 ≤ (clockChars hour minute second micro).length := by
    simp [clockChars]
    omega
  have size : chars.size = start + (clockChars hour minute second micro).length := by
    have long := congrArg List.length found
    simp only [List.length_drop, Array.length_toList] at long
    omega
  have ended : chars.toList.drop (start + (clockChars hour minute second micro).length) = [] := by
    simpa using drop_of_drop_append ending
  have noZone : (List.range (chars.size - start)).find? (fun offset =>
      at! chars (start + offset) == 'Z' || at! chars (start + offset) == '+' ||
        at! chars (start + offset) == '-') = none := by
    rw [List.find?_range_eq_none]
    intro i below
    have inside : at! chars (start + i) ∈ clockChars hour minute second micro :=
      at!_mem_of_drop ending (by omega)
    simpa using clockChars_no_zone inside
  have clock := readClock_clockChars fits small ending (by simp)
  rw [at!_of_drop_nil ended, ← size] at clock
  simp [readTime, noZone, show max chars.size (start + 1) = chars.size by omega, clock]

/-- A time of day followed by a zone below a day, which ends the text. -/
theorem readTime_zone {chars : Array Char} {start hour minute second micro : Nat} {offset : Int}
    (fits : hour < 10 ^ 2 ∧ minute < 10 ^ 2 ∧ second < 10 ^ 2) (small : micro < 10 ^ 6)
    (short : offset.natAbs < 86400000000)
    (found : chars.toList.drop start = clockChars hour minute second micro ++
      offsetChars (some offset)) :
    readTime chars start =
      some (⟨hour, minute, second, micro, true⟩, some (readOffset offset)) := by
  have signFound : chars.toList.drop (start + (clockChars hour minute second micro).length) =
      (if offset < 0 then '-' else '+') :: zoneChars offset.natAbs :=
    drop_of_drop_append found
  have zoneFound := drop_succ_of_drop signFound
  have size : chars.size = start + (clockChars hour minute second micro).length + 1 +
      (zoneChars offset.natAbs).length := by
    have long := congrArg List.length zoneFound
    simp only [List.length_drop, Array.length_toList] at long
    have : 0 < (zoneChars offset.natAbs).length := by
      unfold zoneChars
      simp only
      split_ifs <;> simp [clockChars]
    omega
  have signMark : ((if offset < 0 then '-' else '+') == 'Z' ||
      (if offset < 0 then '-' else '+') == '+' || (if offset < 0 then '-' else '+') == '-') = true := by
    split_ifs <;> decide
  have signNotDigit : isDigit (if offset < 0 then '-' else '+') = false := by
    split_ifs <;> decide
  have zoneAt : (List.range (chars.size - start)).find? (fun offset =>
      at! chars (start + offset) == 'Z' || at! chars (start + offset) == '+' ||
        at! chars (start + offset) == '-') = some (clockChars hour minute second micro).length := by
    rw [List.find?_range_eq_some]
    refine ⟨by rw [at!_of_drop signFound]; exact signMark, by simp; omega, fun j below => ?_⟩
    have inside : at! chars (start + j) ∈ clockChars hour minute second micro :=
      at!_mem_of_drop found below
    simpa using clockChars_no_zone inside
  have clock := readClock_clockChars fits small found (by simpa [offsetChars] using signNotDigit)
  rw [at!_of_drop signFound] at clock
  have zoneClock := readClock_zoneChars short zoneFound
  rw [← size] at zoneClock
  rw [Nat.add_comm start] at signFound clock zoneClock
  have signNotZ : (if offset < 0 then '-' else '+') ≠ 'Z' := by split_ifs <;> decide
  have signShown : ((if offset < 0 then '-' else '+') != '\x00') = true := by split_ifs <;> decide
  simp [readTime, zoneAt, clock, zoneClock, at!_of_drop signFound, signNotZ, signShown]
  rw [zoneFields_wholeSeconds, microsPerSecond_eq]
  unfold readOffset
  rcases lt_or_ge offset 0 with negative | nonnegative
  · simp only [negative, if_true, abs_of_neg negative]
    split_ifs <;> omega
  · simp only [not_lt.mpr nonnegative, if_false, abs_of_nonneg nonnegative]
    split_ifs <;> omega

/-- An ASCII text is seen as its own characters: no separator is replaced, and each byte is a
character. -/
theorem asciiView_of_isAscii {text : String} (ascii : IsAscii text.toList) :
    asciiView text = text.toList.toArray := by
  unfold asciiView
  simp only
  rw [List.find?_eq_none.mpr (fun position _ => ?_)]
  · simp only
    rw [← encodeUtf8, encodeUtf8_eq_flatMap, String.toList_ofList,
      flatMap_utf8EncodeChar_of_isAscii ascii, List.map_map]
    congr 1
    conv_rhs => rw [← List.map_id text.toList]
    apply List.map_congr_left
    intro c inside
    simp [toNat_toUInt8_of_lt (ascii c inside)]
  · split
    · rename_i c found
      have small := ascii c (List.mem_of_getElem? found)
      simp
      omega
    · simp

end IsoText

namespace DateTime

open IsoText

/-- Every character of the ISO form of a valid value is ASCII. -/
theorem isAscii_isoText {value : DateTime} (valid : value.Valid) (early : 1 ≤ value.date.year)
    (late : value.date.year ≤ 9999)
    (offsetSmall : ∀ offset ∈ value.offset, offset.natAbs < 86400000000) :
    IsAscii value.isoText.toList := by
  have digitsAscii : ∀ d < 10, (Nat.digitChar d).toNat < 0x80 := by decide
  have fieldAscii : ∀ {c : Char}, ((∃ d < 10, c = Nat.digitChar d) ∨ c = ':' ∨ c = '.') →
      c.toNat < 0x80 := by
    rintro c (⟨d, small, rfl⟩ | rfl | rfl)
    · exact digitsAscii d small
    · decide
    · decide
  intro c inside
  rw [isoText_toList valid early late offsetSmall] at inside
  simp only [List.mem_append, List.mem_cons] at inside
  rcases inside with digit | rfl | digit | rfl | digit | rfl | clock | zone
  · exact fieldAscii (.inl (mem_fixedDigits digit))
  · decide
  · exact fieldAscii (.inl (mem_fixedDigits digit))
  · decide
  · exact fieldAscii (.inl (mem_fixedDigits digit))
  · decide
  · exact fieldAscii (mem_clockChars clock)
  · cases written : value.offset with
    | none => simp [written, offsetChars] at zone
    | some offset =>
        rw [written, offsetChars, List.mem_cons] at zone
        rcases zone with sign | zone
        · rw [sign]
          split_ifs <;> decide
        · exact fieldAscii (mem_zoneChars zone)

/-- The ISO form of a valid value of the years 1 to 9999, whose offset is below a day, reads back
as the value, except that an offset smaller than a second reads back as UTC. -/
theorem ofIsoText_isoText {value : DateTime} (checked : value.check = .ok value)
    (offsetSmall : ∀ offset ∈ value.offset, offset.natAbs < 86400000000) :
    ofIsoText value.isoText = .ok { value with offset := value.offset.map readOffset } := by
  obtain ⟨valid, early, late⟩ := valid_of_check checked
  have layout := isoText_toList valid early late offsetSmall
  have view := asciiView_of_isAscii (isAscii_isoText valid early late offsetSmall)
  generalize value.isoText = text at layout view ⊢
  obtain ⟨month, day, hour, minute, second, microFits⟩ := valid.fields_fit
  have fits : value.date.year.toNat < 10 ^ 4 ∧ value.date.month < 10 ^ 2 ∧
      value.date.day < 10 ^ 2 := ⟨by omega, month, day⟩
  have clockFits : value.hour < 10 ^ 2 ∧ value.minute < 10 ^ 2 ∧ value.second < 10 ^ 2 :=
    ⟨hour, minute, second⟩
  have found : text.toList.toArray.toList = fixedDigits 4 value.date.year.toNat ++
      ('-' :: (fixedDigits 2 value.date.month ++ ('-' :: (fixedDigits 2 value.date.day ++
        ('T' :: (clockChars value.hour value.minute value.second value.microsecond ++
          offsetChars value.offset)))))) := by
    rw [List.toList_toArray]
    exact layout
  have size : text.toList.toArray.size = 11 + (clockChars value.hour value.minute value.second
      value.microsecond).length + (offsetChars value.offset).length := by
    rw [← Array.length_toList, found]
    simp
    omega
  have eight : 8 ≤ (clockChars value.hour value.minute value.second value.microsecond).length := by
    simp [clockChars]
    omega
  have long : ¬text.length < 7 := by
    rw [← String.length_toList, layout]
    simp
    omega
  have atClock : text.toList.toArray.toList.drop 11 = clockChars value.hour value.minute
      value.second value.microsecond ++ offsetChars value.offset := by
    have past := @drop_of_drop_append text.toList.toArray 0 (fixedDigits 4 value.date.year.toNat ++
      ('-' :: (fixedDigits 2 value.date.month ++ ('-' :: (fixedDigits 2 value.date.day ++ ['T'])))))
      (clockChars value.hour value.minute value.second value.microsecond ++ offsetChars value.offset)
      (by rw [List.drop_zero, found]; simp)
    rwa [show 0 + (fixedDigits 4 value.date.year.toNat ++ ('-' :: (fixedDigits 2 value.date.month ++
      ('-' :: (fixedDigits 2 value.date.day ++ ['T']))))).length = 11 by simp] at past
  have timeInside : (10 : Int) < text.toList.toArray.size := by omega
  have timeStart : Int.toNat 10 + 1 = 11 := rfl
  have date : readDate text.toList.toArray 10 = some value.date := by
    rw [readDate_dashed fits found, Int.toNat_of_nonneg (by omega)]
  have checked' := check_of_valid (valid.withOffset (value.offset.map readOffset)) early late
  unfold ofIsoText
  simp only [view, long, if_false, separatorAt_dashed (by omega) found, date, timeInside, if_true,
    timeStart]
  cases written : value.offset with
  | none =>
      rw [written] at atClock
      rw [readTime_naive clockFits microFits (by simpa [offsetChars] using atClock)]
      simpa [written] using checked'
  | some offset =>
      rw [written] at atClock
      have small := offsetSmall offset written
      rw [readTime_zone clockFits microFits small atClock]
      have inRange : ¬(decide (readOffset offset ≤ -microsPerDay) ||
          decide (microsPerDay ≤ readOffset offset)) = true := by
        simp only [readOffset, microsPerDay_eq]
        split_ifs
        · decide
        · simp only [Bool.or_eq_true, decide_eq_true_eq, not_or, not_le]
          omega
      simp only [inRange]
      simpa [written] using checked'

end DateTime

end SheetExport.Calendar
