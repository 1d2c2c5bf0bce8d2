import Mathlib
import SheetExport.Sheet.Range

/-!
# Row numbers written and read back

A row write addresses its row by the range `sheet!A<row>:<last><row>`, and the row number of a
write is read back from that text. Both directions meet the limit on decimal text: an integer of
more than 4300 digits has no text, and a numeral that long is refused.

`RowRange.ofRow_eq` says which rows have a range: those from one up to `10^4300`, the row being
checked before anything else. `RowRange.rowOf_render` says that reading the row number of a range
gives back the row it was made for, whatever characters the sheet's name holds: the number is
looked for after the last `!`, and neither the digits of the row nor the letters of a column
label contain a `!` or a `:`.
-/

namespace SheetExport

/-- The code point of an ASCII digit lies from `0` to `9`. -/
private theorem toNat_bounds_of_isDigit {c : Char} (digit : c.isDigit) :
    48 ≤ c.toNat ∧ c.toNat ≤ 57 :=
  Char.isDigit_iff_toNat.mp digit

namespace Text

theorem digitValue?_of_isDigit {c : Char} (digit : c.isDigit) :
    digitValue? c = some (c.toNat - '0'.toNat) := by
  have bounds := toNat_bounds_of_isDigit digit
  have inAsciiRun : (decide (0x30 ≤ c.toNat) && decide (c.toNat < 0x30 + 10)) = true := by
    simp only [Bool.and_eq_true, decide_eq_true_eq]
    omega
  simp only [digitValue?, digitZeros, List.find?_cons, inAsciiRun]
  rfl

end Text

namespace Numeral

theorem isSurrounding_of_isDigit {c : Char} (digit : c.isDigit) : isSurrounding c = false := by
  have bounds := toNat_bounds_of_isDigit digit
  simp only [isSurrounding, Text.isBlank, Bool.and_eq_false_iff]
  left
  simp only [Bool.or_eq_false_iff, Bool.and_eq_false_iff, decide_eq_false_iff_not,
    beq_eq_false_iff_ne]
  omega

/-- A run of ASCII digits with nothing after it is read digit by digit. -/
theorem digitRun_go_of_isDigit (chars : List Char) (digits : ∀ c ∈ chars, c.isDigit) :
    digitRun.go chars false = some (chars.map (·.toNat - '0'.toNat), []) := by
  induction chars with
  | nil => rfl
  | cons c rest ih =>
      have digit := digits c List.mem_cons_self
      have notUnderscore : (c == '_') = false := by
        have bounds := toNat_bounds_of_isDigit digit
        simp only [beq_eq_false_iff_ne, ne_eq]
        rintro rfl
        exact absurd bounds (by decide)
      have restDigits : ∀ d ∈ rest, d.isDigit := fun d member =>
        digits d (List.mem_cons_of_mem c member)
      simp [digitRun.go, notUnderscore, Text.digitValue?_of_isDigit digit, ih restDigits]

theorem digitsValue_map (chars : List Char) :
    digitsValue (chars.map (·.toNat - '0'.toNat)) = Nat.ofDigitChars 10 chars 0 := by
  unfold digitsValue
  rw [List.foldl_map, Nat.ofDigitChars_eq_foldl]
  congr 1
  funext acc c
  rw [Nat.mul_comm]

end Numeral

open Numeral in
/-- The decimal text of a natural number short enough to have one reads back as that number. -/
theorem readInteger_repr (n : Nat) (short : n < 10 ^ NumeralError.digitLimit) :
    readInteger (Nat.repr n) = .ok n := by
  have digits : ∀ c ∈ Nat.toDigits 10 n, c.isDigit := fun c member =>
    Nat.isDigit_of_mem_toDigits (by decide) (by decide) member
  have fits : (Nat.toDigits 10 n).length ≤ NumeralError.digitLimit := by
    have := (Nat.length_repr_le_iff (by decide : 0 < NumeralError.digitLimit)).mpr short
    simpa [Nat.repr] using this
  obtain ⟨first, rest, split⟩ : ∃ first rest, Nat.toDigits 10 n = first :: rest :=
    List.exists_cons_of_ne_nil Nat.toDigits_ne_nil
  have firstDigit := digits first (by simp [split])
  have notSign : first ≠ '-' ∧ first ≠ '+' ∧ first ≠ '_' := by
    have bounds := toNat_bounds_of_isDigit firstDigit
    refine ⟨?_, ?_, ?_⟩ <;> (rintro rfl; exact absurd bounds (by decide))
  have unsigned : signed (first :: rest) = (false, first :: rest) := by
    unfold signed
    split <;> simp_all
  have run : digitRun (first :: rest) = some ((first :: rest).map (·.toNat - '0'.toNat), []) := by
    rw [← split, ← digitRun_go_of_isDigit (Nat.toDigits 10 n) digits, split]
    unfold digitRun
    split <;> simp_all
  have value : Nat.ofDigitChars 10 (first :: rest) 0 = n := by
    rw [← split]
    exact Nat.ofDigitChars_ten_toDigits
  have kept : (first :: rest).dropWhile isSurrounding = first :: rest := by
    simp [isSurrounding_of_isDigit firstDigit]
  have magnitude : digitsValue ((first :: rest).map (·.toNat - '0'.toNat)) = n := by
    rw [digitsValue_map, value]
  rw [split] at fits
  unfold readInteger
  rw [Nat.toList_repr, split, kept, unsigned]
  simp only [run, magnitude, List.length_map, if_neg (Nat.not_lt.mpr fits)]
  simp

namespace Column

theorem digit_lt_of_mem_digits {n d : Nat} (member : d ∈ digits n) : d < 26 := by
  induction n using Nat.strongRecOn with
  | ind n ih =>
      rcases Nat.eq_zero_or_pos n with zero | positive
      · subst zero
        simp [digits_zero] at member
      · rw [digits_pos positive] at member
        rcases List.mem_cons.mp member with first | later
        · omega
        · exact ih ((n - 1) / 26) (by omega) later

end Column

namespace RowRange

/-- The first row number too long to write: `10^4300` has 4301 digits. -/
def rowLimit : Int := 10 ^ NumeralError.digitLimit

theorem isColumnLetter_iff {c : Char} : isColumnLetter c = true ↔ 65 ≤ c.toNat ∧ c.toNat ≤ 90 := by
  simp [isColumnLetter, Char.le_def, UInt32.le_iff_toNat_le]

theorem isColumnLetter_letter :
    ∀ digit, digit < 26 → isColumnLetter (Column.letter digit) = true := by
  decide

theorem isColumnLetter_of_mem_label {n : Nat} {c : Char} (member : c ∈ (Column.label n).toList) :
    isColumnLetter c = true := by
  simp only [Column.label, String.toList_ofList, List.mem_map, List.mem_reverse] at member
  obtain ⟨digit, inDigits, rfl⟩ := member
  exact isColumnLetter_letter digit (Column.digit_lt_of_mem_digits inDigits)

/-- A digit is neither a column letter nor one of the two separators of a range. -/
private theorem digit_not_separator {c : Char} (digit : c.isDigit) :
    (c != '!') = true ∧ (c != ':') = true ∧ isColumnLetter c = false := by
  have bounds := toNat_bounds_of_isDigit digit
  refine ⟨?_, ?_, ?_⟩
  · simp only [bne_iff_ne, ne_eq]
    rintro rfl
    exact absurd bounds (by decide)
  · simp only [bne_iff_ne, ne_eq]
    rintro rfl
    exact absurd bounds (by decide)
  · cases letter : isColumnLetter c with
    | false => rfl
    | true =>
        have := isColumnLetter_iff.mp letter
        omega

/-- A column letter is neither of the two separators of a range. -/
private theorem letter_not_separator {c : Char} (letter : isColumnLetter c = true) :
    (c != '!') = true ∧ (c != ':') = true := by
  have bounds := isColumnLetter_iff.mp letter
  constructor
  · simp only [bne_iff_ne, ne_eq]
    rintro rfl
    exact absurd bounds (by decide)
  · simp only [bne_iff_ne, ne_eq]
    rintro rfl
    exact absurd bounds (by decide)

theorem writeInteger_eq (value : Int) :
    writeInteger value =
      if value.natAbs < 10 ^ NumeralError.digitLimit then .ok (toString value)
      else .error .tooLongToWrite := by
  unfold writeInteger
  have fitsIff : (Nat.repr value.natAbs).length ≤ NumeralError.digitLimit ↔
      value.natAbs < 10 ^ NumeralError.digitLimit :=
    Nat.length_repr_le_iff (by decide)
  by_cases short : value.natAbs < 10 ^ NumeralError.digitLimit
  · simp [short, Nat.not_lt.mpr (fitsIff.mpr short)]
  · have long : NumeralError.digitLimit < (Nat.repr value.natAbs).length :=
      Nat.lt_of_not_le (mt fitsIff.mp short)
    simp [short, long]

theorem rowLimit_eq_cast : ((10 ^ NumeralError.digitLimit : Nat) : Int) = rowLimit :=
  Int.natCast_pow 10 NumeralError.digitLimit

/-- The rows a range can be made for are those from one up to `rowLimit`; the row is checked
first, so a row below one is refused whatever the width. -/
theorem ofRow_eq (sheet : String) (row width : Int) :
    ofRow sheet row width =
      if row < 1 then .error .rowBelowOne
      else if rowLimit ≤ row then .error (.numeral .tooLongToWrite)
      else .ok (render sheet row (max width 1).toNat) := by
  unfold ofRow
  by_cases below : row < 1
  · simp [below]
  · have magnitude : (row.natAbs : Int) = row := Int.natAbs_of_nonneg (by omega)
    have limitCast := rowLimit_eq_cast
    rw [writeInteger_eq]
    by_cases long : rowLimit ≤ row
    · have tooLong : ¬ row.natAbs < 10 ^ NumeralError.digitLimit := by omega
      simp [below, long, tooLong]
    · have short : row.natAbs < 10 ^ NumeralError.digitLimit := by omega
      simp [below, long, short]

/-- The cell part of a range is `A` and the row's digits: after the last `!` come `A`, the row,
`:`, the label and the row again, and the first `:` ends the row. -/
theorem cellPart_render (sheet : String) (n last : Nat) :
    cellPart (render sheet n last) = 'A' :: Nat.toDigits 10 n := by
  have digits : ∀ c ∈ Nat.toDigits 10 n, c.isDigit := fun c member =>
    Nat.isDigit_of_mem_toDigits (by decide) (by decide) member
  have digitNoBang : ∀ c ∈ (Nat.toDigits 10 n).reverse, (c != '!') = true := fun c member =>
    (digit_not_separator (digits c (List.mem_reverse.mp member))).1
  have labelNoBang : ∀ c ∈ (Column.label last).toList.reverse, (c != '!') = true :=
    fun c member => (letter_not_separator
      (isColumnLetter_of_mem_label (List.mem_reverse.mp member))).1
  have digitNoColon : ∀ c ∈ Nat.toDigits 10 n, (c != ':') = true := fun c member =>
    (digit_not_separator (digits c member)).2.1
  have written : toString (n : Int) = Nat.repr n := rfl
  simp only [render, cellPart, written, String.toList_append, Nat.toList_repr,
    List.reverse_append]
  rw [List.takeWhile_append_of_pos digitNoBang, List.takeWhile_append_of_pos labelNoBang]
  simp [List.takeWhile_append_of_pos digitNoBang, List.takeWhile_append_of_pos digitNoColon]

/-- Reading the row number of a range gives back its row, whatever the sheet's name holds. -/
theorem rowOf_render (sheet : String) {row : Int} (last : Nat) (positive : 1 ≤ row)
    (short : row < rowLimit) : rowOf (render sheet row last) = .ok row := by
  obtain ⟨n, rfl⟩ : ∃ n : Nat, row = n := ⟨row.toNat, by omega⟩
  have nShort : n < 10 ^ NumeralError.digitLimit := by
    have := rowLimit_eq_cast
    omega
  obtain ⟨first, rest, split⟩ : ∃ first rest, Nat.toDigits 10 n = first :: rest :=
    List.exists_cons_of_ne_nil Nat.toDigits_ne_nil
  have firstDigit : first.isDigit := by
    have member : first ∈ Nat.toDigits 10 n := by simp [split]
    exact Nat.isDigit_of_mem_toDigits (by decide) (by decide) member
  have number : String.ofList (first :: rest) = Nat.repr n := by
    rw [← split, Nat.repr_eq_ofList_toDigits]
  have digitsKept : (first :: rest).dropWhile isColumnLetter = first :: rest := by
    simp [(digit_not_separator firstDigit).2.2]
  have letterDropped : ('A' :: first :: rest).dropWhile isColumnLetter = first :: rest := by
    rw [List.dropWhile_cons_of_pos (by decide), digitsKept]
  simp [rowOf, cellPart_render, split, letterDropped, number, readInteger_repr n nShort]

end RowRange

end SheetExport
