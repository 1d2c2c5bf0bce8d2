import Mathlib
import SheetExport.Proofs.OrdinalDates

/-!
# The storage form orders values to the second

The storage form `Y-MM-DD HH:MM:SS` of a value whose year has four digits is a row of
fixed-width fields of digits, from the heaviest to the lightest, between separators that stand
at the same places in every such text. Comparing two texts in code-point order therefore compares
the fields one after another, which for a valid date is comparing the values to the second
(`DateTime.storageText_lt_iff`): the text drops the microseconds and nothing else.
-/

namespace SheetExport.Calendar

/-- The digits of a number in `width` places, the leading places zero. -/
def fixedDigits : Nat → Nat → List Char
  | 0, _ => []
  | width + 1, n => fixedDigits width (n / 10) ++ [Nat.digitChar (n % 10)]

@[simp] theorem length_fixedDigits (width n : Nat) : (fixedDigits width n).length = width := by
  induction width generalizing n with
  | zero => rfl
  | succ width ih => simp [fixedDigits, ih]

theorem digitChar_lt_digitChar {a b : Nat} (digit : a < 10) (digit' : b < 10) :
    Nat.digitChar a < Nat.digitChar b ↔ a < b := by
  have everyPair : ∀ a, a < 10 → ∀ b, b < 10 → (Nat.digitChar a < Nat.digitChar b ↔ a < b) := by
    decide
  exact everyPair a digit b digit'

/-- Lists of one length compare at their first difference, so a common length of the fronts
lets the fronts decide first. -/
theorem append_lt_append_iff {front front' back back' : List Char}
    (sameLength : front.length = front'.length) :
    front ++ back < front' ++ back' ↔ front < front' ∨ (front = front' ∧ back < back') := by
  induction front generalizing front' with
  | nil =>
      obtain rfl : front' = [] := List.eq_nil_of_length_eq_zero sameLength.symm
      simp
  | cons first rest ih =>
      cases front' with
      | nil => simp at sameLength
      | cons first' rest' =>
          simp only [List.length_cons, Nat.add_right_cancel_iff] at sameLength
          simp only [List.cons_append, List.cons_lt_cons_iff, ih sameLength, List.cons.injEq]
          tauto

/-- Texts that start with fixed-width digits compare on the digits first. -/
theorem fixedDigits_append_lt_iff {width a b : Nat} {back back' : List Char} :
    fixedDigits width a ++ back < fixedDigits width b ++ back' ↔
      fixedDigits width a < fixedDigits width b ∨
        (fixedDigits width a = fixedDigits width b ∧ back < back') :=
  append_lt_append_iff (by simp)

/-- An order that a map reflects on a range makes the map one-to-one there. -/
private theorem eq_iff_of_lt_iff {f : Nat → List Char} {bound : Nat}
    (ordered : ∀ a b, a < bound → b < bound → (f a < f b ↔ a < b)) {a b : Nat}
    (below : a < bound) (below' : b < bound) : f a = f b ↔ a = b := by
  constructor
  · intro same
    by_contra differ
    rcases Nat.lt_or_gt_of_ne differ with before | after
    · exact List.lt_irrefl _ (same ▸ (ordered a b below below').2 before)
    · exact List.lt_irrefl _ (same ▸ (ordered b a below' below).2 after)
  · rintro rfl
    rfl

/-- Fixed-width digits compare as the numbers they write: the higher places decide first, then
the last digit. -/
theorem fixedDigits_lt_iff (width : Nat) :
    ∀ a b, a < 10 ^ width → b < 10 ^ width → (fixedDigits width a < fixedDigits width b ↔ a < b) := by
  induction width with
  | zero =>
      intro a b below below'
      simp only [pow_zero, Nat.lt_one_iff] at below below'
      subst below below'
      simp [fixedDigits]
  | succ width ih =>
      intro a b below below'
      have high : a / 10 < 10 ^ width := by rw [pow_succ] at below; omega
      have high' : b / 10 < 10 ^ width := by rw [pow_succ] at below'; omega
      simp only [fixedDigits]
      rw [append_lt_append_iff (by simp), ih _ _ high high', eq_iff_of_lt_iff ih high high',
        List.cons_lt_cons_iff, digitChar_lt_digitChar (Nat.mod_lt _ (by decide))
          (Nat.mod_lt _ (by decide))]
      simp only [List.not_lt_nil, and_false, or_false]
      omega

theorem fixedDigits_eq_iff {width a b : Nat} (below : a < 10 ^ width) (below' : b < 10 ^ width) :
    fixedDigits width a = fixedDigits width b ↔ a = b :=
  eq_iff_of_lt_iff (fixedDigits_lt_iff width) below below'

namespace DateTime

theorem twoDigits_toList {n : Nat} (small : n < 100) :
    (twoDigits n).toList = fixedDigits 2 n := by
  unfold twoDigits
  split_ifs with single
  · simp [Nat.repr_of_lt single, fixedDigits, Nat.div_eq_of_lt single, Nat.mod_eq_of_lt single]
  · rw [Nat.repr_of_ge (by omega), Nat.repr_of_lt (by omega)]
    simp [fixedDigits, Nat.mod_eq_of_lt (show n / 10 < 10 by omega)]

theorem yearText_toList {year : Int} (early : 1000 ≤ year) (late : year ≤ 9999) :
    (yearText year).toList = fixedDigits 4 year.toNat := by
  obtain ⟨n, rfl⟩ : ∃ n : Nat, year = n := ⟨year.toNat, by omega⟩
  have four : 1000 ≤ n ∧ n < 10000 := by omega
  show (Nat.repr n).toList = _
  rw [Nat.repr_of_ge (by omega), Nat.repr_of_ge (by omega), Nat.repr_of_ge (by omega),
    Nat.repr_of_lt (by omega)]
  simp [fixedDigits, Nat.div_div_eq_div_mul, Nat.mod_eq_of_lt (show n / 1000 < 10 by omega)]

/-- The whole seconds of a value since the start of day 1, reading the clock as it stands. -/
def wholeSeconds (value : DateTime) : Int :=
  (value.date.toOrdinal - 1) * 86400 + value.hour * 3600 + value.minute * 60 + value.second

/-- A value that the storage form writes in fixed width: a valid date of a year of four digits,
and a time of day. -/
structure Writable (value : DateTime) : Prop where
  valid : value.date.Valid
  year_ge : 1000 ≤ value.date.year
  year_le : value.date.year ≤ 9999
  hour_lt : value.hour < 24
  minute_lt : value.minute < 60
  second_lt : value.second < 60

/-- The storage form of a writable value, field by field. -/
theorem storageText_toList {value : DateTime} (writable : value.Writable) :
    value.storageText.toList =
      fixedDigits 4 value.date.year.toNat ++ ('-' :: (fixedDigits 2 value.date.month ++
        ('-' :: (fixedDigits 2 value.date.day ++ (' ' :: (fixedDigits 2 value.hour ++
          (':' :: (fixedDigits 2 value.minute ++ (':' :: fixedDigits 2 value.second))))))))) := by
  have month := writable.valid.month_le
  have day : value.date.day < 100 := by
    have := writable.valid.day_le
    have := Date.daysInMonth_le value.date.year value.date.month
    omega
  simp [storageText, String.toList_append, yearText_toList writable.year_ge writable.year_le,
    twoDigits_toList (show value.date.month < 100 by omega), twoDigits_toList day,
    twoDigits_toList (show value.hour < 100 by have := writable.hour_lt; omega),
    twoDigits_toList (show value.minute < 100 by have := writable.minute_lt; omega),
    twoDigits_toList (show value.second < 100 by have := writable.second_lt; omega)]

namespace Writable

variable {value : DateTime}

/-! The fields of a writable value fit their widths. -/

theorem year_fits (writable : value.Writable) : value.date.year.toNat < 10 ^ 4 := by
  have := writable.year_le
  norm_num
  omega

theorem month_fits (writable : value.Writable) : value.date.month < 10 ^ 2 := by
  have := writable.valid.month_le
  norm_num
  omega

theorem day_fits (writable : value.Writable) : value.date.day < 10 ^ 2 := by
  have := writable.valid.day_le
  have := Date.daysInMonth_le value.date.year value.date.month
  norm_num
  omega

theorem hour_fits (writable : value.Writable) : value.hour < 10 ^ 2 := by
  have := writable.hour_lt
  norm_num
  omega

theorem minute_fits (writable : value.Writable) : value.minute < 10 ^ 2 := by
  have := writable.minute_lt
  norm_num
  omega

theorem second_fits (writable : value.Writable) : value.second < 10 ^ 2 := by
  have := writable.second_lt
  norm_num
  omega

end Writable

/-- Two writable values' storage forms compare in code-point order as the values compare to the
second. -/
theorem storageText_lt_iff {value other : DateTime} (writable : value.Writable)
    (writable' : other.Writable) :
    value.storageText < other.storageText ↔ value.wholeSeconds < other.wholeSeconds := by
  rw [String.lt_iff_toList_lt, storageText_toList writable, storageText_toList writable']
  simp only [fixedDigits_append_lt_iff, List.cons_lt_cons_iff, lt_self_iff_false, false_or, true_and,
    fixedDigits_lt_iff 4 _ _ writable.year_fits writable'.year_fits,
    fixedDigits_eq_iff writable.year_fits writable'.year_fits,
    fixedDigits_lt_iff 2 _ _ writable.month_fits writable'.month_fits,
    fixedDigits_eq_iff writable.month_fits writable'.month_fits,
    fixedDigits_lt_iff 2 _ _ writable.day_fits writable'.day_fits,
    fixedDigits_eq_iff writable.day_fits writable'.day_fits,
    fixedDigits_lt_iff 2 _ _ writable.hour_fits writable'.hour_fits,
    fixedDigits_eq_iff writable.hour_fits writable'.hour_fits,
    fixedDigits_lt_iff 2 _ _ writable.minute_fits writable'.minute_fits,
    fixedDigits_eq_iff writable.minute_fits writable'.minute_fits,
    fixedDigits_lt_iff 2 _ _ writable.second_fits writable'.second_fits]
  have dates := Date.Valid.toOrdinal_lt_iff writable.valid writable'.valid
  have sameDates : (value.date.year = other.date.year ∧ value.date.month = other.date.month ∧
      value.date.day = other.date.day) ↔ value.date.toOrdinal = other.date.toOrdinal := by
    constructor
    · rintro ⟨sameYear, sameMonth, sameDay⟩
      simp only [Date.toOrdinal, sameYear, sameMonth, sameDay]
    · intro same
      have equal := Date.Valid.eq_of_toOrdinal_eq writable.valid writable'.valid same
      exact ⟨congrArg Date.year equal, congrArg Date.month equal, congrArg Date.day equal⟩
  have years := writable.year_ge
  have years' := writable'.year_ge
  have := writable.hour_lt
  have := writable'.hour_lt
  have := writable.minute_lt
  have := writable'.minute_lt
  have := writable.second_lt
  have := writable'.second_lt
  unfold wholeSeconds
  omega

end DateTime

end SheetExport.Calendar
