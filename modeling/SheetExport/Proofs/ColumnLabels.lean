import Mathlib
import SheetExport.Proofs.RowNumbers

/-!
# Column labels are the bijective base-26 numerals

The label of a column number is written by taking one off, keeping the remainder by 26 as the last
letter and going on with the quotient. Read back with `A` for 1 and `Z` for 26, each letter
weighing 26 times the letter after it, a label gives its number again (`horner_label`), and every
text of capital letters is the label of the number it reads as (`label_horner`). So the labels of
the positive numbers are exactly the non-empty texts of capital letters, each once.

Labels of one length read as the numbers of one block: `A…A` is the least and `Z…Z` the
greatest, and `Z…Z` is followed by `A…AA` (`horner_replicate_Z_add_one`). A greater number
therefore has a longer label, or a label of the same length that comes later letter by letter
(`shortlexLt_label`). `labelOf_bijective_base_26` gathers this for column numbers given as
integers, a number below one being refused.
-/

namespace SheetExport

namespace Column

open RowRange

/-- A column label: one letter or more, each from `A` to `Z`. -/
def IsLabel (text : String) : Prop :=
  text ≠ "" ∧ ∀ c ∈ text.toList, isColumnLetter c = true

/-- Labels in the order a sheet lists its columns: shorter labels first, and labels of one length
in the order of their letters. -/
def ShortlexLt (first second : String) : Prop :=
  first.length < second.length ∨ (first.length = second.length ∧ first < second)

/-- Letters read as `value` reads a label: `A` counts 1 and `Z` 26, each letter 26 times the
letter after it. -/
def horner (letters : List Char) : Nat :=
  letters.foldl (fun acc c => acc * 26 + (c.toNat - 64)) 0

theorem value_eq_horner (text : String) : value text = horner text.toList := rfl

@[simp] theorem horner_nil : horner [] = 0 := rfl

theorem foldl_horner (start : Nat) (letters : List Char) :
    letters.foldl (fun acc c => acc * 26 + (c.toNat - 64)) start =
      start * 26 ^ letters.length + horner letters := by
  induction letters generalizing start with
  | nil => simp
  | cons c rest ih =>
      simp only [List.foldl_cons, horner] at ih ⊢
      rw [ih, ih (0 * 26 + (c.toNat - 64)), List.length_cons, pow_succ]
      ring

theorem horner_append (first second : List Char) :
    horner (first ++ second) = horner first * 26 ^ second.length + horner second := by
  rw [horner, List.foldl_append, foldl_horner]
  rfl

theorem horner_snoc (letters : List Char) (c : Char) :
    horner (letters ++ [c]) = horner letters * 26 + (c.toNat - 64) := by
  simp [horner]

theorem horner_cons (c : Char) (letters : List Char) :
    horner (c :: letters) = (c.toNat - 64) * 26 ^ letters.length + horner letters := by
  rw [← List.singleton_append, horner_append]
  simp [horner]

/-- The letters weighted one by one: the `i`-th of `k` letters counts `26 ^ (k - 1 - i)` times. -/
theorem horner_eq_sum (letters : List Char) :
    horner letters = ∑ i : Fin letters.length,
      ((letters.get i).toNat - 64) * 26 ^ (letters.length - 1 - (i : Nat)) := by
  induction letters with
  | nil => simp
  | cons c rest ih =>
      show _ = ∑ i : Fin (rest.length + 1), _
      rw [horner_cons, ih, Fin.sum_univ_succ]
      have exponents : ∀ i : Fin rest.length, rest.length - ((i : Nat) + 1) = rest.length - 1 - i :=
        fun i => by omega
      simp only [List.length_cons, List.get_eq_getElem, Fin.val_zero, List.getElem_cons_zero,
        Fin.val_succ, List.getElem_cons_succ, Nat.add_sub_cancel, Nat.sub_zero, exponents]

/-- The letter of each digit, decided once for the 26 digits. -/
theorem letter_toNat : ∀ digit, digit < 26 → (letter digit).toNat = 65 + digit := by
  decide

theorem letter_of_isColumnLetter {c : Char} (capital : isColumnLetter c = true) :
    letter (c.toNat - 65) = c := by
  have bounds := isColumnLetter_iff.mp capital
  apply Char.toNat_inj.mp
  rw [letter_toNat _ (by omega)]
  omega

theorem label_toList (n : Nat) : (label n).toList = (digits n).reverse.map letter := by
  simp [label]

/-- A positive number's label is the label of its quotient followed by the letter of its
remainder, one taken off first. -/
theorem label_toList_pos {n : Nat} (positive : 0 < n) :
    (label n).toList = (label ((n - 1) / 26)).toList ++ [letter ((n - 1) % 26)] := by
  simp [label_toList, digits_pos positive]

/-- A label reads back as its number. -/
theorem horner_label (n : Nat) : horner (label n).toList = n := by
  induction n using Nat.strong_induction_on with
  | _ n ih =>
      rcases Nat.eq_zero_or_pos n with zero | positive
      · subst zero
        simp [label_toList, digits_zero]
      · have quotient := ih ((n - 1) / 26) (by omega)
        rw [label_toList_pos positive, horner_snoc, quotient,
          letter_toNat _ (Nat.mod_lt _ (by decide))]
        omega

/-- Capital letters are the label of the number they read as: with one taken off that number, the
last letter is the remainder by 26 and the letters before it the label of the quotient. -/
theorem label_horner (letters : List Char) (capitals : ∀ c ∈ letters, isColumnLetter c = true) :
    label (horner letters) = String.ofList letters := by
  induction letters using List.reverseRecOn with
  | nil => simp [label, digits_zero]
  | append_singleton rest c ih =>
      have capital := capitals c (by simp)
      have bounds := isColumnLetter_iff.mp capital
      have before := ih fun d member => capitals d (by simp [member])
      have positive : 0 < horner (rest ++ [c]) := by
        rw [horner_snoc]
        omega
      have remainder : (horner (rest ++ [c]) - 1) % 26 = c.toNat - 65 := by
        rw [horner_snoc]
        omega
      have quotient : (horner (rest ++ [c]) - 1) / 26 = horner rest := by
        rw [horner_snoc]
        omega
      apply String.ext
      rw [label_toList_pos positive, remainder, quotient, before, letter_of_isColumnLetter capital]
      simp

/-- `value` reads every label back as its number. -/
theorem value_label (n : Nat) : value (label n) = n := by
  rw [value_eq_horner, horner_label]

/-- Every text of capital letters is the label of the number `value` reads it as. -/
theorem label_value {text : String} (capitals : ∀ c ∈ text.toList, isColumnLetter c = true) :
    label (value text) = text := by
  rw [value_eq_horner, label_horner _ capitals, String.ofList_toList]

theorem label_injective {n m : Nat} (same : label n = label m) : n = m := by
  rw [← horner_label n, ← horner_label m, same]

theorem isLabel_label {n : Nat} (positive : 0 < n) : IsLabel (label n) := by
  refine ⟨?_, fun c member => isColumnLetter_of_mem_label member⟩
  intro empty
  have noLetters := congrArg String.toList empty
  simp [label_toList, digits_pos positive] at noLetters

theorem one_le_horner {letters : List Char} (nonempty : letters ≠ [])
    (capitals : ∀ c ∈ letters, isColumnLetter c = true) : 1 ≤ horner letters := by
  obtain ⟨rest, c, rfl⟩ : ∃ rest c, letters = rest ++ [c] :=
    ⟨letters.dropLast, letters.getLast nonempty, (List.dropLast_append_getLast nonempty).symm⟩
  have bounds := isColumnLetter_iff.mp (capitals c (by simp))
  rw [horner_snoc]
  omega

/-! ## Labels of one length form a block -/

theorem horner_replicate_succ (c : Char) (k : Nat) :
    horner (List.replicate (k + 1) c) = (c.toNat - 64) * 26 ^ k + horner (List.replicate k c) := by
  rw [List.replicate_succ, horner_cons, List.length_replicate]

/-- `A…A` with one letter more adds the weight of the new first letter. -/
theorem horner_replicate_A_succ (k : Nat) :
    horner (List.replicate (k + 1) 'A') = 26 ^ k + horner (List.replicate k 'A') := by
  have letterA : 'A'.toNat - 64 = 1 := rfl
  rw [horner_replicate_succ, letterA, one_mul]

/-- `Z…Z` with one letter more adds 26 times the weight of the new first letter. -/
theorem horner_replicate_Z_succ (k : Nat) :
    horner (List.replicate (k + 1) 'Z') = 26 ^ (k + 1) + horner (List.replicate k 'Z') := by
  have letterZ : 'Z'.toNat - 64 = 26 := rfl
  rw [horner_replicate_succ, letterZ, pow_succ']

/-- No label of `k` letters reads below `A…A` or above `Z…Z`. -/
theorem horner_bounds {letters : List Char} (capitals : ∀ c ∈ letters, isColumnLetter c = true) :
    horner (List.replicate letters.length 'A') ≤ horner letters ∧
      horner letters ≤ horner (List.replicate letters.length 'Z') := by
  induction letters with
  | nil => simp
  | cons c rest ih =>
      have bounds := isColumnLetter_iff.mp (capitals c (by simp))
      obtain ⟨lower, upper⟩ := ih fun d member => capitals d (by simp [member])
      rw [List.length_cons, horner_replicate_A_succ, horner_replicate_Z_succ, horner_cons,
        pow_succ']
      have least := Nat.mul_le_mul_right (26 ^ rest.length) (show 1 ≤ c.toNat - 64 by omega)
      have most := Nat.mul_le_mul_right (26 ^ rest.length) (show c.toNat - 64 ≤ 26 by omega)
      constructor <;> linarith

/-- The greatest label of `k` letters is followed by the least label of `k + 1`. -/
theorem horner_replicate_Z_add_one (k : Nat) :
    horner (List.replicate k 'Z') + 1 = horner (List.replicate (k + 1) 'A') := by
  induction k with
  | zero => rfl
  | succ k ih =>
      rw [horner_replicate_Z_succ, horner_replicate_A_succ (k + 1), ← ih]
      omega

theorem horner_replicate_A_mono {k m : Nat} (le : k ≤ m) :
    horner (List.replicate k 'A') ≤ horner (List.replicate m 'A') := by
  induction m, le using Nat.le_induction with
  | base => exact le_rfl
  | succ m _ ih =>
      rw [horner_replicate_A_succ]
      exact ih.trans (Nat.le_add_left _ _)

/-- A shorter label reads as a smaller number. -/
theorem horner_lt_of_length_lt {first second : List Char}
    (capitalsFirst : ∀ c ∈ first, isColumnLetter c = true)
    (capitalsSecond : ∀ c ∈ second, isColumnLetter c = true)
    (shorter : first.length < second.length) : horner first < horner second := by
  have first_le := (horner_bounds capitalsFirst).2
  have second_ge := (horner_bounds capitalsSecond).1
  have next := horner_replicate_Z_add_one first.length
  have mono := horner_replicate_A_mono (show first.length + 1 ≤ second.length by omega)
  omega

/-- Of two labels of one length, the one that comes first letter by letter reads as the smaller
number: at the first letter where they differ, the rest of the first label weighs less than one
step of that letter. -/
theorem horner_lt_of_lex {first second : List Char}
    (capitalsFirst : ∀ c ∈ first, isColumnLetter c = true)
    (capitalsSecond : ∀ c ∈ second, isColumnLetter c = true)
    (sameLength : first.length = second.length)
    (before : List.Lex (· < ·) first second) : horner first < horner second := by
  induction before with
  | nil => simp at sameLength
  | @rel a rest b others earlier =>
      have lengths : rest.length = others.length := by simpa using sameLength
      have boundsA := isColumnLetter_iff.mp (capitalsFirst a (by simp))
      have boundsB := isColumnLetter_iff.mp (capitalsSecond b (by simp))
      have smaller : a.toNat < b.toNat := by
        simpa [Char.lt_def, UInt32.lt_iff_toNat_lt] using earlier
      have restAtMost :=
        (horner_bounds fun c (member : c ∈ rest) => capitalsFirst c (by simp [member])).2
      have othersAtLeast :=
        (horner_bounds fun c (member : c ∈ others) => capitalsSecond c (by simp [member])).1
      have next := horner_replicate_Z_add_one rest.length
      rw [horner_replicate_A_succ] at next
      rw [horner_cons, horner_cons, ← lengths]
      rw [← lengths] at othersAtLeast
      have step := Nat.mul_le_mul_right (26 ^ rest.length)
        (show a.toNat - 64 + 1 ≤ b.toNat - 64 by omega)
      rw [Nat.add_mul, one_mul] at step
      omega
  | @cons a rest others _ ih =>
      have lengths : rest.length = others.length := by simpa using sameLength
      rw [horner_cons, horner_cons, ← lengths]
      have later := ih (fun c member => capitalsFirst c (by simp [member]))
        (fun c member => capitalsSecond c (by simp [member])) lengths
      omega

/-- Labels in the order of a sheet read as increasing numbers. -/
theorem horner_lt_of_shortlexLt {first second : String}
    (capitalsFirst : ∀ c ∈ first.toList, isColumnLetter c = true)
    (capitalsSecond : ∀ c ∈ second.toList, isColumnLetter c = true)
    (ordered : ShortlexLt first second) : horner first.toList < horner second.toList := by
  rcases ordered with shorter | ⟨sameLength, before⟩
  · exact horner_lt_of_length_lt capitalsFirst capitalsSecond
      (by simpa [String.length_toList] using shorter)
  · have lex : List.Lex (· < ·) first.toList second.toList :=
      (List.lt_iff_lex_lt _ _).mp (String.lt_iff.mp before)
    exact horner_lt_of_lex capitalsFirst capitalsSecond
      (by simpa [String.length_toList] using sameLength) lex

/-- A greater number has a later label. -/
theorem shortlexLt_label {n m : Nat} (positive : 0 < n) (smaller : n < m) :
    ShortlexLt (label n) (label m) := by
  have capitalsN := (isLabel_label positive).2
  have capitalsM := (isLabel_label (Nat.lt_trans positive smaller)).2
  have notAfter : ¬ ShortlexLt (label m) (label n) := by
    intro after
    have reversed := horner_lt_of_shortlexLt capitalsM capitalsN after
    rw [horner_label, horner_label] at reversed
    omega
  rcases lt_trichotomy (label n).length (label m).length with shorter | sameLength | longer
  · exact Or.inl shorter
  · rcases lt_trichotomy (label n) (label m) with before | same | after
    · exact Or.inr ⟨sameLength, before⟩
    · exact absurd (label_injective same) (by omega)
    · exact absurd (Or.inr ⟨sameLength.symm, after⟩) notAfter
  · exact absurd (Or.inl longer) notAfter

/-! ## Labels of columns given as integers -/

theorem labelOf_int_of_pos {n : Int} (positive : 1 ≤ n) : labelOf (.int n) = .ok (label n.toNat) := by
  have notBelow : ¬ n < 1 := by omega
  simp [labelOf, compareWithOne, bind, Except.bind, compare_lt_iff_lt, notBelow, pure,
    Except.pure]

theorem labelOf_int_of_lt_one {n : Int} (below : n < 1) :
    labelOf (.int n) = .error .columnBelowOne := by
  simp [labelOf, compareWithOne, bind, Except.bind, compare_lt_iff_lt, below, throw, throwThe,
    MonadExceptOf.throw]

/-- The label of a column number is its bijective base-26 numeral. Every positive integer has a
label whose letters, `A` counting 1 and `Z` 26 and each weighted by a power of 26 from the last,
add up to it; every text of capital letters is the label of exactly one positive integer; a
greater number has a later label, labels ordered by length and then letter by letter; and a
number below one is refused. -/
theorem labelOf_bijective_base_26 :
    (∀ n : Int, 1 ≤ n → ∃ text, labelOf (.int n) = .ok text ∧ IsLabel text ∧
      ∑ i : Fin text.toList.length,
        (((text.toList.get i).toNat : Int) - 64) * 26 ^ (text.toList.length - 1 - (i : Nat)) =
          n) ∧
    (∀ text, IsLabel text → ∃! n : Int, 1 ≤ n ∧ labelOf (.int n) = .ok text) ∧
    (∀ n m : Int, 1 ≤ n → n < m → ∃ first second, labelOf (.int n) = .ok first ∧
      labelOf (.int m) = .ok second ∧ ShortlexLt first second) ∧
    (∀ n : Int, n < 1 → labelOf (.int n) = .error .columnBelowOne) := by
  refine ⟨?_, ?_, ?_, fun n below => labelOf_int_of_lt_one below⟩
  · intro n positive
    have isLabel := isLabel_label (n := n.toNat) (by omega)
    refine ⟨label n.toNat, labelOf_int_of_pos positive, isLabel, ?_⟩
    have readBack : ((horner (label n.toNat).toList : Nat) : Int) = n := by
      rw [horner_label]
      omega
    refine Eq.trans ?_ readBack
    rw [horner_eq_sum]
    push_cast
    refine Finset.sum_congr rfl fun i _ => ?_
    have bounds := isColumnLetter_iff.mp (isLabel.2 _ (List.get_mem _ i))
    congr 1
    omega
  · intro text isLabel
    have nonempty : text.toList ≠ [] := by
      simpa [String.toList_eq_nil_iff] using isLabel.1
    refine ⟨horner text.toList, ⟨?_, ?_⟩, ?_⟩
    · exact_mod_cast one_le_horner nonempty isLabel.2
    · rw [labelOf_int_of_pos (by exact_mod_cast one_le_horner nonempty isLabel.2),
        Int.toNat_natCast, label_horner _ isLabel.2, String.ofList_toList]
    · rintro n ⟨positive, labelled⟩
      rw [labelOf_int_of_pos positive, Except.ok.injEq] at labelled
      have readBack := horner_label n.toNat
      rw [labelled] at readBack
      omega
  · intro n m positive smaller
    exact ⟨label n.toNat, label m.toNat, labelOf_int_of_pos positive,
      labelOf_int_of_pos (by omega), shortlexLt_label (by omega) (by omega)⟩

/-- Column 703 is the first of three letters, and column 702 the last of two. -/
theorem labelOf_seven_hundred_three :
    (1 : Int) ≤ 703 ∧ labelOf (.int 703) = .ok "AAA" ∧ labelOf (.int 702) = .ok "ZZ" ∧
      ShortlexLt "ZZ" "AAA" := by
  obtain ⟨_, _, ordered, _⟩ := labelOf_bijective_base_26
  obtain ⟨first, second, atZZ, atAAA, before⟩ := ordered 702 703 (by decide) (by decide)
  have labelAAA : labelOf (.int 703) = .ok "AAA" := by decide +kernel
  have labelZZ : labelOf (.int 702) = .ok "ZZ" := by decide +kernel
  rw [labelZZ, Except.ok.injEq] at atZZ
  rw [labelAAA, Except.ok.injEq] at atAAA
  subst atZZ atAAA
  exact ⟨by decide, labelAAA, labelZZ, before⟩

end Column

end SheetExport
