/-!
# Column labels

A sheet names its columns `A` to `Z`, then `AA` to `ZZ`, then `AAA` and so on: the label of a
positive column number is its numeral in bijective base 26, with the letters `A` to `Z` standing
for the digits 1 to 26. `Column.label` writes the numeral, least significant letter last, and
`Column.value` reads a label back; the two are inverse on positive numbers.
-/

namespace SheetExport

namespace Column

/-- The bijective base-26 digits of a number, each from 0 (for `A`) to 25 (for `Z`), least
significant first. Each step takes one off, keeps the remainder as the digit and divides by 26. -/
def digits (n : Nat) : List Nat :=
  if n = 0 then []
  else (n - 1) % 26 :: digits ((n - 1) / 26)
termination_by n
decreasing_by omega

/-- The letter of a digit from 0 to 25. -/
def letter (digit : Nat) : Char := Char.ofNat (65 + digit)

/-- The label of a column number; the empty text for zero. -/
def label (n : Nat) : String := String.ofList ((digits n).reverse.map letter)

/-- The number a label stands for, each letter counting from 1 for `A`. -/
def value (label : String) : Nat :=
  label.toList.foldl (fun acc c => acc * 26 + (c.toNat - 64)) 0

theorem digits_zero : digits 0 = [] := by simp [digits]

theorem digits_pos {n : Nat} (positive : 0 < n) :
    digits n = (n - 1) % 26 :: digits ((n - 1) / 26) := by
  rw [digits]
  simp [Nat.pos_iff_ne_zero.mp positive]

end Column

end SheetExport
