import SheetExport.Number.Binary64

/-!
# Extended-precision numbers

The store does part of its decimal conversions in the 80-bit extended format of x87 arithmetic:
a 64-bit significand and an exponent range wide enough that nothing here overflows or becomes
subnormal. A nonnegative extended number is kept as `significand · 2^exponent` with a significand
below `2^64`, and each operation computes its exact result and rounds it once to the nearest
extended number, a tie going to the even significand. That one rounding per operation is the
whole model: sums, differences, products and quotients of extended numbers, and the conversions
from and to binary64, are all exact rationals rounded at one place.
-/

namespace SheetExport

/-- A nonnegative extended number `significand · 2^exponent`; the numbers made here have a
significand below `2^64`. -/
structure Extended where
  significand : Nat
  exponent : Int
  deriving DecidableEq, Repr, Inhabited

namespace Extended

/-- The number of significand bits. -/
def precision : Nat := 64

/-- The extended number nearest to the fraction `numerator / denominator`, a tie going to the
even significand. -/
def nearest (numerator denominator : Nat) : Extended :=
  if numerator = 0 || denominator = 0 then ⟨0, 0⟩
  else
    let exponent := Binary64.floorLogTwo numerator denominator - (precision - 1 : Nat)
    let dividend := if 0 ≤ exponent then numerator else numerator * Nat.pow 2 (-exponent).toNat
    let divisor := if 0 ≤ exponent then denominator * Nat.pow 2 exponent.toNat else denominator
    let quotient := dividend / divisor
    let remainder := dividend % divisor
    let roundsUp := divisor < 2 * remainder || (2 * remainder == divisor && quotient % 2 == 1)
    let significand := if roundsUp then quotient + 1 else quotient
    if significand == Nat.pow 2 precision then ⟨Nat.pow 2 (precision - 1), exponent + 1⟩
    else ⟨significand, exponent⟩

/-- The exact value as a fraction: numerator and denominator. -/
def toRatio (x : Extended) : Nat × Nat :=
  if 0 ≤ x.exponent then (x.significand * Nat.pow 2 x.exponent.toNat, 1)
  else (x.significand, Nat.pow 2 (-x.exponent).toNat)

/-- The nearest extended number to a natural number. -/
def ofNat (n : Nat) : Extended := nearest n 1

/-- The magnitude of a finite binary64 number, which is exactly an extended number. -/
def ofBinary64 : Binary64 → Extended
  | .finite _ significand exponent => ⟨significand, exponent⟩
  | _ => ⟨0, 0⟩

/-- The binary64 number nearest to `±x`. -/
def toBinary64 (negative : Bool) (x : Extended) : Binary64 :=
  if x.significand = 0 then .finite negative 0 0
  else
    let (numerator, denominator) := x.toRatio
    Binary64.nearest negative numerator denominator

/-- The product, rounded. -/
def mul (x y : Extended) : Extended :=
  let (a, b) := x.toRatio
  let (c, d) := y.toRatio
  nearest (a * c) (b * d)

/-- The quotient, rounded; dividing by zero gives zero, which no caller does. -/
def div (x y : Extended) : Extended :=
  let (a, b) := x.toRatio
  let (c, d) := y.toRatio
  nearest (a * d) (b * c)

/-- The sum, rounded. -/
def add (x y : Extended) : Extended :=
  let (a, b) := x.toRatio
  let (c, d) := y.toRatio
  nearest (a * d + c * b) (b * d)

/-- The difference `x - y` for `y ≤ x`, rounded; zero when `y` is larger. -/
def sub (x y : Extended) : Extended :=
  let (a, b) := x.toRatio
  let (c, d) := y.toRatio
  nearest (a * d - c * b) (b * d)

/-- How two extended numbers compare, exactly. -/
def compareWith (x y : Extended) : Ordering :=
  let (a, b) := x.toRatio
  let (c, d) := y.toRatio
  compare (a * d) (c * b)

/-- Whether `x < y`. -/
def lt (x y : Extended) : Bool := x.compareWith y == .lt

/-- The integer part. -/
def floor (x : Extended) : Nat :=
  let (a, b) := x.toRatio
  a / b

theorem nearest_zero (denominator : Nat) : nearest 0 denominator = ⟨0, 0⟩ := by
  simp [nearest]

end Extended

end SheetExport
