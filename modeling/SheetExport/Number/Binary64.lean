/-!
# Binary64 numbers

A binary64 number is kept by its exact parts: a finite value `±m · 2^e`, an infinity, or NaN.
Reading a decimal numeral rounds to the nearest binary64 value, a tie going to the even
significand, and a value that rounds to `2^1024` or more becomes an infinity. Every comparison
with an integer or with another number is exact, so comparing, truncating and printing never
round a second time.
-/

namespace SheetExport

/-- A binary64 number. A finite one is `(-1)^negative · significand · 2^exponent`; the numbers
made here have a significand below `2^53` and an exponent from `-1074` to `971`. -/
inductive Binary64 where
  | finite (negative : Bool) (significand : Nat) (exponent : Int)
  | infinity (negative : Bool)
  | nan
  deriving DecidableEq, Repr, Inhabited

namespace Binary64

/-- The exponent of the subnormal numbers, the least one. -/
def minExponent : Int := -1074

/-- The greatest exponent of a finite number. -/
def maxExponent : Int := 971

/-- Whether `numerator / denominator` is at least `2^power`. -/
def atLeastPowTwo (numerator denominator : Nat) (power : Int) : Bool :=
  if 0 ≤ power then denominator * Nat.pow 2 power.toNat ≤ numerator
  else denominator ≤ numerator * Nat.pow 2 (-power).toNat

/-- The floor of the base-two logarithm of a positive fraction. The estimate from the two bit
lengths is either the answer or one above it. -/
def floorLogTwo (numerator denominator : Nat) : Int :=
  let estimate : Int := (numerator.log2 : Int) - (denominator.log2 : Int)
  if atLeastPowTwo numerator denominator estimate then estimate else estimate - 1

/-- The binary64 number nearest to the positive fraction `numerator / denominator`, a tie going
to the even significand. -/
def nearest (negative : Bool) (numerator denominator : Nat) : Binary64 :=
  let exponent := max (floorLogTwo numerator denominator - 52) minExponent
  let dividend := if 0 ≤ exponent then numerator else numerator * Nat.pow 2 (-exponent).toNat
  let divisor := if 0 ≤ exponent then denominator * Nat.pow 2 exponent.toNat else denominator
  let quotient := dividend / divisor
  let remainder := dividend % divisor
  let roundsUp := divisor < 2 * remainder || (2 * remainder == divisor && quotient % 2 == 1)
  let significand := if roundsUp then quotient + 1 else quotient
  let (significand, exponent) :=
    if significand == Nat.pow 2 53 then (Nat.pow 2 52, exponent + 1) else (significand, exponent)
  if maxExponent < exponent then .infinity negative
  else if significand == 0 then .finite negative 0 0
  else .finite negative significand exponent

/-- The number of decimal digits of a natural number, one for zero. -/
def decimalLength (n : Nat) : Nat := (Nat.repr n).length

/-- The binary64 number nearest to `±digits · 10^exponent`. A numeral whose value is at least
`10^309` is an infinity and one below `10^-325` is a zero, without computing the powers. -/
def ofDecimal (negative : Bool) (digits : Nat) (exponent : Int) : Binary64 :=
  if digits = 0 then .finite negative 0 0
  else
    let magnitude : Int := exponent + decimalLength digits
    if 310 ≤ magnitude then .infinity negative
    else if magnitude ≤ -325 then .finite negative 0 0
    else if 0 ≤ exponent then nearest negative (digits * Nat.pow 10 exponent.toNat) 1
    else nearest negative digits (Nat.pow 10 (-exponent).toNat)

/-- The number nearest to an integer. -/
def ofInt (value : Int) : Binary64 := ofDecimal (value < 0) value.natAbs 0

/-- Whether the number is a zero of either sign. -/
def isZero : Binary64 → Bool
  | .finite _ significand _ => significand == 0
  | _ => false

/-- Whether the number is NaN. -/
def isNaN : Binary64 → Bool
  | .nan => true
  | _ => false

/-- An integer multiplied by `2^power`, with the power moved to the other side of a comparison:
the pair `(left, right)` compares as `value · 2^power` against `other`. -/
def scaledPair (value : Int) (power : Int) (other : Int) : Int × Int :=
  if 0 ≤ power then (value * Int.pow 2 power.toNat, other)
  else (value, other * Int.pow 2 (-power).toNat)

/-- The signed significand of a finite number. -/
def signedSignificand (negative : Bool) (significand : Nat) : Int :=
  if negative then -(significand : Int) else significand

/-- How a number compares with an integer; `none` for NaN. -/
def compareInt : Binary64 → Int → Option Ordering
  | .finite negative significand exponent, other =>
    let pair := scaledPair (signedSignificand negative significand) exponent other
    some (compare pair.1 pair.2)
  | .infinity negative, _ => some (if negative then .lt else .gt)
  | .nan, _ => none

/-- How two numbers compare; `none` when either is NaN. -/
def compareWith : Binary64 → Binary64 → Option Ordering
  | .finite negative significand exponent, .finite otherNegative otherSignificand otherExponent =>
    let base := min exponent otherExponent
    let left := signedSignificand negative significand * Int.pow 2 (exponent - base).toNat
    let right := signedSignificand otherNegative otherSignificand *
      Int.pow 2 (otherExponent - base).toNat
    some (compare left right)
  | .infinity negative, .infinity otherNegative =>
    some (if negative == otherNegative then .eq else if negative then .lt else .gt)
  | .infinity negative, .finite .. => some (if negative then .lt else .gt)
  | .finite .., .infinity otherNegative => some (if otherNegative then .gt else .lt)
  | _, _ => none

/-- Whether a number equals an integer exactly. -/
def equalsInt (x : Binary64) (n : Int) : Bool := x.compareInt n == some .eq

/-- Whether two numbers are equal as values: zeros of both signs are equal, NaN equals nothing. -/
def equals (x y : Binary64) : Bool := x.compareWith y == some .eq

/-- The integer part of a finite number, rounded toward zero. -/
def truncate? : Binary64 → Option Int
  | .finite negative significand exponent =>
    let magnitude := if 0 ≤ exponent then significand * Nat.pow 2 exponent.toNat
      else significand / Nat.pow 2 (-exponent).toNat
    some (signedSignificand negative magnitude)
  | _ => none

/-- Whether a finite number has no fractional part. -/
def isIntegral (x : Binary64) : Bool :=
  match x.truncate? with
  | some n => x.equalsInt n
  | none => false

theorem ofDecimal_zero (negative : Bool) (exponent : Int) :
    ofDecimal negative 0 exponent = .finite negative 0 0 := by
  simp [ofDecimal]

end Binary64

end SheetExport
