import SheetExport.Number.Binary64

/-!
# Binary64 arithmetic

Sums, differences, products and quotients of binary64 numbers, each the exact result rounded
once to the nearest binary64 number, a tie going to the even significand. The special values
follow the usual rules: NaN in gives NaN out; an infinity absorbs finite operands; the sum of
opposite infinities, the product of an infinity and a zero, and the quotient of two infinities
are NaN. A zero result of a sum is negative only when both operands are negative zeros; a
product or a quotient is negative when exactly one operand is.
-/

namespace SheetExport

namespace Binary64

/-- The number with its sign changed. -/
def neg : Binary64 → Binary64
  | .finite negative significand exponent => .finite (!negative) significand exponent
  | .infinity negative => .infinity (!negative)
  | .nan => .nan

/-- Whether the sign bit is set. -/
def isNegative : Binary64 → Bool
  | .finite negative _ _ => negative
  | .infinity negative => negative
  | .nan => false

/-- The exact value of a finite number as a signed numerator over a power of two. -/
def ratio (negative : Bool) (significand : Nat) (exponent : Int) : Int × Nat :=
  if 0 ≤ exponent then (signedSignificand negative (significand * Nat.pow 2 exponent.toNat), 1)
  else (signedSignificand negative significand, Nat.pow 2 (-exponent).toNat)

/-- The number nearest to `numerator / denominator`; a zero takes the sign given. -/
def ofRatio (numerator : Int) (denominator : Nat) (zeroNegative : Bool) : Binary64 :=
  if numerator = 0 then .finite zeroNegative 0 0
  else nearest (numerator < 0) numerator.natAbs denominator

/-- The sum, rounded. -/
def add : Binary64 → Binary64 → Binary64
  | .nan, _ | _, .nan => .nan
  | .infinity a, .infinity b => if a == b then .infinity a else .nan
  | .infinity a, _ => .infinity a
  | _, .infinity b => .infinity b
  | .finite a m e, .finite b n f =>
    let (x, d) := ratio a m e
    let (y, g) := ratio b n f
    ofRatio (x * g + y * d) (d * g) (a && b && m == 0 && n == 0)

/-- The difference, rounded. -/
def sub (x y : Binary64) : Binary64 := add x (neg y)

/-- The product, rounded. -/
def mul : Binary64 → Binary64 → Binary64
  | .nan, _ | _, .nan => .nan
  | .infinity a, .infinity b => .infinity (a != b)
  | .infinity a, .finite b n _ => if n == 0 then .nan else .infinity (a != b)
  | .finite a m _, .infinity b => if m == 0 then .nan else .infinity (a != b)
  | .finite a m e, .finite b n f =>
    let (x, d) := ratio a m e
    let (y, g) := ratio b n f
    ofRatio (x * y) (d * g) (a != b)

/-- The quotient, rounded; dividing a finite nonzero number by zero gives an infinity. -/
def div : Binary64 → Binary64 → Binary64
  | .nan, _ | _, .nan => .nan
  | .infinity _, .infinity _ => .nan
  | .infinity a, .finite b _ _ => .infinity (a != b)
  | .finite a _ _, .infinity b => .finite (a != b) 0 0
  | .finite a m e, .finite b n f =>
    if n == 0 then (if m == 0 then .nan else .infinity (a != b))
    else
      let (x, d) := ratio a m e
      let (y, g) := ratio b n f
      let numerator := x * g
      let denominator := d * y.natAbs
      ofRatio (if y < 0 then -numerator else numerator) denominator (a != b)

theorem neg_neg (x : Binary64) : neg (neg x) = x := by
  cases x <;> simp [neg]

end Binary64

end SheetExport
