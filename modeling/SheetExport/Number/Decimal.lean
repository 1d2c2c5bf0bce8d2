import SheetExport.Number.Binary64

/-!
# Decimal forms of binary64 numbers

Two decimal forms of a finite positive number `m · 2^e`:

- `shortestDecimal`: the decimal with the fewest significant digits whose value rounds back to
  the number; of two such decimals the nearer one is taken, and of two equally near the one with
  the even last digit;
- `roundSignificant`: the number rounded to a fixed count of significant digits, a half going
  away from zero.

A `DecimalLayout` then writes a decimal as text: positionally when the decimal point falls in a
range, with an exponent otherwise.
-/

namespace SheetExport

/-- The decimal `digits · 10^exponent`. -/
structure Decimal where
  digits : Nat
  exponent : Int
  deriving DecidableEq, Repr, Inhabited

namespace Decimal

/-- The same value without trailing zeros in the digits. -/
def normalize (d : Decimal) : Decimal :=
  go 400 d.digits d.exponent
where
  go : Nat → Nat → Int → Decimal
    | 0, digits, exponent => ⟨digits, exponent⟩
    | fuel + 1, digits, exponent =>
      if digits != 0 && digits % 10 == 0 then go fuel (digits / 10) (exponent + 1)
      else ⟨digits, exponent⟩

end Decimal

namespace Binary64

/-- Compares `x · 2^xTwos · 10^xTens` with `y · 2^yTwos · 10^yTens` exactly. -/
def compareScaled (x : Nat) (xTwos xTens : Int) (y : Nat) (yTwos yTens : Int) : Ordering :=
  let twos := min xTwos yTwos
  let tens := min xTens yTens
  compare (x * Nat.pow 2 (xTwos - twos).toNat * Nat.pow 10 (xTens - tens).toNat)
    (y * Nat.pow 2 (yTwos - twos).toNat * Nat.pow 10 (yTens - tens).toNat)

/-- The floor of the decimal logarithm of the positive value `significand · 2^exponent`: an
estimate from the bit length, moved until `10^t ≤ value < 10^(t+1)`. -/
def floorLogTen (significand : Nat) (exponent : Int) : Int :=
  adjust 8 (((significand.log2 : Int) + exponent) * 30103 / 100000)
where
  adjust : Nat → Int → Int
    | 0, guess => guess
    | fuel + 1, guess =>
      if compareScaled 1 0 guess significand exponent 0 == .gt then adjust fuel (guess - 1)
      else if compareScaled 1 0 (guess + 1) significand exponent 0 != .gt then
        adjust fuel (guess + 1)
      else guess

/-- The floor of `significand · 2^exponent / 10^power`. -/
def floorScaled (significand : Nat) (exponent power : Int) : Nat :=
  (significand * Nat.pow 2 exponent.toNat * Nat.pow 10 (-power).toNat) /
    (Nat.pow 2 (-exponent).toNat * Nat.pow 10 power.toNat)

/-- The shortest decimal that rounds back to the positive finite number
`significand · 2^exponent`. The numbers that round to it lie between the midpoints to its two
neighbours, both ends included when the significand is even; the gap below is half as wide at a
power of two. For each count of digits the two decimals of that count around the value are tried,
and the first count with one inside wins. -/
def shortestDecimal (significand : Nat) (exponent : Int) : Decimal :=
  let even := significand % 2 == 0
  let lowGap := if significand == Nat.pow 2 52 && minExponent < exponent then 1 else 2
  let low := 4 * significand - lowGap
  let high := 4 * significand + 2
  let magnitude := floorLogTen significand exponent
  let inside (candidate : Nat) (power : Int) : Bool :=
    let aboveLow := compareScaled candidate 0 power low (exponent - 2) 0
    let belowHigh := compareScaled candidate 0 power high (exponent - 2) 0
    (aboveLow == .gt || (aboveLow == .eq && even)) &&
      (belowHigh == .lt || (belowHigh == .eq && even))
  let attempt (count : Nat) : Option Decimal :=
    let power := magnitude - count + 1
    let below := floorScaled significand exponent power
    let lowerFits := inside below power
    let upperFits := inside (below + 1) power
    if lowerFits && upperFits then
      match compareScaled (2 * significand) exponent 0 (2 * below + 1) 0 power with
      | .lt => some ⟨below, power⟩
      | .gt => some ⟨below + 1, power⟩
      | .eq => some (if below % 2 == 0 then ⟨below, power⟩ else ⟨below + 1, power⟩)
    else if lowerFits then some ⟨below, power⟩
    else if upperFits then some ⟨below + 1, power⟩
    else none
  let found := ((List.range 17).map (· + 1)).findSome? attempt
  (found.getD ⟨floorScaled significand exponent (magnitude - 16), magnitude - 16⟩).normalize

/-- The positive finite number `significand · 2^exponent` rounded to `count` significant digits,
a half going away from zero. -/
def roundSignificant (significand : Nat) (exponent : Int) (count : Nat) : Decimal :=
  let power := floorLogTen significand exponent - count + 1
  let below := floorScaled significand exponent power
  let roundsUp := compareScaled (2 * significand) exponent 0 (2 * below + 1) 0 power != .lt
  let digits := if roundsUp then below + 1 else below
  let result : Decimal :=
    if digits == Nat.pow 10 count then ⟨Nat.pow 10 (count - 1), power + 1⟩
    else ⟨digits, power⟩
  result.normalize

end Binary64

/-- How a decimal is written as text. The decimal point position `p` of a decimal with digits
`d₁…dₙ` is the `p` with value `0.d₁…dₙ · 10^p`. -/
structure DecimalLayout where
  /-- The least point position written without an exponent. -/
  leastPositional : Int
  /-- The greatest point position written without an exponent. -/
  greatestPositional : Int
  /-- The least number of digits of an exponent. -/
  exponentDigits : Nat
  /-- Whether a single digit before an exponent is followed by `.0`. -/
  fractionBeforeExponent : Bool
  /-- The text of an infinity, without its sign. -/
  infinityText : String
  /-- The text of NaN. -/
  nanText : String

namespace DecimalLayout

/-- A run of zeros. -/
def zeros (count : Nat) : String := String.ofList (List.replicate count '0')

/-- A natural number with at least `width` digits. -/
def padded (width value : Nat) : String :=
  let text := Nat.repr value
  zeros (width - text.length) ++ text

/-- The text of a positive decimal. -/
def renderDecimal (layout : DecimalLayout) (d : Decimal) : String :=
  let digits := Nat.repr d.digits
  let count := digits.length
  let point : Int := d.exponent + count
  if layout.leastPositional ≤ point && point ≤ layout.greatestPositional then
    if point ≤ 0 then "0." ++ zeros (-point).toNat ++ digits
    else if count ≤ point.toNat then digits ++ zeros (point.toNat - count) ++ ".0"
    else
      String.ofList (digits.toList.take point.toNat) ++ "." ++
        String.ofList (digits.toList.drop point.toNat)
  else
    let power := point - 1
    let rest := String.ofList (digits.toList.drop 1)
    let mantissa :=
      String.ofList (digits.toList.take 1) ++
        (if rest.isEmpty then (if layout.fractionBeforeExponent then ".0" else "")
         else "." ++ rest)
    mantissa ++ "e" ++ (if power < 0 then "-" else "+") ++
      padded layout.exponentDigits power.natAbs

/-- The text of a binary64 number whose digits come from `digitsOf`. -/
def render (layout : DecimalLayout) (digitsOf : Nat → Int → Decimal) : Binary64 → String
  | .finite negative significand exponent =>
    let sign := if negative then "-" else ""
    if significand == 0 then sign ++ "0.0"
    else sign ++ layout.renderDecimal (digitsOf significand exponent)
  | .infinity negative => (if negative then "-" else "") ++ layout.infinityText
  | .nan => layout.nanText

end DecimalLayout

end SheetExport
