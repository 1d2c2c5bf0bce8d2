import SheetExport.Number.Binary64

/-!
# Binary64 numbers and the machine's floats

The transcendental functions (sine, logarithm, power and the rest) are the machine's own, so a
number goes to a machine float and back through its IEEE 754 bit pattern: a sign bit, eleven bits
of biased exponent and fifty-two of fraction. An exponent field of all ones is an infinity (no
fraction) or NaN; a zero field is a subnormal number, the fraction times `2^-1074`; any other
field `b` is the normal number `(2^52 + fraction) · 2^(b - 1075)`.

Reading a bit pattern gives the canonical parts: a normal number's significand has its leading
bit at `2^52`, and a zero is `±0 · 2^0`. Writing first brings the parts to that form, which is
exact for every number this library makes.
-/

namespace SheetExport

namespace Binary64

/-- The parts of a finite nonzero number in canonical form: a significand from `2^52` to below
`2^53`, or a subnormal significand with the least exponent. -/
def canonical (negative : Bool) (significand : Nat) (exponent : Int) : Binary64 :=
  if 0 ≤ exponent then nearest negative (significand * Nat.pow 2 exponent.toNat) 1
  else nearest negative significand (Nat.pow 2 (-exponent).toNat)

/-- The bit pattern of a number; NaN is the quiet NaN. -/
def toBits : Binary64 → Nat
  | .nan => 0x7FF8000000000000
  | .infinity negative => (if negative then Nat.pow 2 63 else 0) + 0x7FF0000000000000
  | .finite negative significand exponent =>
    let sign := if negative then Nat.pow 2 63 else 0
    if significand = 0 then sign
    else
      match canonical negative significand exponent with
      | .finite _ m e =>
        if Nat.pow 2 52 ≤ m then sign + (e + 1075).toNat * Nat.pow 2 52 + (m - Nat.pow 2 52)
        else sign + m
      | .infinity _ => sign + 0x7FF0000000000000
      | .nan => 0x7FF8000000000000

/-- The number of a bit pattern. -/
def ofBits (bits : Nat) : Binary64 :=
  let negative : Bool := Nat.pow 2 63 ≤ bits % Nat.pow 2 64
  let biased : Nat := bits / Nat.pow 2 52 % 2048
  let fraction : Nat := bits % Nat.pow 2 52
  if biased = 2047 then (if fraction = 0 then .infinity negative else .nan)
  else if biased = 0 then
    (if fraction = 0 then .finite negative 0 0 else .finite negative fraction minExponent)
  else .finite negative (Nat.pow 2 52 + fraction) ((biased : Int) - 1075)

/-- The machine float of a number. -/
def toFloat (x : Binary64) : Float := Float.ofBits x.toBits.toUInt64

/-- The number of a machine float. -/
def ofFloat (x : Float) : Binary64 := ofBits x.toBits.toNat

end Binary64

end SheetExport
