import SheetExport.Store.Value
import SheetExport.Number.MachineFloat

/-!
# Mathematical functions

The mathematical functions take numbers: an integer, a real, or text that reads wholly as a
numeral (as that number); any other argument, NULL included, makes the result NULL. They compute
in binary64 on the machine's floats, so that each gives the machine's own rounding, and a NaN
result is NULL.

`ceil`, `ceiling`, `floor` and `trunc` keep an integer as it is. `ln` is the natural logarithm;
`log` of one argument, `log10` and `log2` divide it by the logarithm of the base, and `log(B, X)`
divides the logarithm of `X` by that of `B`; each is NULL unless its argument is positive, and
`log(B, X)` also unless the logarithm of `B` is. `mod` is the remainder of the division truncated
toward zero, computed exactly. `degrees` and `radians` multiply by the ratio of 180 to π and its
inverse, each rounded once to binary64; `sign` is -1, 0 or 1 by the sign of a number.
-/

namespace SheetExport.Store.Sql

namespace Mathematics

/-- The number an argument stands for, with text that reads wholly as a numeral read as that
number; none for anything else. -/
def numberOf : Value → Option Value
  | .integer n => some (.integer n)
  | .real x => some (.real x)
  | .text bytes =>
    match Value.numericOfText false bytes with
    | .text _ => none
    | number => some number
  | _ => none

/-- A number as a machine float. -/
def floatOf (number : Value) : Float := number.realValue.toFloat

/-- A result as a stored value: NULL for NaN. -/
def result (x : Float) : Value :=
  match Binary64.ofFloat x with
  | .nan => .null
  | r => .real r

/-- A binary64 constant as a machine float. -/
def constant (digits : Nat) (exponent : Int) : Float := (Binary64.ofDecimal false digits exponent).toFloat

/-- π rounded to binary64. -/
def pi : Binary64 := Binary64.ofDecimal false 3141592653589793 (-15)

/-- A function of one number. -/
def unary (f : Float → Float) (argument : Value) : Value :=
  match numberOf argument with
  | some number => result (f (floatOf number))
  | none => .null

/-- A function of two numbers. -/
def binary (f : Float → Float → Float) (first second : Value) : Value :=
  match numberOf first, numberOf second with
  | some x, some y => result (f (floatOf x) (floatOf y))
  | _, _ => .null

/-- A rounding function: an integer is kept, a real is rounded. -/
def rounding (f : Float → Float) (argument : Value) : Value :=
  match numberOf argument with
  | some (.integer n) => .integer n
  | some number => result (f (floatOf number))
  | none => .null

/-- Rounds toward zero, keeping the sign of a zero. -/
def truncate (x : Float) : Float := if x < 0 then x.ceil else x.floor

/-- The logarithm of a positive number, divided by `divisor` when one is given. -/
def logarithm (divisor : Option Float) (argument : Value) : Value :=
  match numberOf argument with
  | some number =>
    let x := floatOf number
    if x ≤ 0 then .null
    else
      match divisor with
      | some d => result (x.log / d)
      | none => result x.log
  | none => .null

/-- `log(B, X)`: the logarithm of `X` to the base `B`. `X` is read as a real whatever it is. -/
def logarithmTo (base value : Value) : Value :=
  match numberOf base with
  | some number =>
    let b := floatOf number
    if b ≤ 0 then .null
    else
      let lb := b.log
      if lb ≤ 0 then .null
      else
        let x := value.realValue.toFloat
        if x ≤ 0 then .null else result (x.log / lb)
  | none => .null

/-- The remainder of `x` divided by `y`, truncating the quotient toward zero: exact, with the sign
of `x`; NaN when `x` is infinite or `y` is zero, and `x` when `y` is infinite. -/
def remainder : Binary64 → Binary64 → Binary64
  | .finite negative mx ex, .finite _ my ey =>
    if my = 0 then .nan
    else
      let e := min ex ey
      let r := (mx * Nat.pow 2 (ex - e).toNat) % (my * Nat.pow 2 (ey - e).toNat)
      if r = 0 then .finite negative 0 0 else Binary64.canonical negative r e
  | .finite negative mx ex, .infinity _ => .finite negative mx ex
  | _, _ => .nan

/-- `mod`: the remainder of two numbers. -/
def modulo (first second : Value) : Value :=
  match numberOf first, numberOf second with
  | some x, some y =>
    match remainder x.realValue y.realValue with
    | .nan => .null
    | r => .real r
  | _, _ => .null

/-- `sign`: -1, 0 or 1. -/
def sign (argument : Value) : Value :=
  match numberOf argument with
  | some number =>
    match number.realValue.compareInt 0 with
    | some .lt => .integer (-1)
    | some .gt => .integer 1
    | _ => .integer 0
  | none => .null

/-- A mathematical function by its name in lower case, with its arguments; none when the name is
not one. -/
def call (name : String) (arguments : List Value) : Option Value :=
  match name, arguments with
  | "acos", [x] => some (unary Float.acos x)
  | "acosh", [x] => some (unary Float.acosh x)
  | "asin", [x] => some (unary Float.asin x)
  | "asinh", [x] => some (unary Float.asinh x)
  | "atan", [x] => some (unary Float.atan x)
  | "atanh", [x] => some (unary Float.atanh x)
  | "cos", [x] => some (unary Float.cos x)
  | "cosh", [x] => some (unary Float.cosh x)
  | "sin", [x] => some (unary Float.sin x)
  | "sinh", [x] => some (unary Float.sinh x)
  | "tan", [x] => some (unary Float.tan x)
  | "tanh", [x] => some (unary Float.tanh x)
  | "exp", [x] => some (unary Float.exp x)
  | "sqrt", [x] => some (unary Float.sqrt x)
  | "degrees", [x] => some (unary (· * constant 5729577951308232 (-14)) x)
  | "radians", [x] => some (unary (· * constant 17453292519943295 (-18)) x)
  | "atan2", [y, x] => some (binary Float.atan2 y x)
  | "pow", [x, y] | "power", [x, y] => some (binary Float.pow x y)
  | "mod", [x, y] => some (modulo x y)
  | "ceil", [x] | "ceiling", [x] => some (rounding Float.ceil x)
  | "floor", [x] => some (rounding Float.floor x)
  | "trunc", [x] => some (rounding truncate x)
  | "ln", [x] => some (logarithm none x)
  | "log", [x] | "log10", [x] => some (logarithm (some (constant 2302585092994046 (-15))) x)
  | "log2", [x] => some (logarithm (some (constant 6931471805599453 (-16))) x)
  | "log", [b, x] => some (logarithmTo b x)
  | "pi", [] => some (.real pi)
  | "sign", [x] => some (sign x)
  | _, _ => none

end Mathematics

end SheetExport.Store.Sql
