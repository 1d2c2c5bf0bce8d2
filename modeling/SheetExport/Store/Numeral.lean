import SheetExport.Number.Extended
import SheetExport.Number.Arithmetic

/-!
# Numerals of the store

The store reads and writes numbers in its own way, and these are the rules a test can see.

*Writing a real* gives fifteen significant digits. The digits come from scaling the value into
`[1, 10)` by powers of ten and peeling one digit at a time, all in extended precision, after a
rounding term has been added (the binary64 product of `5·10^-5` and `10^-10`); so a value that lies exactly halfway between two
fifteen-digit numerals may go either way, as the extended arithmetic decides. The numeral is
positional for decimal exponents from `-4` to `14` and otherwise has an exponent of at least two
digits; trailing zeros of the fraction are dropped, but a point always has a digit after it, so
the text reads back as a real: `1.0e+20`, `0.3`, `-753738357004287.0`.

*Reading a real* takes blanks, a sign, digits, a fraction and an exponent. Significant digits
are gathered into a 64-bit word until it reaches `(2^63 - 10) / 10`; later digits of the whole
part only move the point, later fraction digits are dropped. The gathered integer is then scaled
by the power of ten in extended precision and rounded to binary64. A reading also tells how much
of the text is a numeral: all of it as an integer, all of it with a point or an exponent, only a
leading part that has a point or an exponent, or none of it.

*Reading an integer* takes blanks, a sign and digits, and tells whether the digits fit in 64
bits and whether text follows them.
-/

namespace SheetExport.Store

/-- The blanks the store skips around a numeral. -/
def isSpace (c : Char) : Bool :=
  c == ' ' || c == '\t' || c == '\n' || c == '\x0B' || c == '\x0C' || c == '\r'

/-- The greatest integer of the store, `2^63 - 1`. -/
def largestInteger : Nat := 9223372036854775807

namespace RealText

/-- A decimal constant as it is written in the source of the conversion: the binary64 number
nearest to `digits · 10^exponent`, read as an extended number. -/
def constant (digits : Nat) (exponent : Int) : Extended :=
  Extended.ofBinary64 (Binary64.ofDecimal false digits exponent)

/-- Multiplies the scale by `factor` and adds `step` to the decimal exponent while the value is at
least `factor` times the scale and the exponent is at most 350. -/
def growScale (value factor : Extended) (step : Int) :
    Nat → Extended × Int → Extended × Int
  | 0, state => state
  | fuel + 1, (scale, exponent) =>
    if !(value.lt (factor.mul scale)) && exponent ≤ 350 then
      growScale value factor step fuel (scale.mul factor, exponent + step)
    else (scale, exponent)

/-- Multiplies the value by `factor` and subtracts `step` from the decimal exponent while the
value is below `bound`. -/
def raise (factor bound : Extended) (step : Int) : Nat → Extended × Int → Extended × Int
  | 0, state => state
  | fuel + 1, (value, exponent) =>
    if value.lt bound then raise factor bound step fuel (value.mul factor, exponent - step)
    else (value, exponent)

/-- The next `count` digits of a value in `[0, 10)`: each is the integer part, and the rest is
multiplied by ten for the next. -/
def peel : Nat → Extended → List Char
  | 0, _ => []
  | count + 1, value =>
    let digit := value.floor
    Char.ofNat (48 + digit) :: peel count ((value.sub (Extended.ofNat digit)).mul (Extended.ofNat 10))

/-- Drops the trailing zeros of a fraction, keeping one digit after the point. -/
def trimFraction (chars : List Char) : List Char :=
  let trimmed := (chars.reverse.dropWhile (· == '0')).reverse
  if trimmed.getLast? == some '.' then trimmed ++ ['0'] else trimmed

/-- The exponent suffix: `e`, a sign, and at least two digits. -/
def exponentSuffix (exponent : Int) : String :=
  let magnitude := exponent.natAbs
  "e" ++ (if exponent < 0 then "-" else "+") ++ (if magnitude < 10 then "0" else "") ++
    Nat.repr magnitude

/-- The digits of a positive magnitude, already scaled into `[1, 10)` with its decimal exponent,
as a numeral of fifteen significant digits. -/
def layout (value : Extended) (exponent : Int) : String :=
  if exponent < -4 || 14 < exponent then
    let digits := peel 15 value
    String.ofList (trimFraction (digits.take 1 ++ ['.'] ++ digits.drop 1)) ++
      exponentSuffix exponent
  else if exponent < 0 then
    let digits := peel 15 value
    String.ofList (trimFraction (['0', '.'] ++ List.replicate ((-exponent).toNat - 1) '0' ++ digits))
  else
    let digits := peel 15 value
    let whole := exponent.toNat + 1
    String.ofList (trimFraction (digits.take whole ++ ['.'] ++ digits.drop whole))

/-- The rounding term for a number of digits after the first: `5·10^-(index+1)` for the last
decimal digit of the index (taken modulo 4096), times `10^-10` for each ten, in binary64. -/
def rounder (precision : Nat) : Binary64 :=
  let index := precision % 4096
  let first := Binary64.ofDecimal false 5 (-(((index % 10) + 1 : Nat) : Int))
  (List.replicate (index / 10) ()).foldl
    (fun r _ => Binary64.mul r (Binary64.ofDecimal false 1 (-10))) first

/-- The numeral of a nonnegative extended magnitude. -/
def ofMagnitude (magnitude : Extended) : String :=
  let rounder := Extended.ofBinary64 (rounder 14)
  let (value, exponent) :=
    if magnitude.significand = 0 then (magnitude, (0 : Int))
    else
      let (scale, exponent) := growScale magnitude (constant 1 100) 100 8 (Extended.ofNat 1, 0)
      let (scale, exponent) := growScale magnitude (constant 1 10) 10 40 (scale, exponent)
      let (scale, exponent) := growScale magnitude (Extended.ofNat 10) 1 400 (scale, exponent)
      let value := magnitude.div scale
      let (value, exponent) := raise (constant 1 8) (constant 1 (-8)) 8 60 (value, exponent)
      raise (Extended.ofNat 10) (Extended.ofNat 1) 1 20 (value, exponent)
  let value := value.add rounder
  let (value, exponent) :=
    if value.lt (Extended.ofNat 10) then (value, exponent)
    else (value.mul (constant 1 (-1)), exponent + 1)
  layout value exponent

end RealText

/-- The text of a real as the store writes it: fifteen significant digits, `Inf` for the
infinities. -/
def realText : Binary64 → String
  | .finite negative significand exponent =>
    (if negative && significand != 0 then "-" else "") ++
      RealText.ofMagnitude ⟨significand, exponent⟩
  | .infinity negative => if negative then "-Inf" else "Inf"
  | .nan => "NaN"

/-- How much of a text reads as a numeral. -/
inductive Fit where
  /-- All of it, as an integer numeral. -/
  | integer
  /-- All of it, as a numeral with a point or an exponent. -/
  | real
  /-- A leading part with a point or an exponent; other text follows. -/
  | leading
  /-- None of it. -/
  | none
  deriving DecidableEq, Repr

/-- The value a text reads as, and how much of it is a numeral. -/
structure RealReading where
  value : Binary64
  fit : Fit
  deriving Repr

namespace RealReading

/-- The bound past which no more significant digits are gathered, `(2^63 - 10) / 10`. -/
def gatherBound : Nat := (largestInteger - 9) / 10

/-- The leading digits of a text and the rest. -/
def takeDigits (chars : List Char) : List Char × List Char :=
  (chars.takeWhile Char.isDigit, chars.dropWhile Char.isDigit)

/-- The value of a digit character. -/
def digitOf (c : Char) : Nat := c.toNat - 48

/-- Gathers the digits of a whole part: the significand, then how many digits past the bound only
move the point, and how many digits were gathered. -/
def gatherWhole (significand : Nat) (counted : Nat) : List Char → Nat × Nat × Nat
  | [] => (significand, 0, counted)
  | c :: rest =>
    let next := significand * 10 + digitOf c
    if gatherBound ≤ next then (next, rest.length, counted + 1)
    else gatherWhole next (counted + 1) rest

/-- Gathers fraction digits while the significand is below the bound: the significand and how
many digits were gathered. -/
def gatherFraction (significand counted : Nat) : List Char → Nat × Nat
  | [] => (significand, counted)
  | c :: rest =>
    if significand < gatherBound then gatherFraction (significand * 10 + digitOf c) (counted + 1) rest
    else gatherFraction significand counted rest

/-- The value of exponent digits, held at 10000 once it passes it. -/
def exponentValue (digits : List Char) : Nat :=
  digits.foldl (fun value c => if value < 10000 then value * 10 + digitOf c else 10000) 0

/-- Moves powers of ten from the exponent into the significand while that stays exact: up while
the significand is below `(2^63 - 1) / 10`, down while it ends in a zero. -/
def reduce (significand : Nat) (up : Bool) : Nat → Nat × Nat
  | 0 => (significand, 0)
  | e + 1 =>
    if up then
      if largestInteger / 10 ≤ significand then (significand, e + 1)
      else reduce (significand * 10) up e
    else
      if significand % 10 != 0 then (significand, e + 1)
      else reduce (significand / 10) up e

/-- `10^count` in extended precision, built by repeated multiplication by ten. -/
def tens : Nat → Extended
  | 0 => Extended.ofNat 1
  | count + 1 => (tens count).mul (Extended.ofNat 10)

/-- `10^count` in extended precision for a multiple of 22, built from `10^22`. -/
def bigTens : Nat → Extended → Extended
  | 0, scale => scale
  | count + 1, scale => bigTens count (scale.mul (Extended.ofNat (Nat.pow 10 22)))

/-- The binary64 quotient of a binary64 number by a positive finite one, rounded once. -/
def divideBy (x y : Binary64) : Binary64 :=
  match x with
  | .finite negative significand _ =>
    if significand = 0 then x
    else
      let (a, b) := (Extended.ofBinary64 x).toRatio
      let (c, d) := (Extended.ofBinary64 y).toRatio
      Binary64.nearest negative (a * d) (b * c)
  | other => other

/-- The binary64 product of a binary64 number by a positive finite one, rounded once. -/
def multiplyBy (x y : Binary64) : Binary64 :=
  match x with
  | .finite negative significand _ =>
    if significand = 0 then x
    else
      let (a, b) := (Extended.ofBinary64 x).toRatio
      let (c, d) := (Extended.ofBinary64 y).toRatio
      Binary64.nearest negative (a * c) (b * d)
  | other => other

/-- The binary64 value of `±significand · 10^(±exponent)` as the store computes it. -/
def scaled (negative : Bool) (significand : Nat) (down : Bool) (exponent : Nat) : Binary64 :=
  if significand = 0 then .finite negative 0 0
  else
    let (significand, exponent) := reduce significand (!down) exponent
    let magnitude := Extended.ofNat significand
    if exponent = 0 then Binary64.ofInt (if negative then -(significand : Int) else significand)
    else if 307 < exponent then
      if exponent < 342 then
        let scale := tens (exponent - 308)
        let limit := Binary64.ofDecimal false 1 308
        if down then divideBy (Extended.toBinary64 negative (magnitude.div scale)) limit
        else multiplyBy (Extended.toBinary64 negative (magnitude.mul scale)) limit
      else if down then .finite negative 0 0
      else .infinity negative
    else
      let scale := bigTens (exponent / 22) (tens (exponent % 22))
      if down then Extended.toBinary64 negative (magnitude.div scale)
      else Extended.toBinary64 negative (magnitude.mul scale)

end RealReading

open RealReading in
/-- Reads a text as a real, as the store does. -/
def readReal (text : List Char) : RealReading :=
  let chars := text.dropWhile isSpace
  if chars.isEmpty then ⟨.finite false 0 0, .none⟩
  else
    let (negative, chars) :=
      match chars with
      | '-' :: rest => (true, rest)
      | '+' :: rest => (false, rest)
      | _ => (false, chars)
    let (whole, chars) := takeDigits chars
    let (significand, shift, counted) := gatherWhole 0 0 whole
    let (fraction, hasPoint, chars) :=
      match chars with
      | '.' :: rest => let (digits, rest) := takeDigits rest; (digits, true, rest)
      | _ => ([], false, chars)
    let (significand, fractionCounted) := gatherFraction significand 0 fraction
    let (exponent, hasMark, exponentValid, chars) :=
      match chars with
      | c :: rest =>
        if c == 'e' || c == 'E' then
          let (expNegative, rest) :=
            match rest with
            | '-' :: more => (true, more)
            | '+' :: more => (false, more)
            | _ => (false, rest)
          let (digits, rest) := takeDigits rest
          let value : Int := exponentValue digits
          ((if expNegative then -value else value), true, !digits.isEmpty, rest)
        else ((0 : Int), false, true, chars)
      | [] => (0, false, true, chars)
    let chars := chars.dropWhile isSpace
    let total : Int := exponent + shift - fractionCounted
    let value := scaled negative significand (total < 0) total.natAbs
    let digits := counted + fractionCounted
    let kind : Nat := 1 + (if hasPoint then 1 else 0) + (if hasMark then 1 else 0)
    let fit :=
      if chars.isEmpty && 0 < digits && exponentValid then
        if kind == 1 then Fit.integer else Fit.real
      else if 2 ≤ kind && (kind == 3 || exponentValid) && 0 < digits then Fit.leading
      else Fit.none
    ⟨value, fit⟩

/-- How reading a text as a 64-bit integer ends. -/
inductive IntegerFit where
  /-- The text has no digits. -/
  | noDigits
  /-- The digits fit, and only blanks follow them. -/
  | exact
  /-- The digits fit, and other text follows them. -/
  | trailing
  /-- The digits do not fit in 64 bits. -/
  | overflow
  /-- The digits are exactly `2^63`, without a minus sign. -/
  | boundary
  deriving DecidableEq, Repr

/-- Reads a text as a 64-bit integer: the value, held at the nearest bound when the digits do not
fit, and how the reading ends. -/
def readInteger64 (text : List Char) : Int × IntegerFit :=
  let chars := text.dropWhile isSpace
  let (negative, chars) :=
    match chars with
    | '-' :: rest => (true, rest)
    | '+' :: rest => (false, rest)
    | _ => (false, chars)
  let hadZeros := chars.head? == some '0'
  let chars := chars.dropWhile (· == '0')
  let digits := chars.takeWhile Char.isDigit
  let rest := chars.dropWhile Char.isDigit
  let magnitude := digits.foldl (fun value c => value * 10 + RealReading.digitOf c) 0
  let status : IntegerFit :=
    if digits.isEmpty && !hadZeros then .noDigits
    else if rest.all isSpace then .exact else .trailing
  if magnitude ≤ largestInteger then
    (if negative then -(magnitude : Int) else magnitude, status)
  else if magnitude == largestInteger + 1 && negative then (-(magnitude : Int), status)
  else
    let clamped : Int := if negative then -(largestInteger : Int) - 1 else largestInteger
    if magnitude == largestInteger + 1 then (clamped, .boundary) else (clamped, .overflow)

end SheetExport.Store
