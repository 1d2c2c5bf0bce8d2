import SheetExport.Store.Value
import SheetExport.Store.Error
import SheetExport.Number.Arithmetic

/-!
# Formatting values

`printf(format, …)`, also called `format`, writes its arguments into a format text. The format
is read as bytes: literal runs, and directives `%[flags][width][.precision][l[l]]conversion`.

* The flags are `-` (justify left), `+` and a space (the sign of a nonnegative number), `#` (the
  alternate form), `!` (count characters rather than bytes; sixteen more digits for reals), `0`
  (pad with zeros) and `,` (group thousands). They may come in any order and number.
* The width is a number starting with a nonzero digit, or `*` to take it from the next argument,
  where a negative width justifies left. The precision after `.` is a number (none is zero) or
  `*`, where a negative precision counts as its magnitude.
* The conversions are `d` `i` (signed decimal), `u` (unsigned decimal), `r` (ordinal), `o` `x`
  `X` `p` (octal and hexadecimal), `f` `e` `E` `g` `G` (reals), `s` `z` (text), `c` (one
  character, repeated `precision` times), `q` `Q` `w` (text with quotes doubled, `Q` also
  enclosing it), `n` (nothing) and `%`. Any other character ends the whole output there.

Arguments are read in order, `*` ones first; a missing one counts as NULL. Numbers are read as
the store reads them, text is cut at its first NUL. Widths and precisions count bytes, except
under `!` and for `c`. A real is written by the store's decimal procedure (`Store.Numeral`): the
rounding term `5·10^-(precision+1)` is added (for `f` first, with a small correction, then the
value is scaled into `[1, 10)`; otherwise after scaling), and digits are peeled in extended
precision, at most sixteen of them (twenty-six under `!`), zeros after that.
-/

namespace SheetExport.Store.Sql

namespace Format

/-- How a real is laid out: positional, with an exponent, or whichever suits its size. -/
inductive RealStyle where
  | fixed
  | scientific
  | general
  deriving DecidableEq, Repr

/-- What a directive writes. -/
inductive Conversion where
  /-- A decimal integer; `signed` reads the argument as signed, otherwise as 64 unsigned bits. -/
  | decimal (signed : Bool)
  /-- A signed decimal with its English ordinal suffix. -/
  | ordinal
  /-- An unsigned integer in base 8 or 16, with its alternate prefix as written. -/
  | radix (base : Nat) (upper : Bool) (alternatePrefix : List UInt8)
  /-- A real. -/
  | real (style : RealStyle) (upper : Bool)
  /-- Text. -/
  | text
  /-- The first character of a text. -/
  | character
  /-- Text with each quote character doubled, enclosed in quotes when `enclosed`. -/
  | escaped (quote : UInt8) (enclosed : Bool)
  /-- Nothing at all. -/
  | size
  /-- A percent sign. -/
  | percent
  deriving DecidableEq, Repr

/-- A width or a precision: given in the format, or taken from the next argument. -/
inductive Count where
  | given (n : Nat)
  | argument
  deriving DecidableEq, Repr

/-- The flags of a directive. -/
structure Flags where
  leftJustify : Bool
  /-- The sign written before a nonnegative number: `+`, a space, or none. -/
  sign : Option UInt8
  alternate : Bool
  /-- The `!` flag. -/
  characters : Bool
  zeroPad : Bool
  grouped : Bool
  deriving DecidableEq, Repr

/-- No flags. -/
def Flags.none : Flags := ⟨false, Option.none, false, false, false, false⟩

/-- A directive of a format. -/
structure Directive where
  flags : Flags
  width : Option Count
  precision : Option Count
  conversion : Conversion
  deriving DecidableEq, Repr

/-- A piece of a format: literal bytes, a directive, or the point where output stops. -/
inductive Piece where
  | literal (bytes : List UInt8)
  | directive (directive : Directive)
  | halt
  deriving DecidableEq, Repr

/-- The byte of an ASCII character. -/
def byte (c : Char) : UInt8 := c.toNat.toUInt8

/-- Whether a byte is an ASCII digit. -/
def isDigitByte (b : UInt8) : Bool := 48 ≤ b && b ≤ 57

/-- Reads the flags at the start of a directive. -/
def readFlags (flags : Flags) : List UInt8 → Flags × List UInt8
  | [] => (flags, [])
  | b :: rest =>
    if b == byte '-' then readFlags { flags with leftJustify := true } rest
    else if b == byte '+' then readFlags { flags with sign := some b } rest
    else if b == byte ' ' then readFlags { flags with sign := some b } rest
    else if b == byte '#' then readFlags { flags with alternate := true } rest
    else if b == byte '!' then readFlags { flags with characters := true } rest
    else if b == byte '0' then readFlags { flags with zeroPad := true } rest
    else if b == byte ',' then readFlags { flags with grouped := true } rest
    else (flags, b :: rest)

/-- Reads a run of digits as a number kept in 32 unsigned bits, then cleared of its top bit. -/
def readNumber (bytes : List UInt8) : Nat × List UInt8 :=
  let digits := bytes.takeWhile isDigitByte
  let value := digits.foldl (fun n b => (n * 10 + (b.toNat - 48)) % 4294967296) 0
  (value % 2147483648, bytes.drop digits.length)

/-- The conversion a character names; none for a character that ends the output. -/
def conversionOf (b : UInt8) : Option Conversion :=
  let c := Char.ofNat b.toNat
  match c with
  | 'd' | 'i' => some (.decimal true)
  | 'u' => some (.decimal false)
  | 'r' => some .ordinal
  | 'o' => some (.radix 8 false [byte '0'])
  | 'x' => some (.radix 16 false [byte '0', byte 'x'])
  | 'X' => some (.radix 16 true [byte '0', byte 'X'])
  | 'p' => some (.radix 16 true [byte '0', byte 'x'])
  | 'f' => some (.real .fixed false)
  | 'e' => some (.real .scientific false)
  | 'E' => some (.real .scientific true)
  | 'g' => some (.real .general false)
  | 'G' => some (.real .general true)
  | 's' | 'z' => some .text
  | 'c' => some .character
  | 'q' => some (.escaped (byte '\'') false)
  | 'Q' => some (.escaped (byte '\'') true)
  | 'w' => some (.escaped (byte '"') false)
  | 'n' => some .size
  | '%' => some .percent
  | _ => none

/-- Reads a directive after its `%`: the piece, and the bytes after it. -/
def readDirective (bytes : List UInt8) : Piece × List UInt8 :=
  let (flags, rest) := readFlags Flags.none bytes
  let (width, rest) : Option Count × List UInt8 := match rest with
    | b :: more =>
      if b == byte '*' then (some .argument, more)
      else if 49 ≤ b && b ≤ 57 then
        let (n, after) := readNumber (b :: more)
        (some (.given n), after)
      else (none, rest)
    | [] => (none, [])
  let (precision, rest) : Option Count × List UInt8 := match rest with
    | b :: more =>
      if b == byte '.' then
        match more with
        | c :: after => if c == byte '*' then (some .argument, after)
          else
            let (n, after) := readNumber more
            (some (.given n), after)
        | [] => (some (.given 0), [])
      else (none, rest)
    | [] => (none, [])
  let rest := match rest with
    | b :: more =>
      if b == byte 'l' then
        match more with
        | c :: after => if c == byte 'l' then after else more
        | [] => []
      else rest
    | [] => []
  match rest with
  | b :: after =>
    match conversionOf b with
    | some conversion => (.directive ⟨flags, width, precision, conversion⟩, after)
    | none => (.halt, [])
  | [] => (.halt, [])

/-- Reads a format into pieces; output stops at the first `halt`. A `%` that ends the format is
written as it is. -/
def readPieces : Nat → List UInt8 → List Piece
  | 0, _ => []
  | _, [] => []
  | fuel + 1, b :: rest =>
    if b == byte '%' then
      match rest with
      | [] => [.literal [b]]
      | _ =>
        match readDirective rest with
        | (.halt, _) => [.halt]
        | (piece, after) => piece :: readPieces fuel after
    else
      let run := (b :: rest).takeWhile (· != byte '%')
      .literal run :: readPieces fuel ((b :: rest).drop run.length)

/-- The pieces of a format text, cut at its first NUL. -/
def pieces (format : List UInt8) : List Piece :=
  let format := format.takeWhile (· != 0)
  readPieces (format.length + 1) format

/-- The bytes a value gives as a text argument: none for NULL, otherwise its text cut at the
first NUL. -/
def textBytes : Value → Option (List UInt8)
  | .null => none
  | value => some (value.textBytes.takeWhile (· != 0))

/-- An integer read as a C `int`: its low 32 bits, signed. -/
def int32 (n : Int) : Int :=
  let low := n % 4294967296
  if 2147483648 ≤ low then low - 4294967296 else low

/-- A number of space bytes. -/
def spaces (count : Nat) : List UInt8 := List.replicate count (byte ' ')

/-- A body padded with spaces to a width, on the right when justifying left. -/
def pad (leftJustify : Bool) (width : Nat) (body : List UInt8) : List UInt8 :=
  if body.length < width then
    if leftJustify then body ++ spaces (width - body.length) else spaces (width - body.length) ++ body
  else body

/-- Whether a byte continues a UTF-8 sequence. -/
def isContinuation (b : UInt8) : Bool := b &&& 0xC0 == 0x80

/-- The number of continuation bytes, so that a width in characters can be met in bytes. -/
def continuations (bytes : List UInt8) : Nat := (bytes.filter isContinuation).length

/-- The digits of a natural number in a base, most significant first, at least one. -/
def digitsIn (base : Nat) (upper : Bool) (n : Nat) : List UInt8 :=
  let digit (d : Nat) : UInt8 :=
    if d < 10 then (48 + d).toUInt8 else ((if upper then 55 else 87) + d).toUInt8
  if base < 2 then [digit n]
  else
    let rec go (fuel n : Nat) (acc : List UInt8) : List UInt8 :=
      match fuel with
      | 0 => acc
      | fuel + 1 => if n < base then digit n :: acc else go fuel (n / base) (digit (n % base) :: acc)
    go (n + 1) n []

/-- Digits with a comma before each group of three from the right. -/
def groupThousands (digits : List UInt8) : List UInt8 :=
  let reversed := digits.reverse
  let rec go : Nat → List UInt8 → List UInt8
    | _, [] => []
    | count, d :: rest =>
      if count == 3 then byte ',' :: d :: go 1 rest else d :: go (count + 1) rest
  (go 0 reversed).reverse

/-- The English ordinal suffix of a number. -/
def ordinalSuffix (n : Nat) : List UInt8 :=
  let last := n % 10
  let suffix := if 4 ≤ last || (n / 10) % 10 == 1 then "th"
    else if last == 1 then "st" else if last == 2 then "nd" else if last == 3 then "rd" else "th"
  suffix.toList.map byte

/-- An integer directive: the sign (or the flag's), the digits zero-padded to the precision (or
to the width under `0`), grouped under `,`, and the alternate prefix under `#` for a nonzero
value. -/
def integerBody (flags : Flags) (width : Nat) (precision : Option Nat) (conversion : Conversion)
    (argument : Value) : List UInt8 :=
  let v := argument.integerValue
  let (magnitude, sign) : Nat × Option UInt8 := match conversion with
    | .decimal false | .radix .. => ((v % 18446744073709551616).toNat, none)
    | _ => if v < 0 then (v.natAbs, some (byte '-')) else (v.toNat, flags.sign)
  let alternate := flags.alternate && magnitude != 0
  let signWidth := if sign.isSome then 1 else 0
  let precision : Int := match precision with
    | some p => p
    | none => -1
  let precision : Int :=
    if flags.zeroPad && precision < (width : Int) - signWidth then (width : Int) - signWidth
    else precision
  let (base, upper, alternatePrefix, grouped) := match conversion with
    | .radix base upper alternatePrefix => (base, upper, alternatePrefix, false)
    | .ordinal => (10, false, [], false)
    | _ => (10, false, [], flags.grouped)
  let body := digitsIn base upper magnitude ++
    (if conversion == .ordinal then ordinalSuffix magnitude else [])
  let body := List.replicate (precision.toNat - body.length) (byte '0') ++ body
  let body := if grouped then groupThousands body else body
  let body := sign.toList ++ body
  if alternate then alternatePrefix ++ body else body

section Reals

open RealText

/-- The binary exponent of a finite binary64 magnitude as its bits store it: `-1023` for zero and
the subnormal numbers. -/
def storedExponent : Binary64 → Int
  | .finite _ significand exponent =>
    if significand = 0 then -1023
    else
      let (numerator, denominator) :=
        if 0 ≤ exponent then (significand * Nat.pow 2 exponent.toNat, 1)
        else (significand, Nat.pow 2 (-exponent).toNat)
      let e := Binary64.floorLogTwo numerator denominator
      if e < -1022 then -1023 else e
  | _ => 1024

/-- Takes `count` digits from a value in `[0, 10)`: each is the integer part, and the rest is
multiplied by ten; once `left` digits have been taken, every further digit is `0`. -/
def takeDigits : Nat → Extended × Nat → List UInt8 × (Extended × Nat)
  | 0, state => ([], state)
  | count + 1, (value, left) =>
    let (digit, next) : UInt8 × (Extended × Nat) :=
      if left = 0 then (byte '0', (value, 0))
      else
        let d := value.floor
        ((48 + d).toUInt8, ((value.sub (Extended.ofNat d)).mul (Extended.ofNat 10), left - 1))
    let (rest, final) := takeDigits count next
    (digit :: rest, final)

/-- Scales a positive value into `[1, 10)`, with the decimal exponent it took. -/
def normalize (value : Extended) : Extended × Int :=
  let (scale, exponent) := growScale value (constant 1 100) 100 8 (Extended.ofNat 1, 0)
  let (scale, exponent) := growScale value (constant 1 10) 10 40 (scale, exponent)
  let (scale, exponent) := growScale value (Extended.ofNat 10) 1 400 (scale, exponent)
  let value := value.div scale
  let (value, exponent) := raise (constant 1 8) (constant 1 (-8)) 8 60 (value, exponent)
  raise (Extended.ofNat 10) (Extended.ofNat 1) 1 20 (value, exponent)

/-- Drops trailing zeros, then a point left last, or keeps a `0` after it under `!`. -/
def trimZeros (characters : Bool) (body : List UInt8) : List UInt8 :=
  let trimmed := (body.reverse.dropWhile (· == byte '0')).reverse
  if trimmed.getLast? == some (byte '.') then
    if characters then trimmed ++ [byte '0'] else trimmed.dropLast
  else trimmed

/-- The exponent suffix: the letter, a sign, and two or three digits. -/
def exponentPart (upper : Bool) (exponent : Int) : List UInt8 :=
  let magnitude := exponent.natAbs
  let sign := if exponent < 0 then byte '-' else byte '+'
  let hundreds := if 100 ≤ magnitude then [(48 + magnitude / 100).toUInt8] else []
  let rest := magnitude % 100
  [byte (if upper then 'E' else 'e'), sign] ++ hundreds ++
    [(48 + rest / 10).toUInt8, (48 + rest % 10).toUInt8]

/-- The text of a real under a directive, before padding to the width with spaces. -/
def realBody (flags : Flags) (width : Nat) (precision : Option Nat) (style : RealStyle)
    (upper : Bool) (x : Binary64) : List UInt8 :=
  let precision := min (precision.getD 6) 100000000
  let negative := x.isNegative && !x.isZero && !x.isNaN
  let sign : Option UInt8 := if negative then some (byte '-') else flags.sign
  match x with
  | .nan => "NaN".toList.map byte
  | .infinity _ => sign.toList ++ "Inf".toList.map byte
  | .finite _ significand exponent =>
    let precision := if style == .general && 0 < precision then precision - 1 else precision
    let round := rounder precision
    let value : Extended := ⟨significand, exponent⟩
    let value :=
      if style == .fixed then
        let round :=
          if (precision : Int) + (storedExponent x).tdiv 3 < 15 then
            Extended.toBinary64 false
              ((Extended.ofBinary64 round).add (value.mul (constant 3 (-16))))
          else round
        value.add (Extended.ofBinary64 round)
      else value
    let (value, decimalExponent) :=
      if value.significand = 0 then (value, (0 : Int)) else normalize value
    let (value, decimalExponent) :=
      if style == .fixed then (value, decimalExponent)
      else
        let value := value.add (Extended.ofBinary64 round)
        if value.lt (Extended.ofNat 10) then (value, decimalExponent)
        else (value.mul (constant 1 (-1)), decimalExponent + 1)
    let (scientific, precision, trim) : Bool × Nat × Bool := match style with
      | .general =>
        if decimalExponent < -4 || (precision : Int) < decimalExponent then
          (true, precision, !flags.alternate)
        else (false, (precision - decimalExponent).toNat, !flags.alternate)
      | .scientific => (true, precision, flags.characters)
      | .fixed => (false, precision, flags.characters)
    let wholeExponent : Int := if scientific then 0 else decimalExponent
    let point := 0 < precision || flags.alternate || flags.characters
    let state := (value, if flags.characters then 26 else 16)
    let (whole, state) :=
      if wholeExponent < 0 then ([byte '0'], state) else takeDigits (wholeExponent.toNat + 1) state
    let leading := if wholeExponent < 0 then (-wholeExponent - 1).toNat else 0
    let (fraction, _) := takeDigits (precision - leading) state
    let body := whole ++ (if point then [byte '.'] else []) ++
      List.replicate leading (byte '0') ++ fraction
    let body := if trim && point then trimZeros flags.characters body else body
    let body := body ++ (if scientific then exponentPart upper decimalExponent else [])
    let body := sign.toList ++ body
    if flags.zeroPad && !flags.leftJustify && body.length < width then
      sign.toList ++ List.replicate (width - body.length) (byte '0') ++ body.drop sign.toList.length
    else body

end Reals

/-- Cuts text to a precision: that many bytes, or that many characters under `!`. -/
def cutText (characters : Bool) (precision : Option Nat) (bytes : List UInt8) : List UInt8 :=
  match precision with
  | none => bytes
  | some p =>
    if characters then
      let rec go : Nat → List UInt8 → List UInt8
        | 0, _ => []
        | _, [] => []
        | count + 1, b :: rest =>
          if 0xC0 ≤ b then
            let tail := rest.takeWhile isContinuation
            b :: tail ++ go count (rest.drop tail.length)
          else b :: go count rest
      go p bytes
    else bytes.take p

/-- The bytes of text with each quote doubled, cut to a precision first (in characters under
`!`); NULL is written `NULL` by `Q` and `(NULL)` otherwise, and only non-NULL text is enclosed. -/
def escapedBody (flags : Flags) (precision : Option Nat) (quote : UInt8) (enclosed : Bool)
    (argument : Option (List UInt8)) : List UInt8 :=
  let text := argument.getD ((if enclosed then "NULL" else "(NULL)").toList.map byte)
  let cut := cutText flags.characters precision text
  let doubled := cut.flatMap fun b => if b == quote then [b, b] else [b]
  if enclosed && argument.isSome then quote :: doubled ++ [quote] else doubled

/-- The first character of a text: its lead byte and up to three continuation bytes; a NUL byte
for NULL or empty text. -/
def firstCharacter (argument : Option (List UInt8)) : List UInt8 :=
  match argument with
  | some (b :: rest) =>
    if 0xC0 ≤ b then b :: (rest.takeWhile isContinuation).take 3 else [b]
  | _ => [0]

/-- A `c` directive: the character `precision` times (once when the precision is below two), the
width counted in characters. -/
def characterOutput (flags : Flags) (width : Nat) (precision : Option Nat) (character : List UInt8) :
    List UInt8 :=
  let count := precision.getD 0
  let extra := continuations character
  if 1 < count then
    let repeated := (List.replicate count character).flatten
    let rest : Int := (width : Int) - (count - 1 : Nat)
    if 1 < rest && !flags.leftJustify then spaces (rest - 1).toNat ++ repeated
    else if flags.leftJustify && 1 < rest then repeated ++ spaces (rest - 1).toNat
    else repeated
  else pad flags.leftJustify (if 0 < width then width + extra else 0) character

/-- The state of writing: the bytes written, and the arguments not yet read. -/
structure Writer where
  written : List UInt8
  arguments : List Value

/-- Reads the next argument; NULL when none is left. -/
def Writer.next (writer : Writer) : Value × Writer :=
  match writer.arguments with
  | value :: rest => (value, { writer with arguments := rest })
  | [] => (.null, writer)

/-- Reads a width: given, or from the next argument, where a negative width justifies left. -/
def readWidth (flags : Flags) (width : Option Count) (writer : Writer) :
    Flags × Nat × Writer :=
  match width with
  | none => (flags, 0, writer)
  | some (.given n) => (flags, n, writer)
  | some .argument =>
    let (value, writer) := writer.next
    let n := int32 value.integerValue
    if n < 0 then ({ flags with leftJustify := true }, (if -2147483647 ≤ n then -n else 0).toNat, writer)
    else (flags, n.toNat, writer)

/-- Reads a precision: given, or from the next argument, where a negative one counts as its
magnitude. -/
def readPrecision (precision : Option Count) (writer : Writer) : Option Nat × Writer :=
  match precision with
  | none => (none, writer)
  | some (.given n) => (some n, writer)
  | some .argument =>
    let (value, writer) := writer.next
    let n := int32 value.integerValue
    if n < 0 then ((if -2147483647 ≤ n then some (-n).toNat else none), writer)
    else (some n.toNat, writer)

/-- What one directive writes, reading its arguments. -/
def writeDirective (directive : Directive) (writer : Writer) : Writer :=
  let (flags, width, writer) := readWidth directive.flags directive.width writer
  let (precision, writer) := readPrecision directive.precision writer
  let emit (bytes : List UInt8) (writer : Writer) : Writer :=
    { writer with written := writer.written ++ bytes }
  match directive.conversion with
  | .size => writer
  | .percent => emit (pad flags.leftJustify width [byte '%']) writer
  | .decimal _ | .ordinal | .radix .. =>
    let (value, writer) := writer.next
    emit (pad flags.leftJustify width (integerBody flags width precision directive.conversion value))
      writer
  | .real style upper =>
    let (value, writer) := writer.next
    emit (pad flags.leftJustify width (realBody flags width precision style upper value.realValue))
      writer
  | .text =>
    let (value, writer) := writer.next
    let body := cutText flags.characters precision ((textBytes value).getD [])
    let width := if flags.characters && 0 < width then width + continuations body else width
    emit (pad flags.leftJustify width body) writer
  | .escaped quote enclosed =>
    let (value, writer) := writer.next
    let body := escapedBody flags precision quote enclosed (textBytes value)
    let width := if flags.characters && 0 < width then width + continuations body else width
    emit (pad flags.leftJustify width body) writer
  | .character =>
    let (value, writer) := writer.next
    emit (characterOutput flags width precision (firstCharacter (textBytes value))) writer

/-- Writes the pieces of a format, stopping at a `halt`. -/
def writePieces : List Piece → Writer → Writer
  | [], writer => writer
  | .literal bytes :: rest, writer =>
    writePieces rest { writer with written := writer.written ++ bytes }
  | .directive directive :: rest, writer => writePieces rest (writeDirective directive writer)
  | .halt :: _, writer => writer

/-- The bytes a format writes with its arguments. -/
def formatBytes (format : List UInt8) (arguments : List Value) : List UInt8 :=
  (writePieces (pieces format) ⟨[], arguments⟩).written

end Format

/-- `printf` and `format`: the formatted text; NULL for a NULL format, and for a format that
writes nothing before it ends or halts (a directive writing nothing still counts as writing). -/
def formatValue (format : Value) (arguments : List Value) : Value :=
  match Format.textBytes format with
  | none => .null
  | some bytes =>
    match Format.pieces bytes with
    | [] | .halt :: _ => .null
    | _ => .text (Format.formatBytes bytes arguments)

end SheetExport.Store.Sql
