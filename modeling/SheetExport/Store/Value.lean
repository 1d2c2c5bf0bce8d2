import SheetExport.Store.Numeral
import SheetExport.Cell.Text
import SheetExport.Cell.Flag
import SheetExport.Text.Utf8

/-!
# Stored values

A stored value is NULL, a 64-bit integer, a binary64 real (never NaN), text, or a blob of bytes.
Text is held as the bytes of its UTF-8 encoding; text made from a blob's bytes keeps them as they
are, so it may not be well-formed UTF-8, and is read leniently where it is read as characters.

A column's *affinity* decides how a value written to it is kept. A text column keeps numbers as
their text. A numeric or integer column keeps text that reads wholly as a numeral as that number
(an integer when the numeral is one that fits, or a real with an integral value strictly between
the least and greatest integer), and a real of integral value as that integer. A real column
keeps every number as a real, a real of integral value being kept as that integer made real
again (so a negative zero becomes zero). Blobs and NULL are kept as they are, and a column without a type
keeps everything as it is.

Values are ordered NULL first, then numbers by value, then text by its collation, then blobs by
their bytes. Text is compared by its bytes, which orders well-formed text by code points. A number written as text uses its decimal form, or for a real the store's fifteen
digits; text that is read as a number uses the longest leading numeral, zero when there is none.
-/

namespace SheetExport.Store

/-- A stored value. -/
inductive Value where
  | null
  | integer (value : Int)
  | real (value : Binary64)
  | text (bytes : List UInt8)
  | blob (bytes : List UInt8)
  deriving DecidableEq, Repr, Inhabited

/-- How a column keeps the values written to it. -/
inductive Affinity where
  /-- No conversion: the affinity of a column without a type. -/
  | blob
  | text
  | numeric
  | integer
  | real
  deriving DecidableEq, Repr

/-- How text is compared. -/
inductive Collation where
  /-- By code points. -/
  | binary
  /-- By code points after folding ASCII letters to lower case. -/
  | nocase
  /-- By code points, ignoring trailing spaces. -/
  | rtrim
  deriving DecidableEq, Repr

namespace Collation

/-- The collation of a name, in any ASCII case. -/
def ofName? (name : String) : Option Collation :=
  match String.ofList (name.toList.map Char.toLower) with
  | "binary" => some .binary
  | "nocase" => some .nocase
  | "rtrim" => some .rtrim
  | _ => none

end Collation

namespace Affinity

/-- Whether values of this affinity are numbers. -/
def isNumeric : Affinity → Bool
  | .numeric | .integer | .real => true
  | _ => false

/-- Whether a type name contains a word, ignoring ASCII case. -/
def mentions (upper : List Char) (word : String) : Bool :=
  (List.range upper.length).any fun start => word.toList.isPrefixOf (upper.drop start)

/-- The affinity of a declared type name: `INT` makes it integer; then `CHAR`, `CLOB` or `TEXT`
make it text; `BLOB` or no type leaves it without conversion; `REAL`, `FLOA` or `DOUB` make it
real; any other type is numeric. -/
def ofTypeName (name : String) : Affinity :=
  let upper := name.toList.map Char.toUpper
  if mentions upper "INT" then .integer
  else if mentions upper "CHAR" || mentions upper "CLOB" || mentions upper "TEXT" then .text
  else if mentions upper "BLOB" || upper.isEmpty then .blob
  else if mentions upper "REAL" || mentions upper "FLOA" || mentions upper "DOUB" then .real
  else .numeric

end Affinity

namespace Value

/-- The least and the greatest integer the store holds. -/
def leastInteger : Int := -9223372036854775808
def greatestInteger : Int := 9223372036854775807

/-- Whether an integer fits in the store's 64 bits. -/
def fits (n : Int) : Bool := leastInteger ≤ n && n ≤ greatestInteger

/-- The characters a blob's bytes stand for when read as a numeral. -/
def byteChars (bytes : List UInt8) : List Char := bytes.map fun byte => Char.ofNat byte.toNat

/-- Text holding a string. -/
def ofString (s : String) : Value := .text (Text.encodeUtf8 s)

/-- The characters a value shows when read as a numeral: one for each byte of text or a blob. -/
def numeralChars : Value → List Char
  | .text bytes => byteChars bytes
  | .blob bytes => byteChars bytes
  | _ => []

/-- The bytes of a value's text: an integer in decimal, a real in fifteen digits, text and blobs
as their bytes; NULL has no bytes. -/
def textBytes : Value → List UInt8
  | .null => []
  | .integer n => Text.encodeUtf8 (toString n)
  | .real x => Text.encodeUtf8 (realText x)
  | .text bytes => bytes
  | .blob bytes => bytes

/-- The text of a value as a string, ill-formed bytes read as replacement characters. -/
def asString (value : Value) : String := Text.decodeUtf8Lossy value.textBytes

/-- The integer nearest a real toward zero, held at the bounds. -/
def realToInteger (x : Binary64) : Int :=
  match x with
  | .finite .. =>
    match x.truncate? with
    | some n => max leastInteger (min greatestInteger n)
    | none => 0
  | .infinity negative => if negative then leastInteger else greatestInteger
  | .nan => leastInteger

/-- Whether a real has the value of an integer of magnitude below `2^51`. -/
def realSameAsInteger (x : Binary64) (n : Int) : Bool :=
  x.equalsInt n && -2251799813685248 ≤ n && n < 2251799813685248

/-- A real as an integer column keeps it: an integral value strictly between the least and the
greatest integer becomes that integer. -/
def ofReal (x : Binary64) : Value :=
  match x.truncate? with
  | some n => if x.isIntegral && leastInteger < n && n < greatestInteger then .integer n else .real x
  | none => .real x

/-- Text given numeric affinity: a whole integer numeral that fits is an integer, another whole
numeral is a real (made an integer when `tryInteger` and its value is integral), and text that is
not wholly a numeral stays text. -/
def numericOfText (tryInteger : Bool) (text : List UInt8) : Value :=
  let chars := byteChars text
  let reading := readReal chars
  match reading.fit with
  | .integer =>
    let n := realToInteger reading.value
    if reading.value.isIntegral && realSameAsInteger reading.value n then .integer n
    else
      match readInteger64 chars with
      | (n, .exact) => .integer n
      | _ => if tryInteger then ofReal reading.value else .real reading.value
  | .real => if tryInteger then ofReal reading.value else .real reading.value
  | _ => .text text

/-- The value as a column of an affinity keeps it. -/
def withAffinity : Affinity → Value → Value
  | .text, .integer n => ofString (toString n)
  | .text, .real x => ofString (realText x)
  | .numeric, .real x | .integer, .real x => ofReal x
  | .numeric, .text s | .integer, .text s => numericOfText true s
  | .real, .integer n => .real (Binary64.ofInt n)
  | .real, .real x =>
    match ofReal x with
    | .integer n => .real (Binary64.ofInt n)
    | other => other
  | .real, .text s =>
    match numericOfText true s with
    | .integer n => .real (Binary64.ofInt n)
    | other => other
  | _, value => value

/-- The value a comparison of numeric affinity sees: text that reads wholly as a numeral becomes
that number. -/
def forNumericComparison : Value → Value
  | .text s => numericOfText false s
  | value => value

/-- The value a comparison of text affinity sees: a number becomes its text. -/
def forTextComparison : Value → Value
  | .integer n => ofString (toString n)
  | .real x => ofString (realText x)
  | value => value

/-- The number a value stands for in arithmetic: integers and reals as they are, text and blobs
by their leading numeral, an integer when that numeral is one. NULL stays NULL. -/
def numeric : Value → Value
  | .null => .null
  | .integer n => .integer n
  | .real x => .real x
  | value =>
    let chars := value.numeralChars
    let reading := readReal chars
    let (n, integerFit) := readInteger64 chars
    match reading.fit with
    | .none =>
      if integerFit == .noDigits || integerFit == .exact || integerFit == .trailing then .integer n
      else .real reading.value
    | .integer => if integerFit == .exact then .integer n else .real reading.value
    | _ => .real reading.value

/-- The real value of a value: text and blobs by their leading numeral, NULL as zero. -/
def realValue : Value → Binary64
  | .integer n => Binary64.ofInt n
  | .real x => x
  | .null => .finite false 0 0
  | value => (readReal value.numeralChars).value

/-- The integer value of a value: a real toward zero, text and blobs by their leading integer,
NULL as zero. -/
def integerValue : Value → Int
  | .integer n => n
  | .real x => realToInteger x
  | .null => 0
  | value => (readInteger64 value.numeralChars).1

/-- The integer value of a value as a 32-bit integer: its low 32 bits, read as signed. -/
def int32Value (value : Value) : Int :=
  let wrapped := value.integerValue % 4294967296
  if 2147483648 ≤ wrapped then wrapped - 4294967296 else wrapped

/-- Whether a value counts as true; NULL counts as neither. -/
def truth : Value → Option Bool
  | .null => none
  | .integer n => some (n != 0)
  | value => some !(value.realValue.isZero)

/-- The value of a truth, 1 or 0. -/
def ofBool (b : Bool) : Value := .integer (if b then 1 else 0)

/-- The value of a truth, NULL for neither. -/
def ofTruth : Option Bool → Value
  | some true => .integer 1
  | some false => .integer 0
  | none => .null

/-- Compares two lists of characters by code points. -/
def compareChars : List Char → List Char → Ordering
  | [], [] => .eq
  | [], _ :: _ => .lt
  | _ :: _, [] => .gt
  | a :: as, b :: bs =>
    if a.toNat < b.toNat then .lt else if b.toNat < a.toNat then .gt else compareChars as bs

/-- Compares two lists of bytes, a prefix first. -/
def compareBytes : List UInt8 → List UInt8 → Ordering
  | [], [] => .eq
  | [], _ :: _ => .lt
  | _ :: _, [] => .gt
  | a :: as, b :: bs =>
    if a < b then .lt else if b < a then .gt else compareBytes as bs

/-- An ASCII letter in lower case, any other character as it is. -/
def foldCase (c : Char) : Char := if 'A' ≤ c && c ≤ 'Z' then Char.ofNat (c.toNat + 32) else c

/-- An ASCII upper-case letter's byte in lower case, any other byte as it is. -/
def foldByte (b : UInt8) : UInt8 := if 65 ≤ b && b ≤ 90 then b + 32 else b

/-- Compares two texts ignoring the case of ASCII letters: byte by byte over the length of the
shorter, stopping early where both have a NUL, and then by length. -/
def compareFolded : List UInt8 → List UInt8 → Ordering
  | a :: as, b :: bs =>
    if foldByte a < foldByte b then .lt
    else if foldByte b < foldByte a then .gt
    else if a == 0 then compare (as.length + 1) (bs.length + 1)
    else compareFolded as bs
  | as, bs => compare as.length bs.length

/-- The bytes of a text without its trailing spaces. -/
def dropTrailingSpaces (bytes : List UInt8) : List UInt8 :=
  (bytes.reverse.dropWhile (· == 32)).reverse

/-- Compares two texts under a collation. -/
def compareText (collation : Collation) (a b : List UInt8) : Ordering :=
  match collation with
  | .binary => compareBytes a b
  | .nocase => compareFolded a b
  | .rtrim => compareBytes (dropTrailingSpaces a) (dropTrailingSpaces b)

/-- The storage class rank: NULL, then numbers, then text, then blobs. -/
def rank : Value → Nat
  | .null => 0
  | .integer _ => 1
  | .real _ => 1
  | .text _ => 2
  | .blob _ => 3

/-- The order of stored values under a collation for text. -/
def compareWith (collation : Collation) : Value → Value → Ordering
  | .integer a, .integer b => compare a b
  | .integer a, .real y => ((y.compareInt a).getD .eq).swap
  | .real x, .integer b => (x.compareInt b).getD .eq
  | .real x, .real y => (x.compareWith y).getD .eq
  | .text a, .text b => compareText collation a b
  | .blob a, .blob b => compareBytes a b
  | a, b => compare a.rank b.rank

/-- The order of stored values, text by code points. -/
def order (a b : Value) : Ordering := compareWith .binary a b

/-- Orders lists of values, the first difference deciding. -/
def orderAll : List Value → List Value → Ordering
  | a :: as, b :: bs =>
    match order a b with
    | .eq => orderAll as bs
    | other => other
  | [], [] => .eq
  | [], _ :: _ => .lt
  | _ :: _, [] => .gt

/-- The written form of a byte string: `b'…'`, in double quotes when it holds a single quote and
no double quote, with escapes for the quote, the backslash, tab, line feed, carriage return and
bytes outside printable ASCII. -/
def bytesLiteral (bytes : List UInt8) : String :=
  let quote : UInt8 := if bytes.contains 39 && !bytes.contains 34 then 34 else 39
  let hex (n : Nat) : Char := if n < 10 then Char.ofNat (48 + n) else Char.ofNat (87 + n)
  let escape (byte : UInt8) : List Char :=
    if byte == quote || byte == 92 then ['\\', Char.ofNat byte.toNat]
    else if byte == 9 then ['\\', 't']
    else if byte == 10 then ['\\', 'n']
    else if byte == 13 then ['\\', 'r']
    else if byte < 32 || 127 ≤ byte then ['\\', 'x', hex (byte.toNat / 16), hex (byte.toNat % 16)]
    else [Char.ofNat byte.toNat]
  "b" ++ String.singleton (Char.ofNat quote.toNat) ++ String.ofList (bytes.flatMap escape) ++
    String.singleton (Char.ofNat quote.toNat)

/-- The text of a stored value in a row of a sheet: NULL is empty, a real is written as the
shortest numeral that reads back to it, a blob as its written form. -/
def cellText : Value → String
  | .null => ""
  | .integer n => toString n
  | .real x => Json.floatText x
  | .text bytes => Text.decodeUtf8Lossy bytes
  | .blob bytes => bytesLiteral bytes

/-- Whether a stored value reads as a set flag: text when it is a yes word, anything else when it
is not zero or empty. -/
def flag : Value → Bool
  | .null => false
  | .integer n => n != 0
  | .real x => !x.isZero
  | .text bytes => Flag.isYes (Text.decodeUtf8Lossy bytes)
  | .blob bytes => !bytes.isEmpty

/-- The value as a JSON value; a blob as its written form. -/
def toJson : Value → Json
  | .null => .null
  | .integer n => .int n
  | .real x => .float x
  | .text bytes => .str (Text.decodeUtf8Lossy bytes)
  | .blob bytes => .str (bytesLiteral bytes)

theorem compareChars_self (chars : List Char) : compareChars chars chars = .eq := by
  induction chars with
  | nil => rfl
  | cons c rest ih => simp [compareChars, ih]

theorem withAffinity_null (affinity : Affinity) : withAffinity affinity .null = .null := by
  cases affinity <;> rfl

end Value

end SheetExport.Store
