import SheetExport.Store.Table

/-!
# Estimates of work

The store chooses how to read the sources of a query by comparing estimates: how many rows a way
of reading visits, and what it costs. An estimate is a whole number on a logarithmic scale, ten
steps to a doubling: 0 stands for one, 10 for two, 33 for ten and 200 for about a million. Adding
the amounts two estimates stand for is `Estimate.add`, rounded on the same scale; multiplying
them is adding the estimates.

The width of a row is estimated from the declared types of its columns, in units of about four
bytes: a text or blob column counts five units, or a quarter of the size its type declares (plus
one), and any other column one unit.
-/

namespace SheetExport.Store.Sql.Access

/-- An amount on the logarithmic scale: about ten times its binary logarithm. -/
abbrev Estimate := Int

namespace Estimate

/-- The steps above a power of two of the amounts 8 to 15, by the amount less 8. -/
def fractionSteps : List Int := [0, 2, 3, 5, 6, 7, 8, 9]

/-- The estimate of an amount: 0 for none or one. -/
def ofNat (x : Nat) : Estimate :=
  if x < 2 then 0
  else if x < 8 then
    match x with
    | 2 => 10
    | 3 => 16
    | 4 => 20
    | 5 => 23
    | 6 => 26
    | _ => 28
  else
    let shift := Nat.log2 x - 3
    fractionSteps.getD ((x >>> shift) % 8) 0 + 30 + 10 * shift

/-- What adding the smaller of two amounts adds to the estimate of the larger, by how far apart
their estimates are. -/
def sumSteps : List Int :=
  [10, 10, 9, 9, 8, 8, 7, 7, 7, 6, 6, 6, 5, 5, 5, 4, 4, 4, 4, 3, 3, 3, 3, 3, 3,
    2, 2, 2, 2, 2, 2, 2]

/-- The estimate of the sum of the amounts two estimates stand for. -/
def add (a b : Estimate) : Estimate :=
  let high := max a b
  let low := min a b
  if high > low + 49 then high
  else if high > low + 31 then high + 1
  else high + sumSteps.getD (high - low).toNat 0

/-- The estimate of the logarithm of an amount, which is what a search through a sorted index of
that many rows costs; nothing for ten rows or fewer. -/
def logOf (n : Estimate) : Estimate :=
  if n ≤ 10 then 0 else ofNat n.toNat - 33

/-- The estimate of the rows of a table the store knows nothing about: about a million. -/
def unknownRows : Estimate := 200

end Estimate

/-- The rest of a type name after the word that may give its size: the last `char` in it, or a
`blob` directly followed by `(`; the name's letters are scanned as the store scans them, ending at
`int`. -/
def sizeTextOfType (lower : List Char) : Option (List Char) :=
  let rec scan : Nat → List Char → List Char → Bool → Option (List Char) → Option (List Char)
    | 0, _, _, _, found => found
    | _ + 1, [], _, _, found => found
    | fuel + 1, c :: rest, window, numeric, found =>
      let window := (window ++ [c]).drop (window.length + 1 - 4)
      let last3 := window.drop (window.length - 3)
      if window == ['c', 'h', 'a', 'r'] then scan fuel rest window false (some rest)
      else if window == ['c', 'l', 'o', 'b'] || window == ['t', 'e', 'x', 't'] then
        scan fuel rest window false found
      else if window == ['b', 'l', 'o', 'b'] && numeric then
        scan fuel rest window false (if rest.head? == some '(' then some rest else found)
      else if last3 == ['i', 'n', 't'] then found
      else scan fuel rest window numeric found
  scan (lower.length + 1) lower [] true none

/-- The first run of decimal digits in a text, read as a number no greater than `2^31 - 1`;
zero when there is none or it is larger. -/
def firstNumber (chars : List Char) : Nat :=
  let digits := (chars.dropWhile (!·.isDigit)).takeWhile Char.isDigit
  let value := digits.foldl (fun acc c => acc * 10 + (c.toNat - '0'.toNat)) 0
  if value ≤ 2147483647 then value else 0

/-- The width of a column by its declared type and affinity. A column without a type, or of the
types `ANY`, `INT`, `INTEGER` or `REAL`, is one unit wide, one of `TEXT` or `BLOB` five; otherwise
a text or blob column is five units wide, or a quarter of the size its type gives, plus one. -/
def columnWidth (declared : String) (affinity : Affinity) : Nat :=
  let lower := declared.toList.map Char.toLower
  let name := String.ofList lower
  if lower.isEmpty || ["any", "int", "integer", "real"].contains name then 1
  else if ["blob", "text"].contains name then 5
  else if affinity == .text || affinity == .blob then
    let size := match sizeTextOfType lower with
      | some rest => firstNumber rest
      | none => 16
    min (size / 4 + 1) 255
  else 1

/-- The estimated width of a row of a table: its columns, and one more unit for a row id that is no
column. -/
def tableWidth (spec : TableSpec) : Estimate :=
  let columns := (spec.columns.map fun column =>
    columnWidth column.declared column.affinity).foldr (· + ·) 0
  Estimate.ofNat (4 * (columns + if spec.rowIdColumn.isNone then 1 else 0))

end SheetExport.Store.Sql.Access
