import SheetExport.Sheet.Column
import SheetExport.Sheet.Error
import SheetExport.Cell.Text

/-!
# Row ranges

A row write is addressed by the A1 range of one row: `sheet!A<row>:<last><row>`, from column `A`
to the column of the row's last value, and at least to `A` for an empty row. The row number is
read back from a range by taking the text after its last `!` up to the first `:`, dropping the
column letters, and reading an integer numeral.

Numbers may also arrive as cells of any kind. A boolean then counts as 0 or 1, a binary64 number
is compared by value and written in its shortest form, and a kind without order is refused; a
binary64 number at least one cannot name a column.
-/

namespace SheetExport

namespace RowRange

/-- The range of one row of a sheet, its values reaching column `lastColumn`. -/
def render (sheet : String) (row : Int) (lastColumn : Nat) : String :=
  sheet ++ "!A" ++ toString row ++ ":" ++ Column.label lastColumn ++ toString row

/-- The range of row `row` for a row of `width` values; a row below one is refused, and so is a
row number too long to write. -/
def ofRow (sheet : String) (row : Int) (width : Int) : Except SheetError String :=
  if row < 1 then .error .rowBelowOne
  else
    match writeInteger row with
    | .ok _ => .ok (render sheet row (max width 1).toNat)
    | .error e => .error (.numeral e)

/-- The cell part of a range: after its last `!`, up to the first `:`. -/
def cellPart (range : String) : List Char :=
  let afterSheet := (range.toList.reverse.takeWhile (· != '!')).reverse
  afterSheet.takeWhile (· != ':')

/-- Whether a character is a column letter. -/
def isColumnLetter (c : Char) : Bool := 'A' ≤ c && c ≤ 'Z'

/-- The row number a range addresses. -/
def rowOf (range : String) : Except SheetError Int :=
  match readInteger (String.ofList ((cellPart range).dropWhile isColumnLetter)) with
  | .ok row => .ok row
  | .error e => .error (.numeral e)

theorem ofRow_below_one (sheet : String) (row width : Int) (below : row < 1) :
    ofRow sheet row width = .error .rowBelowOne := by
  simp [ofRow, below]

end RowRange

namespace Column

/-- How a cell compares with the integer one; a kind without order is refused, and NaN compares
as neither below nor above. -/
def compareWithOne (operator : String) (cell : Json) : Except SheetError (Option Ordering) :=
  match cell with
  | .bool value => .ok (some (compare (if value then (1 : Int) else 0) 1))
  | .int value => .ok (some (compare value 1))
  | .float value => .ok (value.compareInt 1)
  | other => .error (.unordered operator other.kindName "int")

/-- The label of a column given as a cell. A number below one is refused first; a whole number at
least one has its label; a binary64 number at least one, or NaN, is no whole number. -/
def labelOf (index : Json) : Except SheetError String := do
  let order ← compareWithOne "<" index
  if order == some .lt then throw .columnBelowOne
  match index with
  | .bool _ => pure (label 1)
  | .int value => pure (label value.toNat)
  | other => throw (.notWhole other.kindName)

end Column

namespace RowRange

/-- The last column of a row of `width` values given as a cell: the width, or one when one is
above it. -/
def lastColumnOf (width : Json) : Except SheetError String :=
  match width with
  | .bool _ => .ok (Column.label 1)
  | .int value => .ok (Column.label (max value 1).toNat)
  | .float value =>
    if value.compareInt 1 == some .lt then .ok (Column.label 1) else .error (.notWhole "float")
  | other => .error (.unordered ">" "int" other.kindName)

/-- The range of a row given as cells: the row is checked before the width, and written as its
cell text. -/
def ofCells (sheet : Json) (row : Json) (width : Json) : Except SheetError String := do
  let order ← Column.compareWithOne "<" row
  if order == some .lt then throw .rowBelowOne
  let last ← lastColumnOf width
  let rowText := row.text
  pure (sheet.text ++ "!A" ++ rowText ++ ":" ++ last ++ rowText)

end RowRange

end SheetExport
