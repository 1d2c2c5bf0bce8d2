import SheetExport.Remote.Failure
import SheetExport.Sheet.Plan
import SheetExport.Cell.Text
import SheetExport.Number.Integer

/-!
# The spreadsheet service

The service answers two requests: reading the key column of a sheet, and writing a batch of row
ranges. Two services stand behind the client. A scripted service answers every request with the
next reply of a list, an empty object once the list runs out. A workbook keeps column A of each
sheet: a read gives the column with blank cells as empty rows, or no values for a sheet that is
absent or empty, and a write pads the column with blank cells and puts the text of each range's
first cell at its row. A workbook can be told to fail the next reads of a sheet or the next writes.
-/

namespace SheetExport

/-- A request to the service. -/
inductive Request where
  /-- Read the values of a range. -/
  | read (range : String)
  /-- Write a batch of value ranges. -/
  | write (body : Json)
  deriving Inhabited, Repr

/-- A reply of a scripted service. -/
inductive Reply where
  | answer (response : Json)
  | failure (failure : Failure)
  deriving Inhabited, Repr

/-- A workbook: column A of each sheet, and the failures still to come. -/
structure Workbook where
  sheets : List (String × List Json)
  readFailures : List (String × List Failure)
  writeFailures : List Failure
  deriving Inhabited, Repr

/-- The sheet a range names: the text before its last `!`. -/
def RowRange.sheetOf (range : String) : String :=
  let reversed := range.toList.reverse
  if reversed.contains '!' then String.ofList (reversed.dropWhile (· != '!')).tail.reverse
  else range

namespace Workbook

/-- The cell a row of a sheet puts in column A: the first item the row gives when iterated, the
empty text for a row that gives none. A list gives its items, an object its member names and a
text its characters; a value of another kind cannot be iterated. -/
def cellOfRow (row : Json) : Except Failure Json :=
  match row with
  | .arr items => .ok (items.headD (.str ""))
  | .obj members => .ok ((members.head?.map fun (name, _) => Json.str name).getD (.str ""))
  | .str text => .ok (.str (String.ofList (text.toList.take 1)))
  | other => .error (.raised .type ("'" ++ other.kindName ++ "' object is not iterable"))

/-- Column A of a sheet; an absent sheet has an empty column. -/
def column (book : Workbook) (sheet : String) : List Json :=
  ((book.sheets.find? (·.1 == sheet)).map (·.2)).getD []

/-- Replaces column A of a sheet, adding the sheet when it is new. -/
def setColumn (book : Workbook) (sheet : String) (column : List Json) : Workbook :=
  if book.sheets.any (·.1 == sheet) then
    { book with sheets := book.sheets.map fun entry =>
        if entry.1 == sheet then (sheet, column) else entry }
  else { book with sheets := book.sheets ++ [(sheet, column)] }

/-- Takes the next failure of reads of a sheet, when one is due. -/
def takeReadFailure (book : Workbook) (sheet : String) : Option Failure × Workbook :=
  match book.readFailures.find? (·.1 == sheet) with
  | some (_, first :: rest) =>
    (some first, { book with readFailures := book.readFailures.map fun entry =>
      if entry.1 == sheet then (sheet, rest) else entry })
  | _ => (none, book)

/-- The reply to a read of a range: each cell as a row of its own, the empty text as an empty
row. -/
def read (book : Workbook) (range : String) : Except Failure Json × Workbook :=
  let sheet := RowRange.sheetOf range
  match book.takeReadFailure sheet with
  | (some failure, book) => (.error failure, book)
  | (none, book) =>
    let column := book.column sheet
    if column.isEmpty then (.ok (.obj []), book)
    else (.ok (.obj [("values", .arr (column.map fun
      | .str "" => .arr []
      | cell => .arr [cell]))]), book)

/-- Puts a cell at a row of a column, padding the column with blank cells. A row below one
counts from the end of the column. -/
def putAt (column : List Json) (row : Int) (cell : Json) : Except Failure (List Json) :=
  let padded := column ++ List.replicate (row.toNat - column.length) (.str "")
  let index := if 1 ≤ row then row - 1 else padded.length + row - 1
  if index < 0 then .error (.raised .index "list assignment index out of range")
  else .ok (padded.set index.toNat cell)

/-- The text a range's values put in column A: the text of the first cell of the first row,
empty for a null or missing cell. -/
def firstCellText (values : Json) : String :=
  match values.items with
  | row :: _ =>
    match row.items with
    | .null :: _ => ""
    | cell :: _ => cell.text
    | [] => ""
  | [] => ""

/-- Applies one value range of a batch. A range names its sheet before a `!`; one without any
cannot be split into a sheet and a cell. -/
def apply (book : Workbook) (valueRange : Json) : Except Failure Workbook := do
  let range := ((valueRange.get? "range").map Json.text).getD ""
  if !range.contains '!' then
    throw (.raised .value "not enough values to unpack (expected 2, got 1)")
  let row ← match RowRange.rowOf range with
    | .ok row => pure row
    | .error e => throw (.raised .value e.message)
  let sheet := RowRange.sheetOf range
  let column ← putAt (book.column sheet) row
    (.str (firstCellText ((valueRange.get? "values").getD .null)))
  pure (book.setColumn sheet column)

/-- Applies the value ranges of a batch in order, up to the first that fails: the ranges before
it stay written. -/
def applyAll (book : Workbook) : List Json → Option Failure × Workbook
  | [] => (none, book)
  | valueRange :: rest =>
    match book.apply valueRange with
    | .ok updated => applyAll updated rest
    | .error failure => (some failure, book)

/-- The reply to a batch write. -/
def write (book : Workbook) (body : Json) : Except Failure Json × Workbook :=
  match book.writeFailures with
  | failure :: rest => (.error failure, { book with writeFailures := rest })
  | [] =>
    let data := ((body.get? "data").getD (.arr [])).items
    match book.applyAll data with
    | (none, updated) => (.ok (.obj [("totalUpdatedRows", .int data.length)]), updated)
    | (some failure, updated) => (.error failure, updated)

end Workbook

/-- What answers the client's requests. -/
inductive Service where
  | scripted (replies : List Reply)
  | workbook (book : Workbook)
  deriving Inhabited, Repr

namespace Service

/-- The reply to one execution of a request, and the service after it. -/
def execute (service : Service) (request : Request) : Except Failure Json × Service :=
  match service with
  | .scripted [] => (.ok (.obj []), .scripted [])
  | .scripted (.answer response :: rest) => (.ok response, .scripted rest)
  | .scripted (.failure failure :: rest) => (.error failure, .scripted rest)
  | .workbook book =>
    match request with
    | .read range => let (reply, book) := book.read range; (reply, .workbook book)
    | .write body => let (reply, book) := book.write body; (reply, .workbook book)

/-- The number of failures a service still holds. -/
def failureCount : Service → Nat
  | .scripted replies => replies.length
  | .workbook book =>
    (book.readFailures.map fun (_, failures) => failures.length).foldr (· + ·) 0 +
      book.writeFailures.length

/-- Column A of each sheet of a workbook; a scripted service keeps none. -/
def sheets : Service → List (String × List Json)
  | .scripted _ => []
  | .workbook book => book.sheets

end Service

end SheetExport
