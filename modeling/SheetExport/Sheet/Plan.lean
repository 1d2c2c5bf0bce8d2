import SheetExport.Sheet.Range
import SheetExport.Cell.Equality

/-!
# Planning row writes

Only the key column of a sheet is read back, and every new row is matched against it by its key,
its first cell. A row whose key is already in the sheet overwrites that sheet row; any other row
is appended after the last known row, and the append cursor moves on by one. Blank keys in the
sheet are never matched, so blank sheet rows are skipped rather than overwritten, and keys repeated
in one batch are not refused: a key present in the sheet resolves to the same row every time,
while a missing key is appended once per occurrence.

Planning a row keeps the keys, and moves the cursor exactly when the row finds no match.
-/

namespace SheetExport

/-- The key of a row: its first cell, or the empty text for an empty row or a null first cell. -/
def keyOf : List Json → Json
  | [] => .str ""
  | .null :: _ => .str ""
  | first :: _ => first

/-- Whether a key is the blank key, the empty text. -/
def isBlankKey : Json → Bool
  | .str "" => true
  | _ => false

/-- A single-row write: the sheet, the A1 range of the row and the values written there. -/
structure RowWrite where
  sheet : String
  range : String
  values : List Json
  deriving Inhabited, Repr

namespace RowWrite

/-- The row number the write's range addresses. -/
def rowNumber (write : RowWrite) : Except SheetError Int := RowRange.rowOf write.range

/-- The write as a value range of the batch body: its range, row-major, one row of values. -/
def valueRange (write : RowWrite) : Json :=
  .obj [("range", .str write.range), ("majorDimension", .str "ROWS"),
    ("values", .arr [.arr write.values])]

end RowWrite

/-- What planning knows of a sheet: the keys of its rows, top to bottom, and the append cursor,
the number of the last row known to be in use. -/
structure SheetState where
  keys : List Json
  cursor : Int
  deriving Inhabited, Repr

namespace SheetState

/-- The state of a sheet whose key column was read: one key per row, the cursor after the last
row. A sheet that reported no values is empty. -/
def ofColumn : Option (List (List Json)) → SheetState
  | none => ⟨[], 0⟩
  | some rows => ⟨rows.map keyOf, rows.length⟩

/-- The index of the first row whose key is not blank and equals `key`. -/
def find? (state : SheetState) (key : Json) : Option Nat :=
  state.keys.findIdx? (fun existing => !isBlankKey existing && existing.looseEq key)

/-- The state with the cursor moved on by one row. -/
def advance (state : SheetState) : SheetState := { state with cursor := state.cursor + 1 }

/-- The target of a row and the state after it: the row after a match, or the next row after the
cursor, with the cursor moved there. -/
def target (state : SheetState) (row : List Json) : SheetState × Int :=
  match state.find? (keyOf row) with
  | some index => (state, index + 1)
  | none => (state.advance, state.cursor + 1)

/-- Plans one row: its write, and the state for the next row. A target below one is refused. -/
def planRow (state : SheetState) (sheet : String) (row : List Json) :
    Except SheetError (SheetState × RowWrite) :=
  let (next, row') := state.target row
  match RowRange.ofRow sheet row' row.length with
  | .ok range => .ok (next, ⟨sheet, range, row⟩)
  | .error e => .error e

/-- Plans rows one after another, each step's outcome reported; a refused row leaves the state
as it was for the next row. -/
def planSteps (state : SheetState) (sheet : String) :
    List (List Json) → List (Except SheetError (SheetState × RowWrite))
  | [] => []
  | row :: rest =>
    match state.planRow sheet row with
    | .ok (next, write) => .ok (next, write) :: planSteps next sheet rest
    | .error e => .error e :: planSteps state sheet rest

/-- Plans rows one after another; the first refused row stops the plan. -/
def planAll (state : SheetState) (sheet : String) :
    List (List Json) → Except SheetError (List RowWrite)
  | [] => .ok []
  | row :: rest =>
    match state.planRow sheet row with
    | .ok (next, write) =>
      match planAll next sheet rest with
      | .ok writes => .ok (write :: writes)
      | .error e => .error e
    | .error e => .error e

theorem target_keys (state : SheetState) (row : List Json) :
    (state.target row).1.keys = state.keys := by
  unfold target
  split <;> rfl

end SheetState

/-- Plans the rows of one sheet against its key column. -/
def planSheet (sheet : String) (column : Option (List (List Json))) (rows : List (List Json)) :
    Except SheetError (List RowWrite) :=
  (SheetState.ofColumn column).planAll sheet rows

/-- The writes of several sheets, in sheet order and row order. -/
def assembleBatch (perSheet : List (List RowWrite)) : List RowWrite := perSheet.flatten

/-- Counts keys by the equality of held cells: each class with the first spelling met and its
count. -/
def countKeys : List Json → List (Json × Nat) → List (Json × Nat)
  | [], counts => counts
  | key :: rest, counts => countKeys rest (bump key counts)
where
  bump (key : Json) : List (Json × Nat) → List (Json × Nat)
    | [] => [(key, 1)]
    | (seen, count) :: others =>
      if seen.heldEq key then (seen, count + 1) :: others else (seen, count) :: bump key others

/-- The keys that occur more than once among the rows, each by its first spelling, in order of
first occurrence, the blank key left out. A list or object key cannot be counted. -/
def duplicateKeys (rows : List (List Json)) : Except SheetError (List Json) :=
  let keys := rows.map keyOf
  match keys.find? (fun key => !key.isHashable) with
  | some key => .error (.uncountable key.kindName)
  | none =>
    .ok ((countKeys keys []).filterMap fun (key, count) =>
      if 1 < count && !isBlankKey key then some key else none)

end SheetExport
