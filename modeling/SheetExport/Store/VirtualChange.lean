import SheetExport.Store.Search

/-!
# Changes to virtual tables

A statement that writes a virtual table hands its module one change per row: the row id of the
row it replaces or deletes (none for an insert), and for an insert or an update the new row id
and the values of every column, the hidden ones too. The module decides what becomes of its rows
and which row id an insert gives.

**Full-text tables, fifth version.** An insert whose value for the column named as the table is
not NULL is a command (`delete-all`, `rebuild`, `optimize`, `merge`, `integrity-check`, or a
setting such as `rank`). Otherwise the new row id must read as an integer or be NULL; a NULL one
takes one more than the greatest. A row id that is already taken fails, unless the statement
replaces clashing rows; an update that keeps its row id removes the old row and adds the new.
A table that keeps no text can only take inserts.

**Full-text tables, third and fourth versions.** The row id is the `docid` column when it is
given, otherwise the row id given; giving both in an insert fails. A negative language id fails.

**Spatial tables.** Each least coordinate is rounded down and each greatest one up to single
precision (32-bit integers for integer tables), and a least coordinate above its greatest one
fails. A row id already taken by another row fails unless the statement replaces clashing rows.
The module keeps its rows in the order they were written, a changed row moving to the end.
-/

namespace SheetExport.Store

/-- A change a statement asks of a virtual table's module. -/
structure Change where
  /-- The row id of the row the change replaces or deletes; none for an insert. -/
  old : Option Int
  /-- For an insert or an update, the new row id and the values of all the table's columns. -/
  new : Option (Value × List Value)
  /-- Whether the statement replaces the rows a new row clashes with. -/
  replacing : Bool

/-- What a module makes of a change: its kind (a setting may change it), its rows, the row id an
insert gives, and the row id the module's own writes leave as the last one inserted, if any. -/
structure Outcome where
  kind : VirtualKind
  rows : List Row
  given : Int
  lastWritten : Option Int

/-- The failure of a change a module refuses without a message of its own. -/
def logicError : StoreError := .refused "SQL logic error"

/-- The failure of a row id a table already holds, when its module reports no message. -/
def constraintFailed : StoreError := .constraint "constraint failed"

/-- The kind of number a value reads as when text is read as a number: none for NULL, text that
is no numeral, and blobs; otherwise whether it is an integer. -/
def integerKind? : Value → Option Bool
  | .integer _ => some true
  | .real _ => some false
  | .text bytes =>
    match Value.numericOfText false bytes with
    | .integer _ => some true
    | .real _ => some false
    | _ => none
  | _ => none

/-- Whether two texts are equal, ASCII letters in either case. -/
def sameWord (a b : String) : Bool :=
  a.toList.map Value.foldCase == b.toList.map Value.foldCase

/-- One more than the greatest row id, or 1 for no row. -/
def nextId (rows : List Row) : Int :=
  match rows.map (·.id) |>.max? with
  | some top => top + 1
  | none => 1

/-- The rows without the one of an id. -/
def withoutId (rows : List Row) (id : Int) : List Row := rows.filter (·.id != id)

/-- The value a column `INTEGER PRIMARY KEY` keeps as its row id: NULL, an integer, or none when
the value cannot be one. -/
def keyOf (value : Value) : Option (Option Int) :=
  match value with
  | .null => some none
  | value =>
    match Value.withAffinity .integer value with
    | .integer n => some (some n)
    | _ => none

namespace TextTable

/-- Whether the table keeps no text of its own: none at all, or another table's. -/
def borrowsText (table : TextTable) : Bool := table.contentless || table.external.isSome

/-- The rows with a new one in row-id order. -/
def withRow (table : TextTable) (rows : List Row) (id : Int) (values : List Value) : List Row :=
  Table.place ⟨id, table.rowValues id values⟩ (withoutId rows id)

/-- A setting of the fifth version written by a command: its new kind, or none for a name or a
value it refuses. -/
def withSetting (table : TextTable) (key : String) (value : Value) : Option TextTable :=
  let number? : Option Int := match integerKind? value with
    | some true => some (Value.numeric value).integerValue
    | _ => none
  let within (low high : Int) : Option TextTable :=
    match number? with
    | some n => if low ≤ n && n ≤ high then some table else none
    | none => none
  if sameWord key "pgsz" then within 32 65536
  else if sameWord key "hashsize" then within 1 Value.greatestInteger
  else if sameWord key "automerge" then within 0 64
  else if sameWord key "usermerge" then within 2 16
  else if sameWord key "crisismerge" then within 0 Value.greatestInteger
  else if sameWord key "rank" then
    if value != .null && readsAsRank value.asString then some { table with rank := value.asString }
    else none
  else none

/-- A command of the fifth version: an insert naming it in the column named as the table, with
the value given to `rank`. `source` holds the rows of the table the text comes from, for
`rebuild`. -/
def command (table : TextTable) (rows : List Row) (name : String) (value : Value)
    (source : List (Int × List Value)) : Except StoreError (TextTable × List Row) :=
  if sameWord name "delete-all" then
    if table.borrowsText then .ok (table, [])
    else .error (.refused
      "'delete-all' may only be used with a contentless or external content fts5 table")
  else if sameWord name "rebuild" then
    if table.contentless then
      .error (.refused "'rebuild' may not be used with a contentless fts5 table")
    else if table.external.isSome then
      .ok (table, source.foldl (fun rows (id, values) => table.withRow rows id values) [])
    else .ok (table, rows)
  else if sameWord name "optimize" || sameWord name "merge" || sameWord name "integrity-check" then
    .ok (table, rows)
  else
    match table.withSetting name value with
    | some changed => .ok (changed, rows)
    | none => .error logicError

/-- The row id of a new row of the fifth version: the one given, or for none one more than the
greatest, which a table that keeps no text can only find when it keeps the sizes of its rows. -/
def newId (table : TextTable) (rows : List Row) (given : Value) : Except StoreError Int :=
  if table.borrowsText then
    match given with
    | .integer n => .ok n
    | _ => if table.sized then .ok (nextId rows) else .error .mismatch
  else
    match keyOf given with
    | some (some n) => if rows.any (·.id == n) then .error constraintFailed else .ok n
    | some none => .ok (nextId rows)
    | none => .error .mismatch

/-- A change to a table of the fifth version, named `name`. -/
def changeFive (table : TextTable) (name : String) (rows : List Row) (change : Change)
    (source : List (Int × List Value)) : Except StoreError Outcome :=
  let width := table.columns.length
  let replacing := change.replacing && !table.borrowsText
  let done (rows : List Row) (given : Int) (last : Option Int) : Outcome :=
    ⟨.text table, rows, given, last⟩
  match change.old, change.new with
  | none, some (rowId, values) =>
    let commandValue := values.getD width .null
    if commandValue != .null then
      let command := commandValue.asString
      if table.borrowsText && sameWord command "delete" then
        match rowId with
        | .integer id => .ok (done (withoutId rows id) 0 none)
        | _ => .ok (done rows 0 none)
      else do
        let (table, rows) ← table.command rows command (values.getD (width + 1) .null) source
        pure ⟨.text table, rows, 0, none⟩
    else
      match integerKind? rowId, rowId with
      | some false, _ => .error .mismatch
      | none, .null | some true, _ => do
        let rows := if replacing && integerKind? rowId == some true then
            withoutId rows (Value.numeric rowId).integerValue
          else rows
        let id ← table.newId rows rowId
        pure (done (table.withRow rows id values) id (some id))
      | none, _ => .error .mismatch
  | some old, some (rowId, values) =>
    if table.contentless then
      .error (.refused ("cannot UPDATE contentless fts5 table: " ++ name))
    else
      match integerKind? rowId, rowId with
      | some false, _ => .error .mismatch
      | none, .null | some true, _ => do
        let newKey := (Value.numeric rowId).integerValue
        if integerKind? rowId == some true && newKey != old then
          if replacing then
            let rows := withoutId (withoutId rows old) newKey
            let id ← table.newId rows rowId
            pure (done (table.withRow rows id values) id (some id))
          else
            let id ← table.newId rows rowId
            pure (done (table.withRow (withoutId rows old) id values) id (some id))
        else
          let rows := withoutId rows old
          let id ← table.newId rows rowId
          pure (done (table.withRow rows id values) id (some id))
      | none, _ => .error .mismatch
  | some old, none =>
    if table.contentless then
      .error (.refused ("cannot DELETE from contentless fts5 table: " ++ name))
    else .ok (done (withoutId rows old) 0 none)
  | none, none => .ok (done rows 0 none)

/-- Whether a command of the third or fourth version is one the module knows. -/
def knownCommand (text : String) : Bool :=
  let chars := text.toList
  sameWord text "optimize" || sameWord text "rebuild" || sameWord text "integrity-check" ||
    (6 < chars.length && sameWord (String.ofList (chars.take 6)) "merge=") ||
    (10 < chars.length && sameWord (String.ofList (chars.take 10)) "automerge=")

/-- The row id a row of the third or fourth version is kept under: for a table that keeps its
own text, the docid given, or else the row id given, as a column `INTEGER PRIMARY KEY` keeps
it; for one that keeps none, the id given, which must be an integer. -/
def keptId (table : TextTable) (rows : List Row) (isInsert : Bool) (rowId : Value)
    (values : List Value) : Except StoreError Int :=
  let width := table.columns.length
  let docid := values.getD (width + 1) .null
  if table.borrowsText then
    match (if docid == .null then rowId else docid) with
    | .integer n => .ok n
    | _ => .error constraintFailed
  else if docid != .null && isInsert && rowId != .null then .error logicError
  else
    match keyOf (if docid != .null then docid else rowId) with
    | some (some n) => if rows.any (·.id == n) then .error constraintFailed else .ok n
    | some none => .ok (nextId rows)
    | none => .error .mismatch

/-- A change to a table of the third or fourth version; the fourth also writes its totals,
which leaves 0 as the last row id inserted. -/
def changeThree (table : TextTable) (rows : List Row) (change : Change) :
    Except StoreError Outcome := do
  let width := table.columns.length
  let last (id : Option Int) : Option Int := if table.version == .four then some 0 else id
  let done (rows : List Row) (given : Int) (lastId : Option Int) : Outcome :=
    ⟨.text table, rows, given, last lastId⟩
  match change.new with
  | none =>
    match change.old with
    | some old => pure (done (withoutId rows old) 0 none)
    | none => pure (done rows 0 none)
  | some (rowId, values) =>
    let language := values.getD (width + 2) .null
    let languageId := language.integerValue % 4294967296
    if 2147483648 ≤ languageId then throw constraintFailed
    let commandValue := values.getD width .null
    if change.old.isNone && commandValue != .null then
      if knownCommand commandValue.asString then return ⟨.text table, rows, 0, none⟩
      else throw logicError
    let docid := values.getD (width + 1) .null
    let newValue := if docid != .null then docid else rowId
    let moved := newValue != .null && match change.old with
      | none => true
      | some old => old != newValue.integerValue
    let (rows, inserted) ← if moved then
        if change.replacing then
          let rows := match keyOf newValue with
            | some (some n) => withoutId rows n
            | _ => rows
          pure (rows, none)
        else do
          let id ← table.keptId rows change.old.isNone rowId values
          pure (rows, some id)
      else pure (rows, none)
    let rows := match change.old with
      | some old => withoutId rows old
      | none => rows
    let id ← match inserted with
      | some id => pure id
      | none => table.keptId rows change.old.isNone rowId values
    pure (done (table.withRow rows id values) id (some id))

end TextTable

namespace BoxTable

/-- A real rounded to single precision, toward negative infinity when `down`, otherwise toward
positive infinity, as the module rounds a box outward: the nearest single-precision value, moved
by one part in `2^23` when it falls on the wrong side. -/
def rounded (down : Bool) (value : Value) : Float :=
  let exact := value.realValue.toFloat
  let nearest := exact.toFloat32.toFloat
  let step : Float := 1.0 / 8388608.0
  let toward := 1.0 - step
  let away := 1.0 + step
  if down then
    if nearest > exact then (exact * (if exact < 0.0 then away else toward)).toFloat32.toFloat
    else nearest
  else
    if nearest < exact then (exact * (if exact < 0.0 then toward else away)).toFloat32.toFloat
    else nearest

/-- The coordinates of a box as the table keeps them, or the position of the first least
coordinate that exceeds its greatest one. -/
def coordinates (table : BoxTable) (values : List Value) : Except Nat (List Value) :=
  (List.range table.dimensions).foldlM (fun (kept : List Value) dimension => do
    let low := values.getD (1 + 2 * dimension) .null
    let high := values.getD (2 + 2 * dimension) .null
    if table.integer then
      let (low, high) := (low.int32Value, high.int32Value)
      if low > high then throw (1 + 2 * dimension)
      pure (kept ++ [.integer low, .integer high])
    else
      let (low, high) := (rounded true low, rounded false high)
      if low > high then throw (1 + 2 * dimension)
      pure (kept ++ [.real (Binary64.ofFloat low), .real (Binary64.ofFloat high)])) []

/-- A change to a spatial table, whose columns are named `columns`, itself named `name`. -/
def change (table : BoxTable) (name : String) (columns : List String) (rows : List Row)
    (change : Change) : Except StoreError Outcome := do
  let columnName (index : Nat) : String := columns.getD index ""
  let done (rows : List Row) (given : Int) (last : Option Int) : Outcome :=
    ⟨.boxes table, rows, given, last⟩
  match change.new with
  | none =>
    match change.old with
    | some old =>
      if rows.any (·.id == old) then pure (done (withoutId rows old) 0 (some 1))
      else pure (done rows 0 none)
    | none => pure (done rows 0 none)
  | some (_, values) =>
    let kept ← match table.coordinates values with
      | .ok kept => pure kept
      | .error at_ =>
        throw (.constraint ("rtree constraint failed: " ++ name ++ ".(" ++ columnName at_ ++
          "<=" ++ columnName (at_ + 1) ++ ")"))
    let idValue := values.getD 0 .null
    let rows ← if idValue == .null then pure rows
      else
        let id := idValue.integerValue
        if change.old != some id && rows.any (·.id == id) then
          if change.replacing then pure (withoutId rows id)
          else throw (.constraint ("UNIQUE constraint failed: " ++ name ++ "." ++ columnName 0))
        else pure rows
    let rows := match change.old with
      | some old => withoutId rows old
      | none => rows
    let id := if idValue == .null then nextId rows else idValue.integerValue
    let auxiliary := (values.drop (1 + 2 * table.dimensions)).take table.auxiliary
    pure (done (rows ++ [⟨id, .integer id :: kept ++ auxiliary⟩]) id (some 1))

end BoxTable

/-- A change to a virtual table, by its kind, its name and the names of its columns; `source`
holds the rows of the table a full-text table takes its text from, for `rebuild`. -/
def VirtualKind.change (kind : VirtualKind) (name : String) (columns : List String)
    (rows : List Row) (change : Change) (source : List (Int × List Value)) :
    Except StoreError Outcome :=
  match kind with
  | .text table =>
    if table.version == .five then table.changeFive name rows change source
    else table.changeThree rows change
  | .boxes table => table.change name columns rows change

/-- Whether a module's refusal of a change is one that `OR IGNORE` passes over and that does not
count as a change: a constraint failure, from a module that reports them. -/
def VirtualKind.refusesQuietly (kind : VirtualKind) (error : StoreError) : Bool :=
  let reports := match kind with
    | .text table => table.version == .five
    | .boxes _ => true
  reports && match error with
    | .constraint _ => true
    | _ => false

end SheetExport.Store
