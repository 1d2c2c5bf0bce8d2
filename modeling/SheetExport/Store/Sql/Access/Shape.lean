import SheetExport.Store.Sql.Access.Term

/-!
# Shapes of tables and indexes

What the choice of reading knows of a table: its estimated rows and row width, and its indexes in
the order they are tried. The indexes a statement created come first, the latest first; then the
indexes of the table's own unique constraints, in the order writes check them.

Without measurements a table is taken to hold about a million rows, and each further column of an
index's key to narrow the rows that share its prefix: ten rows share the first column, nine the
first two, then eight, seven and six, and five for each further column; a unique index ends at one
row. A partial index holds half the rows of its table. `ANALYZE` records measurements: a line of
numbers per index, the rows of the index followed by the rows that share each prefix of its key,
and a line with the rows of a table that has no index. Measured numbers replace the defaults; a
table with a measured index takes its rows from it, and one whose other indexes are unmeasured is
then taken to hold at least a thousand rows.
-/

namespace SheetExport.Store.Sql.Access

/-- A part of the key of an index: what it holds of a row, its collation, and whether it is kept
in descending order. -/
structure IndexKey where
  target : Key
  collation : Collation
  descending : Bool
  deriving Repr

/-- An index as the choice of reading sees it. -/
structure IndexShape where
  name : String
  keys : List IndexKey
  unique : Bool
  /-- Whether the index is unique and none of its keys can be NULL. -/
  uniqueNotNull : Bool
  /-- The condition of a partial index, over its table as source 0. -/
  condition : Option Expr
  /-- The estimated rows of the index, then the rows that share each prefix of its key. -/
  rows : List Estimate
  width : Estimate
  /-- The columns of the table the index holds as they are. -/
  holds : List Nat
  /-- Whether the index is the primary key of a table without row id, which holds every column. -/
  primary : Bool
  /-- Whether `ANALYZE` measured the index. -/
  measured : Bool
  /-- Whether the measurements say the index keeps no useful order. -/
  unordered : Bool
  deriving Repr

/-- A table as the choice of reading sees it. -/
structure TableShape where
  spec : TableSpec
  /-- The estimated rows of the table and the width of a row. -/
  rows : Estimate
  width : Estimate
  indexes : List IndexShape
  deriving Repr

/-- A line of measurements: the table, the index (none for the table itself), and the numbers as
text. -/
abbrev Measurement := String × Option String × String

/-- The estimated rows that share each prefix of a key of `count` parts, by default. -/
def defaultNarrowing (count : Nat) : List Estimate :=
  (List.range count).map fun position => [33, 32, 30, 28, 26].getD position 23

/-- The numbers at the start of a line of measurements, and whether a later word says the index
keeps no useful order. -/
def readMeasurement (text : String) : List Nat × Bool :=
  let words := (text.splitOn " ").filter (· != "")
  let numbers := (words.takeWhile fun word => word.all Char.isDigit).map String.toNat!
  (numbers, words.any (· == "unordered"))

/-- The key part an index term gives: a column (the row id for the row-id column) or an
expression, with the collation the term names or its column's, and its direction. -/
def indexKeyOf (spec : TableSpec) (term : Expr) (descending : Bool) : IndexKey :=
  let (inner, named) := match term with
    | .collate inner name => (inner, Collation.ofName? name)
    | other => (other, none)
  match inner with
  | .column _ (.column index) _ own =>
    let target := if spec.rowIdColumn == some index && !spec.withoutRowId then Key.rowId
      else .column index
    ⟨target, named.getD (own.getD .binary), descending⟩
  | .column _ .rowId _ _ => ⟨.rowId, named.getD .binary, descending⟩
  | other => ⟨.expr other, named.getD .binary, descending⟩

/-- Whether a key part can never be NULL: the row id, or a column declared `NOT NULL`. -/
def keyNotNull (spec : TableSpec) (key : IndexKey) : Bool :=
  match key.target with
  | .rowId => true
  | .column index => ((spec.columns[index]?).map (·.notNull.isSome)).getD false
  | .expr _ => false

/-- The columns of the table that key parts hold as they are. -/
def heldColumns (keys : List IndexKey) : List Nat :=
  keys.filterMap fun key => match key.target with
    | .column index => some index
    | _ => none

/-- The estimated width of an index row: its key parts, and the row id. -/
def indexWidth (spec : TableSpec) (keys : List IndexKey) : Estimate :=
  let part (key : IndexKey) : Nat := match key.target with
    | .column index =>
      ((spec.columns[index]?).map fun column => columnWidth column.declared column.affinity).getD 1
    | _ => 1
  Estimate.ofNat (4 * ((keys.map part).foldr (· + ·) 0 + 1))

/-- The shape of an index, with default estimates for a table of `rows` rows. -/
def IndexShape.make (spec : TableSpec) (name : String) (keys : List IndexKey) (unique : Bool)
    (condition : Option Expr) (primary : Bool) (rows : Estimate) : IndexShape :=
  let first := if condition.isSome then rows - 10 else rows
  let narrowing := defaultNarrowing keys.length
  let narrowing := if unique then narrowing.dropLast ++ [0] else narrowing
  { name := name
    keys := keys
    unique := unique
    uniqueNotNull := unique && keys.all (keyNotNull spec)
    condition := condition
    rows := first :: narrowing
    width := indexWidth spec keys
    holds := if primary then List.range spec.columns.length else heldColumns keys
    primary := primary
    measured := false
    unordered := false }

/-- The indexes of a table in the order they are tried, with default estimates. -/
def indexShapes (spec : TableSpec) (rows : Estimate) : List IndexShape :=
  let created := spec.indexes.map fun index =>
    let directions := index.descending ++ List.replicate index.terms.length false
    let keys := (index.terms.zip directions).map fun (term, down) => indexKeyOf spec term down
    IndexShape.make spec index.name keys index.unique index.condition false rows
  let constraints := (spec.uniques.filter (·.index.isNone)).map fun unique =>
    let keys := unique.columns.map fun (index, collation) =>
      let target := if spec.rowIdColumn == some index && !spec.withoutRowId then Key.rowId
        else .column index
      ({ target := target, collation := collation, descending := false } : IndexKey)
    let primary := spec.withoutRowId && unique.columns.map (·.1) == spec.primaryKey.map (·.1)
    IndexShape.make spec (Database.constraintIndexName spec unique) keys true none primary rows
  created ++ constraints

/-- Applies one line of measurements to a table's shape. -/
def TableShape.measure (shape : TableShape) (line : Measurement) : TableShape :=
  let (table, index, text) := line
  if !sameName table shape.spec.name then shape
  else
    let (numbers, unordered) := readMeasurement text
    let estimates := numbers.map Estimate.ofNat
    match index with
    | none =>
      match estimates.head? with
      | some rows => { shape with rows := rows }
      | none => shape
    | some name =>
      let measured (found : IndexShape) : Bool :=
        sameName found.name name || (sameName name table && found.primary)
      match shape.indexes.find? measured with
      | none => shape
      | some found =>
        let rows := estimates.take (found.keys.length + 1) ++
          found.rows.drop (min estimates.length (found.keys.length + 1))
        let updated := { found with rows := rows, measured := true, unordered := unordered }
        let tableRows := if found.condition.isNone then rows.headD shape.rows else shape.rows
        { shape with
          rows := tableRows
          indexes := shape.indexes.map fun other => if measured other then updated else other }

/-- The shape of a table under the measurements of its schema, in the order they were
recorded. -/
def TableShape.of (spec : TableSpec) (measurements : List Measurement) : TableShape :=
  let start : TableShape :=
    { spec := spec
      rows := Estimate.unknownRows
      width := tableWidth spec
      indexes := indexShapes spec Estimate.unknownRows }
  let measured := measurements.foldl TableShape.measure start
  if measured.indexes.all (·.measured) then measured
  else
    let rows := max measured.rows 99
    let defaults := indexShapes spec rows
    { measured with
      rows := rows
      indexes := (measured.indexes.zip defaults).map fun (found, fresh) =>
        if found.measured then found else fresh }

end SheetExport.Store.Sql.Access
