import SheetExport.Store.Sql.Tree
import SheetExport.Store.Error
import SheetExport.Store.Virtual

/-!
# Tables

A table is a list of rows in row-id order. Its columns carry an affinity, a collation, a default,
and may refuse NULL; one column may be the row id itself (an integer primary key), and sets of
columns may be unique. A table with `autoIncrement` never reuses a row id: the greatest one it
ever gave is kept in the database's sequence table.

Writing a row first keeps each value as its column's affinity asks. It then checks, in this
order:

* the columns that refuse NULL, in column order;
* the `CHECK` constraints, in the order the table declares them, and the types of the columns of
  a strict table;
* that no other row has the row id;
* each unique constraint, in the order the table lists them.

Each check that fails acts as its conflict rule says. Rollback, abort and fail refuse the write
with an error. Ignore skips the row. Replace removes the other row. For a NULL in a column that
refuses it, replace puts in the column's default instead; with no default it refuses the write,
and so does a default that is itself NULL. A rule given with the statement overrides the rules of
the constraints. NULL values never conflict in a unique constraint. A `CHECK` constraint fails
when its condition is false (not NULL); it is never replaced, replace acting as abort.

A unique index may be on expressions of the columns, and may hold only the rows for which its
condition holds; the keys of such an index are computed by the statement that writes, which
knows how to evaluate them.
-/

namespace SheetExport.Store

/-- What a write does with a row that breaks a constraint. -/
inductive Conflict where
  | rollback
  | abort
  | fail
  | ignore
  | replace
  deriving DecidableEq, Repr

open Sql

/-- A column whose value is computed from the other columns of its row: the expression, and
whether the value is stored (otherwise it is computed when read, which gives the same value). -/
structure Generated where
  expr : Expr
  stored : Bool
  deriving Repr

/-- A column of a table. -/
structure ColumnSpec where
  name : String
  /-- The type as declared, its words joined by single spaces; empty when none was given. -/
  declared : String
  affinity : Affinity
  /-- How a NULL in the column is refused, or `none` when the column takes NULL. -/
  notNull : Option Conflict
  /-- The value of a row that leaves the column out, or `none` when none was declared. -/
  default : Option Value
  collation : Collation
  generated : Option Generated
  /-- The default as its definition wrote it, or `none` when none was declared. -/
  defaultText : Option String
  deriving Repr

/-- A `CHECK` constraint: the name its failure shows (its own name, or the text of its condition)
and the condition, as written over the table's columns. -/
structure CheckSpec where
  name : String
  condition : Expr
  deriving Repr

/-- A set of columns, or of expressions of the columns, in which no two rows hold equal values,
each compared in its collation. -/
structure UniqueSpec where
  columns : List (Nat × Collation)
  onConflict : Conflict
  /-- The index a statement created to ask for it; none for a constraint of the table itself. -/
  index : Option String
  /-- For an index on expressions, the expressions with their collations; empty otherwise. -/
  expressions : List (Expr × Collation)
  /-- The condition of a partial index, which holds only the rows it keeps. -/
  condition : Option Expr
  /-- For a constraint of the table itself, its place among them in the order they were declared,
  counted from one; the index it brings is named for it. -/
  serial : Nat
  deriving Repr

/-- An index a statement created on a table: whether it makes its terms unique, its terms, and
the condition of a partial index. -/
structure IndexSpec where
  name : String
  unique : Bool
  terms : List Expr
  /-- Whether each term is kept in descending order. -/
  descending : List Bool
  condition : Option Expr
  /-- The text of its definition, as the schema table shows it. -/
  sql : String
  /-- Its row in the schema table. -/
  entry : Nat
  deriving Repr

/-- What a change of a row of a parent table does to the rows that refer to its key. -/
inductive ReferenceAction where
  /-- Nothing: rows left referring to no row break the reference. -/
  | noAction
  /-- The change fails while a row refers to the key. -/
  | restrict
  | setNull
  | setDefault
  /-- The referring rows are removed with the parent row, or follow its new key. -/
  | cascade
  deriving DecidableEq, Repr

/-- A reference from some columns of a table to the key of a parent table in its database: the
columns, the parent's name, the parent's columns as written (none for its primary key), what a
removal and a change of a parent row do, and whether a broken reference may wait for the end of
the transaction. -/
structure ReferenceSpec where
  columns : List Nat
  parent : String
  parentColumns : List String
  onDelete : ReferenceAction
  onUpdate : ReferenceAction
  deferred : Bool
  deriving Repr

/-- The shape of a table. -/
structure TableSpec where
  name : String
  /-- The database that holds the table: `main`, `temp`, or the name of an attached one. -/
  schema : String
  columns : List ColumnSpec
  /-- The column that is the row id. -/
  rowIdColumn : Option Nat
  /-- How a second row with the same row id is refused. -/
  rowIdConflict : Conflict
  /-- The unique constraints, in the order a write checks them. -/
  uniques : List UniqueSpec
  autoIncrement : Bool
  /-- The indexes statements created on the table, the latest first. -/
  indexes : List IndexSpec
  checkConstraints : List CheckSpec
  /-- Whether each column must hold values of its declared type. -/
  strict : Bool
  /-- Whether the table has no row id, its rows being kept in the order of its primary key. -/
  withoutRowId : Bool
  /-- The columns of the primary key of a table without row id. -/
  primaryKey : List (Nat × Collation)
  /-- The references to parent tables, in the order they were declared. -/
  references : List ReferenceSpec
  /-- The text of its definition, as the schema table shows it. -/
  sql : String
  /-- Its row in the schema table; the indexes its constraints bring take the rows after it. -/
  entry : Nat
  /-- The module of a virtual table; none for a table that keeps its rows itself. -/
  virtual : Option VirtualKind := none
  deriving Repr

/-- Whether a column of a table is hidden: one of the last columns of a virtual table that its
module keeps out of `*`. -/
def TableSpec.isHidden (spec : TableSpec) (index : Nat) : Bool :=
  match spec.virtual with
  | some kind => spec.columns.length - kind.hidden ≤ index
  | none => false

/-- A row: its id and one value per column; the row-id column holds the id. -/
structure Row where
  id : Int
  values : List Value
  deriving DecidableEq, Repr, Inhabited

/-- A table: its shape and its rows in row-id order. -/
structure Table where
  spec : TableSpec
  rows : List Row
  deriving Repr

namespace Row

/-- The value of a column by its position. -/
def get (row : Row) (index : Nat) : Value := row.values.getD index .null

end Row

namespace TableSpec

/-- The position of a column named `name`. -/
def columnIndex? (spec : TableSpec) (name : String) : Option Nat :=
  spec.columns.findIdx? (fun column => sameName column.name name)

/-- The column at a position. -/
def column? (spec : TableSpec) (index : Nat) : Option ColumnSpec := spec.columns[index]?

/-- The name of a column as a constraint failure shows it: `table.column`. -/
def qualified (spec : TableSpec) (index : Nat) : String :=
  spec.name ++ "." ++ ((spec.column? index).map (·.name)).getD ""

/-- The row id as a constraint failure shows it: its column, or `rowid`. -/
def rowIdShown (spec : TableSpec) : String :=
  match spec.rowIdColumn with
  | some index => spec.qualified index
  | none => spec.name ++ ".rowid"

/-- What the failure of a unique constraint shows: its columns, or the name of an index on
expressions. -/
def uniqueShown (spec : TableSpec) (unique : UniqueSpec) : String :=
  if unique.expressions.isEmpty then
    ", ".intercalate (unique.columns.map fun (index, _) => spec.qualified index)
  else "index '" ++ unique.index.getD "" ++ "'"

/-- The values of a row as the columns keep them, the row-id column holding the id. -/
def keep (spec : TableSpec) (id : Int) (values : List Value) : List Value :=
  (spec.columns.zipIdx.zip values).map fun ((column, index), value) =>
    if spec.rowIdColumn == some index then .integer id
    else Value.withAffinity column.affinity value

/-- The first pass over the columns that refuse NULL, in column order. A column whose rule is
replace and that has a default takes the default for a NULL; otherwise a NULL is skipped under
ignore and refused under the other rules. `none` means the row is skipped. -/
def fillNulls (spec : TableSpec) (override : Option Conflict) :
    List (ColumnSpec × Nat) → List Value → Except StoreError (Option (List Value))
  | [], values => .ok (some values)
  | _, [] => .ok (some [])
  | (column, index) :: columns, value :: values =>
    let onward (kept : Value) : Except StoreError (Option (List Value)) :=
      (fillNulls spec override columns values).map (·.map (kept :: ·))
    match column.notNull with
    | none => onward value
    | some own =>
      if spec.rowIdColumn == some index || value != .null then onward value
      else
        match override.getD own, column.default with
        | .replace, some default => onward (Value.withAffinity column.affinity default)
        | .ignore, _ => .ok none
        | _, _ => .error (.notNull spec.name column.name)

/-- The second pass: a column whose rule is replace refuses a NULL that its default left. -/
def recheckNulls (spec : TableSpec) (override : Option Conflict) (values : List Value) :
    Except StoreError Unit :=
  (spec.columns.zipIdx.zip values).forM fun ((column, index), value) =>
    match column.notNull with
    | some own =>
      if override.getD own == .replace && spec.rowIdColumn != some index && value == .null then
        .error (.notNull spec.name column.name)
      else .ok ()
    | none => .ok ()

/-- The name of the kind of a value, as a failure of a strict table's types shows it. -/
def kindShown : Value → String
  | .null => "NULL"
  | .integer _ => "INT"
  | .real _ => "REAL"
  | .text _ => "TEXT"
  | .blob _ => "BLOB"

/-- Whether a value, already kept as its column's affinity asks, has a column's declared type in
a strict table: `INT` and `INTEGER` take integers, `REAL` reals, `TEXT` text, `BLOB` blobs, and
`ANY` everything. -/
def fitsType (declared : String) (value : Value) : Bool :=
  match value with
  | .null => true
  | .integer _ => declared == "INT" || declared == "INTEGER" || declared == "ANY"
  | .real _ => declared == "REAL" || declared == "ANY"
  | .text _ => declared == "TEXT" || declared == "ANY"
  | .blob _ => declared == "BLOB" || declared == "ANY"

/-- Checks the types of the columns of a strict table, in column order, with the values as the
columns keep them; the row id and the columns computed when read are not checked, nor the stored
generated columns unless `generated` asks for them. -/
def typeCheck (spec : TableSpec) (generated : Bool) (values : List Value) :
    Except StoreError Unit :=
  if !spec.strict then .ok ()
  else
    (spec.columns.zipIdx.zip values).forM fun ((column, index), value) =>
      let skipped := spec.rowIdColumn == some index ||
        (match column.generated with
          | some computed => !computed.stored || !generated
          | none => false)
      if skipped || fitsType column.declared value then .ok ()
      else
        .error (.constraint ("cannot store " ++ kindShown value ++ " value in " ++
          column.declared ++ " column " ++ spec.name ++ "." ++ column.name))

end TableSpec

/-- Whether a row holds the given values in the columns of a unique constraint; a NULL is equal to
nothing. -/
def UniqueSpec.clashes (unique : UniqueSpec) (values : List Value) (row : Row) : Bool :=
  unique.columns.all fun (index, collation) =>
    let value := values.getD index .null
    value != .null && Value.compareWith collation (row.get index) value == .eq

/-- The collations a unique constraint compares its key in. -/
def UniqueSpec.collations (unique : UniqueSpec) : List Collation :=
  if unique.expressions.isEmpty then unique.columns.map (·.2) else unique.expressions.map (·.2)

/-- Whether a unique constraint is on plain columns of every row, so that its key is read from
the row's values. -/
def UniqueSpec.isPlain (unique : UniqueSpec) : Bool :=
  unique.expressions.isEmpty && unique.condition.isNone

/-- Computes the key a unique constraint gives a row: none when the row is outside a partial
index. -/
abbrev KeyReader := UniqueSpec → Row → Except StoreError (Option (List Value))

/-- The checks a write makes beyond the table's own: `verify` runs the `CHECK` constraints on the
values after the columns that refuse NULL (false to leave the row unwritten), `checking` says
whether any constraint runs at all, and `keyOf` computes the keys of unique indexes on expressions
or of partial ones. -/
structure RowRules where
  checking : Bool
  verify : Row → Except StoreError Bool
  keyOf : KeyReader

/-- The key a unique constraint on plain columns gives a row. -/
def plainKey : KeyReader := fun unique row => .ok (some (unique.columns.map fun (i, _) => row.get i))

/-- No checks beyond the table's own, for a table with only plain keys. -/
def RowRules.plain : RowRules := ⟨false, fun _ => .ok true, plainKey⟩

/-- Whether two keys are equal in their collations, a NULL being equal to nothing. -/
def keysEqual (collations : List Collation) (a b : List Value) : Bool :=
  ((collations.zip a).zip b).all fun ((collation, x), y) =>
    x != .null && y != .null && Value.compareWith collation x y == .eq

namespace Table

/-- An empty table of a shape. -/
def empty (spec : TableSpec) : Table := ⟨spec, []⟩

/-- The greatest row id, if there is a row. -/
def greatestId? (table : Table) : Option Int :=
  table.rows.foldl (fun best row => some (match best with
    | some top => max top row.id
    | none => row.id)) none

/-- The row id of a new row: one more than the greatest, or 1 in an empty table; with a sequence,
also more than the sequence. No id is left once the greatest id or the sequence is the greatest
integer. -/
def freshId (table : Table) (sequence : Option Int) : Except StoreError Int :=
  let next : Option Int := match table.greatestId? with
    | none => some 1
    | some top => if top == Value.greatestInteger then none else some (top + 1)
  match next, sequence with
  | none, _ => .error .full
  | some next, none => .ok next
  | some next, some counted =>
    if counted == Value.greatestInteger then .error .full else .ok (max next (counted + 1))

/-- Places a row among rows in row-id order. -/
def place (row : Row) : List Row → List Row
  | [] => [row]
  | first :: rest => if row.id < first.id then row :: first :: rest else first :: place row rest

/-- Removes the row with an id. -/
def without (table : Table) (id : Int) : Table :=
  { table with rows := table.rows.filter (·.id != id) }

/-- The row with an id. -/
def find? (table : Table) (id : Int) : Option Row := table.rows.find? (·.id == id)

end Table

/-- A key a write checks for a clash with another row: the row id, or a unique constraint by
its position among the table's. -/
inductive Key where
  | rowId
  | unique (position : Nat)
  deriving DecidableEq, Repr

/-- What a write does when a key clashes: what a conflict rule says, or hand the clashing row to
the `DO UPDATE` clause of a position. -/
inductive Response where
  | rule (conflict : Conflict)
  | update (clause : Nat)
  deriving DecidableEq, Repr

/-- An `ON CONFLICT` clause as a write sees it: the key it names (none for every key), and
whether it updates the clashing row rather than leave the new one unwritten. -/
structure ClashClause where
  key : Option Key
  updates : Bool
  deriving DecidableEq, Repr

/-- What became of a write. -/
inductive Written where
  /-- The table with the row placed, without the rows a replace removed. -/
  | stored (table : Table)
  /-- The row was left unwritten. -/
  | skipped
  /-- A key clashed and a `DO UPDATE` clause takes it up: the clause, the other row, and the row
  the write proposed, as the clause sees it. -/
  | clashed (clause : Nat) (other : Row) (proposed : Row)

namespace TableSpec

/-- Whether the table has an index: a unique constraint, or an index a statement created. -/
def hasIndex (spec : TableSpec) : Bool := !spec.uniques.isEmpty || !spec.indexes.isEmpty

/-- The checks of a write with no `ON CONFLICT` clause: the row id, then the unique constraints
in order, each under the statement's rule or else its own. When the row id's own rule is replace
and the statement gives none, the row id goes last, once the other keys have been checked. -/
def plainChecks (spec : TableSpec) (override : Option Conflict) : List (Key × Response) :=
  let rowId := (Key.rowId, Response.rule (override.getD spec.rowIdConflict))
  let uniques := spec.uniques.zipIdx.map fun (unique, position) =>
    (Key.unique position, Response.rule (override.getD unique.onConflict))
  if override.isNone && spec.rowIdConflict == .replace && spec.hasIndex then uniques ++ [rowId]
  else rowId :: uniques

/-- Places the row id's check after the first of some unique checks whose own test holds, or
last. -/
def placeRowId (rowId : Key × Response) (after : Nat → Bool) :
    List (Key × Response) → List (Key × Response)
  | [] => [rowId]
  | check :: rest =>
    match check.1 with
    | .unique position => if after position then check :: rowId :: rest
      else check :: placeRowId rowId after rest
    | .rowId => check :: placeRowId rowId after rest

/-- The checks of a write, in the order they run, under the statement's rule and the `ON CONFLICT`
clauses of an insert.

A lone clause for every key answers every clash: `DO NOTHING` as the rule ignore does, `DO UPDATE`
with itself. Otherwise a key is answered by the first clause that names it, else by a last clause
for every key, else by its rule. The unique constraints the clauses name are checked first, in
the order of the clauses, then the others in order. The row id is checked first when the first
clause answers it; otherwise after the first unique constraint whose clause is the last one or
is followed by a clause answering the row id, or last. -/
def checks (spec : TableSpec) (override : Option Conflict) (clauses : List ClashClause) :
    List (Key × Response) :=
  match clauses with
  | [] => spec.plainChecks override
  | first :: _ =>
    match first.key with
    | none =>
      if first.updates then
        (Key.rowId, Response.update 0) ::
          (List.range spec.uniques.length).map fun position => (Key.unique position, .update 0)
      else spec.plainChecks (some .ignore)
    | some _ =>
      let clauseOf (key : Key) : Option Nat :=
        clauses.findIdx? (·.key == some key) <|> clauses.findIdx? (·.key == none)
      let answer (key : Key) (own : Conflict) : Response :=
        match clauseOf key with
        | some clause =>
          if (clauses[clause]?.map (·.updates)).getD false then .update clause else .rule .ignore
        | none => .rule (override.getD own)
      let named := (clauses.filterMap fun clause => match clause.key with
        | some (.unique position) => some position
        | _ => none).eraseDups
      let order := named ++ (List.range spec.uniques.length).filter (!named.contains ·)
      let uniques := order.map fun position =>
        (Key.unique position,
          answer (.unique position) ((spec.uniques[position]?.map (·.onConflict)).getD .abort))
      let rowId := (Key.rowId, answer .rowId spec.rowIdConflict)
      let answersRowId (clause : ClashClause) : Bool := clause.key == none || clause.key == some .rowId
      if clauseOf .rowId == some 0 then rowId :: uniques
      else
        placeRowId rowId (fun position =>
          match clauseOf (.unique position) with
          | some clause => (clauses[clause + 1]?.map answersRowId).getD true
          | none => false) uniques

end TableSpec

namespace Table

/-- The rows that clash with a row in a key. -/
def clashing (spec : TableSpec) (keyOf : KeyReader) (id : Int) (values : List Value)
    (rows : List Row) : Key → Except StoreError (List Row)
  | .rowId => .ok (if spec.withoutRowId then [] else rows.filter (·.id == id))
  | .unique position =>
    match spec.uniques[position]? with
    | some unique =>
      if unique.isPlain then .ok (rows.filter (unique.clashes values))
      else do
        match ← keyOf unique ⟨id, values⟩ with
        | none => pure []
        | some key =>
          rows.filterM fun row => do
            match ← keyOf unique row with
            | some other => pure (keysEqual unique.collations key other)
            | none => pure false
    | none => .ok []

/-- The failure of a clash in a key. -/
def clashError (spec : TableSpec) : Key → StoreError
  | .rowId => .unique spec.rowIdShown
  | .unique position =>
    match spec.uniques[position]? with
    | some unique => .unique (spec.uniqueShown unique)
    | none => .unique spec.name

/-- Runs the checks of a write in order against the rows. A clause that takes up a clash in the
row id before any unique constraint was checked sees the values as given (`given`), not yet kept
as the columns ask. The types of a strict table, when no `CHECK` constraint checked them
(`pending`), are checked before the first unique constraint, or else last. -/
def runChecks (spec : TableSpec) (keyOf : KeyReader) (id : Int) (values given : List Value)
    (first pending : Bool) : List (Key × Response) → List Row → Except StoreError Written
  | [], rows => do
    if pending then spec.typeCheck true values
    pure (.stored ⟨spec, place ⟨id, values⟩ rows⟩)
  | (key, response) :: rest, rows => do
    let pending ← if pending && key != .rowId then do
        spec.typeCheck true values
        pure false
      else pure pending
    match ← clashing spec keyOf id values rows key with
    | [] => runChecks spec keyOf id values given false pending rest rows
    | other :: more =>
      match response with
      | .rule .replace =>
        let removed := (other :: more).map (·.id)
        runChecks spec keyOf id values given false pending rest
          (rows.filter fun row => !removed.contains row.id)
      | .rule .ignore => pure .skipped
      | .rule _ => throw (clashError spec key)
      | .update clause =>
        let seen := if first && key == .rowId then given else values
        pure (.clashed clause other ⟨id, seen⟩)

/-- Writes a row with an id under the statement's rule and the checks of its keys: the values
are kept as the columns ask, the columns that refuse NULL are checked under the statement's rule,
then the rules beyond the table's own, and then the keys in the order of the checks. -/
def writeChecked (table : Table) (override : Option Conflict) (rules : RowRules)
    (checks : List (Key × Response)) (id : Int) (values : List Value) :
    Except StoreError Written := do
  let spec := table.spec
  let kept := spec.keep id values
  let some filled ← spec.fillNulls override spec.columns.zipIdx kept | pure .skipped
  spec.recheckNulls override filled
  if rules.checking then
    spec.typeCheck true filled
    if !(← rules.verify ⟨id, filled⟩) then return .skipped
  let given := ((spec.columns.zip values).zip filled).map fun ((column, value), fill) =>
    match value, column.affinity with
    | .null, _ => fill
    | .integer n, .real => .real (Binary64.ofInt n)
    | value, _ => value
  runChecks spec rules.keyOf id filled given true (!rules.checking) checks table.rows

/-- Writes a row with an id under the statement's rule and the table's own; the result is the
table with the row placed and the rows a replace removed, or `none` when the row is skipped. A
row an update changes must be taken out of the table first. -/
def write (table : Table) (override : Option Conflict) (rules : RowRules) (id : Int)
    (values : List Value) : Except StoreError (Option Table) := do
  match ← table.writeChecked override rules (table.spec.plainChecks override) id values with
  | .stored written => pure (some written)
  | _ => pure none

theorem place_length (row : Row) (rows : List Row) : (place row rows).length = rows.length + 1 := by
  induction rows with
  | nil => rfl
  | cons first rest ih =>
    unfold place
    split <;> simp [ih]

end Table

/-- The shape of the table that keeps the greatest row id each autoincrementing table gave. -/
def sequenceSpec : TableSpec :=
  { name := "sqlite_sequence", schema := "main",
    columns := [⟨"name", "", .blob, none, none, .binary, none, none⟩,
      ⟨"seq", "", .blob, none, none, .binary, none, none⟩],
    rowIdColumn := none, rowIdConflict := .abort, uniques := [], autoIncrement := false,
    indexes := [], checkConstraints := [], strict := false, withoutRowId := false, primaryKey := [],
    references := [], sql := "CREATE TABLE sqlite_sequence(name,seq)", entry := 0 }

end SheetExport.Store
