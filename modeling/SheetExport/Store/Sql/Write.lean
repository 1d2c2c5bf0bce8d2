import SheetExport.Store.Sql.Query

/-!
# What a write checks beyond the keys

A table may ask more of a row than its keys: `CHECK` constraints, unique indexes on expressions
or on the rows a condition keeps, and columns computed from the others. Each is written over the
table's own columns and looked up against the table before a statement writes; this module turns
them into the rules a write runs (`RowRules`) and computes the generated columns of a row.

**Checks.** A `CHECK` constraint lets a row through when its condition is true or NULL. `AND`
and `OR` stop as soon as the outcome is known: `x AND y` is not tested further once `x` is false,
and `x OR y` once `x` is true or NULL. A row that fails is skipped under the rule ignore and
refused otherwise, replace acting as abort. An update checks only the constraints that read a
column it changes (or the row id, when it changes that).

**Generated columns.** Once the other columns are kept as their affinities ask, the generated
columns are computed in passes over the columns in order: a column whose expression reads a
generated column not yet computed waits for the next pass. A pass that computes nothing leaves a
loop, which fails. Each value is kept as its column's affinity asks.
-/

namespace SheetExport.Store.Sql

/-- A scope reading one row of a table at its only level, for the expressions a table holds at a
place (a `CHECK` constraint, a generated column, an index) whose values must not change with the
clock. -/
def tableScope (base : Scope) (place : String) (row : Row) : Scope :=
  { base with levels := [Level.single row], steadyPlace := some place }

mutual

/-- Whether a `CHECK` condition lets a row through: true or NULL. -/
def Expr.passes (run : QueryRunner) (scope : Scope) (e : Expr) : Except StoreError Bool :=
  match e with
  | .binary .and left right => do
    if ← left.fails run scope then pure false else right.passes run scope
  | .binary .or left right => do
    if ← left.passes run scope then pure true else right.passes run scope
  | _ => do
    let value ← e.eval run scope
    pure (value.truth != some false)
termination_by sizeOf e

/-- Whether a condition is false (not NULL), tested as a `CHECK` inside `AND` tests it. -/
def Expr.fails (run : QueryRunner) (scope : Scope) (e : Expr) : Except StoreError Bool :=
  match e with
  | .binary .and left right => do
    if ← left.fails run scope then pure true else right.fails run scope
  | .binary .or left right => do
    if ← left.passes run scope then pure false else right.fails run scope
  | _ => do
    let value ← e.eval run scope
    pure (value.truth == some false)
termination_by sizeOf e

end

/-- The columns of a table an expression over its row reads, and whether it reads the row id. -/
def Expr.tableColumns : Expr → List Nat × Bool
  | .column ⟨0, 0⟩ (.column index) _ _ => ([index], false)
  | .column ⟨0, 0⟩ .rowId _ _ => ([], true)
  | .unary _ operand | .isNull operand | .notNull operand | .cast operand _
  | .collate operand _ => operand.tableColumns
  | .binary _ left right =>
    let (a, x) := left.tableColumns
    let (b, y) := right.tableColumns
    (a ++ b, x || y)
  | .between operand low high =>
    let (a, x) := operand.tableColumns
    let (b, y) := low.tableColumns
    let (c, z) := high.tableColumns
    (a ++ b ++ c, x || y || z)
  | .inList operand items =>
    let (a, x) := operand.tableColumns
    let inner := items.attach.map fun ⟨item, _⟩ => item.tableColumns
    (a ++ (inner.map (·.1)).flatten, x || inner.any (·.2))
  | .call _ _ arguments =>
    let inner := arguments.attach.map fun ⟨argument, _⟩ => argument.tableColumns
    ((inner.map (·.1)).flatten, inner.any (·.2))
  | .choose condition yes no =>
    let (a, x) := condition.tableColumns
    let (b, y) := yes.tableColumns
    let (c, z) := no.tableColumns
    (a ++ b ++ c, x || y || z)
  | .vector items =>
    let inner := items.attach.map fun ⟨item, _⟩ => item.tableColumns
    ((inner.map (·.1)).flatten, inner.any (·.2))
  | _ => ([], false)
termination_by e => sizeOf e

/-- Whether an expression over a table's row reads a changed column, or the row id when it
changes. -/
def Expr.readsChanged (changed : List Nat) (rowIdChanged : Bool) (e : Expr) : Bool :=
  let (columns, rowId) := e.tableColumns
  columns.any changed.contains || (rowId && rowIdChanged)

/-- The `CHECK` constraints of a table looked up over its columns, with the names their failures
show. -/
def checkExprsOf (spec : TableSpec) (db : Database) :
    Except StoreError (List (String × Expr)) :=
  spec.checkConstraints.mapM fun check => do
    pure (check.name, ← resolveIn (Context.ofTable db spec spec.name .check) check.condition)

/-- The generated columns of a table with their expressions looked up over its columns. -/
def generatedExprsOf (spec : TableSpec) (db : Database) :
    Except StoreError (List (Nat × Expr)) :=
  spec.columns.zipIdx.filterMapM fun (column, index) =>
    match column.generated with
    | some generated => do
      pure (some (index, ← resolveIn (Context.ofTable db spec spec.name .generated) generated.expr))
    | none => pure none

/-- The columns a write changes, for an update: each changed column, and the generated columns
that read a changed one, until no more are found. -/
def changedWithGenerated (generated : List (Nat × Expr)) (rowIdChanged : Bool)
    (changed : List Nat) : List Nat :=
  let rec grow (fuel : Nat) (changed : List Nat) : List Nat :=
    match fuel with
    | 0 => changed
    | fuel + 1 =>
      let more := generated.filterMap fun (index, e) =>
        if !changed.contains index && e.readsChanged changed rowIdChanged then some index else none
      if more.isEmpty then changed else grow fuel (changed ++ more)
  grow (generated.length + 1) changed

/-- Runs `CHECK` constraints on a row in order: false when one fails under the rule ignore. -/
def runRowChecks (run : QueryRunner) (base : Scope) (override : Option Conflict)
    (checks : List (String × Expr)) (row : Row) : Except StoreError Bool :=
  match checks with
  | [] => .ok true
  | (name, condition) :: rest => do
    if ← condition.passes run (tableScope base "a CHECK constraint" row) then
      runRowChecks run base override rest row
    else if override == some .ignore then pure false
    else throw (.check name)

/-- The key a unique constraint gives a row: none when a partial index leaves the row out;
otherwise its expressions, or its columns, read from the row. -/
def keyReader (run : QueryRunner) (base : Scope) : KeyReader := fun unique row => do
  let scope := tableScope base "an index" row
  if let some condition := unique.condition then
    if !(← condition.holds run scope) then return none
  if unique.expressions.isEmpty then
    pure (some (unique.columns.map fun (index, _) => row.get index))
  else
    pure (some (← unique.expressions.mapM fun (e, _) => e.eval run scope))

/-- The rules a write on a table runs beyond its keys: its `CHECK` constraints (for an update,
those that read what it changes) and the keys of its unique indexes. -/
def writeRules (run : QueryRunner) (base : Scope) (override : Option Conflict)
    (checks : List (String × Expr)) (changes : Option (List Nat × Bool)) : RowRules :=
  let running := match changes with
    | some (changed, rowIdChanged) =>
      checks.filter fun (_, condition) => condition.readsChanged changed rowIdChanged
    | none => checks
  ⟨!running.isEmpty, runRowChecks run base override running,
    keyReader run base⟩

/-- Computes the generated columns of a row with an id, in passes, each value kept as its
column's affinity asks. -/
def computeGenerated (run : QueryRunner) (base : Scope) (spec : TableSpec)
    (generated : List (Nat × Expr)) (id : Int) (values : List Value) :
    Except StoreError (List Value) :=
  let rec pass (fuel : Nat) (waiting : List (Nat × Expr)) (values : List Value) :
      Except StoreError (List Value) :=
    match fuel with
    | 0 => .ok values
    | fuel + 1 => do
      if waiting.isEmpty then return values
      let step (state : List Value × List Nat × List (Nat × Expr) × Bool) (entry : Nat × Expr) :
          Except StoreError (List Value × List Nat × List (Nat × Expr) × Bool) := do
        let (values, missing, later, progress) := state
        let (index, e) := entry
        if e.readsChanged missing false then pure (values, missing, later ++ [entry], progress)
        else
          let value ← e.eval run (tableScope base "a generated column" ⟨id, values⟩)
          let affinity := ((spec.column? index).map (·.affinity)).getD .blob
          pure (values.set index (Value.withAffinity affinity value), missing.erase index, later,
            true)
      let (values, _, later, progress) ←
        waiting.foldlM step (values, waiting.map (·.1), [], false)
      if !progress then
        match later.getLast? with
        | some (index, _) =>
          throw (.refused ("generated column loop on \"" ++
            ((spec.column? index).map (·.name)).getD "" ++ "\""))
        | none => pure values
      else pass fuel later values
  pass (generated.length + 1) generated values

end SheetExport.Store.Sql
