import SheetExport.Store.Sql.Eval

/-!
# References between tables

A reference makes some columns of a child table name a row of a parent table in the same
database, by the parent's key: its primary key, or columns that a unique constraint or a unique
index without condition covers, in their own collations. A parent whose key cannot be found so
is a mismatch, and a statement that needs the key fails.

While references are enforced, each write counts the references it breaks and those it mends: a
child row whose columns are all set and meet no parent row is broken; a parent row's key met by
child rows breaks them when it goes. A reference that is not deferred is counted for the
statement, which fails when it ends with any still broken; a deferred one is counted for the
transaction, which cannot commit while any is. A mend is only counted while something is broken.

A child row meets a parent row when each of its columns, given the affinity of the parent's
column, equals the parent's in the parent's collation; a parent row's key meets the child rows
whose columns equal it as a comparison of the two columns finds them.
-/

namespace SheetExport.Store.Sql

/-- One column of the key a reference meets in its parent: the position of the referring column
in the child, the position of the parent's column, and that column's affinity and collation
(integer affinity for the row id). -/
structure KeyPart where
  child : Nat
  parent : Nat
  affinity : Affinity
  collation : Collation

/-- The failure of a reference whose parent has no key for it. -/
def referenceMismatch (child parent : String) : StoreError :=
  .refused ("foreign key mismatch - \"" ++ child ++ "\" referencing \"" ++ parent ++ "\"")

/-- The key of its parent that a reference of a child table meets: the row id when the reference
has one column and names the parent's integer primary key or nothing; otherwise the primary key
when it names nothing, or the first unique constraint or index without condition on exactly the
columns it names, each in its column's own collation. -/
def parentKey (parent : TableSpec) (childName : String) (reference : ReferenceSpec) :
    Except StoreError (List KeyPart) :=
  let refusal := referenceMismatch childName reference.parent
  let count := reference.columns.length
  let columnOf (index : Nat) : Affinity × Collation :=
    ((parent.column? index).map fun column => (column.affinity, column.collation)).getD
      (.blob, .binary)
  let rowIdKey : Option (List KeyPart) :=
    match parent.rowIdColumn, reference.columns with
    | some rowId, [child] =>
      let named := (parent.column? rowId).map (·.name)
      if reference.parentColumns.isEmpty ||
          (reference.parentColumns.head?.any fun name => named.any (sameName name)) then
        some [⟨child, rowId, .integer, .binary⟩]
      else none
    | _, _ => none
  match rowIdKey with
  | some key => .ok key
  | none =>
    let candidates := parent.uniques.filter fun unique =>
      unique.columns.length == count && unique.condition.isNone && unique.expressions.isEmpty
    if reference.parentColumns.isEmpty then
      let primary := candidates.find? fun unique =>
        unique.index.isNone && !parent.primaryKey.isEmpty &&
          unique.columns.map (·.1) == parent.primaryKey.map (·.1)
      match primary with
      | some unique =>
        .ok ((unique.columns.zip reference.columns).map fun ((index, collation), child) =>
          ⟨child, index, (columnOf index).1, collation⟩)
      | none => .error refusal
    else
      let fits (unique : UniqueSpec) : Option (List KeyPart) :=
        unique.columns.mapM fun (index, collation) => do
          let column ← parent.column? index
          if collation != column.collation then none
          let position ← reference.parentColumns.findIdx? (sameName · column.name)
          let child ← reference.columns[position]?
          pure ⟨child, index, column.affinity, collation⟩
      match candidates.findSome? fits with
      | some key => .ok key
      | none => .error refusal

/-- The values of a child row's referring columns, none when one of them is NULL. -/
def referringValues (key : List KeyPart) (row : Row) : Option (List Value) :=
  key.mapM fun part =>
    match row.get part.child with
    | .null => none
    | value => some value

/-- Whether a parent table holds the row that the values of a child's referring columns name. -/
def parentHolds (parent : Table) (key : List KeyPart) (values : List Value) : Bool :=
  parent.rows.any fun row =>
    (key.zip values).all fun (part, value) =>
      Value.compareWith part.collation (value.withAffinity part.affinity) (row.get part.parent) ==
        .eq

/-- The rows of a child table that a parent row's key meets: each referring column, none NULL,
equal to the parent's value as a comparison of the parent's column with the child's finds it. -/
def referringRows (child : Table) (key : List KeyPart) (parentRow : Row) : List Row :=
  child.rows.filter fun row =>
    key.all fun part =>
      let childAffinity := ((child.spec.column? part.child).map (·.affinity)).getD .blob
      let affinity : Affinity :=
        if part.affinity.isNumeric || childAffinity.isNumeric then .numeric else .blob
      Eval.compareValues .eq (some affinity) part.collation (parentRow.get part.parent)
        (row.get part.child) == .integer 1

/-- Whether a reference's key changed between two versions of a parent row: some column of the
key differs, in its collation, or is NULL in one only. -/
def keyChanged (key : List KeyPart) (old new : Row) : Bool :=
  key.any fun part =>
    Eval.compareValues .isNot none part.collation (old.get part.parent) (new.get part.parent) ==
      .integer 1

/-- Counts references broken (a positive amount) or mended (a negative one): for the transaction
when the reference is deferred, for the statement otherwise. A mend counts only while something
is broken. -/
def countBroken (db : Database) (deferred : Bool) (amount : Int) : Database :=
  if deferred then
    if amount < 0 && db.pending ≤ 0 then db else { db with pending := db.pending + amount }
  else if amount < 0 && db.session.violations ≤ 0 then db
  else { db with session := { db.session with violations := db.session.violations + amount } }

/-- The references other tables of a schema make to a table, each with its child table. -/
def referencesTo (db : Database) (schema name : String) :
    List (Table × ReferenceSpec) :=
  (db.tables.filter (sameName ·.spec.schema schema)).flatMap fun child =>
    (child.spec.references.filter (sameName ·.parent name)).map (child, ·)

theorem countBroken_pending_mend (db : Database) (h : db.pending ≤ 0) :
    (countBroken db true (-1)).pending = db.pending := by
  simp [countBroken, h]

end SheetExport.Store.Sql
