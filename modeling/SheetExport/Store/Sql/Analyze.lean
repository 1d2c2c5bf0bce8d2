import SheetExport.Store.Sql.Write

/-!
# Measuring tables

`ANALYZE` measures tables and their indexes and keeps what it finds in the table `sqlite_stat1`
of their database, which it makes when it is missing (`tbl`, `idx` and `stat` columns), and which
the planner reads. Measuring a whole database clears that table first; measuring one table or one
index removes only the rows about it.

The tables of a database are measured in the order the catalog keeps them in: a hash table of
their names (the schema table's own name, then the tables and views in the order they were
defined), which lists the names in the reverse of the order they came in while it holds fewer than
ten, and is spread over buckets by a multiplicative hash of the names (ASCII letters folded to
lower case) once it holds more. Views and the tables named `sqlite_…` are not measured.

Each index of a table that holds rows, the latest made first, gets a row: the table, the index
(the table itself for the primary key of a table without row id), and a text of numbers: the rows
of the index, then for each of its first 1, 2, … terms the rows that share a value of those terms
on average, rounded up, and 1 where that is 2 but the values are nearly all different. Terms are
compared in their collations, NULL equal to NULL. A table with no index that keeps every row gets a
row with no index and its count of rows, when it has rows.
-/

namespace SheetExport.Store.Sql

namespace Analyze

/-- The hash of a name in the catalog: each byte, ASCII letters folded to lower case, is added
and the sum multiplied by 2654435761, in 32 bits. -/
def nameHash (name : String) : UInt32 :=
  (Text.encodeUtf8 name).foldl (fun h byte =>
    let lower := if 65 ≤ byte && byte ≤ 90 then byte + 32 else byte
    (h + lower.toUInt32) * 2654435761) 0

/-- A hash table of names as the catalog keeps it: the list it goes through, first first, the
number of buckets, and for each bucket how many names it holds and the first of them in the
list. -/
structure NameTable where
  list : List String
  size : Nat
  buckets : List (Nat × Option String)

/-- The empty table, with no buckets. -/
def NameTable.empty : NameTable := ⟨[], 0, []⟩

/-- The bucket of a name. -/
def NameTable.bucketOf (table : NameTable) (name : String) : Nat :=
  if table.size == 0 then 0 else (nameHash name).toNat % table.size

/-- Puts a name into the list: before the first name of its bucket when the bucket holds some,
else at the head of the list. -/
def NameTable.place (table : NameTable) (name : String) : NameTable :=
  if table.size == 0 then { table with list := name :: table.list }
  else
    let bucket := table.bucketOf name
    let (count, head) := table.buckets.getD bucket (0, none)
    let list := match (if count == 0 then none else head) with
      | some first =>
        let position := (table.list.findIdx? (· == first)).getD 0
        table.list.take position ++ name :: table.list.drop position
      | none => name :: table.list
    { table with list := list, buckets := table.buckets.set bucket (count + 1, some name) }

/-- Spreads the names over a number of buckets, taking them in list order. -/
def NameTable.spread (table : NameTable) (size : Nat) : NameTable :=
  table.list.foldl (fun spread name => spread.place name)
    ⟨[], size, List.replicate size (0, none)⟩

/-- Adds a name; once the table holds ten names or more and more than twice as many names as
buckets, it spreads them over twice as many buckets as names, 64 at most. -/
def NameTable.insert (table : NameTable) (name : String) : NameTable :=
  let count := table.list.length + 1
  let size := min (2 * count) 64
  let table := if 10 ≤ count && 2 * table.size < count && size != table.size then
      table.spread size
    else table
  table.place name

/-- The order the catalog lists names in, given in the order they came in. -/
def catalogOrder (names : List String) : List String :=
  (names.foldl NameTable.insert NameTable.empty).list

/-- The text of the measure of an index: its rows, then for each prefix of its terms the rows
sharing a value on average. -/
def statText (rows : Nat) (distinct : List Nat) : String :=
  String.intercalate " " (toString rows :: distinct.map fun count =>
    let count := max count 1
    let share := (rows + count - 1) / count
    toString (if share == 2 && rows * 10 ≤ count * 11 then 1 else share))

/-- Whether two keys are equal in the collations of their terms, NULL equal to NULL. -/
def sameKey (collations : List Collation) (a b : List Value) : Bool :=
  (collations.zip (a.zip b)).all fun (collation, x, y) =>
    match x, y with
    | .null, .null => true
    | .null, _ | _, .null => false
    | x, y => Value.compareWith collation x y == .eq

/-- How many different values the first `width` terms of the keys take. -/
def distinctPrefixes (collations : List Collation) (keys : List (List Value)) (width : Nat) :
    Nat :=
  let prefixes := keys.map (·.take width)
  (prefixes.foldl (fun (seen : List (List Value)) key =>
    if seen.any (sameKey (collations.take width) key) then seen else key :: seen) []).length

/-- The measure of an index from the keys of its rows. -/
def measure (collations : List Collation) (keys : List (List Value)) : String :=
  statText keys.length ((List.range collations.length).map fun width =>
    distinctPrefixes collations keys (width + 1))

/-- An index of a table as `ANALYZE` measures it: its name in `sqlite_stat1`, its collations,
and how to read the key of a row (none for a row it does not hold). -/
structure Measured where
  name : String
  collations : List Collation
  keyOf : Row → Except StoreError (Option (List Value))
  /-- Whether it holds every row of the table. -/
  whole : Bool

/-- The indexes of a table, the latest made first. -/
def indexesOf (base : Scope) (spec : TableSpec) : List Measured :=
  let primary (unique : UniqueSpec) : Bool :=
    spec.withoutRowId && unique.columns.map (·.1) == spec.primaryKey.map (·.1)
  let constraints := ((spec.uniques.filter (·.index.isNone)).mergeSort
      fun a b => a.serial ≤ b.serial).map fun unique =>
    ({ name := if primary unique then spec.name else Database.constraintIndexName spec unique
       collations := unique.columns.map (·.2)
       keyOf := fun row => pure (some (unique.columns.map fun (index, _) => row.get index))
       whole := true } : Measured)
  let created := (spec.indexes.mergeSort fun a b => a.entry ≤ b.entry).map fun index =>
    ({ name := index.name
       collations := index.terms.map fun term => (indexTerm spec term).2.2
       keyOf := fun row => do
         let scope := tableScope base "an index" row
         if let some condition := index.condition then
           if !(← condition.holds queryRunner scope) then return none
         pure (some (← index.terms.mapM (·.eval queryRunner scope)))
       whole := index.condition.isNone } : Measured)
  (constraints ++ created).reverse

/-- The rows `ANALYZE` keeps about a table, or about one of its indexes (`only`). -/
def tableRows (base : Scope) (table : Table) (only : Option String) :
    Except StoreError (List (List Value)) := do
  let spec := table.spec
  let indexes := (indexesOf base spec).filter fun index => only.all (sameName index.name ·)
  let measured ← indexes.filterMapM fun index => do
    let keys := (← table.rows.mapM index.keyOf).filterMap id
    if keys.isEmpty then return none
    pure (some [Value.ofString spec.name, Value.ofString index.name,
      Value.ofString (measure index.collations keys)])
  let counted := only.isNone && !indexes.any (·.whole) && !table.rows.isEmpty
  pure (measured ++ if counted then
    [[Value.ofString spec.name, .null, Value.ofString (toString table.rows.length)]] else [])

/-- The table `ANALYZE` keeps its measures in. -/
def statSpec (schema : String) : TableSpec :=
  { name := "sqlite_stat1", schema := schema,
    columns := ["tbl", "idx", "stat"].map fun name =>
      (⟨name, "", .blob, none, none, .binary, none, none⟩ : ColumnSpec),
    rowIdColumn := none, rowIdConflict := .abort, uniques := [], autoIncrement := false,
    indexes := [], checkConstraints := [], strict := false, withoutRowId := false,
    primaryKey := [], references := [], sql := "CREATE TABLE sqlite_stat1(tbl,idx,stat)",
    entry := 0 }

/-- Whether a table is measured: one of the store's own tables is not. -/
def measurable (spec : TableSpec) : Bool :=
  !sameName (String.ofList (spec.name.toList.take 7)) "sqlite_"

/-- The tables of a database in the order `ANALYZE` measures them. -/
def tablesInOrder (db : Database) (schema : String) : List Table :=
  let tables := db.tables.filter (sameName ·.spec.schema schema)
  let views := db.views.filter (sameName ·.schema schema)
  let named := (tables.map fun table => (table.spec.entry, table.spec.name)) ++
    views.map fun view => (view.entry, view.name)
  let inOrder := (named.mergeSort fun a b => a.1 ≤ b.1).map (·.2)
  let master := if schema == "temp" then "sqlite_temp_master" else "sqlite_master"
  (catalogOrder (master :: inOrder)).filterMap fun name =>
    tables.find? fun table => table.spec.name == name

/-- A database with its table of measures, made when missing. -/
def withStatTable (db : Database) (schema : String) : Database :=
  if (db.tableIn? schema "sqlite_stat1").isSome then db else db.create (statSpec schema)

/-- Keeps measures in a database's `sqlite_stat1`: rows about what was measured are removed
first (all of them when `clear`, else those `gone` picks), and the new rows follow with row ids
counted on from the greatest. -/
def keepMeasures (db : Database) (schema : String) (clear : Bool) (gone : Row → Bool)
    (rows : List (List Value)) : Database :=
  match db.tableIn? schema "sqlite_stat1" with
  | none => db
  | some table =>
    let kept := if clear then [] else table.rows.filter fun row => !gone row
    let start := ((kept.map (·.id)).foldl max 0)
    let added := rows.zipIdx.map fun (values, index) => (⟨start + index + 1, values⟩ : Row)
    db.store { table with rows := kept ++ added }

end Analyze

end SheetExport.Store.Sql
