import SheetExport.Store.Sql.Statement

/-!
# Databases

A database holds tables, views and triggers, each in one of its schemas: `main`, `temp`, or a
database attached under a name. A name that a statement does not qualify is looked for in `temp`
first, then in `main`, then in the attached databases in the order they were attached. Tables and
views share their names within a schema, and so do the indexes.

A view keeps its query and a trigger its statements, as they were read; both are looked up in
the database each time they are used.

Each schema lists what it defines in its schema table, read as `sqlite_master` (or
`sqlite_schema`; `sqlite_temp_master` for `temp`): a row for each table, index, view and trigger,
with the text of its definition. A definition takes the row after the last one, so the rows come
in the order the definitions were made; the indexes of a table's own constraints take the rows
right after the table's.

A table with `autoIncrement` never reuses a row id: the greatest one it ever gave is kept in the
sequence table of its schema, which the first such table brings.
-/

namespace SheetExport.Store

open Sql

/-- A view: its name, its schema, the names given to its columns (empty to take the query's),
its query, and its definition as the schema table keeps it. -/
structure View where
  name : String
  schema : String
  columns : List String
  query : Query
  /-- The text of its definition, as the schema table shows it. -/
  sql : String
  /-- Its row in the schema table. -/
  entry : Nat
  deriving Repr

/-- A trigger: its name and schema, its table, when and on what it runs, its condition, its
statements, and its definition as the schema table keeps it. -/
structure Trigger where
  name : String
  schema : String
  table : String
  timing : TriggerTiming
  event : TriggerEvent
  condition : Option Expr
  body : List Statement
  /-- The text of its definition, as the schema table shows it. -/
  sql : String
  /-- Its row in the schema table. -/
  entry : Nat
  deriving Repr

/-- What a transaction puts back: the tables, views and triggers of every schema, and the count
of broken references that wait for the end of the transaction. -/
structure Contents where
  tables : List Table
  views : List View
  triggers : List Trigger
  pending : Int
  deriving Repr

/-- A transaction in progress: the contents as they were when it began, and the savepoints set
within it, the latest first, each named and with the contents as they were when it was set. -/
structure Journal where
  start : Contents
  savepoints : List (String × Contents)
  /-- Whether a savepoint began the transaction, so that releasing that savepoint ends it. -/
  bySavepoint : Bool
  deriving Repr

/-- What a connection keeps besides its tables: what it has counted of the rows statements
wrote, and how it compares text in `LIKE`. -/
structure Session where
  /-- The rows changed by the last statement that wrote rows. -/
  changes : Nat
  /-- The rows changed since the connection opened. -/
  totalChanges : Nat
  /-- The row id of the last row inserted. -/
  lastInsertRowId : Int
  /-- Whether `LIKE` tells the case of ASCII letters apart. -/
  caseSensitiveLike : Bool
  /-- Whether writes leave `CHECK` constraints unchecked. -/
  ignoreChecks : Bool
  /-- Whether references to other tables are enforced. -/
  foreignKeys : Bool
  /-- Whether a trigger may run again while it is running. -/
  recursiveTriggers : Bool
  /-- Whether a query that asks for no order reads its sources backward. -/
  reverseUnordered : Bool
  /-- Whether queries may build indexes of their own. -/
  automaticIndex : Bool
  /-- Whether statements that write are refused. -/
  queryOnly : Bool
  /-- The references the statement running broke and has not mended, which must be none when
  it ends. -/
  violations : Int
  /-- Whether renaming a table leaves the views and the statements of triggers that name it as
  they are. -/
  legacyAlter : Bool
  deriving Repr, Inhabited

/-- The session of a connection just opened. -/
def Session.start : Session := ⟨0, 0, 0, false, false, false, false, false, true, false, 0, false⟩

/-- The counters after a statement that changed some rows. -/
def Session.counted (session : Session) (changed : Nat) : Session :=
  { session with changes := changed, totalChanges := session.totalChanges + changed }

/-- A database: its tables, views and triggers, each in the order it was created, the names of
the attached databases, the transaction in progress, and the session of the connection that holds
it. -/
structure Database where
  tables : List Table
  views : List View
  triggers : List Trigger
  attached : List String
  journal : Option Journal
  session : Session
  /-- The references broken and not mended that wait for the end of the transaction, which must
  be none when it commits. -/
  pending : Int
  deriving Repr

instance : Inhabited Database := ⟨⟨[], [], [], [], none, Session.start, 0⟩⟩

namespace Database

/-- The database with nothing in it. -/
def empty : Database := ⟨[], [], [], [], none, Session.start, 0⟩

/-- The contents a transaction puts back. -/
def contents (db : Database) : Contents := ⟨db.tables, db.views, db.triggers, db.pending⟩

/-- The database with some contents put back. -/
def restore (db : Database) (contents : Contents) : Database :=
  { db with
    tables := contents.tables
    views := contents.views
    triggers := contents.triggers
    pending := contents.pending }

/-- The schemas in the order an unqualified name is looked for. -/
def schemaOrder (db : Database) : List String := ["temp", "main"] ++ db.attached

/-- The name of a schema as the database knows it, for a name as a statement writes it. -/
def schemaNamed? (db : Database) (name : String) : Option String :=
  (["main", "temp"] ++ db.attached).find? (sameName · name)

/-! ## The schema table -/

/-- The name of the index a table's own unique constraint brings:
`sqlite_autoindex_<table>_<n>`, the constraint being the n-th declared. -/
def constraintIndexName (spec : TableSpec) (unique : UniqueSpec) : String :=
  "sqlite_autoindex_" ++ spec.name ++ "_" ++ toString unique.serial

/-- The indexes of a table's own unique constraints that the schema table lists, in the order
they were declared: all but the primary key of a table without row id, which is the table. -/
def listedConstraints (spec : TableSpec) : List UniqueSpec :=
  let primary (unique : UniqueSpec) : Bool :=
    spec.withoutRowId && unique.columns.map (·.1) == spec.primaryKey.map (·.1)
  (spec.uniques.filter fun unique => unique.index.isNone && !primary unique).mergeSort
    fun a b => a.serial ≤ b.serial

/-- A row of the schema table: its row id, the kind of what it defines, its name, the table it
belongs to, and the text of its definition, none for the index of a table's constraint. -/
structure SchemaEntry where
  entry : Nat
  kind : String
  name : String
  table : String
  sql : Option String
  /-- Whether it keeps rows of its own, and so takes a page: a table that is not virtual, or an
  index. -/
  stored : Bool

/-- The definitions of a schema, in the order of their rows in its schema table. -/
def schemaEntries (db : Database) (schema : String) : List SchemaEntry :=
  let tables := (db.tables.filter (sameName ·.spec.schema schema)).flatMap fun table =>
    let spec := table.spec
    ⟨spec.entry, "table", spec.name, spec.name, some spec.sql, spec.virtual.isNone⟩ ::
      ((listedConstraints spec).zipIdx.map fun (unique, position) =>
        ⟨spec.entry + position + 1, "index", constraintIndexName spec unique, spec.name, none,
          true⟩) ++
      spec.indexes.map fun index =>
        ⟨index.entry, "index", index.name, spec.name, some index.sql, true⟩
  let views := (db.views.filter (sameName ·.schema schema)).map fun view =>
    ⟨view.entry, "view", view.name, view.name, some view.sql, false⟩
  let triggers := (db.triggers.filter (sameName ·.schema schema)).map fun trigger =>
    ⟨trigger.entry, "trigger", trigger.name, trigger.table, some trigger.sql, false⟩
  (tables ++ views ++ triggers).mergeSort fun a b => a.entry ≤ b.entry

/-- The row the next definition of a schema takes in its schema table: one past the last. -/
def nextEntry (db : Database) (schema : String) : Nat :=
  ((db.schemaEntries schema).map (·.entry)).foldl max 0 + 1

/-- Whether a name names the schema table of a schema: `sqlite_master` or `sqlite_schema`, and
in `temp` also `sqlite_temp_master` or `sqlite_temp_schema`, in any ASCII case. -/
def isSchemaTableName (schema name : String) : Bool :=
  sameName name "sqlite_master" || sameName name "sqlite_schema" ||
    (sameName schema "temp" &&
      (sameName name "sqlite_temp_master" || sameName name "sqlite_temp_schema"))

/-- The schema whose schema table a name that no database qualifies names. -/
def schemaTableSchema? (name : String) : Option String :=
  if sameName name "sqlite_master" || sameName name "sqlite_schema" then some "main"
  else if sameName name "sqlite_temp_master" || sameName name "sqlite_temp_schema" then some "temp"
  else none

/-- The name a schema's schema table goes by. -/
def schemaTableName (schema : String) : String :=
  if sameName schema "temp" then "sqlite_temp_master" else "sqlite_master"

/-- Whether a table is the schema table of its schema; no other table may take its name. -/
def isSchemaTable (spec : TableSpec) : Bool := spec.name == schemaTableName spec.schema

/-- The schema table of a schema: a row for each table, index, view and trigger, in the order
they were defined, with the page each table and index that keeps rows starts at, counted from two
in that order, and zero for the others. -/
def schemaTable (db : Database) (schema : String) : Table :=
  let column (name declared : String) (affinity : Affinity) : ColumnSpec :=
    ⟨name, declared, affinity, none, none, .binary, none, none⟩
  let spec : TableSpec :=
    { name := schemaTableName schema, schema := schema,
      columns := [column "type" "text" .text, column "name" "text" .text,
        column "tbl_name" "text" .text, column "rootpage" "int" .integer,
        column "sql" "text" .text],
      rowIdColumn := none, rowIdConflict := .abort, uniques := [], autoIncrement := false,
      indexes := [], checkConstraints := [], strict := false, withoutRowId := false,
      primaryKey := [], references := [],
      sql := "CREATE TABLE " ++ schemaTableName schema ++
        "(type text,name text,tbl_name text,rootpage int,sql text)",
      entry := 0 }
  let step (acc : Nat × List Row) (entry : SchemaEntry) : Nat × List Row :=
    let (pages, rows) := acc
    let stored := entry.stored
    let page : Int := if stored then pages + 2 else 0
    let values := [Value.ofString entry.kind, Value.ofString entry.name, Value.ofString entry.table,
      .integer page, (entry.sql.map Value.ofString).getD .null]
    (if stored then pages + 1 else pages, rows ++ [⟨entry.entry, values⟩])
  ⟨spec, ((db.schemaEntries schema).foldl step (0, [])).2⟩

/-- The table named `name` in a schema; the schema table when the name is one of its names. -/
def tableIn? (db : Database) (schema name : String) : Option Table :=
  match db.tables.find? fun table =>
      sameName table.spec.schema schema && sameName table.spec.name name with
  | some table => some table
  | none =>
    if isSchemaTableName schema name && (db.schemaOrder.any (sameName · schema)) then
      some (db.schemaTable schema)
    else none

/-- The table named `name`, looked for in the schemas in order; the schema tables go by the
names `sqlite_master` and `sqlite_schema` for `main`, and `sqlite_temp_master` and
`sqlite_temp_schema` for `temp`. -/
def table? (db : Database) (name : String) : Option Table :=
  match schemaTableSchema? name with
  | some schema => db.tableIn? schema name
  | none => db.schemaOrder.findSome? fun schema => db.tableIn? schema name

/-- The view named `name` in a schema. -/
def viewIn? (db : Database) (schema name : String) : Option View :=
  db.views.find? fun view => sameName view.schema schema && sameName view.name name

/-- The view named `name`, looked for in the schemas in order. -/
def view? (db : Database) (name : String) : Option View :=
  db.schemaOrder.findSome? fun schema => db.viewIn? schema name

/-- The trigger named `name` in a schema. -/
def triggerIn? (db : Database) (schema name : String) : Option Trigger :=
  db.triggers.find? fun trigger => sameName trigger.schema schema && sameName trigger.name name

/-- Replaces the table of the same name and schema. -/
def store (db : Database) (table : Table) : Database :=
  { db with
    tables := db.tables.map fun other =>
      if sameName other.spec.name table.spec.name && sameName other.spec.schema table.spec.schema
      then table else other }

/-- The row of a schema's sequence table that counts a table: the first whose name is the
table's. -/
def sequenceRow? (db : Database) (schema name : String) : Option Row :=
  (db.tableIn? schema sequenceSpec.name).bind fun sequences =>
    sequences.rows.find? fun row => Value.order (row.get 0) (Value.ofString name) == .eq

/-- The greatest row id counted for a table; a table with no row in the sequence table counts 0. -/
def sequenceOf (db : Database) (schema name : String) : Int :=
  ((db.sequenceRow? schema name).map fun row => (row.get 1).integerValue).getD 0

/-- Counts a row id for a table: its row in the sequence table is replaced, or a row is added,
when the count grows or the table has no row yet. -/
def countSequence (db : Database) (schema name : String) (count : Int) : Database :=
  match db.tableIn? schema sequenceSpec.name with
  | none => db
  | some sequences =>
    match db.sequenceRow? schema name with
    | some row =>
      if count ≤ (row.get 1).integerValue then db
      else
        db.store { sequences with
          rows := Table.place ⟨row.id, [Value.ofString name, .integer count]⟩
            (sequences.without row.id).rows }
    | none =>
      let id := (sequences.greatestId?.map (· + 1)).getD 1
      db.store { sequences with
        rows := Table.place ⟨id, [Value.ofString name, .integer count]⟩ sequences.rows }

/-- Adds a table; an autoincrementing table brings the sequence table of its schema when there is
none. -/
def create (db : Database) (spec : TableSpec) : Database :=
  let spec := { spec with entry := db.nextEntry spec.schema }
  let db : Database := { db with tables := db.tables ++ [Table.empty spec] }
  if spec.autoIncrement && (db.tableIn? spec.schema sequenceSpec.name).isNone then
    let sequence := { sequenceSpec with schema := spec.schema, entry := db.nextEntry spec.schema }
    { db with tables := db.tables ++ [Table.empty sequence] }
  else db

/-- Removes a table with the triggers on it, and for an autoincrementing table its rows in the
sequence table. -/
def drop (db : Database) (table : Table) : Database :=
  let spec := table.spec
  let db : Database :=
    { db with
      tables := db.tables.filter fun other =>
        !(sameName other.spec.name spec.name && sameName other.spec.schema spec.schema)
      triggers := db.triggers.filter fun trigger =>
        !(sameName trigger.table spec.name && sameName trigger.schema spec.schema) }
  if spec.autoIncrement then
    match db.tableIn? spec.schema sequenceSpec.name with
    | some sequences =>
      db.store { sequences with
        rows := sequences.rows.filter fun row =>
          Value.order (row.get 0) (Value.ofString spec.name) != .eq }
    | none => db
  else db

/-- The names of the indexes that a table's own unique constraints bring, in the order of the
constraints. -/
def constraintIndexNames (spec : TableSpec) : List String :=
  (spec.uniques.filter (·.index.isNone)).map (constraintIndexName spec)

/-- The table an index of a schema belongs to, and the index when a statement created it; `none`
for the index of a table constraint. -/
def indexIn? (db : Database) (schema name : String) : Option (Table × Option IndexSpec) :=
  db.tables.findSome? fun table =>
    if !sameName table.spec.schema schema then none
    else
      match table.spec.indexes.find? (sameName ·.name name) with
      | some index => some (table, some index)
      | none =>
        if (constraintIndexNames table.spec).any (sameName · name) then some (table, none)
        else none

/-- The table an index belongs to, looked for in the schemas in order. -/
def index? (db : Database) (name : String) : Option (Table × Option IndexSpec) :=
  db.schemaOrder.findSome? fun schema => db.indexIn? schema name

/-- Adds an index to a table, with the unique constraint it asks for checked before the others. -/
def addIndex (db : Database) (table : Table) (index : IndexSpec) (unique : Option UniqueSpec) :
    Database :=
  let index := { index with entry := db.nextEntry table.spec.schema }
  db.store { table with spec := { table.spec with
    indexes := index :: table.spec.indexes,
    uniques := unique.toList ++ table.spec.uniques } }

/-- Removes an index a statement created, with the constraint it asked for. -/
def dropIndex (db : Database) (table : Table) (name : String) : Database :=
  db.store { table with spec := { table.spec with
    indexes := table.spec.indexes.filter fun index => !sameName index.name name,
    uniques := table.spec.uniques.filter fun unique =>
      !(unique.index.any (sameName · name)) } }

/-- The triggers on a table of a schema, in the order they were created. A trigger in `temp`
may watch a table of another schema. -/
def triggersOn (db : Database) (schema table : String) : List Trigger :=
  db.triggers.filter fun trigger =>
    sameName trigger.table table &&
      (sameName trigger.schema schema || sameName trigger.schema "temp")

end Database

end SheetExport.Store
