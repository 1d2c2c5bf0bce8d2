import SheetExport.Store.Table

/-!
# Statements as trees

A statement read from its text, before its names are looked up in the database. Statements that
write rows name their table and give the rows or the changes; statements that define things give
the definition, a table definition being checked against the database as it is read.

A trigger holds statements of its own, which run for each row its event touches.
-/

namespace SheetExport.Store.Sql

/-- A statement that acts on the transaction in progress. -/
inductive Control where
  | begin
  | commit
  | rollback
  | savepoint (name : String)
  | release (name : String)
  | rollbackTo (name : String)
  | vacuum
  deriving DecidableEq, Repr, Inhabited

/-- A name as a statement writes it: the text written, quotes and all, and the name it stands
for. -/
structure WrittenName where
  written : String
  name : String
  deriving Repr, Inhabited

/-- One `SET` of an update: the column it names and the value. -/
structure Assignment where
  column : String
  value : Expr
  deriving Repr, Inhabited

/-- A term of an index: its expression, whether it is kept in descending order, and the `NULLS`
word written after it, if any. -/
structure IndexTerm where
  expr : Expr
  descending : Bool
  nulls : Option String
  deriving Repr, Inhabited

/-- What an insert does with a row that clashes with another in the key of an `ON CONFLICT`
clause: leave it unwritten, or change the other row where a condition holds. -/
inductive UpsertAction where
  | nothing
  | update (assignments : List Assignment) (condition : Option Expr)
  deriving Repr, Inhabited

/-- An `ON CONFLICT` clause of an insert: the key it names, as the terms of a unique index and
the condition of a partial one (none for every key), and what it does. -/
structure UpsertClause where
  target : Option (List IndexTerm × Option Expr)
  action : UpsertAction
  deriving Repr, Inhabited

/-- The rows an insert writes: rows of values, the rows of a query, or one row of defaults. -/
inductive InsertRows where
  | values (rows : List (List Expr))
  | query (query : Query)
  | defaults
  deriving Repr, Inhabited

/-- A column as `ALTER TABLE … ADD COLUMN` defines it: the column, and what its constraints ask
that the table cannot give a column added later (a key, a stored value, a reference). -/
structure AddedColumn where
  column : ColumnSpec
  primaryKey : Bool
  unique : Bool
  /-- The default is computed: it is not a literal, a signed one, a truth or a cast of one. -/
  computedDefault : Bool
  /-- The column refers to another table. -/
  refers : Bool
  checks : List CheckSpec
  /-- The references the column makes to parent tables. -/
  references : List ReferenceSpec
  deriving Repr

/-- What `ALTER TABLE` does. -/
inductive AlterAction where
  | renameTable (name : String)
  /-- A column renamed, and whether the new name was written quoted. -/
  | renameColumn (old new : String) (quoted : Bool)
  | addColumn (column : AddedColumn)
  | dropColumn (name : String)
  deriving Repr

/-- When a trigger runs, relative to the change of its row. -/
inductive TriggerTiming where
  | before
  | after
  | insteadOf
  deriving DecidableEq, Repr

/-- The change a trigger runs on: an update may list the columns it watches. -/
inductive TriggerEvent where
  | delete
  | insert
  | update (columns : List String)
  deriving DecidableEq, Repr

/-- The `ORDER BY`, `LIMIT` and `OFFSET` of an update or a delete, which choose the rows it
changes: those a query of its table with its condition, ordering and limit gives. -/
structure RowLimit where
  orderBy : List OrderTerm
  limit : Option Expr
  offset : Option Expr
  deriving Repr

/-- No ordering and no limit. -/
def RowLimit.none : RowLimit := ⟨[], Option.none, Option.none⟩

/-- A statement. -/
inductive Statement where
  /-- Rows into a table; `columns` lists the columns the values go to, and `upsert` holds the
  `ON CONFLICT` clauses in order. The `RETURNING` terms of this and the next two are computed
  for each row written or removed. -/
  | insert (conflict : Option Conflict) (table : TableName) (columns : Option (List String))
      (rows : InsertRows) (upsert : List UpsertClause) (returning : List ResultTerm)
  /-- An update; `sources` are the sources of its `FROM`, which its rows are joined with. -/
  | update (conflict : Option Conflict) (table : TableName) (assignments : List Assignment)
      (sources : List Joined) (condition : Option Expr) (returning : List ResultTerm)
      (limits : RowLimit)
  | delete (table : TableName) (condition : Option Expr) (returning : List ResultTerm)
      (limits : RowLimit)
  /-- A statement after a `WITH`, whose common tables its queries may read. -/
  | common (recursive : Bool) (tables : List CommonTable) (body : Statement)
  | dropTable (ifExists : Bool) (table : TableName)
  | dropView (ifExists : Bool) (view : TableName)
  | dropTrigger (ifExists : Bool) (trigger : TableName)
  /-- A new table, its shape already checked as it was read; `none` when it exists and the
  statement asked to create it only if it did not. -/
  | createTable (spec : Option TableSpec)
  /-- A new table in a schema holding the rows of a query, its name and schema already checked. -/
  | createTableAs (schema name : String) (query : Query)
  /-- A new view in a schema, its name checked: the names of its columns (empty to take the
  query's), its query, whose names are looked up only when the view is read, and the text of its
  definition. -/
  | createView (schema name : String) (columns : List String) (query : Query) (sql : String)
  /-- A new trigger in a schema, its name and table checked: when and on what it runs, its
  table, its condition, its statements and the text of its definition. -/
  | createTrigger (schema name : String) (timing : TriggerTiming) (event : TriggerEvent)
      (table : String) (condition : Option Expr) (body : List Statement) (sql : String)
  /-- A new virtual table in a schema, its name checked: the name of its module as written, the
  arguments of the module, each as written, and the text of its definition. -/
  | createVirtual (schema name moduleName : String) (arguments : List String) (sql : String)
  /-- A definition of something that exists already, with `IF NOT EXISTS`: nothing changes. -/
  | unchanged
  /-- A new index: whether it is unique, whether an index of its name is left as it is, its name
  (with the database as written, if any), its table, its terms, the condition of a partial
  index, and the text of its definition. -/
  | createIndex (unique ifNotExists : Bool) (schemaWritten : Option String) (index : TableName)
      (table : String) (terms : List IndexTerm) (condition : Option Expr) (sql : String)
  | dropIndex (ifExists : Bool) (index : TableName)
  | alter (table : TableName) (action : AlterAction)
  /-- `ATTACH file AS name`. -/
  | attach (file name : Expr)
  | detach (name : Expr)
  /-- A query, which changes nothing. -/
  | select (query : Query)
  /-- A statement on the transaction in progress. -/
  | control (c : Control)
  /-- `VACUUM`, of the database it names if any, and `INTO` the file an expression names. -/
  | vacuum (schema : Option WrittenName) (into : Option Expr)
  /-- `PRAGMA`: the database it names if any, its name, and its argument, a negative number
  written with its sign. -/
  | pragma (schema : Option WrittenName) (name : String) (argument : Option String)
  /-- `ANALYZE` of what its names name: nothing for the whole database, else one name or a
  database and a name. -/
  | analyze (target : Option (WrittenName × Option WrittenName))
  /-- `REINDEX` of what its names name, as `ANALYZE` names it. -/
  | reindex (target : Option (WrittenName × Option WrittenName))
  /-- A statement to explain, which is checked and not run. -/
  | explain (statement : Statement)
  deriving Repr, Inhabited

end SheetExport.Store.Sql
