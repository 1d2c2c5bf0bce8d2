import SheetExport.Store.Sql.Command
import SheetExport.Store.Sql.VirtualModule
import SheetExport.Store.VirtualChange
import SheetExport.Store.Sql.Write
import SheetExport.Store.Sql.Reference
import SheetExport.Store.Sql.Rename
import SheetExport.Store.Sql.Analyze
import SheetExport.Store.Transaction

/-!
# Running statements

Running the text of a statement with arguments goes through these steps, and fails at the first
that fails:

1. a text holding a NUL character is refused;
2. the first statement of the text is read (`Sql.Command`);
3. it is checked against the database: its table is looked up, its names are looked up
   (`Sql.Resolve`), and the faults of its code are found, giving a plan;
4. anything but blanks and comments after the statement is refused;
5. the number of arguments must be the number of parameters the statement uses, and each
   argument must be a value the store can hold;
6. the plan runs.

A statement whose text starts with `INSERT`, `UPDATE`, `DELETE` or `REPLACE` (after blanks and
comments) starts a transaction first when none is in progress, as the caller's connection does.

**Inserts.** An insert looks its table up, then its column list (a column named twice takes the
first value; the row id may be named by its column or by `rowid`; a generated column may not be
named), then the names in its rows, then compares the numbers of values and columns. One row of
values computes its row id first, then its columns in order; rows of several rows, or of a query,
compute each row whole, then its row id. A NULL or missing row id takes a fresh one, any other
must read as an integer. The generated columns are computed last. An autoincrementing table
counts every row id it gave or was given, and writes the count to its sequence table at the end
when it grew or was not there.

**Updates and deletes.** An update that changes no row id, runs no trigger, may replace no row
and whose condition holds no query visits the rows in order and changes each as its condition
holds. Otherwise the rows whose condition holds are chosen first, in order; each is then
changed (or removed) in turn, the new values computed from the row as it stands. A row removed
in the meantime is passed over. With a `LIMIT` (and maybe an `ORDER BY`), the condition holds for
the rows a query of the table with the condition, ordering and limit gives. An update with
`FROM` first joins its table with the sources of the `FROM` and computes the new values of each
combination; a row met by several combinations takes the values of the last, and the rows are
then changed in the order of the table.

**Triggers.** A change of a row runs the triggers of its table for that change: those before it,
then those after, the latest made first. A trigger runs when its condition holds for the row,
its statements in order, reading the row as `OLD` and `NEW`; no trigger runs again while it is
running. `RAISE(IGNORE)` in a trigger leaves the rest of the row's change undone, and the
statement goes on with its next row.

**Computed once.** Calls of functions that read no column, hold no query and always give the same
value are computed once before a statement visits any row, so that their failures do not depend
on the rows. Statements of triggers compute everything in place.
-/

namespace SheetExport.Store.Sql

/-! ## Where a statement stands -/

/-- Where the names of a statement are looked up: at the top of a connection, or as a step of a
trigger, which gives the rows the trigger runs for and fixes the database its tables belong to;
with the common tables of the `WITH` the statement starts with. -/
structure Site where
  trigger : Option TriggerFrame
  fixedSchema : Option String
  withs : List (List CommonTable)

namespace Site

/-- A statement run on its own. -/
def top : Site := ⟨none, none, []⟩

/-- Names looked up in nothing but what the site gives. -/
def context (site : Site) (db : Database) : Context :=
  { Context.start db with
    trigger := site.trigger
    fixedSchema := site.fixedSchema
    withs := site.withs }

/-- Names looked up in one table, for the statements that work on one table. -/
def onTable (site : Site) (db : Database) (spec : TableSpec) (visible : String)
    (purpose : Purpose) : Context :=
  { (site.context db).push ⟨[SourceFrame.ofTable spec visible], []⟩ with purpose := purpose }

end Site

/-! ## Faults of code -/

/-- The faults of the code of some expressions, each needing one value, in order. -/
def faultsOf (items : List Expr) : List StoreError := (items.map (Expr.faults true)).flatten

/-- The queries inside an expression, at any depth of its operands. -/
def Expr.innerQueries (fuel : Nat) (e : Expr) : List Query :=
  match fuel with
  | 0 => []
  | fuel + 1 =>
    let (exprs, queries) := e.parts
    queries ++ exprs.flatMap (Expr.innerQueries fuel)

mutual

/-- The faults of the code of an expression and of the queries inside it. -/
def Expr.deepFaults (fuel : Nat) (e : Expr) : List StoreError :=
  match fuel with
  | 0 => []
  | fuel + 1 => e.faults true ++ (e.innerQueries 10000).flatMap (Query.deepFaults fuel)

/-- The faults of the code of a query: an ordering term sorting by an unknown collation, then
those of its expressions and of the queries within. -/
def Query.deepFaults (fuel : Nat) (query : Query) : List StoreError :=
  match fuel with
  | 0 => []
  | fuel + 1 =>
    let (exprs, queries, _) := query.parts
    let sorting := query.orderBy.filterMap fun
      | .mk (.collate _ written) _ _ =>
        if (Collation.ofName? written).isNone then some (.noSuchCollation written) else none
      | _ => none
    sorting ++ exprs.flatMap (Expr.deepFaults fuel) ++ queries.flatMap (Query.deepFaults fuel)

end

/-- The faults of some expressions and of the queries inside them, each needing one value. -/
def deepFaultsOf (items : List Expr) : List StoreError := items.flatMap (Expr.deepFaults 10000)

/-- The faults of the code of some expressions, each needing one value; the last one counts. -/
def codeFaults (items : List Expr) : Except StoreError Unit := lastFault (deepFaultsOf items)

/-- The failures noted while the code of a statement is made. Most code is made in place, and
the last failure noted is the one reported. The code of a constant expression with no call is
put off to the end, and made only when nothing else failed. -/
structure Noted where
  last : Option StoreError
  putOff : List StoreError

namespace Noted

/-- Nothing noted. -/
def clear : Noted := ⟨none, []⟩

/-- Notes failures made in place. -/
def add (noted : Noted) (faults : List StoreError) : Noted :=
  { noted with last := faults.getLast? <|> noted.last }

/-- Notes failures put off to the end. -/
def defer (noted : Noted) (faults : List StoreError) : Noted :=
  { noted with putOff := noted.putOff ++ faults }

/-- Notes the faults of expressions whose code is put off when they are constant. -/
def addFactored (noted : Noted) (items : List Expr) : Noted :=
  (noted.add (deepFaultsOf (items.filter (!·.isConstant)))).defer
    (faultsOf (items.filter (·.isConstant)))

/-- Whether something failed in place. -/
def failed (noted : Noted) : Bool := noted.last.isSome

/-- The failure reported at the end: the last one noted, else the last put off. -/
def finish (noted : Noted) : Except StoreError Unit :=
  match noted.last <|> noted.putOff.getLast? with
  | some error => .error error
  | none => .ok ()

end Noted

/-! ## Calls computed once -/

/-- Whether an expression gives the same value wherever it stands in a statement: it reads no
column, no aggregate and no result, holds no query, and calls only functions that always give the
same value. -/
def Expr.isFixed (e : Expr) : Bool :=
  match e with
  | .column .. | .proposed _ | .name .. | .aggregate .. | .result _ | .subquery _
  | .existence _ | .inQuery .. | .raise .. | .callStar _ => false
  | .call functionName _ arguments =>
    isDeterministic functionName && arguments.attach.all fun ⟨argument, _⟩ => argument.isFixed
  | .unary _ operand | .isNull operand | .notNull operand | .cast operand _
  | .collate operand _ => operand.isFixed
  | .binary _ left right => left.isFixed && right.isFixed
  | .between operand low high => operand.isFixed && low.isFixed && high.isFixed
  | .inList operand items => operand.isFixed && items.attach.all fun ⟨item, _⟩ => item.isFixed
  | .choose condition yes no => condition.isFixed && yes.isFixed && no.isFixed
  | .vector items => items.attach.all fun ⟨item, _⟩ => item.isFixed
  | _ => true
termination_by sizeOf e
decreasing_by
  all_goals simp_wf
  all_goals first
    | omega
    | have := List.sizeOf_lt_of_mem ‹_›; omega

mutual

/-- The calls of an expression computed once before its statement runs, in the order the code
meets them, within the queries inside it too. -/
def Expr.onceCalls (fuel : Nat) (e : Expr) : List Expr :=
  match fuel with
  | 0 => []
  | fuel + 1 =>
    match e with
    | .call _ _ _ => if e.isFixed then [e] else
        (e.parts.1.flatMap (Expr.onceCalls fuel)) ++ e.parts.2.flatMap (Query.onceCalls fuel)
    | _ => (e.parts.1.flatMap (Expr.onceCalls fuel)) ++ e.parts.2.flatMap (Query.onceCalls fuel)

/-- The calls of a query computed once before its statement runs. -/
def Query.onceCalls (fuel : Nat) (query : Query) : List Expr :=
  match fuel with
  | 0 => []
  | fuel + 1 =>
    let (exprs, queries, _) := query.parts
    exprs.flatMap (Expr.onceCalls fuel) ++ queries.flatMap (Query.onceCalls fuel)

end

/-- Computes the calls that are computed once, before any row. -/
def computeFixed (base : Scope) (calls : List Expr) : Except StoreError Unit :=
  calls.forM fun call => do
    let _ ← call.eval queryRunner base

/-! ## Plans -/

/-- The `SET` of an update or the `DO UPDATE` of an upsert, checked: the new values by column,
the new row id, the condition under which the row is changed, and the names the assignments
give, as triggers that watch columns see them. -/
structure Setting where
  changes : List (Nat × Expr)
  rowId : Option Expr
  condition : Option Expr
  named : List String

/-- Where the rows of an insert come from: one row of values, several, a query (computed whole
first when `whole`), or one row of defaults. -/
inductive InsertSource where
  | single (row : List Expr)
  | rows (rows : List (List Expr))
  | query (query : Query) (whole : Bool)
  | defaults

/-- An insert, checked: its table, its rule, the positions its values go to (none for all the
columns in order), its rows, its `ON CONFLICT` clauses as the writes see them with the setting of
each `DO UPDATE` it may run, and its `RETURNING` expressions. -/
structure InsertPlan where
  spec : TableSpec
  conflict : Option Conflict
  targets : Option (List Nat × Option Nat)
  source : InsertSource
  clauses : List ClashClause
  settings : List (Option Setting)
  returning : List Expr

/-- An update, checked. -/
structure UpdatePlan where
  spec : TableSpec
  conflict : Option Conflict
  setting : Setting
  returning : List Expr
  /-- For an update with `FROM`: the query of its table joined with the sources of its `FROM`,
  giving for each combination the key of the table's row (the row id, or the primary key of a
  table without row id), then the values of the assignments; and the number of the key's
  columns. The setting then reads those values as the columns of the proposed row. -/
  joined : Option (Query × Nat)

/-- A delete, checked. -/
structure DeletePlan where
  spec : TableSpec
  condition : Option Expr
  returning : List Expr

/-- The rows a write to a view hands its triggers: for an insert, its rows of values, placed in
the view's columns by their positions (all in order when none are given); for an update or a
delete, a query of the view giving each row it chooses, followed for an update by the row's new
values. -/
inductive ViewRows where
  | inserted (source : InsertSource) (targets : Option (List Nat))
  | chosen (query : Query)

/-- A write to a view, which its `INSTEAD OF` triggers carry out: the view as a table of its
columns, the rule of the statement, what it does, the columns it assigns, and its rows. -/
structure ViewWrite where
  spec : TableSpec
  conflict : Option Conflict
  event : TriggerEvent
  named : List String
  rows : ViewRows

/-- The rows a write to a virtual table hands its module: for an insert, its rows of values,
each value going to the column at its position in `targets` (the row id at `rowIdAt`); for an
update, a query giving each row's id, its new row id and the new values of all the columns; for a
delete, a query giving each row's id. -/
inductive VirtualRows where
  | inserted (source : InsertSource) (targets : List Nat) (rowIdAt : Option Nat)
  | updated (query : Query)
  | deleted (query : Query)

/-- A write to a virtual table: the table, the rule of the statement, and its rows. -/
structure VirtualWrite where
  spec : TableSpec
  conflict : Option Conflict
  rows : VirtualRows

/-- What `ANALYZE` measures: the tables of some databases, one table (or view) of a database, or
one index of a table by the name the statement gave it. -/
inductive AnalyzeTarget where
  | databases (schemas : List String)
  | table (schema name : String)
  | index (schema table index : String)

/-- A statement checked against a database, ready to run. Tables are named by their database and
name. -/
inductive Plan where
  | nothing
  | insert (plan : InsertPlan)
  | update (plan : UpdatePlan)
  | delete (plan : DeletePlan)
  | viewWrite (plan : ViewWrite)
  | virtualWrite (plan : VirtualWrite)
  | dropTable (schema name : String)
  | dropView (schema name : String)
  | dropTrigger (schema name : String)
  | create (spec : TableSpec)
  /-- A new table holding the rows of a query. -/
  | createAs (spec : TableSpec) (query : Query)
  | createView (view : View)
  /-- A new virtual table in a schema: its module as written, the module's arguments and the
  text of its definition. -/
  | createVirtual (schema name moduleName : String) (arguments : List String) (sql : String)
  | createTrigger (trigger : Trigger)
  /-- A new index on a table, with the unique constraint it asks for, which the rows already
  there must meet. -/
  | createIndex (schema table : String) (index : IndexSpec) (unique : Option UniqueSpec)
  | dropIndex (schema table index : String)
  /-- A query, which changes nothing but may fail on what it reads to give its first row. -/
  | query (query : Query) (fixed : List Expr)
  | control (c : Control)
  /-- `VACUUM` of the main database, into the file an expression names, if any. -/
  | vacuum (into : Option Expr)
  /-- Whether `LIKE` tells the case of ASCII letters apart from now on. -/
  | likeCase (caseSensitive : Bool)
  /-- Whether writes leave `CHECK` constraints unchecked from now on. -/
  | ignoreChecks (ignore : Bool)
  /-- Whether references to other tables are enforced from now on, unless a transaction is
  open. -/
  | foreignKeys (enforce : Bool)
  /-- Whether a trigger may run again while it is running, from now on. -/
  | recursiveTriggers (recursive : Bool)
  /-- Whether queries that ask for no order read their sources backward, from now on. -/
  | reverseUnordered (reverse : Bool)
  /-- Whether queries may build indexes of their own, from now on. -/
  | automaticIndex (allowed : Bool)
  /-- Whether statements that write are refused, from now on. -/
  | queryOnly (refused : Bool)
  /-- Whether renaming a table leaves the views and trigger statements naming it as they are,
  from now on. -/
  | legacyAlter (legacy : Bool)
  | renameTable (schema old new : String)
  | renameColumn (schema table : String) (index : Nat) (name : String) (quoted : Bool)
  | addColumn (schema table : String) (column : AddedColumn)
  | dropColumn (schema table : String) (index : Nat)
  | attach (file name : Expr)
  | detach (name : Expr)
  | analyze (target : AnalyzeTarget)

/-! ## Finding tables -/

/-- The table a statement that writes rows names: a view cannot be written. -/
def writeTarget (site : Site) (db : Database) (name : TableName) : Except StoreError Table :=
  match findRelation db site.fixedSchema name with
  | some (.table table) =>
    if Database.isSchemaTable table.spec then
      .error (.refused ("table " ++ table.spec.name ++ " may not be modified"))
    else .ok table
  | some (.view view) =>
    .error (.refused ("cannot modify " ++ view.name ++ " because it is a view"))
  | none => .error (missingTable site.fixedSchema name)

/-- The table a statement names, which must have the index its `INDEXED BY` names. -/
def hintedTarget (site : Site) (db : Database) (name : TableName) : Except StoreError Table :=
  match findRelation db site.fixedSchema name with
  | some (.table table) =>
    if Database.isSchemaTable table.spec then
      .error (.refused ("table " ++ table.spec.name ++ " may not be modified"))
    else
    match name.indexedBy with
    | some index =>
      let names := table.spec.indexes.map (·.name) ++ Database.constraintIndexNames table.spec
      if names.any (sameName · index) then .ok table else .error (.noSuchIndex index)
    | none => .ok table
  | some (.view view) =>
    if name.indexedBy.isSome then .error (.noSuchIndex (name.indexedBy.getD ""))
    else .error (.refused ("cannot modify " ++ view.name ++ " because it is a view"))
  | none => .error (missingTable site.fixedSchema name)

/-- The name of a table in messages about its columns: the alias, else the name as written. -/
def TableName.written (table : TableName) : String := table.asName.getD table.shown

/-! ## Inserts -/

/-- The positions in the table of the columns of an insert's column list, and the position in the
list of the row id, if the list names it. -/
def insertTargets (spec : TableSpec) (written : String) (columns : List String) :
    Except StoreError (List Nat × Option Nat) :=
  let step (acc : List Nat × Option Nat) (entry : String × Nat) :
      Except StoreError (List Nat × Option Nat) :=
    let (targets, rowIdAt) := acc
    let (name, position) := entry
    match spec.columnIndex? name with
    | some index =>
      match (spec.column? index).bind (·.generated), spec.column? index with
      | some _, some column =>
        .error (.refused ("cannot INSERT into generated column \"" ++ column.name ++ "\""))
      | _, _ =>
        .ok (targets ++ [index], if spec.rowIdColumn == some index then some position else rowIdAt)
    | none =>
      if isRowIdName name && !spec.withoutRowId then
        .ok (targets ++ [spec.columns.length], some position)
      else .error (.noColumnNamed written name)
  (columns.zip (List.range columns.length)).foldlM step ([], none)

/-- Where the values of a row of an insert go: the value of each column (none for its default,
and for the row id and the generated columns), and the value of the row id. Without a column list
the values go to the columns in order, the generated ones left out. -/
def placeValues {α : Type} (spec : TableSpec) (targets : Option (List Nat × Option Nat))
    (row : List α) : List (Option α) × Option α :=
  match targets with
  | none =>
    let positions : List (Option Nat) := (spec.columns.foldl
      (fun (acc : List (Option Nat) × Nat) column =>
        match column.generated with
        | some _ => (acc.1 ++ [none], acc.2)
        | none => (acc.1 ++ [some acc.2], acc.2 + 1)) ([], 0)).1
    let valueOf (index : Nat) : Option α := (positions.getD index none).bind (row[·]?)
    (spec.columns.zipIdx.map fun (_, index) =>
      if spec.rowIdColumn == some index then none else valueOf index,
      spec.rowIdColumn.bind valueOf)
  | some (positions, rowIdAt) =>
    (spec.columns.zipIdx.map fun (column, index) =>
      if spec.rowIdColumn == some index || column.generated.isSome then none
      else (positions.findIdx? (· == index)).bind fun position => row[position]?,
      rowIdAt.bind fun position => row[position]?)

/-- Looks up the names of the rows of an insert: one row alone, several from the last as the
rows of a query, each checked to be as long as the next. -/
def resolveValueRows (ctx : Context) (rows : List (List Expr)) : Except StoreError (List (List Expr)) :=
  match rows with
  | [row] => do pure [← resolveListIn ctx row]
  | _ =>
    let ctx := { ctx with expanded := true }
    let step (row : List Expr) (later : List (List Expr)) : Except StoreError (List (List Expr)) := do
      let resolved ← resolveListIn ctx row
      match later with
      | next :: _ => if next.length != row.length then throw .unevenValues
      | [] => pure ()
      pure (resolved :: later)
    rows.foldrM step []

/-- Whether two expressions over a table's row are written alike: the same operators, functions
(named in any case), types, collations and literals, and columns by their place in the row. -/
def Expr.sameAs (a b : Expr) : Bool :=
  match a, b with
  | .null, .null => true
  | .integer x, .integer y => x == y || Eval.numeral x false == Eval.numeral y false
  | .real x, .real y => x == y
  | .string x, .string y => x == y
  | .blob x, .blob y => x == y
  | .truth x, .truth y => x == y
  | .parameter x, .parameter y => x == y
  | .column _ x _ _, .column _ y _ _ => x == y
  | .unary o x, .unary p y => o == p && x.sameAs y
  | .binary o x z, .binary p y w => o == p && x.sameAs y && z.sameAs w
  | .isNull x, .isNull y => x.sameAs y
  | .notNull x, .notNull y => x.sameAs y
  | .between x z v, .between y w u => x.sameAs y && z.sameAs w && v.sameAs u
  | .inList x xs, .inList y ys =>
    x.sameAs y && xs.length == ys.length &&
      (xs.attach.zip ys).all fun (⟨item, _⟩, other) => item.sameAs other
  | .cast x t, .cast y u => sameName t u && x.sameAs y
  | .collate x c, .collate y d => sameName c d && x.sameAs y
  | .call f d xs, .call g e ys =>
    sameName f g && d == e && xs.length == ys.length &&
      (xs.attach.zip ys).all fun (⟨item, _⟩, other) => item.sameAs other
  | .choose x z v, .choose y w u => x.sameAs y && z.sameAs w && v.sameAs u
  | .vector xs, .vector ys =>
    xs.length == ys.length && (xs.attach.zip ys).all fun (⟨item, _⟩, other) => item.sameAs other
  | .clock x, .clock y => x == y
  | _, _ => false
termination_by sizeOf a
decreasing_by
  all_goals simp_wf
  all_goals first
    | omega
    | have := List.sizeOf_lt_of_mem ‹_›; omega

/-- Whether a term of an `ON CONFLICT` clause names a part of a key, an expression kept in a
collation: the expression itself, or the expression with that collation. -/
def namesKeyPart (part : Expr × Collation) : Expr → Bool
  | .collate term written => Collation.ofName? written == some part.2 && term.sameAs part.1
  | term => term.sameAs part.1

/-- The key the terms of an `ON CONFLICT` clause name: a lone term that is the row id names the
row id; otherwise the first unique constraint with as many parts as there are terms, each part
named by a term. A partial index counts only when the clause's condition is written as the
index's. -/
def targetKey (spec : TableSpec) (terms : List Expr) (condition : Option Expr) : Option Key :=
  match terms with
  | [.column _ .rowId _ _] => some .rowId
  | _ =>
    let partsOf (unique : UniqueSpec) : List (Expr × Collation) :=
      if unique.expressions.isEmpty then
        unique.columns.map fun (index, collation) =>
          (.column ⟨0, 0⟩ (.column index) none none, collation)
      else unique.expressions
    let covered (unique : UniqueSpec) : Bool :=
      match unique.condition, condition with
      | none, _ => true
      | some kept, some written => kept.sameAs written
      | some _, none => false
    (spec.uniques.findIdx? fun unique =>
      let parts := partsOf unique
      covered unique && parts.length == terms.length &&
        parts.all fun part => terms.any (namesKeyPart part)).map .unique

/-- The ordinal of a clause in a message about it: empty for a lone clause, otherwise `1st `,
`2nd `, and so on. -/
def clauseOrdinal (position count : Nat) : String :=
  if count == 1 then "" else ordinal (position + 1) ++ " "

/-- Checks the keys of the `ON CONFLICT` clauses of an insert, each in turn up to the first
clause for every key: its terms are looked up, then its condition, and it must name a key. The
first clause may not order NULLs. -/
def upsertClauses (ctx : Context) (spec : TableSpec) (clauses : List UpsertClause) :
    Except StoreError (List ClashClause) := do
  if let some first := clauses.head? then
    if let some (terms, _) := first.target then
      if let some word := terms.findSome? (·.nulls) then throw (.nullsOrdering word)
  clauses.zipIdx.mapM fun (clause, position) => do
    let updates := match clause.action with
      | .update .. => true
      | .nothing => false
    match clause.target with
    | none => pure ⟨none, updates⟩
    | some (terms, condition) =>
      let terms ← resolveListIn ctx (terms.map (·.expr))
      let condition ← condition.mapM (resolveIn ctx)
      match targetKey spec terms condition with
      | some key => pure ⟨some key, updates⟩
      | none => throw (.upsertUnmatched (clauseOrdinal position clauses.length))

/-- The changes of an update by column: each column takes the last assignment that names it; an
assignment to the integer primary key or to a name of the row id changes the row id, the last
such assignment counting. -/
def planChanges (spec : TableSpec) : List Assignment → List (Nat × Expr) × Option Expr
  | [] => ([], none)
  | assignment :: rest =>
    let (changes, rowId) := planChanges spec rest
    match spec.columnIndex? assignment.column with
    | some index =>
      if spec.rowIdColumn == some index then (changes, rowId <|> some assignment.value)
      else if changes.any (·.1 == index) then (changes, rowId)
      else ((index, assignment.value) :: changes, rowId)
    | none => (changes, rowId <|> some assignment.value)

/-- Looks the assignments and the condition of an update up: the assignments in order, each
before the next, then the condition. A generated column may not be assigned. -/
def resolveSetting (ctx : Context) (spec : TableSpec) (assignments : List Assignment)
    (condition : Option Expr) : Except StoreError Setting := do
  let resolvedFirst ← assignments.foldlM (fun (done : List Assignment) assignment => do
    let value ← resolveIn ctx assignment.value
    match spec.columnIndex? assignment.column with
    | some index =>
      if let some column := spec.column? index then
        if column.generated.isSome then
          throw (.refused ("cannot UPDATE generated column \"" ++ column.name ++ "\""))
    | none =>
      if !(isRowIdName assignment.column && !spec.withoutRowId) then
        throw (.noSuchColumn assignment.column)
    pure (done ++ [⟨assignment.column, value⟩])) []
  let (changes, rowId) := planChanges spec resolvedFirst
  let condition ← condition.mapM (resolveIn ctx)
  pure ⟨changes, rowId, condition, assignments.map (·.column)⟩

/-- Notes the faults of the code of a setting: those of the terms of its condition, the constant
terms put off, then those of the new values in column order, the row id first. -/
def Setting.note (setting : Setting) (noted : Noted) : Noted :=
  let ordered := (setting.changes.mergeSort fun a b => a.1 ≤ b.1).map (·.2)
  ((noted.addFactored ((setting.condition.map Expr.conjuncts).getD [])).add
    (deepFaultsOf (setting.rowId.toList ++ ordered)))

/-- The columns of a table as names, as `*` stands for them. -/
def allColumns (spec : TableSpec) : List Expr :=
  spec.columns.map fun column => .name [] ⟨column.name, false, false⟩

/-- Checks the `RETURNING` terms of a statement on a table after the failures noted so far,
giving the expressions computed for each row. The terms are first taken as the results of a query
on the table, named by its own name: a `table.*` naming another table fails, and when nothing
failed before, the expressions are looked up with aggregates allowed, up to the first failure.
Then any `table.*` fails; `*` and `table.*` stand for the columns; and when nothing failed, the
expressions are looked up again with no aggregate allowed, and their code is made, that of the
constant ones put off. -/
def planReturning (site : Site) (db : Database) (spec : TableSpec) (terms : List ResultTerm)
    (noted : Noted) : Noted × List Expr :=
  if terms.isEmpty then (noted, []) else
  let ctx := site.onTable db spec spec.name .statement
  let expanded := terms.flatMap fun
    | .value e _ _ => [e]
    | _ => allColumns spec
  let noted := noted.add (terms.filterMap fun
    | .allOf table => if sameName table spec.name then none else some (StoreError.noSuchTable table)
    | _ => none)
  let noted := if noted.failed then noted else
    match resolveListIn { ctx with aggregates := true } expanded with
    | .error error => noted.add [error]
    | .ok _ => noted
  let wildcard := terms.any fun
    | .allOf _ => true
    | _ => false
  let noted := if wildcard then noted.add [.returningWildcard] else noted
  if noted.failed then (noted, []) else
  match resolveListIn { ctx with purpose := .returning } expanded with
  | .error error => (noted.add [error], [])
  | .ok resolved => (noted.addFactored resolved, resolved)

/-- Checks the `DO UPDATE` clauses an insert may run, in the order their code is made: the row
id's check first when the insert gives the row id, then the unique constraints in the order the
writes check them. A clause no check answers with is never run, and not checked; nor is any once
something failed. The `RETURNING` terms are checked after the first clause, or last when there
is none. -/
def planSettings (site : Site) (db : Database) (ctx : Context) (spec : TableSpec)
    (clauses : List UpsertClause) (checks : List (Key × Response)) (rowIdGiven : Bool)
    (returning : List ResultTerm) (noted : Noted) :
    Noted × List (Option Setting) × List Expr :=
  let made := (if rowIdGiven then checks.filter (·.1 == .rowId) else []) ++
    checks.filter (·.1 != .rowId)
  let ran := (made.filterMap fun (_, response) => match response with
    | .update clause => some clause
    | .rule _ => none).eraseDups
  let step (done : Noted × List (Nat × Setting) × Option (List Expr)) (position : Nat) :
      Noted × List (Nat × Setting) × Option (List Expr) :=
    let (noted, settings, returned) := done
    if noted.failed then done else
    match (clauses[position]?).map UpsertClause.action with
    | some (UpsertAction.update assignments condition) =>
      let (noted, settings) := match resolveSetting ctx spec assignments condition with
        | .ok setting => (setting.note noted, settings ++ [(position, setting)])
        | .error error => (noted.add [error], settings)
      match returned with
      | some _ => (noted, settings, returned)
      | none =>
        let (noted, returned) := planReturning site db spec returning noted
        (noted, settings, some returned)
    | _ => done
  let (noted, settings, returned) := ran.foldl step (noted, [], none)
  let (noted, returned) := match returned with
    | some returned => (noted, returned)
    | none => planReturning site db spec returning noted
  (noted, (List.range clauses.length).map (fun position =>
    (settings.find? (·.1 == position)).map (·.2)), returned)

/-- Whether a query reads a table, at any depth. -/
def Query.readsTable (fuel : Nat) (schema name : String) (query : Query) : Bool :=
  match fuel with
  | 0 => false
  | fuel + 1 =>
    let (exprs, queries, _) := query.parts
    let direct := match query with
      | .mk _ _ body _ _ _ => body.parts.any fun (_, core) =>
        match core with
        | .select _ _ sources _ _ _ _ _ => sources.any fun
          | .mk _ _ (.table table) _ _ =>
            sameName table.name name && table.schema.all (sameName · schema)
          | _ => false
        | .values _ => false
    direct || queries.any (Query.readsTable fuel schema name) ||
      (exprs.flatMap (Expr.innerQueries 10000)).any (Query.readsTable fuel schema name)

/-- Checks an insert and plans it. A query or several rows of values are looked up and their
faults found before the number of values is checked; then the `ON CONFLICT` keys are checked,
then the code of one row of values is made, then the `DO UPDATE` clauses and the `RETURNING`
terms. -/
def planInsert (site : Site) (db : Database) (conflict : Option Conflict) (name : TableName)
    (columns : Option (List String)) (rows : InsertRows) (upsert : List UpsertClause)
    (returning : List ResultTerm) : Except StoreError Plan := do
  let table ← writeTarget site db name
  let spec := table.spec
  let targets ← columns.mapM (insertTargets spec name.written)
  let ctx := site.context db
  let (source, count, single) ← match rows with
    | .values rows => do
      let resolved ← resolveValueRows ctx rows
      if 1 < resolved.length then codeFaults resolved.flatten
      let count := (resolved.head?.map List.length).getD 0
      match resolved with
      | [row] => pure (InsertSource.single row, count, row)
      | _ => pure (InsertSource.rows resolved, count, [])
    | .query query => do
      let (resolved, resultColumns) ← resolveQueryIn ctx query
      lastFault (resolved.deepFaults 10000)
      let triggered := !(db.triggersOn spec.schema spec.name).isEmpty || !returning.isEmpty
      pure (InsertSource.query resolved
        (triggered || resolved.readsTable 10000 spec.schema spec.name), resultColumns.length, [])
    | .defaults => pure (InsertSource.defaults, 0, [])
  let insertable := (spec.columns.filter (·.generated.isNone)).length
  match targets, columns with
  | none, _ =>
    if count != 0 && count != insertable then
      throw (.columnCount name.written insertable count)
  | some _, some columns =>
    if count != columns.length then throw (.valuesForColumns count columns.length)
  | some _, none => pure ()
  let tableCtx := site.onTable db spec name.visible .statement
  let clauses ← upsertClauses tableCtx spec upsert
  let noted := Noted.clear.add (deepFaultsOf single)
  let rowIdGiven := match targets with
    | some (_, rowIdAt) => rowIdAt.isSome
    | none => spec.rowIdColumn.isSome
  let (noted, settings, returned) :=
    planSettings site db { tableCtx with purpose := .upsert } spec upsert
      (spec.checks conflict clauses) rowIdGiven returning noted
  noted.finish
  pure (.insert ⟨spec, conflict, targets, source, clauses, settings, returned⟩)

/-- The key a query of a table, under the name a statement gives it, reads to find its rows
again: the row id, or the columns of the primary key of a table without row id. -/
def rowKeys (spec : TableSpec) (name : TableName) : List Expr :=
  if spec.withoutRowId then
    spec.primaryKey.filterMap fun (index, _) =>
      (spec.column? index).map fun column => .name [name.visible] ⟨column.name, false, false⟩
  else [.name [name.visible] ⟨"rowid", false, false⟩]

/-- A query of a table, under the name a statement gives it, with some results, sources after
it, a condition, and an ordering and limit. -/
def tableSelection (name : TableName) (results : List Expr) (sources : List Joined)
    (condition : Option Expr) (limits : RowLimit) : Query :=
  .mk false [] (.core (.select false (results.map fun e => .value e none "")
      (.mk .inner false (.table name) none [] :: sources) condition [] none [] []))
    limits.orderBy limits.limit limits.offset

/-- The condition of an update or a delete with a limit: that the row's key is among those of the
rows a query of the table with the condition, the ordering and the limit gives. -/
def limitedCondition (spec : TableSpec) (name : TableName) (condition : Option Expr)
    (limits : RowLimit) : Option Expr :=
  match limits.limit with
  | none => condition
  | some _ =>
    let keys := rowKeys spec name
    let operand := match keys with
      | [key] => key
      | _ => .vector keys
    some (.inQuery operand (tableSelection name keys [] condition limits))

/-- Refuses an ordering without a limit on an update or a delete. -/
def checkRowLimit (statement : String) (limits : RowLimit) : Except StoreError Unit :=
  if !limits.orderBy.isEmpty && limits.limit.isNone then
    .error (.refused ("ORDER BY without LIMIT on " ++ statement))
  else .ok ()

/-- Checks an update and plans it; its `RETURNING` terms last. An ordering needs a limit, and
a limit makes the condition choose the rows the limit keeps. An update with `FROM` joins its
table with the sources of the `FROM` under its condition, ordering and limit, and its
assignments are computed in that query. -/
def planUpdate (site : Site) (db : Database) (conflict : Option Conflict) (name : TableName)
    (assignments : List Assignment) (sources : List Joined) (condition : Option Expr)
    (returning : List ResultTerm) (limits : RowLimit) : Except StoreError Plan := do
  let table ← hintedTarget site db name
  checkRowLimit "UPDATE" limits
  let ctx := site.onTable db table.spec name.visible .statement
  if sources.isEmpty then
    let condition := limitedCondition table.spec name condition limits
    let setting ← resolveSetting ctx table.spec assignments condition
    let (noted, returned) := planReturning site db table.spec returning (setting.note .clear)
    noted.finish
    pure (.update ⟨table.spec, conflict, setting, returned, none⟩)
  else
    let keys := rowKeys table.spec name
    let selection := tableSelection name (keys ++ assignments.map (·.value)) sources condition
      limits
    let (resolved, _) ← resolveQueryIn (site.context db) selection
    lastFault (resolved.deepFaults 10000)
    let proposed := assignments.zipIdx.map fun (assignment, position) =>
      (⟨assignment.column, .proposed (.column position)⟩ : Assignment)
    let setting ← resolveSetting ctx table.spec proposed none
    let (noted, returned) := planReturning site db table.spec returning (setting.note .clear)
    noted.finish
    pure (.update ⟨table.spec, conflict, setting, returned, some (resolved, keys.length)⟩)

/-- Checks a delete and plans it; its `RETURNING` terms last. An ordering needs a limit, and a
limit makes the condition choose the rows the limit keeps. -/
def planDelete (site : Site) (db : Database) (name : TableName) (condition : Option Expr)
    (returning : List ResultTerm) (limits : RowLimit) : Except StoreError Plan := do
  let table ← hintedTarget site db name
  checkRowLimit "DELETE" limits
  let condition := limitedCondition table.spec name condition limits
  let condition ← condition.mapM (resolveIn (site.onTable db table.spec name.visible .statement))
  let noted := Noted.clear.addFactored ((condition.map Expr.conjuncts).getD [])
  let (noted, returned) := planReturning site db table.spec returning noted
  noted.finish
  pure (.delete ⟨table.spec, condition, returned⟩)

/-! ## Writes to views -/

/-- The triggers of a table that run for a change, at a time: for an update, only those that
watch no column or one the update assigns. The latest made comes first. -/
def triggersFor (db : Database) (spec : TableSpec) (timing : TriggerTiming)
    (event : TriggerEvent) (named : List String) : List Trigger :=
  ((db.triggersOn spec.schema spec.name).filter fun trigger =>
    trigger.timing == timing &&
      match trigger.event, event with
      | .delete, .delete | .insert, .insert => true
      | .update watched, .update _ =>
        watched.isEmpty || watched.any fun column => named.any (sameName column ·)
      | _, _ => false).reverse

/-- A view as a table of its columns, under the name a statement gives it, as its `INSTEAD OF`
triggers read it: the columns take no affinity, and there is no row id. -/
def viewSpec (site : Site) (db : Database) (view : View) (name : TableName) :
    Except StoreError TableSpec := do
  let star : Query := .mk false [] (.core (.select false [.all]
    [.mk .inner false (.table name) none []] none [] none [] [])) [] none none
  let (_, columns) ← resolveQueryIn (site.context db) star
  let specColumns := columns.map fun column =>
    (⟨column.name, "", .blob, none, none, .binary, none, none⟩ : ColumnSpec)
  let spec : TableSpec :=
    { name := view.name, schema := view.schema, columns := specColumns,
      rowIdColumn := none, rowIdConflict := .abort, uniques := [], autoIncrement := false,
      indexes := [], checkConstraints := [], strict := false, withoutRowId := true,
      primaryKey := [], references := [], sql := "", entry := 0 }
  pure spec

/-- The failure of a write to a view that no `INSTEAD OF` trigger takes. -/
def viewWriteRefused (view : View) : StoreError :=
  .refused ("cannot modify " ++ view.name ++ " because it is a view")

/-- Checks an insert into a view and plans it: a trigger must take it, the columns named must be
the view's, and each row must have a value for each of them. -/
def planViewInsert (site : Site) (db : Database) (conflict : Option Conflict) (view : View)
    (name : TableName) (columns : Option (List String)) (rows : InsertRows) :
    Except StoreError Plan := do
  let spec ← viewSpec site db view name
  if (triggersFor db spec .insteadOf .insert []).isEmpty then throw (viewWriteRefused view)
  let targets ← columns.mapM fun columns => do pure (← insertTargets spec name.written columns).1
  let ctx := site.context db
  let (source, count) ← match rows with
    | .values rows => do
      let resolved ← resolveValueRows ctx rows
      match resolved with
      | [row] => pure (InsertSource.single row, row.length)
      | _ => pure (InsertSource.rows resolved, (resolved.head?.map List.length).getD 0)
    | .query query => do
      let (resolved, resultColumns) ← resolveQueryIn ctx query
      lastFault (resolved.deepFaults 10000)
      pure (InsertSource.query resolved true, resultColumns.length)
    | .defaults => pure (InsertSource.defaults, 0)
  match columns with
  | none =>
    if count != 0 && count != spec.columns.length then
      throw (.columnCount name.written spec.columns.length count)
  | some columns =>
    if count != columns.length then throw (.valuesForColumns count columns.length)
  pure (.viewWrite ⟨spec, conflict, .insert, [], .inserted source targets⟩)

/-- The columns of a view as a statement reads them, under the name it gives the view. -/
def viewColumns (spec : TableSpec) (name : TableName) : List Expr :=
  spec.columns.map fun column => .name [name.visible] ⟨column.name, false, false⟩

/-- Checks an update of a view and plans it: a trigger must take it, and each column assigned
must be the view's; the rows are those of the view its condition, ordering and limit choose,
each followed by its new values, the last assignment of a column winning. -/
def planViewUpdate (site : Site) (db : Database) (conflict : Option Conflict) (view : View)
    (name : TableName) (assignments : List Assignment) (sources : List Joined)
    (condition : Option Expr) (limits : RowLimit) : Except StoreError Plan := do
  let spec ← viewSpec site db view name
  let named := assignments.map (·.column)
  if (triggersFor db spec .insteadOf (.update []) named).isEmpty then
    throw (viewWriteRefused view)
  checkRowLimit "UPDATE" limits
  if let some unknown := assignments.find? fun assignment =>
      (spec.columnIndex? assignment.column).isNone then
    throw (.noSuchColumn unknown.column)
  let olds := viewColumns spec name
  let news := (spec.columns.zip olds).map fun (column, old) =>
    match assignments.reverse.find? (sameName ·.column column.name) with
    | some assignment => assignment.value
    | none => old
  let (resolved, _) ← resolveQueryIn (site.context db)
    (tableSelection name (olds ++ news) sources condition limits)
  lastFault (resolved.deepFaults 10000)
  pure (.viewWrite ⟨spec, conflict, .update [], named, .chosen resolved⟩)

/-- Checks a delete from a view and plans it: a trigger must take it; the rows are those of the
view its condition, ordering and limit choose. -/
def planViewDelete (site : Site) (db : Database) (view : View) (name : TableName)
    (condition : Option Expr) (limits : RowLimit) : Except StoreError Plan := do
  let spec ← viewSpec site db view name
  if (triggersFor db spec .insteadOf .delete []).isEmpty then throw (viewWriteRefused view)
  checkRowLimit "DELETE" limits
  let (resolved, _) ← resolveQueryIn (site.context db)
    (tableSelection name (viewColumns spec name) [] condition limits)
  lastFault (resolved.deepFaults 10000)
  pure (.viewWrite ⟨spec, none, .delete, [], .chosen resolved⟩)

/-- The view a statement that writes names, when it names one. -/
def viewTarget? (site : Site) (db : Database) (name : TableName) : Option View :=
  match findRelation db site.fixedSchema name with
  | some (.view view) => if name.indexedBy.isSome then none else some view
  | _ => none

/-! ## Writes to virtual tables -/

/-- The virtual table a statement that writes names, when it names one. -/
def virtualTarget? (site : Site) (db : Database) (name : TableName) : Option Table :=
  match findRelation db site.fixedSchema name with
  | some (.table table) => if table.spec.virtual.isSome then some table else none
  | _ => none

/-- Checks an insert into a virtual table and plans it. Without a column list the values go to
the columns `*` shows, in order, and each row must have one for each of them; a virtual table
takes no `ON CONFLICT` clause. -/
def planVirtualInsert (site : Site) (db : Database) (conflict : Option Conflict) (table : Table)
    (name : TableName) (columns : Option (List String)) (rows : InsertRows)
    (upsert : List UpsertClause) : Except StoreError Plan := do
  let spec := table.spec
  let targets ← columns.mapM (insertTargets spec name.written)
  let ctx := site.context db
  let (source, count) ← match rows with
    | .values rows => do
      let resolved ← resolveValueRows ctx rows
      if 1 < resolved.length then codeFaults resolved.flatten
      match resolved with
      | [row] => pure (InsertSource.single row, row.length)
      | _ => pure (InsertSource.rows resolved, (resolved.head?.map List.length).getD 0)
    | .query query => do
      let (resolved, resultColumns) ← resolveQueryIn ctx query
      lastFault (resolved.deepFaults 10000)
      pure (InsertSource.query resolved true, resultColumns.length)
    | .defaults => pure (InsertSource.defaults, 0)
  let shown := (List.range spec.columns.length).filter fun index => !spec.isHidden index
  match columns with
  | none =>
    if count != 0 && count != shown.length then
      throw (.columnCount name.written shown.length count)
  | some columns =>
    if count != columns.length then throw (.valuesForColumns count columns.length)
  if !upsert.isEmpty then
    throw (.refused ("UPSERT not implemented for virtual table \"" ++ spec.name ++ "\""))
  let (positions, rowIdAt) := targets.getD (shown, none)
  pure (.virtualWrite ⟨spec, conflict, .inserted source positions rowIdAt⟩)

/-- Checks an update of a virtual table and plans it: each column assigned must be the table's
or its row id; the rows are those its condition, ordering and limit choose, each with its row id,
its new row id and the new values of all its columns, the last assignment of a column winning. -/
def planVirtualUpdate (site : Site) (db : Database) (conflict : Option Conflict) (table : Table)
    (name : TableName) (assignments : List Assignment) (sources : List Joined)
    (condition : Option Expr) (limits : RowLimit) : Except StoreError Plan := do
  let spec := table.spec
  checkRowLimit "UPDATE" limits
  if let some unknown := assignments.find? fun assignment =>
      (spec.columnIndex? assignment.column).isNone && !isRowIdName assignment.column then
    throw (.noSuchColumn unknown.column)
  let column (text : String) : Expr := .name [name.visible] ⟨text, false, false⟩
  let assigned (isColumn : String → Bool) (otherwise : Expr) : Expr :=
    match assignments.reverse.find? (isColumn ·.column) with
    | some assignment => assignment.value
    | none => otherwise
  let news := spec.columns.map fun specColumn =>
    assigned (sameName · specColumn.name) (column specColumn.name)
  let newRowId := assigned (fun written => (spec.columnIndex? written).isNone &&
    isRowIdName written) (column "rowid")
  let (resolved, _) ← resolveQueryIn (site.context db)
    (tableSelection name (column "rowid" :: newRowId :: news) sources condition limits)
  lastFault (resolved.deepFaults 10000)
  pure (.virtualWrite ⟨spec, conflict, .updated resolved⟩)

/-- Checks a delete from a virtual table and plans it: the rows are those its condition,
ordering and limit choose. -/
def planVirtualDelete (site : Site) (db : Database) (table : Table) (name : TableName)
    (condition : Option Expr) (limits : RowLimit) : Except StoreError Plan := do
  checkRowLimit "DELETE" limits
  let (resolved, _) ← resolveQueryIn (site.context db)
    (tableSelection name [.name [name.visible] ⟨"rowid", false, false⟩] [] condition limits)
  lastFault (resolved.deepFaults 10000)
  pure (.virtualWrite ⟨table.spec, none, .deleted resolved⟩)

/-! ## Definitions -/

/-- Whether a table may not be dropped: the tables named `sqlite_…` that the store keeps. -/
def keptByStore (name : String) : Bool :=
  let lower := String.ofList (name.toList.map Char.toLower)
  lower.startsWith "sqlite_" && !(lower.drop 7).toString.startsWith "stat" &&
    !(lower.drop 7).toString.startsWith "parameters"

/-- Whether a name starts with `sqlite_`, in any ASCII case. -/
def isStoreName (name : String) : Bool :=
  sameName (String.ofList (name.toList.take 7)) "sqlite_"

/-- Checks a drop of a table or a view and plans it: the name must find one, which must not be a
table the store keeps, and must be of the kind the statement drops. -/
def planDrop (db : Database) (view ifExists : Bool) (name : TableName) : Except StoreError Plan :=
  match findRelation db none name with
  | none =>
    if ifExists then .ok .nothing
    else if view then .error (.refused ("no such view: " ++ name.shown))
    else .error (.noSuchTable name.shown)
  | some (.table table) =>
    if keptByStore table.spec.name then .error (.mayNotBeDropped table.spec.name)
    else if view then .error (.refused ("use DROP TABLE to delete table " ++ table.spec.name))
    else .ok (.dropTable table.spec.schema table.spec.name)
  | some (.view found) =>
    if !view then .error (.refused ("use DROP VIEW to delete view " ++ found.name))
    else .ok (.dropView found.schema found.name)

/-- Checks a drop of a trigger: in its database, or in `temp`, `main` and the attached databases
in turn. -/
def planDropTrigger (db : Database) (ifExists : Bool) (name : TableName) :
    Except StoreError Plan :=
  let schemas := match name.schema with
    | some written => (db.schemaNamed? written).toList
    | none => db.schemaOrder
  match schemas.findSome? fun schema => db.triggerIn? schema name.name with
  | some trigger => .ok (.dropTrigger trigger.schema trigger.name)
  | none =>
    if ifExists then .ok .nothing else .error (.refused ("no such trigger: " ++ name.shown))

/-- The unique constraint of a unique index: on its columns when every term is a column (each
compared in the collation its term names or else in its column's), otherwise on its
expressions; with the condition of a partial index. A key holding the row id is unique anyway,
and asks for nothing. -/
def indexConstraint (name : String) (terms : List Expr) (condition : Option Expr) :
    Option UniqueSpec :=
  let readsRowId := terms.any fun
    | .column _ .rowId _ _ | .collate (.column _ .rowId _ _) _ => true
    | _ => false
  if readsRowId then none else
  let column? (term : Expr) : Option (Nat × Collation) :=
    let (inner, named) := match term with
      | .collate inner collation => (inner, Collation.ofName? collation)
      | other => (other, none)
    match inner with
    | .column _ (.column index) _ own => some (index, named.getD (own.getD .binary))
    | _ => none
  match terms.mapM column? with
  | some columns => some ⟨columns, .abort, some name, [], condition, 0⟩
  | none =>
    some ⟨[], .abort, some name, terms.map fun term => (term, usedCollation term.collation?),
      condition, 0⟩

/-- Checks a new index and plans it. The checks go in this order: a `NULLS` ordering, the
database of the name, the table, a temporary index on a table of another database, a table of
the store's own, a view, a reserved name, a table or another index of the same name, the
condition, then each term with its collation. -/
def planCreateIndex (db : Database) (unique ifNotExists : Bool) (schemaWritten : Option String)
    (index : TableName) (tableName : String) (terms : List IndexTerm) (condition : Option Expr)
    (sql : String) : Except StoreError Plan := do
  if let some word := terms.findSome? (·.nulls) then throw (.nullsOrdering word)
  let named ← match index.schema with
    | some schema =>
      match db.schemaNamed? schema with
      | some found => pure (some found)
      | none => throw (.unknownDatabase (schemaWritten.getD schema))
    | none => pure none
  let plain : TableName := ⟨none, tableName, none, none, false⟩
  let schema := match named with
    | some schema => schema
    | none =>
      match findRelation db none plain with
      | some (.table table) => if table.spec.schema == "temp" then "temp" else "main"
      | _ => "main"
  let temporary := schema == "temp"
  let found := if temporary then findRelation db none plain else findRelation db (some schema) plain
  let table ← match found with
    | some (.table table) => pure (some table)
    | some (.view _) => pure none
    | none => throw (.noSuchTable (if temporary then tableName else schema ++ "." ++ tableName))
  match table with
  | none =>
    if isStoreName tableName then throw (.mayNotBeIndexed tableName)
    throw (.refused "views may not be indexed")
  | some table =>
  let spec := table.spec
  if temporary && spec.schema != "temp" then throw (.temporaryIndex spec.name)
  if isStoreName spec.name then throw (.mayNotBeIndexed spec.name)
  if spec.virtual.isSome then throw (.refused "virtual tables may not be indexed")
  if isStoreName index.name then throw (.reservedName index.name)
  if (db.tableIn? schema index.name).isSome || (db.viewIn? schema index.name).isSome then
    throw (.tableNamed index.name)
  if (db.indexIn? schema index.name).isSome then
    if ifNotExists then return .nothing else throw (.indexExists index.name)
  let ctx := Context.ofTable db spec spec.name .indexCondition
  let condition ← condition.mapM (resolveIn ctx)
  let ctx := { ctx with purpose := .indexTerm }
  let resolved ← terms.mapM fun term => do
    let written := match term.expr with
      | .string text => .name [] ⟨text, false, false⟩
      | .collate (.string text) collation => .collate (.name [] ⟨text, false, false⟩) collation
      | other => other
    let e ← resolveIn ctx written
    if let .collate _ collation := e then
      if (Collation.ofName? collation).isNone then throw (.noSuchCollation collation)
    pure e
  codeFaults (condition.toList ++ resolved)
  let constraint := if unique then indexConstraint index.name resolved condition else none
  pure (.createIndex spec.schema spec.name
    ⟨index.name, unique, resolved, terms.map (·.descending), condition, sql, 0⟩ constraint)

/-- Checks the removal of an index and plans it: the index must exist, and must not be one that
a table constraint brings. -/
def planDropIndex (db : Database) (ifExists : Bool) (index : TableName) : Except StoreError Plan :=
  let found := match index.schema with
    | some written => (db.schemaNamed? written).bind fun schema => db.indexIn? schema index.name
    | none => db.index? index.name
  match found with
  | none => if ifExists then .ok .nothing else .error (.noSuchIndex index.shown)
  | some (_, none) => .error .constraintIndex
  | some (table, some _) => .ok (.dropIndex table.spec.schema table.spec.name index.name)

/-- The declared type a column of a table made from a query takes from its affinity. -/
def declaredOfAffinity : Affinity → String
  | .blob => ""
  | .text => "TEXT"
  | .numeric => "NUM"
  | .integer => "INT"
  | .real => "REAL"

/-- A name as the definition of a table made from a query writes it: in double quotes, those
within doubled, unless it is letters, digits and `_`, starts with no digit, and is no keyword. -/
def writtenIdentifier (name : String) : String :=
  let chars := name.toList
  let plain := !chars.isEmpty && chars.all (fun c => c.isAlphanum || c == '_') &&
    !(chars.head?.any Char.isDigit) &&
    !keywords.contains (String.ofList (chars.map Char.toUpper))
  if plain then name
  else "\"" ++ String.join (chars.map fun c => if c == '"' then "\"\"" else c.toString) ++ "\""

/-- The definition the schema table shows for a table made from a query: its name and each
column's name with the type of its affinity, on one line, or one column a line when the names
and types take fifty characters or more. -/
def definitionOfColumns (name : String) (columns : List ColumnSpec) : String :=
  let width (text : String) : Nat :=
    text.utf8ByteSize + (text.toList.filter (· == '"')).length + 2
  let size := (columns.map fun column => width column.name + 5).foldr (· + ·) 0 + width name
  let (opening, between, closing) :=
    if size < 50 then ("", ",", ")") else ("\n  ", ",\n  ", "\n)")
  let written := columns.map fun column =>
    writtenIdentifier column.name ++ (if column.declared.isEmpty then "" else " " ++ column.declared)
  "CREATE TABLE " ++ writtenIdentifier name ++ "(" ++ opening ++ String.intercalate between written ++
    closing

/-- Checks a table made from a query and plans it: its columns take the names, affinities and
collations of the query's result columns. -/
def planCreateAs (site : Site) (db : Database) (schema name : String) (query : Query) :
    Except StoreError Plan := do
  let (resolved, columns) ← resolveQueryIn (site.context db) query
  lastFault (resolved.deepFaults 10000)
  let names := uniqueNames (columns.map (·.name))
  let specColumns := (names.zip columns).map fun (columnName, column) =>
    let affinity := column.affinity.getD .blob
    ({ name := columnName, declared := declaredOfAffinity affinity, affinity := affinity, notNull := none,
       default := none, collation := column.collation.getD .binary, generated := none,
       defaultText := none } :
      ColumnSpec)
  pure (.createAs
    { name := name, schema := schema, columns := specColumns, rowIdColumn := none,
      rowIdConflict := .abort, uniques := [], autoIncrement := false, indexes := [],
      checkConstraints := [], strict := false, withoutRowId := false, primaryKey := [],
      references := [], sql := definitionOfColumns name specColumns, entry := 0 }
    resolved)

/-! ## Changing tables -/

/-- The table `ALTER TABLE` names, which must be a table that may be altered. -/
def alterTarget (db : Database) (name : TableName) : Except StoreError (Option Table) :=
  match findRelation db none name with
  | some (.table table) =>
    if isStoreName table.spec.name then
      .error (.refused ("table " ++ table.spec.name ++ " may not be altered"))
    else .ok (some table)
  | some (.view _) => .ok none
  | none => .error (.noSuchTable name.shown)

/-- Checks `ALTER TABLE` and plans it. -/
def planAlter (db : Database) (name : TableName) : AlterAction → Except StoreError Plan
  | .renameTable newName => do
    match findRelation db none name with
    | none => throw (.noSuchTable name.shown)
    | some found =>
      let (schema, oldName, isView) := match found with
        | .table table => (table.spec.schema, table.spec.name, false)
        | .view view => (view.schema, view.name, true)
      if (db.tableIn? schema newName).isSome || (db.viewIn? schema newName).isSome ||
          (db.indexIn? schema newName).isSome then
        throw (.refused ("there is already another table or index with this name: " ++ newName))
      if isStoreName oldName then
        throw (.refused ("table " ++ oldName ++ " may not be altered"))
      if isStoreName newName then throw (.reservedName newName)
      if isView then throw (.refused ("view " ++ oldName ++ " may not be altered"))
      pure (.renameTable schema oldName newName)
  | .renameColumn old new quoted => do
    let some table ← alterTarget db name
      | throw (.refused ("cannot rename columns of view \"" ++ name.name ++ "\""))
    let spec := table.spec
    if spec.virtual.isSome then
      throw (.refused ("cannot rename columns of virtual table \"" ++ spec.name ++ "\""))
    let some index := spec.columnIndex? old
      | throw (.noSuchColumn ("\"" ++ old ++ "\""))
    if spec.columns.zipIdx.any fun (column, other) => other != index && sameName column.name new
    then throw (.duplicateColumn new)
    pure (.renameColumn spec.schema spec.name index new quoted)
  | .addColumn column => do
    let some table := (db.tableIn? (name.schema.getD "main") name.name) <|> db.table? name.name
      | throw (.noSuchTable name.shown)
    let spec := table.spec
    if column.primaryKey then throw (.refused "Cannot add a PRIMARY KEY column")
    if column.unique then throw (.refused "Cannot add a UNIQUE column")
    pure (.addColumn spec.schema spec.name column)
  | .dropColumn columnName => do
    let some table ← alterTarget db name
      | throw (.refused ("cannot drop column from view \"" ++ name.name ++ "\""))
    let spec := table.spec
    if spec.virtual.isSome then
      throw (.refused ("cannot drop column from virtual table \"" ++ spec.name ++ "\""))
    let some index := spec.columnIndex? columnName
      | throw (.noSuchColumn ("\"" ++ columnName ++ "\""))
    let column := (spec.column? index).map (·.name) |>.getD columnName
    let inPrimaryKey := spec.rowIdColumn == some index || spec.primaryKey.any (·.1 == index)
    let inUnique := spec.uniques.any fun unique =>
      unique.index.isNone && unique.columns.map (·.1) == [index]
    if inPrimaryKey then throw (.refused ("cannot drop PRIMARY KEY column: \"" ++ column ++ "\""))
    if inUnique then throw (.refused ("cannot drop UNIQUE column: \"" ++ column ++ "\""))
    if spec.columns.length ≤ 1 then
      throw (.refused ("cannot drop column \"" ++ column ++ "\": no other columns exist"))
    pure (.dropColumn spec.schema spec.name index)

/-! ## Other statements -/

/-- The database a statement names: `main`, `temp`, an attached one, or the failure naming it as
written. -/
def databaseNamed (db : Database) (schema : WrittenName) : Except StoreError String :=
  match db.schemaNamed? schema.name with
  | some found => .ok found
  | none => .error (.unknownDatabase schema.written)

/-- Whether a text reads as a 32-bit integer the way a pragma's count does: an optional sign and
digits, or hexadecimal digits after `0x`; what follows the digits is not looked at. -/
def readsAsCount (text : String) : Bool :=
  match text.toList with
  | '0' :: x :: rest =>
    if x == 'x' || x == 'X' then
      let digits := (rest.dropWhile (· == '0')).takeWhile Char.isHexDigit
      match rest.head? with
      | some c => c.isHexDigit && digits.length ≤ 8 &&
        (digits.foldl (fun n c => n * 16 +
          (if c.isDigit then c.toNat - '0'.toNat else c.toLower.toNat - 'a'.toNat + 10)) 0) <
          Nat.pow 2 31
      | none => false
    else decimal ('0' :: x :: rest) false
  | '-' :: rest => decimal rest true
  | '+' :: rest => decimal rest false
  | chars => decimal chars false
where
  decimal (chars : List Char) (negative : Bool) : Bool :=
    match chars.head? with
    | some c =>
      c.isDigit &&
        let digits := (chars.dropWhile (· == '0')).takeWhile Char.isDigit
        digits.length ≤ 10 &&
          digits.foldl (fun n c => n * 10 + (c.toNat - '0'.toNat)) 0 ≤
            Nat.pow 2 31 - (if negative then 0 else 1)
    | none => false

/-- The leading 32-bit integer of a text that starts with a digit: decimal, or hexadecimal after
`0x`; 0 when it does not fit. -/
def leadingInt32 (text : List Char) : Nat :=
  let hexValue (c : Char) : Nat := if c.isDigit then c.toNat - 48 else c.toLower.toNat - 87
  match text with
  | '0' :: x :: first :: rest =>
    if (x == 'x' || x == 'X') && first.isHexDigit then
      let digits := (first :: rest).dropWhile (· == '0')
      let taken := digits.takeWhile Char.isHexDigit
      let n := (taken.take 8).foldl (fun n c => n * 16 + hexValue c) 0
      if n < Nat.pow 2 31 && taken.length ≤ 8 then n else 0
    else
      let digits := (text.dropWhile (· == '0')).takeWhile Char.isDigit
      let n := (digits.take 11).foldl (fun n c => n * 10 + (c.toNat - 48)) 0
      if 10 < digits.length || 2147483647 < n then 0 else n
  | _ =>
    let digits := (text.dropWhile (· == '0')).takeWhile Char.isDigit
    let n := (digits.take 11).foldl (fun n c => n * 10 + (c.toNat - 48)) 0
    if 10 < digits.length || 2147483647 < n then 0 else n

/-- A pragma's argument read as a truth: a number (its low byte not zero), or `on`, `yes`, `true`
against `off`, `no`, `false` in any ASCII case; anything else is false. -/
def pragmaTruth (text : String) : Bool :=
  match text.toList with
  | c :: rest =>
    if c.isDigit then leadingInt32 (c :: rest) % 256 != 0
    else ["on", "yes", "true"].any (sameName text ·)
  | [] => false

/-- Checks a pragma. Its database must exist; the checks of foreign keys and of integrity name a
table when their argument is no count, and the table must exist. Setting `case_sensitive_like`
changes how `LIKE` compares, `ignore_check_constraints` whether writes check, `foreign_keys`
whether references are enforced, `recursive_triggers` whether a running trigger runs again,
`reverse_unordered_selects` whether queries that ask for no order read backward,
`automatic_index` whether queries may build indexes, `query_only` whether statements that
write are refused, and `legacy_alter_table` whether renaming a table leaves the views and
triggers that name it as they are; every other pragma leaves the store as it is. -/
def planPragma (db : Database) (schema : Option WrittenName) (name : String)
    (argument : Option String) : Except StoreError Plan := do
  let database ← schema.mapM (databaseNamed db)
  let lower := lowerName name
  if let some table := argument then
    let namesTable := lower == "foreign_key_check" ||
      ((lower == "integrity_check" || lower == "quick_check") && !readsAsCount table)
    let found := match database with
      | some database => (db.tableIn? database table).isSome
      | none => (db.table? table).isSome
    if namesTable && !found then
      throw (.noSuchTable (match database with
        | some database => database ++ "." ++ table
        | none => table))
    if lower == "case_sensitive_like" then return .likeCase (pragmaTruth table)
    if lower == "ignore_check_constraints" then return .ignoreChecks (pragmaTruth table)
    if lower == "foreign_keys" then return .foreignKeys (pragmaTruth table)
    if lower == "recursive_triggers" then return .recursiveTriggers (pragmaTruth table)
    if lower == "reverse_unordered_selects" then return .reverseUnordered (pragmaTruth table)
    if lower == "automatic_index" then return .automaticIndex (pragmaTruth table)
    if lower == "query_only" then return .queryOnly (pragmaTruth table)
    if lower == "legacy_alter_table" then return .legacyAlter (pragmaTruth table)
  pure .nothing

/-- What `ANALYZE` finds by a name in a database, or in each in turn: an index, else a table or
a view. -/
def analyzeTarget? (db : Database) (schema : Option String) (name : String) :
    Option AnalyzeTarget :=
  let index := match schema with
    | some schema => db.indexIn? schema name
    | none => db.index? name
  match index with
  | some (table, _) => some (.index table.spec.schema table.spec.name name)
  | none =>
    match findRelation db schema ⟨none, name, none, none, false⟩ with
    | some (.table table) => some (.table table.spec.schema table.spec.name)
    | some (.view view) => some (.table view.schema view.name)
    | none => none

/-- Checks `ANALYZE`: without a name it measures every database but `temp`; one name may be a
database, an index or a table; after a database, the name is an index or a table of it. -/
def planAnalyze (db : Database) :
    Option (WrittenName × Option WrittenName) → Except StoreError Plan
  | none => .ok (.analyze (.databases ("main" :: db.attached)))
  | some (first, none) =>
    match (databaseNamed db first).toOption with
    | some schema => .ok (.analyze (.databases [schema]))
    | none =>
      match analyzeTarget? db none first.name with
      | some target => .ok (.analyze target)
      | none => .error (.noSuchTable first.name)
  | some (first, some second) => do
    let database ← databaseNamed db first
    match analyzeTarget? db (some database) second.name with
    | some target => pure (.analyze target)
    | none => throw (.noSuchTable (database ++ "." ++ second.name))

/-- Checks `REINDEX`: one name may be a collation, a table or an index; after a database, the
name is a table or an index of it. -/
def planReindex (db : Database) :
    Option (WrittenName × Option WrittenName) → Except StoreError Plan
  | none => .ok .nothing
  | some (first, none) =>
    if (Collation.ofName? first.name).isSome || (db.table? first.name).isSome ||
        (db.index? first.name).isSome then .ok .nothing
    else .error .unknownReindexTarget
  | some (first, some second) => do
    let database ← databaseNamed db first
    if (db.tableIn? database second.name).isSome || (db.indexIn? database second.name).isSome
    then pure .nothing
    else throw .unknownReindexTarget

/-- Checks `VACUUM`: its database must exist, and the file name may read no column. The temporary
database has nothing to write again. -/
def planVacuum (db : Database) (schema : Option WrittenName) (into : Option Expr) :
    Except StoreError Plan := do
  let database ← schema.mapM (databaseNamed db)
  let into ← into.mapM (resolveIn (Context.start db))
  if database == some "temp" then pure .nothing else pure (.vacuum into)

/-- The name `ATTACH` and `DETACH` give a database: a bare name stands for its text. -/
def attachName (db : Database) (e : Expr) : Except StoreError Expr :=
  match e with
  | .name [] written => .ok (.string written.text)
  | other => resolveIn (Context.start db) other

/-- Checks a query and plans it, with the calls it computes once. -/
def planQuery (site : Site) (db : Database) (query : Query) : Except StoreError Plan := do
  let (resolved, _) ← resolveQueryIn (site.context db) query
  lastFault (resolved.deepFaults 10000)
  pure (.query resolved (if site.trigger.isNone then resolved.onceCalls 10000 else []))

/-- Checks a statement against a database and plans it. -/
def planStatement (site : Site) (db : Database) : Statement → Except StoreError Plan
  | .insert conflict table columns rows upsert returning =>
    match viewTarget? site db table, virtualTarget? site db table with
    | some view, _ => planViewInsert site db conflict view table columns rows
    | none, some virtual => planVirtualInsert site db conflict virtual table columns rows upsert
    | none, none => planInsert site db conflict table columns rows upsert returning
  | .update conflict table assignments sources condition returning limits =>
    match viewTarget? site db table, virtualTarget? site db table with
    | some view, _ =>
      planViewUpdate site db conflict view table assignments sources condition limits
    | none, some virtual =>
      planVirtualUpdate site db conflict virtual table assignments sources condition limits
    | none, none => planUpdate site db conflict table assignments sources condition returning limits
  | .delete table condition returning limits =>
    match viewTarget? site db table, virtualTarget? site db table with
    | some view, _ => planViewDelete site db view table condition limits
    | none, some virtual => planVirtualDelete site db virtual table condition limits
    | none, none => planDelete site db table condition returning limits
  | .common _ tables body => planStatement { site with withs := tables :: site.withs } db body
  | .dropTable ifExists table => planDrop db false ifExists table
  | .dropView ifExists view => planDrop db true ifExists view
  | .dropTrigger ifExists trigger => planDropTrigger db ifExists trigger
  | .createTable (some spec) => .ok (.create spec)
  | .createTable none => .ok .nothing
  | .createTableAs schema name query => planCreateAs site db schema name query
  | .createView schema name columns query sql =>
    .ok (.createView ⟨name, schema, columns, query, sql, 0⟩)
  | .createTrigger schema name timing event table condition body sql =>
    .ok (.createTrigger ⟨name, schema, table, timing, event, condition, body, sql, 0⟩)
  | .createVirtual schema name moduleName arguments sql =>
    .ok (.createVirtual schema name moduleName arguments sql)
  | .unchanged => .ok .nothing
  | .createIndex unique ifNotExists schemaWritten index table terms condition sql =>
    planCreateIndex db unique ifNotExists schemaWritten index table terms condition sql
  | .dropIndex ifExists index => planDropIndex db ifExists index
  | .alter table action => planAlter db table action
  | .attach file name => do
    let file ← resolveIn (Context.start db) file
    pure (.attach file (← attachName db name))
  | .detach name => do pure (.detach (← attachName db name))
  | .select query => planQuery site db query
  | .control c => .ok (.control c)
  | .vacuum schema into => planVacuum db schema into
  | .pragma schema name argument => planPragma db schema name argument
  | .analyze target => planAnalyze db target
  | .reindex target => planReindex db target
  | .explain statement => do
    let _ ← planStatement site db statement
    pure .nothing

/-! ## Running -/

/-- A value read as a row id: numeric affinity must make it an integer. -/
def rowIdOf (value : Value) : Except StoreError Int :=
  match Value.withAffinity .numeric value with
  | .integer n => .ok n
  | _ => .error .mismatch

/-- What a statement runs with: the values of its parameters, the triggers running (each by its
database and name, the innermost first), the rows the innermost trigger runs for, and the rule
of the statement that fired it, which overrides the rules of the trigger's statements. -/
structure Env where
  parameters : List Value
  active : List (String × String)
  triggerRows : Option Level
  override : Option Conflict

/-- A statement run on its own, with the values of its parameters. -/
def Env.top (parameters : List Value) : Env := ⟨parameters, [], none, none⟩

/-- The scope a statement's expressions are evaluated in, below any row it visits. -/
def Env.base (env : Env) (db : Database) : Scope :=
  { Scope.start db env.parameters with levels := env.triggerRows.toList }

/-- Runs the statements of a trigger's body, each read anew against the database. -/
abbrev StepRunner := Env → Database → Site → Statement → Except StoreError Database

/-- The site of the statements of a trigger on a table. -/
def triggerSite (trigger : Trigger) (spec : TableSpec) : Site :=
  let old := match trigger.event with
    | .insert => false
    | _ => true
  let new := match trigger.event with
    | .delete => false
    | _ => true
  ⟨some ⟨spec, old, new⟩, if trigger.schema == "temp" then none else some trigger.schema, []⟩

/-- How deep triggers may run within each other. -/
def triggerDepth : Nat := 1000

/-- Runs triggers for the change of a row, in turn: each that is not running already (unless
triggers may run again) and whose condition holds runs its statements, under the rule of the
statement that fired it; a trigger that would run deeper than `triggerDepth` fails before its
condition is tested. The row id of the last insert, and the count of the last statement's
changes, are as they were once each trigger ends. `RAISE(IGNORE)` ends the trigger and passes
over the triggers left, keeping what the statements before it did: the database, and whether
the row's change is to be left undone. -/
def fireTriggers (step : StepRunner) (env : Env) (spec : TableSpec) (override : Option Conflict)
    (old new : Option Row) (triggers : List Trigger) (db : Database) :
    Except StoreError (Database × Bool) :=
  triggers.foldlM (fun (db, ignored) trigger => do
    if ignored then return (db, true)
    let key := (trigger.schema, trigger.name)
    if env.active.contains key && !db.session.recursiveTriggers then return (db, false)
    if triggerDepth ≤ env.active.length then throw (.refused "too many levels of trigger recursion")
    let rows : Level := ⟨[old, new], [], []⟩
    let site := triggerSite trigger spec
    let scope : Scope := { Scope.start db [] with levels := [rows] }
    if let some condition := trigger.condition then
      let resolved ← resolveIn (site.context db) condition
      match resolved.holds queryRunner scope with
      | .error .raiseIgnore => return (db, true)
      | .error error => throw error
      | .ok false => return (db, false)
      | .ok true => pure ()
    let inner : Env := ⟨[], key :: env.active, some rows, override⟩
    let saved := db.session
    let (db, ignored) ← trigger.body.foldlM (fun (db, ignored) statement =>
      if ignored then .ok (db, true)
      else
        match step inner db site statement with
        | .ok db => .ok (db, false)
        | .error .raiseIgnore => .ok (db, true)
        | .error error => .error error) (db, false)
    pure ({ db with session := { db.session with
      lastInsertRowId := saved.lastInsertRowId, changes := saved.changes } }, ignored)) (db, false)

/-! ## References between tables -/

/-- The references a write to a table keeps while references are enforced: those the table
makes, each with its key in the parent, and those made to it, each with its child's name and
its key in the table. -/
structure ReferenceChecks where
  outgoing : List (ReferenceSpec × List KeyPart)
  incoming : List (String × ReferenceSpec × List KeyPart)

/-- No reference to keep. -/
def ReferenceChecks.none : ReferenceChecks := ⟨[], []⟩

/-- The references a write to a table keeps, when they are enforced: those it makes that `mine`
keeps, whose parent must exist and have a key for them, and those made to it that `theirs` keeps,
for which it must have a key. -/
def referenceChecks (db : Database) (spec : TableSpec) (mine : ReferenceSpec → Bool)
    (theirs : List KeyPart → ReferenceSpec → Bool) : Except StoreError ReferenceChecks := do
  if !db.session.foreignKeys then return .none
  let outgoing ← (spec.references.filter mine).mapM fun reference => do
    let some parent := db.tableIn? spec.schema reference.parent
      | throw (.noSuchTable (spec.schema ++ "." ++ reference.parent))
    pure (reference, ← parentKey parent.spec spec.name reference)
  let incoming ← (referencesTo db spec.schema spec.name).filterMapM fun (child, reference) => do
    let key ← parentKey spec child.spec.name reference
    pure (if theirs key reference then some (child.spec.name, reference, key) else none)
  pure ⟨outgoing, incoming⟩

/-- Counts the references of a child row as it goes (`old`) or comes (`new`): a row whose
columns name no parent row mends one broken reference as it goes and breaks one as it comes. -/
def checkOutgoing (db : Database) (spec : TableSpec) (checks : ReferenceChecks)
    (old new : Option Row) : Database :=
  checks.outgoing.foldl (fun db (reference, key) =>
    let parent := db.tableIn? spec.schema reference.parent
    let named (row : Row) : Bool :=
      match referringValues key row with
      | some values => !(parent.any fun parent => parentHolds parent key values)
      | none => false
    let db := match old with
      | some row => if named row then countBroken db reference.deferred (-1) else db
      | none => db
    match new with
    | some row => if named row then countBroken db reference.deferred 1 else db
    | none => db) db

/-- Counts the child rows a parent row's key meets: broken as the row goes (`amount` 1), mended
as it comes (-1). A row of a table that refers to itself is not its own child. -/
def checkIncoming (db : Database) (spec : TableSpec) (checks : ReferenceChecks) (row : Row)
    (amount : Int) : Database :=
  checks.incoming.foldl (fun db (childName, reference, key) =>
    match db.tableIn? spec.schema childName with
    | some child =>
      let met := referringRows child key row
      let met := if sameName childName spec.name then met.filter (·.id != row.id) else met
      if met.isEmpty then db else countBroken db reference.deferred (amount * met.length)
    | none => db) db

/-- A value as an expression that gives it. -/
def valueExpr : Value → Expr
  | .null => .null
  | .integer n =>
    if n < 0 then .unary .negate (.integer (toString n.natAbs)) else .integer (toString n)
  | .real x => .real (realText x)
  | .text bytes => .string (Text.decodeUtf8Lossy bytes)
  | .blob bytes => .blob bytes

/-- The statement a reference's action runs on the child rows of a parent row that goes (`new`
none) or changes: remove them, or set their columns to NULL, to their defaults, or to the new
key, each child row being one whose columns equal the old key. -/
def actionStatement (parent child : TableSpec) (key : List KeyPart) (action : ReferenceAction)
    (changing : Bool) : Option Statement :=
  let parentName (part : KeyPart) : String := ((parent.column? part.parent).map (·.name)).getD ""
  let childName (part : KeyPart) : String := ((child.column? part.child).map (·.name)).getD ""
  let condition := (key.map fun part =>
      Expr.binary .eq (.name ["old"] ⟨parentName part, false, false⟩)
        (.name [] ⟨childName part, false, false⟩)).foldl
    (fun (acc : Option Expr) term => some ((acc.map fun acc => Expr.binary .and acc term).getD term))
    none
  let target : TableName := ⟨none, child.name, none, none, false⟩
  let assign (value : KeyPart → Expr) : Statement :=
    .update none target (key.map fun part => ⟨childName part, value part⟩) [] condition []
      RowLimit.none
  match action, changing with
  | .cascade, false => some (.delete target condition [] RowLimit.none)
  | .cascade, true => some (assign fun part => .name ["new"] ⟨parentName part, false, false⟩)
  | .setNull, _ => some (assign fun _ => .null)
  | .setDefault, _ =>
    some (assign fun part =>
      valueExpr ((((child.column? part.child).bind (·.default))).getD .null))
  | _, _ => none

/-- Runs the actions of the references made to a table for a parent row that went (`new` none)
or changed its key: a restricting reference fails while a child row names the old key; the
others remove their child rows or set their columns, as a trigger on the table would. -/
def runReferenceActions (step : StepRunner) (env : Env) (spec : TableSpec)
    (checks : ReferenceChecks) (old : Row) (new : Option Row) (db : Database) :
    Except StoreError Database :=
  checks.incoming.foldlM (fun db (childName, reference, key) => do
    let action := if new.isSome then reference.onUpdate else reference.onDelete
    if let some new := new then
      if !keyChanged key old new then return db
    let some child := db.tableIn? spec.schema childName | return db
    if action == .restrict then
      if (referringRows child key old).isEmpty then return db
      else throw (.constraint "FOREIGN KEY constraint failed")
    match actionStatement spec child.spec key action new.isSome with
    | none => pure db
    | some statement =>
      let rows : Level := ⟨[some old, new], [], []⟩
      let site : Site :=
        ⟨some ⟨spec, true, new.isSome⟩, if spec.schema == "temp" then none else some spec.schema, []⟩
      step ⟨[], env.active, some rows, some .abort⟩ db site statement) db

/-- Computes the `RETURNING` expressions for a row, failing with the first that fails. -/
def returnRow (base : Scope) (returning : List Expr) (row : Row) : Except StoreError Unit :=
  returning.forM fun e => do
    let _ ← e.eval queryRunner (base.enter (Level.single row))

/-- The table of a database by its database and name, as it stands. -/
def currentTable (db : Database) (spec : TableSpec) : Option Table :=
  db.tableIn? spec.schema spec.name

/-- What a statement that writes rows has done so far: the database, the greatest row id it
counted, and the rows it changed. -/
structure Progress where
  db : Database
  count : Int
  changed : Nat

/-- Changes the row that a row an insert proposed clashed with, as a `DO UPDATE` says, when its
condition holds; every rule of the table is then abort. The result is the table, and the id of
the row changed. -/
def settleClash (base : Scope) (rules : RowRules) (setting : Setting) (other proposed : Row)
    (table : Table) : Except StoreError (Table × Option Int) := do
  let scope : Scope := { base.enter (Level.single other) with proposed := some proposed }
  let holds ← match setting.condition with
    | some condition => condition.holds queryRunner scope
    | none => pure true
  if !holds then return (table, none)
  let newId ← match setting.rowId with
    | some e => do rowIdOf (← e.eval queryRunner scope)
    | none => pure other.id
  let values ← other.values.zipIdx.mapM fun (old, index) =>
    match setting.changes.find? (·.1 == index) with
    | some (_, e) => e.eval queryRunner scope
    | none => pure old
  match ← (table.without other.id).write (some .abort) rules newId values with
  | some written => pure (written, some newId)
  | none => pure (table, none)

/-- The values of a new row before its generated columns: each column's value, or its default
when none is given; the row id's column and the generated ones hold NULL until they are known. -/
def rowValues (spec : TableSpec) (given : List (Option Value)) : List Value :=
  (spec.columns.zip given).map fun (column, value) =>
    if column.generated.isSome then .null
    else value.getD (column.default.getD .null)

/-- Completes the values of a row: kept as the columns ask, with the generated columns computed
(the types of a strict table's other columns checked first). -/
def completeRow (base : Scope) (spec : TableSpec) (generated : List (Nat × Expr)) (id : Int)
    (values : List Value) : Except StoreError (List Value) := do
  if generated.isEmpty then return values
  let kept := spec.keep id values
  spec.typeCheck false kept
  computeGenerated queryRunner base spec generated id kept

/-- Inserts one row with its id and the values of its columns, then runs the triggers after
the insert; a row a `DO UPDATE` takes up changes the other row instead. -/
def insertRow (step : StepRunner) (env : Env) (plan : InsertPlan) (conflict : Option Conflict)
    (rules : RowRules) (generated : List (Nat × Expr)) (references : ReferenceChecks)
    (after : List Trigger) (id : Int) (values : List Value) (progress : Progress) :
    Except StoreError Progress := do
  let some table := currentTable progress.db plan.spec | return progress
  let spec := table.spec
  let base := env.base progress.db
  let values ← completeRow base spec generated id values
  let count := if spec.autoIncrement then max progress.count id else progress.count
  match ← table.writeChecked conflict rules (spec.checks conflict plan.clauses) id values with
  | .stored written =>
    let row : Row := ⟨id, spec.keep id values⟩
    let db := checkIncoming progress.db spec references row (-1)
    let db := checkOutgoing (db.store written) spec references none (some row)
    let db := if spec.withoutRowId then db
      else { db with session := { db.session with lastInsertRowId := id } }
    returnRow (env.base db) plan.returning row
    let (db, _) ← fireTriggers step env spec conflict none (some row) after db
    pure ⟨db, count, progress.changed + 1⟩
  | .skipped => pure { progress with count := count }
  | .clashed clause other proposed =>
    match plan.settings[clause]? with
    | some (some setting) => do
      let (table, written) ← settleClash base rules setting other proposed table
      let db := progress.db.store table
      if let some written := written then
        if let some row := table.find? written then returnRow (env.base db) plan.returning row
      pure ⟨db, count, if written.isSome then progress.changed + 1 else progress.changed⟩
    | _ => pure { progress with count := count }

/-- Writes one row of an insert given its row id's value and its columns' values (computed once
the row id is known, for one row of values): the triggers before the insert see the row with the
row id it was given (-1 for none), and a NULL row id takes a fresh one after them. -/
def insertGiven (step : StepRunner) (env : Env) (plan : InsertPlan)
    (conflict : Option Conflict) (rules : RowRules) (generated : List (Nat × Expr))
    (references : ReferenceChecks) (before after : List Trigger) (rowIdValue : Value)
    (columnValues : Progress → Except StoreError (List (Option Value)))
    (progress : Progress) : Except StoreError Progress := do
  let spec := plan.spec
  let fresh (progress : Progress) : Except StoreError Int :=
    match currentTable progress.db spec with
    | some table => table.freshId (if spec.autoIncrement then some progress.count else none)
    | none => .error .full
  if before.isEmpty then
    let id ← if rowIdValue == .null then fresh progress else rowIdOf rowIdValue
    let values := rowValues spec (← columnValues progress)
    insertRow step env plan conflict rules generated references after id values progress
  else
    let shown ← if rowIdValue == .null then pure (-1) else rowIdOf rowIdValue
    let values := rowValues spec (← columnValues progress)
    let proposed : Row := ⟨shown, spec.keep shown values⟩
    match ← fireTriggers step env spec conflict none (some proposed) before progress.db with
    | (db, true) => pure { progress with db := db }
    | (db, false) =>
      let progress := { progress with db := db }
      let id ← if rowIdValue == .null then fresh progress else pure shown
      insertRow step env plan conflict rules generated references after id values progress

/-- Evaluates some expressions in turn. -/
def evalAll (base : Scope) (items : List (Option Expr)) : Except StoreError (List (Option Value)) :=
  items.mapM fun item => item.mapM (·.eval queryRunner base)

/-- The rows of a query an insert writes, as far as they can be computed before a failure: all of
them, or those before the row whose computing fails, with the failure. -/
def streamedRows (base : Scope) (query : Query) :
    List (List Value) × Option StoreError :=
  match queryRunner base query none with
  | .ok rows => (rows, none)
  | .error error =>
    let rec grow (fuel : Nat) (count : Nat) (rows : List (List Value)) :
        List (List Value) × Option StoreError :=
      match fuel with
      | 0 => (rows, some error)
      | fuel + 1 =>
        match queryRunner base query (some (count + 1)) with
        | .ok more => if more.length ≤ rows.length then (rows, some error)
          else grow fuel (count + 1) more
        | .error _ => (rows, some error)
    grow 100000 0 []

/-- Runs an insert: its rows in turn, each computed when its turn comes (the rows of a query
that reads the table, or that runs triggers, all computed first). An autoincrementing table then
counts the greatest row id in its sequence table. -/
def runInsert (step : StepRunner) (env : Env) (db : Database) (plan : InsertPlan) :
    Except StoreError Database := do
  let some table := currentTable db plan.spec | return db
  let spec := table.spec
  let base := env.base db
  let conflict := env.override <|> plan.conflict
  let checks ← if db.session.ignoreChecks then pure [] else checkExprsOf spec db
  let generated ← generatedExprsOf spec db
  let rules := writeRules queryRunner base conflict checks none
  let before := triggersFor db spec .before .insert []
  let after := triggersFor db spec .after .insert []
  let stored := db.sequenceRow? spec.schema spec.name
  let start := db.sequenceOf spec.schema spec.name
  let several := match plan.source with
    | .rows _ | .query .. => true
    | _ => false
  let multiWrite := several || env.triggerRows.isSome || !before.isEmpty || !after.isEmpty
  let references ← referenceChecks db spec (fun _ => true) fun _ reference =>
    reference.deferred || multiWrite
  let given := insertGiven step env plan conflict rules generated references before after
  let scopeOf (progress : Progress) : Scope := env.base progress.db
  let progress : Progress := ⟨db, start, 0⟩
  let done ← match plan.source with
    | .single row => do
      let (columns, rowId) := placeValues spec plan.targets row
      if env.triggerRows.isNone then
        computeFixed base ((columns.filterMap id ++ rowId.toList).flatMap (Expr.onceCalls 10000))
      let rowIdValue ← match rowId with
        | some e => e.eval queryRunner base
        | none => pure .null
      given rowIdValue (fun progress => evalAll (scopeOf progress) columns) progress
    | .defaults => given .null (fun _ => pure (spec.columns.map fun _ => none)) progress
    | .rows rows => do
      if env.triggerRows.isNone then
        computeFixed base (rows.flatten.flatMap (Expr.onceCalls 10000))
      rows.foldlM (fun progress row => do
        let values ← row.mapM (·.eval queryRunner (scopeOf progress))
        let (columns, rowId) := placeValues spec plan.targets values
        given (rowId.getD .null) (fun _ => pure columns) progress) progress
    | .query query whole => do
      if env.triggerRows.isNone then computeFixed base (query.onceCalls 10000)
      let (rows, failure) ← if whole then do pure (← queryRunner base query none, none)
        else pure (streamedRows base query)
      let progress ← rows.foldlM (fun progress values => do
        let (columns, rowId) := placeValues spec plan.targets values
        given (rowId.getD .null) (fun _ => pure columns) progress) progress
      match failure with
      | some error => throw error
      | none => pure progress
  let db := { done.db with session := done.db.session.counted done.changed }
  if spec.autoIncrement && (done.count > start || stored.isNone) then
    pure (db.countSequence spec.schema spec.name done.count)
  else pure db

/-- The ids of the rows of a table whose condition holds, in the order a scan reads them. -/
def chosenRows (base : Scope) (condition : Option Expr) :
    List Row → Except StoreError (List Int)
  | [] => .ok []
  | row :: rows => do
    let holds ← match condition with
      | some condition => condition.holds queryRunner (base.enter (Level.single row))
      | none => pure true
    let later ← chosenRows base condition rows
    pure (if holds then row.id :: later else later)

/-- Whether an expression holds a query. -/
def Expr.holdsQuery (e : Expr) : Bool := !(e.innerQueries 10000).isEmpty

/-- Changes one row of an update: the new row id first, then the values of the columns it
changes, from the row as it stands. The triggers before the update may change or remove the row:
a removed row is passed over, and the columns not changed are read again. -/
def updateRow (step : StepRunner) (env : Env) (plan : UpdatePlan) (conflict : Option Conflict)
    (rules : RowRules) (generated : List (Nat × Expr)) (references : ReferenceChecks)
    (before after : List Trigger) (given : Option Row) (id : Int) (progress : Progress) :
    Except StoreError Progress := do
  let some table := currentTable progress.db plan.spec | return progress
  let some row := table.find? id | return progress
  let spec := table.spec
  let setting := plan.setting
  let scope := { (env.base progress.db).enter (Level.single row) with proposed := given }
  let newId ← match setting.rowId with
    | some e => do rowIdOf (← e.eval queryRunner scope)
    | none => pure row.id
  let changed ← setting.changes.mapM fun (index, e) => do pure (index, ← e.eval queryRunner scope)
  let valuesFrom (row : Row) : List Value :=
    row.values.zipIdx.map fun (old, index) =>
      match changed.find? (·.1 == index) with
      | some (_, value) => value
      | none => old
  let (db, row) ← if before.isEmpty then pure (progress.db, row) else do
    let proposed ← completeRow (env.base progress.db) spec generated newId (valuesFrom row)
    match ← fireTriggers step env spec conflict (some row) (some ⟨newId, spec.keep newId proposed⟩)
        before progress.db with
    | (db, true) => return { progress with db := db }
    | (db, false) =>
      let some table := currentTable db plan.spec | return { progress with db := db }
      let some row := table.find? id | return { progress with db := db }
      pure (db, row)
  let some table := currentTable db plan.spec | return { progress with db := db }
  let base := env.base db
  let values ← completeRow base spec generated newId (valuesFrom row)
  match ← (table.without row.id).write conflict rules newId values with
  | some written =>
    let newRow : Row := ⟨newId, spec.keep newId values⟩
    let checked := checkIncoming (checkOutgoing db spec references (some row) none) spec references
      row 1
    let db := checked.store written
    let db := checkIncoming (checkOutgoing db spec references none (some newRow)) spec references
      newRow (-1)
    returnRow (env.base db) plan.returning newRow
    let db ← runReferenceActions step env spec references row (some newRow) db
    let (db, _) ← fireTriggers step env spec conflict (some row) (some newRow) after db
    pure ⟨db, progress.count, progress.changed + 1⟩
  | none => pure { progress with db := db }

/-- Runs an update. -/
def runUpdate (step : StepRunner) (env : Env) (db : Database) (plan : UpdatePlan) :
    Except StoreError Database := do
  let some table := currentTable db plan.spec | return db
  let spec := table.spec
  let setting := plan.setting
  let base := env.base db
  let conflict := env.override <|> plan.conflict
  let checks ← if db.session.ignoreChecks then pure [] else checkExprsOf spec db
  let generated ← generatedExprsOf spec db
  let rowIdChanged := setting.rowId.isSome
  let changedColumns :=
    changedWithGenerated generated rowIdChanged (setting.changes.map (·.1))
  let rules := writeRules queryRunner base conflict checks (some (changedColumns, rowIdChanged))
  let before := triggersFor db spec .before (.update []) setting.named
  let after := triggersFor db spec .after (.update []) setting.named
  if env.triggerRows.isNone then
    computeFixed base ((setting.condition.toList ++ setting.rowId.toList ++
      setting.changes.map (·.2)).flatMap (Expr.onceCalls 10000))
  let replaces := conflict == some .replace || (conflict.isNone &&
    spec.uniques.any fun unique =>
      unique.onConflict == .replace && unique.columns.any fun (index, _) =>
        changedColumns.contains index)
  let references ← referenceChecks db spec
    (fun reference => reference.columns.any changedColumns.contains ||
      sameName reference.parent spec.name)
    (fun key _ => key.any fun part =>
      changedColumns.contains part.parent || (rowIdChanged && spec.rowIdColumn == some part.parent))
  let onePass := before.isEmpty && after.isEmpty && plan.returning.isEmpty && !rowIdChanged &&
    !replaces && !(setting.condition.any Expr.holdsQuery) && plan.joined.isNone &&
    references.outgoing.isEmpty && references.incoming.isEmpty
  let visit := updateRow step env plan conflict rules generated references before after
  let progress : Progress := ⟨db, 0, 0⟩
  let done ← match plan.joined with
    | some (query, width) => do
      let found ← queryRunner base query none
      let keyOf (row : Row) : List Value :=
        if spec.withoutRowId then spec.primaryKey.map fun (index, _) => row.get index
        else [.integer row.id]
      let sameKey (a b : List Value) : Bool :=
        a.length == b.length && (a.zip b).all fun (x, y) => Value.order x y == .eq
      let chosen := (scanOrder table).filterMap fun row =>
        (found.reverse.find? fun values => sameKey (values.take width) (keyOf row)).map
          fun values => (row.id, values.drop width)
      chosen.foldlM (fun progress (id, values) => visit (some ⟨id, values⟩) id progress) progress
    | none =>
      if onePass then
        (scanOrder table).foldlM (fun progress row => do
          let holds ← match setting.condition with
            | some condition =>
              condition.holds queryRunner ((env.base progress.db).enter (Level.single row))
            | none => pure true
          if holds then visit none row.id progress else pure progress) progress
      else do
        let ids ← chosenRows base setting.condition (scanOrder table)
        ids.foldlM (fun progress id => visit none id progress) progress
  pure { done.db with session := done.db.session.counted done.changed }

/-- Runs a delete: the rows whose condition holds are chosen first, then each is removed in turn
with its triggers. -/
def runDelete (step : StepRunner) (env : Env) (db : Database) (plan : DeletePlan) :
    Except StoreError Database := do
  let some table := currentTable db plan.spec | return db
  let spec := table.spec
  let base := env.base db
  if env.triggerRows.isNone then
    computeFixed base (plan.condition.toList.flatMap (Expr.onceCalls 10000))
  let ids ← chosenRows base plan.condition (scanOrder table)
  let before := triggersFor db spec .before .delete []
  let after := triggersFor db spec .after .delete []
  let references ← referenceChecks db spec (fun _ => true) fun _ _ => true
  let remove (progress : Progress) (id : Int) : Except StoreError Progress := do
    let some table := currentTable progress.db plan.spec | return progress
    let some row := table.find? id | return progress
    let (db, ignored) ← fireTriggers step env spec env.override (some row) none before progress.db
    if ignored then return { progress with db := db }
    let some table := currentTable db plan.spec | return { progress with db := db }
    let some row := table.find? id | return { progress with db := db }
    returnRow (env.base db) plan.returning row
    let db := checkIncoming (checkOutgoing db spec references (some row) none) spec references row 1
    let db := db.store (table.without id)
    let db ← runReferenceActions step env spec references row none db
    let (db, _) ← fireTriggers step env spec env.override (some row) none after db
    pure ⟨db, progress.count, progress.changed + 1⟩
  let done ← ids.foldlM remove ⟨db, 0, 0⟩
  pure { done.db with session := done.db.session.counted done.changed }

/-- Runs a write to a view: its `INSTEAD OF` triggers run for each row in turn, with the row's
old values, its new values, or both. The statement changes no row itself. -/
def runViewWrite (step : StepRunner) (env : Env) (db : Database) (plan : ViewWrite) :
    Except StoreError Database := do
  let spec := plan.spec
  let width := spec.columns.length
  let triggers := triggersFor db spec .insteadOf plan.event plan.named
  let conflict := env.override <|> plan.conflict
  let fire (db : Database) (old new : Option Row) : Except StoreError Database := do
    pure (← fireTriggers step env spec conflict old new triggers db).1
  let placed (targets : Option (List Nat)) (index : Nat) (values : List Value) : Row :=
    ⟨index + 1, match targets with
      | none => (values ++ List.replicate width Value.null).take width
      | some targets => (List.range width).map fun column =>
        match targets.findIdx? (· == column) with
        | some position => values.getD position .null
        | none => .null⟩
  let db ← match plan.rows with
    | .inserted source targets =>
      match source with
      | .single row => do
        let values ← row.mapM (·.eval queryRunner (env.base db))
        fire db none (some (placed targets 0 values))
      | .rows rows =>
        rows.zipIdx.foldlM (fun db (row, index) => do
          let values ← row.mapM (·.eval queryRunner (env.base db))
          fire db none (some (placed targets index values))) db
      | .query query _ => do
        let rows ← queryRunner (env.base db) query none
        rows.zipIdx.foldlM (fun db (values, index) =>
          fire db none (some (placed targets index values))) db
      | .defaults => fire db none (some (placed targets 0 []))
    | .chosen query => do
      let rows ← queryRunner (env.base db) query none
      rows.zipIdx.foldlM (fun db (values, index) =>
        let old : Row := ⟨index + 1, values.take width⟩
        match plan.event with
        | .update _ => fire db (some old) (some ⟨index + 1, values.drop width⟩)
        | _ => fire db (some old) none) db
  pure { db with session := db.session.counted 0 }

/-- The rows of the table a full-text table takes its text from, each with its row id and the
values of the columns named as the full-text table's columns. -/
def textSource (db : Database) (schema : String) (kind : VirtualKind) :
    List (Int × List Value) :=
  match kind with
  | .text text =>
    match text.external.bind (db.tableIn? schema ·) with
    | some source =>
      let keyIndex := source.spec.columnIndex? text.externalKey
      source.rows.map fun row =>
        (match keyIndex with
          | some index => if source.spec.rowIdColumn == some index then row.id
            else (row.get index).integerValue
          | none => row.id,
         text.columns.map fun column =>
          match source.spec.columnIndex? column with
          | some index => row.get index
          | none => .null)
    | none => []
  | .boxes _ => []

/-- Hands one change to a virtual table's module and keeps what it makes of it: the table's rows
and kind, the last row id inserted (for an insert, the one the module gives), and one more row
changed. Under `OR IGNORE` a change the module refuses by a constraint is passed over. -/
def applyVirtualChange (spec : TableSpec) (ignoring : Bool) (source : List (Int × List Value))
    (state : Database × Nat) (change : Change) : Except StoreError (Database × Nat) := do
  let (db, changed) := state
  let some table := currentTable db spec | return state
  let some kind := table.spec.virtual | return state
  match kind.change table.spec.name (table.spec.columns.map (·.name)) table.rows change source with
  | .ok outcome =>
    let changedSpec := { table.spec with virtual := some outcome.kind }
    let db := db.store { table with spec := changedSpec, rows := outcome.rows }
    let last := match change.old, outcome.lastWritten with
      | none, _ => some outcome.given
      | some _, written => written
    let db := match last with
      | some id => { db with session := { db.session with lastInsertRowId := id } }
      | none => db
    pure (db, changed + 1)
  | .error error =>
    if ignoring && kind.refusesQuietly error then pure state else throw error

/-- Runs a write to a virtual table: each row becomes one change its module is handed, in turn. -/
def runVirtualWrite (env : Env) (db : Database) (plan : VirtualWrite) :
    Except StoreError Database := do
  let spec := plan.spec
  let width := spec.columns.length
  let conflict := env.override <|> plan.conflict
  let replacing := conflict == some .replace
  let ignoring := conflict == some .ignore
  let source := match spec.virtual with
    | some kind => textSource db spec.schema kind
    | none => []
  let apply := applyVirtualChange spec ignoring source
  let insertion (targets : List Nat) (rowIdAt : Option Nat) (values : List Value) : Change :=
    let columns := (List.range width).map fun column =>
      match targets.findIdx? (· == column) with
      | some position => values.getD position .null
      | none => .null
    let rowId := (rowIdAt.map fun position => values.getD position .null).getD .null
    ⟨none, some (rowId, columns), replacing⟩
  let (db, changed) ← match plan.rows with
    | .inserted source targets rowIdAt =>
      match source with
      | .single row => do
        let values ← row.mapM (·.eval queryRunner (env.base db))
        apply (db, 0) (insertion targets rowIdAt values)
      | .rows rows =>
        rows.foldlM (fun state row => do
          let values ← row.mapM (·.eval queryRunner (env.base state.1))
          apply state (insertion targets rowIdAt values)) (db, 0)
      | .query query _ => do
        let rows ← queryRunner (env.base db) query none
        rows.foldlM (fun state values => apply state (insertion targets rowIdAt values)) (db, 0)
      | .defaults => apply (db, 0) (insertion targets rowIdAt [])
    | .updated query => do
      let rows ← queryRunner (env.base db) query none
      rows.foldlM (fun state values =>
        match values with
        | old :: newRowId :: news =>
          apply state ⟨some old.integerValue, some (newRowId, news), replacing⟩
        | _ => pure state) (db, 0)
    | .deleted query => do
      let rows ← queryRunner (env.base db) query none
      rows.foldlM (fun state values =>
        apply state ⟨some (values.headD .null).integerValue, none, false⟩) (db, 0)
  pure { db with session := db.session.counted changed }

/-- Runs `ANALYZE`: measures what it names and keeps the measures in `sqlite_stat1`. -/
def runAnalyze (env : Env) (db : Database) : AnalyzeTarget → Except StoreError Database
  | .databases schemas =>
    schemas.foldlM (fun db schema => do
      let db := Analyze.withStatTable db schema
      let base := env.base db
      let rows ← (Analyze.tablesInOrder db schema).foldlM (fun (rows : List (List Value)) table =>
        if Analyze.measurable table.spec then do
          pure (rows ++ (← Analyze.tableRows base table none))
        else pure rows) []
      pure (Analyze.keepMeasures db schema true (fun _ => false) rows)) db
  | .table schema name => do
    let db := Analyze.withStatTable db schema
    let rows ← match db.tableIn? schema name with
      | some table =>
        if Analyze.measurable table.spec then Analyze.tableRows (env.base db) table none
        else pure []
      | none => pure []
    pure (Analyze.keepMeasures db schema false (fun row => row.get 0 == Value.ofString name) rows)
  | .index schema tableName index => do
    let db := Analyze.withStatTable db schema
    let some table := db.tableIn? schema tableName | return db
    let named := ((Analyze.indexesOf (env.base db) table.spec).find? (sameName ·.name index)).map
      (·.name) |>.getD index
    let rows ← if Analyze.measurable table.spec then
        Analyze.tableRows (env.base db) table (some named)
      else pure []
    pure (Analyze.keepMeasures db schema false (fun row => row.get 1 == Value.ofString named)
      rows)

/-- Adds the rows of a table made from a query, numbered from one, each kept as its columns
ask. -/
def runCreateAs (env : Env) (db : Database) (spec : TableSpec) (query : Query) :
    Except StoreError Database := do
  let rows ← queryRunner (env.base db) query none
  let db := db.create spec
  let some table := db.tableIn? spec.schema spec.name | return db
  let numbered := rows.zipIdx.map fun (values, index) =>
    (⟨index + 1, spec.keep (index + 1) values⟩ : Row)
  pure (db.store { table with rows := numbered })

/-- Adds an index to a table once each row's terms are computed (for the rows its condition
keeps) and the rows meet the unique constraint it asks for. -/
def runCreateIndex (env : Env) (db : Database) (schema tableName : String) (index : IndexSpec)
    (unique : Option UniqueSpec) : Except StoreError Database := do
  let some table := db.tableIn? schema tableName | return db
  if unique.isNone then
    table.rows.forM fun row => do
      let scope := tableScope (env.base db) "an index" row
      if let some condition := index.condition then
        if !(← condition.holds queryRunner scope) then return
      index.terms.forM fun term => do
        let _ ← term.eval queryRunner scope
  if let some constraint := unique then
    let keys ← table.rows.mapM (keyReader queryRunner (env.base db) constraint)
    let present := keys.filterMap id
    let clash := present.zipIdx.any fun (key, position) =>
      (present.drop (position + 1)).any (keysEqual constraint.collations key)
    if clash then throw (.unique (table.spec.uniqueShown constraint))
  pure (db.addIndex table index unique)

/-- A name replaced in an expression over a table's columns. -/
def Expr.renameColumn (old new : String) (e : Expr) : Expr :=
  match e with
  | .name qualifiers written =>
    if sameName written.text old then .name qualifiers { written with text := new } else e
  | .unary op operand => .unary op (operand.renameColumn old new)
  | .binary op left right => .binary op (left.renameColumn old new) (right.renameColumn old new)
  | .isNull operand => .isNull (operand.renameColumn old new)
  | .notNull operand => .notNull (operand.renameColumn old new)
  | .between operand low high =>
    .between (operand.renameColumn old new) (low.renameColumn old new) (high.renameColumn old new)
  | .inList operand items =>
    .inList (operand.renameColumn old new) (items.attach.map fun ⟨item, _⟩ => item.renameColumn old new)
  | .cast operand typeName => .cast (operand.renameColumn old new) typeName
  | .collate operand collation => .collate (operand.renameColumn old new) collation
  | .call functionName distinct arguments =>
    .call functionName distinct
      (arguments.attach.map fun ⟨argument, _⟩ => argument.renameColumn old new)
  | .choose condition yes no =>
    .choose (condition.renameColumn old new) (yes.renameColumn old new) (no.renameColumn old new)
  | .vector items => .vector (items.attach.map fun ⟨item, _⟩ => item.renameColumn old new)
  | other => other
termination_by sizeOf e
decreasing_by
  all_goals simp_wf
  all_goals first
    | omega
    | have := List.sizeOf_lt_of_mem ‹_›; omega

/-- The names that may stand before a table's name as its database. -/
def schemaNames (db : Database) : List String := ["main", "temp"] ++ db.attached

/-- Makes a virtual table. Its module reads its arguments; the table takes its row in the schema
table, then the module declares its columns and makes the tables it keeps, in the order the module
does them. A statement the module runs fails as the module reports it. -/
def runCreateVirtual (step : StepRunner) (env : Env) (db : Database)
    (schema name moduleName : String) (arguments : List String) (sql : String) :
    Except StoreError Database := do
  let construction ← construct db schema name moduleName arguments
  let fault (failure : ShadowFailure) (error : StoreError) : StoreError :=
    match failure with
    | .named table =>
      .refused ("fts5: error creating shadow table " ++ table ++ ": " ++ error.message)
    | .plain => error
    | .silent => constructorFailure name
  let spec : TableSpec :=
    { name := name, schema := schema, columns := [], rowIdColumn := none,
      rowIdConflict := .abort, uniques := [], autoIncrement := false, indexes := [],
      checkConstraints := [], strict := false, withoutRowId := false, primaryKey := [],
      references := [], sql := sql, entry := 0, virtual := some construction.kind }
  let early ← if construction.declaredFirst then some <$> construction.columns else pure none
  let db ← construction.shadows.foldlM (fun db shadow => do
    let (statement, _) ← (readStatement db (firstStatement shadow.text).1).mapError
      (fault shadow.failure)
    (step env db Site.top statement).mapError (fault shadow.failure)) (db.create spec)
  let columns ← match early with
    | some columns => pure columns
    | none => construction.columns
  match db.tableIn? schema name with
  | some table => pure (db.store { table with spec := { table.spec with columns := columns } })
  | none => pure db

/-- A table renamed, with its triggers, the references other tables make to it, its row in the
sequence table, and the definitions of its database that name it. With the legacy setting, views
and the statements of triggers are left as they are, and references follow the new name only
while they are enforced. -/
def runRenameTable (db : Database) (schema old new : String) : Except StoreError Database :=
  match db.tableIn? schema old with
  | none => .ok db
  | some table =>
    let renamed := { table with spec := { table.spec with name := new } }
    let legacy := db.session.legacyAlter
    let references := !legacy || db.session.foreignKeys
    let repoint (other : Table) : Table :=
      if references && sameName other.spec.schema schema then
        { other with spec := { other.spec with
            references := other.spec.references.map fun reference =>
              if sameName reference.parent old then { reference with parent := new }
              else reference } }
      else other
    let db : Database := { db with
      tables := db.tables.map fun other =>
        repoint (if sameName other.spec.name old && sameName other.spec.schema schema then renamed
          else other)
      triggers := db.triggers.map fun trigger =>
        if sameName trigger.table old && (sameName trigger.schema schema || trigger.schema == "temp")
        then { trigger with table := new } else trigger }
    let db := match db.tableIn? schema sequenceSpec.name with
      | some sequences =>
        db.store { sequences with
          rows := sequences.rows.map fun row =>
            if Value.order (row.get 0) (Value.ofString old) == .eq then
              { row with values := row.values.set 0 (Value.ofString new) }
            else row }
      | none => db
    let schemas := schemaNames db
    Rename.restateDefinitions db schema
      (fun _ sql => Rename.renameTableInTable schemas old new references sql)
      (fun _ sql => Rename.renameIndexTable schemas old new sql)
      (fun onTable sql =>
        if !legacy then Rename.renameTableInDefinition schemas old new sql
        else if onTable.isSome then Rename.renameTriggerTable schemas old new sql
        else sql)

/-- A table renamed, and for a virtual table the tables its module keeps, each taking the new
name before its suffix; the hidden column of a full-text table that is named as the table takes
the new name too. -/
def runRename (db : Database) (schema old new : String) : Except StoreError Database := do
  let virtual := (db.tableIn? schema old).bind (·.spec.virtual)
  let db ← runRenameTable db schema old new
  match virtual with
  | none => pure db
  | some kind =>
    let db := match db.tableIn? schema new, kind with
      | some table, .text text =>
        db.store { table with spec := { table.spec with
          columns := table.spec.columns.modify text.columns.length fun column =>
            { column with name := new } } }
      | _, _ => db
    kind.shadowSuffixes.foldlM (fun db suffix =>
      if (db.tableIn? schema (old ++ "_" ++ suffix)).isSome then
        runRenameTable db schema (old ++ "_" ++ suffix) (new ++ "_" ++ suffix)
      else pure db) db

/-- A column renamed, with the names its table's checks and generated columns read it by, those
the references to its table name it by, and the definitions of its database that name it; the
new name was written quoted when `quoted`. -/
def runRenameColumn (db : Database) (schema tableName : String) (index : Nat) (name : String)
    (quoted : Bool) : Except StoreError Database :=
  match db.tableIn? schema tableName with
  | none => .ok db
  | some table =>
    let spec := table.spec
    let old := ((spec.column? index).map (·.name)).getD name
    let columns := spec.columns.zipIdx.map fun (column, other) =>
      let column := if other == index then { column with name := name } else column
      { column with generated := column.generated.map fun generated =>
          { generated with expr := generated.expr.renameColumn old name } }
    let db := db.store { table with spec := { spec with
      columns := columns
      checkConstraints := spec.checkConstraints.map fun check =>
        { check with condition := check.condition.renameColumn old name } } }
    let renameIn (columns : List String) : List String :=
      columns.map fun column => if sameName column old then name else column
    let repoint (reference : ReferenceSpec) : ReferenceSpec :=
      if sameName reference.parent tableName then
        { reference with parentColumns := renameIn reference.parentColumns }
      else reference
    let repointAll (other : Table) : Table :=
      if sameName other.spec.schema schema then
        { other with spec := { other.spec with references := other.spec.references.map repoint } }
      else other
    let db := { db with tables := db.tables.map repointAll }
    let schemas := schemaNames db
    Rename.restateDefinitions db schema
      (fun other sql =>
        if sameName other.name tableName then
          Rename.renameColumnInOwnTable tableName old name quoted sql
        else Rename.renameColumnInReferences schemas tableName old name quoted sql)
      (fun other sql =>
        if sameName other.name tableName then
          Rename.renameColumnInIndex tableName old name quoted sql
        else sql)
      (fun onTable sql =>
        Rename.renameColumnInDefinition schemas tableName old name quoted
          (onTable.any (sameName · tableName)) sql)

/-- Adds a column to a table. A table with rows cannot take a `NOT NULL` column whose default is
NULL, a default that is no constant, or a stored generated column; every row takes the default,
or the generated value; and the rows must still meet the table's checks. -/
def runAddColumn (env : Env) (db : Database) (schema tableName : String)
    (added : AddedColumn) : Except StoreError Database := do
  let some table := db.tableIn? schema tableName | return db
  let column := added.column
  let hasRows := !table.rows.isEmpty
  if hasRows then
    match column.generated with
    | none =>
      if db.session.foreignKeys && added.refers && (column.default.getD .null) != .null then
        throw (.raised "Cannot add a REFERENCES column with non-NULL default value")
      if column.notNull.isSome && (column.default.getD .null) == .null then
        throw (.raised "Cannot add a NOT NULL column with default value NULL")
      if added.computedDefault then
        throw (.raised "Cannot add a column with non-constant default")
    | some generated =>
      if generated.stored then throw (.raised "cannot add a STORED column")
  let spec := { table.spec with
    columns := table.spec.columns ++ [column]
    checkConstraints := table.spec.checkConstraints ++ added.checks
    references := table.spec.references ++ added.references }
  let index := table.spec.columns.length
  let base := env.base db
  let rows ← table.rows.mapM fun row => do
    match column.generated with
    | some generated =>
      let e ← resolveIn (Context.ofTable db spec spec.name .generated) generated.expr
      let values := row.values ++ [.null]
      let value ← e.eval queryRunner (tableScope base "a generated column" ⟨row.id, values⟩)
      pure { row with values := values.set index (Value.withAffinity column.affinity value) }
    | none =>
      pure { row with values :=
        row.values ++ [Value.withAffinity column.affinity (column.default.getD .null)] }
  let db := db.store ⟨spec, rows⟩
  let checks ← if db.session.ignoreChecks then pure [] else checkExprsOf spec db
  if !checks.isEmpty || (column.notNull.isSome && column.generated.isSome) then
    for row in rows do
      for (_, condition) in checks do
        if !(← condition.passes queryRunner (tableScope base "a CHECK constraint" row)) then
          throw (.raised "CHECK constraint failed")
      if column.notNull.isSome && column.generated.isSome && row.get index == .null then
        throw (.raised "NOT NULL constraint failed")
  pure db

/-- The column positions of a table after one is dropped: later columns move down by one. -/
def shiftColumn (dropped : Nat) (index : Nat) : Nat := if dropped < index then index - 1 else index

/-- Drops a column from a table, with its values; the table's checks, generated columns and
indexes must not read it. -/
def runDropColumn (db : Database) (schema tableName : String) (index : Nat) :
    Except StoreError Database := do
  let some table := db.tableIn? schema tableName | return db
  let spec := table.spec
  let name := ((spec.column? index).map (·.name)).getD ""
  let columns := spec.columns.eraseIdx index
  let reduced : TableSpec := { spec with
    columns := columns
    rowIdColumn := spec.rowIdColumn.map (shiftColumn index)
    uniques := spec.uniques.map fun unique =>
      { unique with columns := unique.columns.map fun (column, collation) =>
          (shiftColumn index column, collation) }
    primaryKey := spec.primaryKey.map fun (column, collation) => (shiftColumn index column, collation) }
  let afterDrop (error : StoreError) : StoreError :=
    .refused ("error in table " ++ spec.name ++ " after drop column: " ++ error.message)
  match checkExprsOf reduced db, generatedExprsOf reduced db with
  | .error error, _ => throw (afterDrop error)
  | _, .error error => throw (afterDrop error)
  | .ok _, .ok _ => pure ()
  if let some indexSpec := spec.indexes.find? fun indexSpec =>
      (indexSpec.terms ++ indexSpec.condition.toList).any fun term =>
        term.readsChanged [index] false then
    throw (.refused ("error in index " ++ indexSpec.name ++ " after drop column: no such column: " ++
      name))
  let shifted := reduced.uniques.filter fun unique =>
    unique.columns.all fun (column, _) => column < columns.length
  let rows := table.rows.map fun row => { row with values := row.values.eraseIdx index }
  pure (db.store ⟨{ reduced with uniques := shifted }, rows⟩)

/-- Attaches a new empty database under a name, outside any transaction. -/
def runAttach (env : Env) (db : Database) (file name : Expr) : Except StoreError Database := do
  let base := env.base db
  let _ ← file.eval queryRunner base
  let name := match ← name.eval queryRunner base with
    | .null => ""
    | value => value.cellText
  if 10 ≤ db.attached.length then
    throw (.refused "too many attached databases - max 10")
  if db.journal.isSome then throw (.refused "cannot ATTACH database within transaction")
  if (["main", "temp"] ++ db.attached).any (sameName · name) then
    throw (.refused ("database " ++ name ++ " is already in use"))
  pure { db with attached := db.attached ++ [name] }

/-- Detaches an attached database, with everything in it. -/
def runDetach (env : Env) (db : Database) (name : Expr) : Except StoreError Database := do
  let name := match ← name.eval queryRunner (env.base db) with
    | .null => ""
    | value => value.cellText
  if sameName name "main" || sameName name "temp" then
    throw (.refused ("cannot detach database " ++ name))
  let some schema := db.attached.find? (sameName · name)
    | throw (.refused ("no such database: " ++ name))
  pure { db with
    attached := db.attached.filter (· != schema)
    tables := db.tables.filter fun table => table.spec.schema != schema
    views := db.views.filter fun view => view.schema != schema
    triggers := db.triggers.filter fun trigger => trigger.schema != schema }

/-- Runs a plan on a database. A statement that writes rows sets the counters of the session
when it ends. -/
def runPlanWith (step : StepRunner) (env : Env) (db : Database) : Plan → Except StoreError Database
  | .nothing => .ok db
  | .insert plan => runInsert step env db plan
  | .update plan => runUpdate step env db plan
  | .delete plan => runDelete step env db plan
  | .viewWrite plan => runViewWrite step env db plan
  | .virtualWrite plan => runVirtualWrite env db plan
  | .dropTable schema name =>
    match db.tableIn? schema name with
    | some table =>
      let shadows := (table.spec.virtual.map (·.shadowNames table.spec.name)).getD []
      .ok (shadows.foldl (fun db shadow =>
        match db.tableIn? schema shadow with
        | some other => db.drop other
        | none => db) (db.drop table))
    | none => .ok db
  | .dropView schema name =>
    .ok { db with
      views := db.views.filter fun view => !(sameName view.name name && view.schema == schema)
      triggers := db.triggers.filter fun trigger =>
        !(sameName trigger.table name && trigger.schema == schema) }
  | .dropTrigger schema name =>
    .ok { db with triggers := db.triggers.filter fun trigger =>
      !(sameName trigger.name name && trigger.schema == schema) }
  | .create spec => .ok (db.create spec)
  | .createAs spec query => runCreateAs env db spec query
  | .createView view =>
    .ok { db with views := db.views ++ [{ view with entry := db.nextEntry view.schema }] }
  | .createVirtual schema name moduleName arguments sql =>
    runCreateVirtual step env db schema name moduleName arguments sql
  | .createTrigger trigger =>
    .ok { db with
      triggers := db.triggers ++ [{ trigger with entry := db.nextEntry trigger.schema }] }
  | .createIndex schema table index unique => runCreateIndex env db schema table index unique
  | .dropIndex schema tableName index =>
    match db.tableIn? schema tableName with
    | some table => .ok (db.dropIndex table index)
    | none => .ok db
  | .query query fixed => do
    let base := env.base db
    computeFixed base fixed
    let _ ← queryRunner base query (some 1)
    pure db
  | .control c => db.control c
  | .likeCase caseSensitive =>
    .ok { db with session := { db.session with caseSensitiveLike := caseSensitive } }
  | .ignoreChecks ignore => .ok { db with session := { db.session with ignoreChecks := ignore } }
  | .foreignKeys enforce =>
    if db.journal.isSome then .ok db
    else .ok { db with session := { db.session with foreignKeys := enforce } }
  | .recursiveTriggers recursive =>
    .ok { db with session := { db.session with recursiveTriggers := recursive } }
  | .reverseUnordered reverse =>
    .ok { db with session := { db.session with reverseUnordered := reverse } }
  | .automaticIndex allowed =>
    .ok { db with session := { db.session with automaticIndex := allowed } }
  | .queryOnly refused => .ok { db with session := { db.session with queryOnly := refused } }
  | .legacyAlter legacy => .ok { db with session := { db.session with legacyAlter := legacy } }
  | .vacuum into => do
    let db ← db.control .vacuum
    if let some e := into then
      match ← e.eval queryRunner (env.base db) with
      | .text _ => pure ()
      | _ => throw .nonTextFilename
    pure db
  | .renameTable schema old new => runRename db schema old new
  | .renameColumn schema table index name quoted => runRenameColumn db schema table index name quoted
  | .addColumn schema table column => runAddColumn env db schema table column
  | .dropColumn schema table index => runDropColumn db schema table index
  | .attach file name => runAttach env db file name
  | .detach name => runDetach env db name
  | .analyze target => runAnalyze env db target

/-- Whether a plan writes to the database: rows, or the definitions of tables, indexes, views
and triggers. -/
def Plan.writes : Plan → Bool
  | .insert _ | .update _ | .delete _ | .viewWrite _ | .virtualWrite _ | .dropTable ..
  | .dropView ..
  | .dropTrigger ..
  | .create _ | .createAs .. | .createView _ | .createVirtual .. | .createTrigger _
  | .createIndex ..
  | .dropIndex .. | .renameTable .. | .renameColumn .. | .addColumn .. | .dropColumn ..
  | .analyze _ => true
  | _ => false

/-- The triggers a plan may run, with the table each is on: those before its change, then those
after. -/
def Plan.firing (db : Database) : Plan → List (Trigger × TableSpec)
  | .insert plan =>
    (triggersFor db plan.spec .before .insert [] ++ triggersFor db plan.spec .after .insert []).map
      (·, plan.spec)
  | .update plan =>
    let named := plan.setting.named
    (triggersFor db plan.spec .before (.update []) named ++
      triggersFor db plan.spec .after (.update []) named).map (·, plan.spec)
  | .delete plan =>
    (triggersFor db plan.spec .before .delete [] ++ triggersFor db plan.spec .after .delete []).map
      (·, plan.spec)
  | .viewWrite plan => (triggersFor db plan.spec .insteadOf plan.event plan.named).map (·, plan.spec)
  | _ => []

/-- Checks the triggers a plan may run, as their code is made with the statement's: each trigger
once, its condition and then its statements in order, and the triggers those may run in turn.
The result is the triggers checked so far. -/
def checkTriggers (fuel : Nat) (db : Database) (seen : List (String × String)) (plan : Plan) :
    Except StoreError (List (String × String)) :=
  match fuel with
  | 0 => .ok seen
  | fuel + 1 =>
    (plan.firing db).foldlM (fun seen (trigger, spec) => do
      let key := (trigger.schema, trigger.name)
      if seen.contains key then return seen
      let site := triggerSite trigger spec
      if let some condition := trigger.condition then
        let _ ← resolveIn (site.context db) condition
      trigger.body.foldlM (fun seen statement => do
        let plan ← planStatement site db statement
        checkTriggers fuel db seen plan) (key :: seen)) seen

/-- Reads and runs the statements of triggers, nested at most `depth` deep. -/
def runSteps : Nat → StepRunner
  | 0 => fun _ _ _ _ => .error (.refused "too many levels of trigger recursion")
  | depth + 1 => fun env db site statement => do
    let plan ← planStatement site db statement
    runPlanWith (runSteps depth) env db plan

/-- Runs a plan on a database with the values of the parameters. -/
def Plan.run (db : Database) (parameters : List Value) (plan : Plan) :
    Except StoreError Database :=
  runPlanWith (runSteps 1000) (Env.top parameters) db plan

/-- The text of a statement from its first word, past blanks and comments: none when nothing
but blanks and comments is there. -/
def startOfStatement (chars : List Char) : Option (List Char) :=
  let rec go (fuel : Nat) (chars : List Char) : Option (List Char) :=
    match fuel with
    | 0 => none
    | fuel + 1 =>
      match chars with
      | [] => none
      | c :: rest =>
        if c == ' ' || c == '\t' || c == '\n' || c == '\r' || c == Char.ofNat 12 then go fuel rest
        else
          match c, rest with
          | '-', '-' :: more =>
            match more.dropWhile (· != '\n') with
            | [] => none
            | _ :: after => go fuel after
          | '/', '*' :: more =>
            let rec close (fuel : Nat) : List Char → Option (List Char)
              | [] => none
              | '*' :: '/' :: after => some after
              | _ :: after =>
                match fuel with
                | 0 => none
                | fuel + 1 => close fuel after
            match close more.length more with
            | some after => go fuel after
            | none => none
          | _, _ => some chars
  go (chars.length + 1) chars

/-- Whether the text of a statement starts a transaction before it runs: its first word, past
blanks and comments, starts with `insert`, `update`, `delete` or `replace`, in any ASCII case. -/
def startsTransaction (text : String) : Bool :=
  match startOfStatement text.toList with
  | some chars =>
    let prefixOf (n : Nat) : String := String.ofList ((chars.take n).map Char.toLower)
    prefixOf 6 == "insert" || prefixOf 6 == "update" || prefixOf 6 == "delete" ||
      prefixOf 7 == "replace"
  | none => false

end SheetExport.Store.Sql

namespace SheetExport.Store.Database

open Sql

/-- Runs the first statement of a text on a database, with arguments that are each a value or
the reason it cannot be held by the store. -/
def execute (db : Database) (text : String) (arguments : List (Except StoreError Value)) :
    Except StoreError Database := do
  if let some e := StoreError.encoding? text then throw e
  if text.toList.contains (Char.ofNat 0) then throw .nulCharacter
  let (tokens, tail) := firstStatement text
  if tokens.isEmpty then return db
  let (statement, used) ← readStatement db tokens
  let plan ← planStatement Site.top db statement
  let _ ← checkTriggers 1000 db [] plan
  if !(afterBlanks tail.toList).isEmpty then throw .multiple
  let db := if startsTransaction text && db.journal.isNone then db.beginTransaction false else db
  if used != arguments.length then throw (.bindings used arguments.length)
  let parameters ← arguments.mapM id
  if db.session.queryOnly && plan.writes then
    throw (.refused "attempt to write a readonly database")
  let db ← plan.run { db with session := { db.session with violations := 0 } } parameters
  if 0 < db.session.violations || (db.journal.isNone && 0 < db.pending) then
    throw (.constraint "FOREIGN KEY constraint failed")
  pure db

/-- Runs a query given as text with the values of its parameters: the names of its result
columns, and all its rows. -/
def query (db : Database) (text : String) (parameters : List Value) :
    Except StoreError (List String × List (List Value)) := do
  let (tokens, _) := firstStatement text
  let (statement, _) ← readStatement db tokens
  match statement with
  | .select query =>
    let (resolved, columns) ← resolveQueryIn (Context.start db) query
    lastFault (resolved.deepFaults 10000)
    let base := Scope.start db parameters
    computeFixed base (resolved.onceCalls 10000)
    let rows ← queryRunner base resolved none
    pure (columns.map (·.name), rows)
  | _ => pure ([], [])

end SheetExport.Store.Database
