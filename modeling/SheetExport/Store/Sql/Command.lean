import SheetExport.Store.Sql.Define

/-!
# Reading statements

A statement is read from the tokens of the first statement of a text: a query, `INSERT` (or
`REPLACE`), `UPDATE` and `DELETE`, each of the last three perhaps after a `WITH`, the `CREATE` and
`DROP` of tables, views, indexes and triggers, `ALTER TABLE`, `ATTACH` and `DETACH`, the statements
on transactions, and a few of upkeep. The statement must end there, at a `;` or at the end of the
text; any other token is a syntax error at that token.

Definitions are checked against the database as they are read: a table as `Sql.Define` says; a
view once it is read whole (its query may use no parameter, and unless it is temporary may name no
table of another database); a trigger at its `BEGIN` (its table must exist, in its own database
unless the trigger is temporary) and at its `END` (its statements obey the same rule and use no
parameter); the table of `ALTER TABLE … ADD` before its column. Within a trigger, the table an
insert, update or delete writes may not be qualified nor given an index.
-/

namespace SheetExport.Store.Sql

/-! ## Databases a query names -/

/-- The expressions and the queries directly inside an expression. -/
def Expr.parts : Expr → List Expr × List Query
  | .unary _ operand | .isNull operand | .notNull operand | .cast operand _
  | .collate operand _ => ([operand], [])
  | .binary _ left right => ([left, right], [])
  | .between operand low high => ([operand, low, high], [])
  | .inList operand items => (operand :: items, [])
  | .call _ _ arguments => (arguments, [])
  | .choose condition yes no => ([condition, yes, no], [])
  | .vector items => (items, [])
  | .subquery query | .existence query => ([], [query])
  | .inQuery operand query => ([operand], [query])
  | _ => ([], [])

/-- The expressions, the queries and the databases a part of a query names directly. -/
def Core.parts : Core → List Expr × List Query × List String
  | .select _ result sources condition groupBy having _ _ =>
    let results := result.filterMap fun
      | .value e _ _ => some e
      | _ => none
    let conditions := sources.filterMap fun | .mk _ _ _ on _ => on
    let queries := sources.filterMap fun
      | .mk _ _ (.query query _) _ _ => some query
      | _ => none
    let schemas := sources.filterMap fun
      | .mk _ _ (.table name) _ _ => name.schema
      | _ => none
    (results ++ condition.toList ++ groupBy ++ having.toList ++ conditions, queries, schemas)
  | .values rows => (rows.flatten, [], [])

/-- The expressions, the queries and the databases a query names directly. -/
def Query.parts : Query → List Expr × List Query × List String
  | .mk _ tables body orderBy limit offset =>
    let cores := body.parts.map (·.2) |>.map Core.parts
    let commons := tables.map fun | .mk _ _ query => query
    (cores.flatMap (·.1) ++ (orderBy.map fun | .mk e _ _ => e) ++ limit.toList ++ offset.toList,
      commons ++ cores.flatMap (·.2.1), cores.flatMap (·.2.2))

mutual

/-- The databases the tables read by an expression's queries are qualified with. -/
def Expr.namedSchemas (fuel : Nat) (e : Expr) : List String :=
  match fuel with
  | 0 => []
  | fuel + 1 =>
    let (exprs, queries) := e.parts
    exprs.flatMap (Expr.namedSchemas fuel) ++ queries.flatMap (Query.namedSchemas fuel)

/-- The databases the tables a query reads are qualified with, within it at any depth. -/
def Query.namedSchemas (fuel : Nat) (query : Query) : List String :=
  match fuel with
  | 0 => []
  | fuel + 1 =>
    let (exprs, queries, schemas) := query.parts
    schemas ++ exprs.flatMap (Expr.namedSchemas fuel) ++ queries.flatMap (Query.namedSchemas fuel)

end

/-- The expressions and queries of a statement of a trigger, and the databases it names. -/
def Statement.parts : Statement → List Expr × List Query
  | .insert _ _ _ rows upsert _ =>
    let rowExprs := match rows with
      | .values rows => rows.flatten
      | _ => []
    let rowQueries := match rows with
      | .query query => [query]
      | _ => []
    let upsertExprs := upsert.flatMap fun clause =>
      let target := match clause.target with
        | some (terms, condition) => terms.map (·.expr) ++ condition.toList
        | none => []
      match clause.action with
      | .update assignments condition => target ++ assignments.map (·.value) ++ condition.toList
      | .nothing => target
    (rowExprs ++ upsertExprs, rowQueries)
  | .update _ _ assignments sources condition _ _ =>
    let onExprs := sources.flatMap fun | .mk _ _ _ on _ => on.toList
    let sourceQueries := sources.filterMap fun
      | .mk _ _ (.query query _) _ _ => some query
      | _ => none
    (assignments.map (·.value) ++ onExprs ++ condition.toList, sourceQueries)
  | .delete _ condition _ _ => (condition.toList, [])
  | .select query => ([], [query])
  | _ => ([], [])

/-- The first database a definition in a schema names that is not its own: a non-temporary view
or trigger may only read tables of its own database. -/
def foreignSchema (db : Database) (schema : String) (names : List String) : Option String :=
  names.find? fun name => db.schemaNamed? name != some schema

namespace Parser

/-- An optional `OR rule` after `INSERT` or `UPDATE`. -/
def orConflict : Parser (Option Conflict) := do
  if ← acceptKeyword "OR" then pure (some (← conflictRule)) else pure none

/-- A table as a statement names it: `name` or `schema.name`, then with `aliased` an optional
`AS alias`. -/
def tableName (aliased : Bool) : Parser TableName := do
  let first ← nameToken
  let (schema, name) ← (do
    if ← acceptSymbol "." then pure (some first.nameText, (← nameToken).nameText)
    else pure (none, first.nameText))
  let asName ← (do
    if aliased && (← acceptKeyword "AS") then pure (some (← nameToken).nameText) else pure none)
  pure ⟨schema, name, asName, none, false⟩

/-- The table an insert, update or delete of a trigger writes: a plain name. -/
def triggerTarget : Parser TableName := do
  let first ← nameToken
  if ← acceptSymbol "." then
    let _ ← nameToken
    throw (.refused ("qualified table names are not allowed on INSERT, UPDATE, and DELETE " ++
      "statements within triggers"))
  pure ⟨none, first.nameText, none, none, false⟩

/-- An optional `INDEXED BY name`, giving the name, or `NOT INDEXED`, giving `true`. -/
def indexHint : Parser (Option String × Bool) := do
  let token ← peek
  if token.isKeyword "INDEXED" then
    advance
    expectKeyword "BY"
    pure (some (← nameToken).nameText, false)
  else if token.isKeyword "NOT" then
    advance
    expectKeyword "INDEXED"
    pure (none, true)
  else pure (none, false)

/-- The table an update or delete names: with an optional alias and index hint, or within a
trigger a plain name with neither. -/
def hintedTable (inTrigger : Bool) : Parser TableName := do
  if inTrigger then
    let table ← triggerTarget
    let token ← peek
    if token.isKeyword "INDEXED" then
      advance
      expectKeyword "BY"
      let _ ← nameToken
      throw (.refused ("the INDEXED BY clause is not allowed on UPDATE or DELETE statements " ++
        "within triggers"))
    else if token.isKeyword "NOT" then
      advance
      expectKeyword "INDEXED"
      throw (.refused ("the NOT INDEXED clause is not allowed on UPDATE or DELETE statements " ++
        "within triggers"))
    pure table
  else
    let table ← tableName true
    let (hint, notIndexed) ← indexHint
    pure { table with
      indexedBy := hint
      notIndexed := notIndexed }

/-- The terms of an index, after its `(`: expressions with an optional `ASC` or `DESC` and
`NULLS FIRST` or `NULLS LAST`. -/
def indexTerms : Parser (List IndexTerm) := do
  let rec more (fuel : Nat) (read : List IndexTerm) : Parser (List IndexTerm) := do
    match fuel with
    | 0 => pure read
    | fuel + 1 =>
      let e ← fullExpression
      let down ← descending
      let nulls ← (do
        if ← acceptKeyword "NULLS" then
          let token ← peek
          if token.isKeyword "FIRST" || token.isKeyword "LAST" then
            advance
            pure (some token.upper)
          else throw (failAt token)
        else pure none)
      let read := read ++ [⟨e, down, nulls⟩]
      if ← acceptSymbol "," then more fuel read else pure read
  more ((← get).tokens.length + 1) []

/-- A comma-separated list of result terms. -/
def fullResultTerms : Parser (List ResultTerm) := do
  resultTerms (8 * ((← get).tokens.length + 2))

/-- An optional `RETURNING` list. -/
def returning : Parser (List ResultTerm) := do
  if ← acceptKeyword "RETURNING" then fullResultTerms else pure []

/-- An optional `WHERE condition`. -/
def condition : Parser (Option Expr) := do
  if ← acceptKeyword "WHERE" then pure (some (← fullExpression)) else pure none

/-- The `=` of an assignment, written `=` or `==`. -/
def expectEquals : Parser Unit := do
  let equals ← peek
  if equals.isSymbol "=" || equals.isSymbol "==" then advance else throw (failAt equals)

/-- The assignments of an update, after `SET`. An assignment `(a, b) = (x, y)` of a list of
columns stands for one assignment per column; the value must be a list as long as the columns,
or a single value for a single column. -/
def assignments : Parser (List Assignment) := do
  let rec more (fuel : Nat) (read : List Assignment) : Parser (List Assignment) := do
    match fuel with
    | 0 => pure read
    | fuel + 1 =>
      let read ← (do
        if ← acceptSymbol "(" then
          let columns ← nameList
          expectEquals
          let values := match ← fullExpression with
            | .vector items => items
            | single => [single]
          if values.length != columns.length then
            throw (.vectorAssignment columns.length values.length)
          pure (read ++ (columns.zip values).map fun (column, value) => ⟨column, value⟩)
        else
          let column ← nameToken
          expectEquals
          pure (read ++ [⟨column.nameText, ← fullExpression⟩]))
      if ← acceptSymbol "," then more fuel read else pure read
  more ((← get).tokens.length + 1) []

/-- The `ON CONFLICT` clauses of an insert. A clause names its key as the terms of an index in
parentheses, with an optional `WHERE`, and then says `DO NOTHING` or `DO UPDATE SET … [WHERE …]`;
only the last clause may leave the key out. -/
def upsertClauses : Parser (List UpsertClause) := do
  let rec more (fuel : Nat) (read : List UpsertClause) : Parser (List UpsertClause) := do
    match fuel with
    | 0 => pure read
    | fuel + 1 =>
      if !(← peek).isKeyword "ON" then return read
      advance
      expectKeyword "CONFLICT"
      let target ← (do
        if ← acceptSymbol "(" then
          let terms ← indexTerms
          expectSymbol ")"
          pure (some (terms, ← condition))
        else pure none)
      expectKeyword "DO"
      let token ← peek
      let action ← (do
        if token.isKeyword "NOTHING" then
          advance
          pure UpsertAction.nothing
        else if token.isKeyword "UPDATE" then
          advance
          expectKeyword "SET"
          let assignments ← assignments
          pure (UpsertAction.update assignments (← condition))
        else throw (failAt token))
      let read := read ++ [⟨target, action⟩]
      if target.isNone then pure read else more fuel read
  more ((← get).tokens.length + 1) []

/-- The rest of an insert after `INSERT [OR rule]` or `REPLACE`: rows of values, a query, or
`DEFAULT VALUES`. -/
def insert (inTrigger : Bool) (conflict : Option Conflict) : Parser Statement := do
  expectKeyword "INTO"
  let table ← if inTrigger then triggerTarget else tableName true
  let columns ← (do if ← acceptSymbol "(" then pure (some (← nameList)) else pure none)
  let token ← peek
  let ending : Parser (List ResultTerm) := if inTrigger then pure [] else returning
  if token.isKeyword "DEFAULT" then
    advance
    expectKeyword "VALUES"
    pure (.insert conflict table columns .defaults [] (← ending))
  else if token.isKeyword "VALUES" || token.isKeyword "SELECT" || token.isKeyword "WITH" then
    let query ← fullQuery
    let rows := match query with
      | .mk false [] (.core (.values rows)) [] none none => InsertRows.values rows
      | other => InsertRows.query other
    let upsert ← upsertClauses
    pure (.insert conflict table columns rows upsert (← ending))
  else throw (failAt token)

/-- The `ORDER BY` and `LIMIT` of an update or a delete, which a trigger's may not have. -/
def rowLimit (inTrigger : Bool) : Parser RowLimit := do
  if inTrigger then return RowLimit.none
  let (orderBy, limit, offset) ← fullOrderAndLimit
  pure ⟨orderBy, limit, offset⟩

/-- The rest of an update after `UPDATE`: its assignments, the sources of its `FROM`, its
condition, its `RETURNING` terms, and its ordering and limit. -/
def update (inTrigger : Bool) : Parser Statement := do
  let conflict ← orConflict
  let table ← hintedTable inTrigger
  expectKeyword "SET"
  let assignments ← assignments
  let sources ← (do if ← acceptKeyword "FROM" then fullFromClause else pure [])
  let condition ← condition
  let returned ← if inTrigger then pure [] else returning
  pure (.update conflict table assignments sources condition returned (← rowLimit inTrigger))

/-- The rest of a delete after `DELETE`: its condition, its `RETURNING` terms, and its ordering
and limit. -/
def delete (inTrigger : Bool) : Parser Statement := do
  expectKeyword "FROM"
  let table ← hintedTable inTrigger
  let condition ← condition
  let returned ← if inTrigger then pure [] else returning
  pure (.delete table condition returned (← rowLimit inTrigger))

/-- An insert, update or delete, at its first token, within a trigger or not. -/
def change (inTrigger : Bool) : Parser Statement := do
  let token ← take
  if token.isKeyword "INSERT" then
    let conflict ← orConflict
    insert inTrigger conflict
  else if token.isKeyword "REPLACE" then insert inTrigger (some .replace)
  else if token.isKeyword "UPDATE" then update inTrigger
  else if token.isKeyword "DELETE" then delete inTrigger
  else throw (failAt token)

/-- An optional `IF EXISTS`. -/
def ifExists : Parser Bool := do
  if (← peek).isKeyword "IF" then
    advance
    expectKeyword "EXISTS"
    pure true
  else pure false

/-- The rest of `DROP TABLE|VIEW|INDEX|TRIGGER [IF EXISTS] [schema.]name` after `DROP`. -/
def drop : Parser Statement := do
  let token ← take
  if token.isKeyword "INDEX" then
    let quiet ← ifExists
    pure (.dropIndex quiet (← tableName false))
  else if token.isKeyword "TABLE" then
    let quiet ← ifExists
    pure (.dropTable quiet (← tableName false))
  else if token.isKeyword "VIEW" then
    let quiet ← ifExists
    pure (.dropView quiet (← tableName false))
  else if token.isKeyword "TRIGGER" then
    let quiet ← ifExists
    pure (.dropTrigger quiet (← tableName false))
  else throw (failAt token)

/-- The rest of `CREATE [UNIQUE] INDEX [IF NOT EXISTS] [schema.]name ON table (terms)
[WHERE condition]` after `CREATE`. -/
def createIndex : Parser Statement := do
  let unique ← acceptKeyword "UNIQUE"
  expectKeyword "INDEX"
  let quiet ← ifNotExists
  let nameStart := (← get).tokens
  let first ← nameToken
  let (schema, name) ← (do
    if ← acceptSymbol "." then pure (some first, (← nameToken).nameText)
    else pure (none, first.nameText))
  expectKeyword "ON"
  let table ← nameToken
  expectSymbol "("
  let terms ← indexTerms
  expectSymbol ")"
  let condition ← condition
  let sql := (if unique then "CREATE UNIQUE INDEX " else "CREATE INDEX ") ++
    (← definitionText nameStart) ++ (← closingGap)
  pure (.createIndex unique quiet (schema.map (·.text)) ⟨schema.map (·.nameText), name, none, none, false⟩
    table.nameText terms condition sql)

/-- The rest of `CREATE [TEMP] VIEW [IF NOT EXISTS] [schema.]name [(columns)] AS query`, checked
once read whole: its query may use no parameter, its name is checked as a table's, and unless it
is temporary its query may read no table of another database. -/
def createView (db : Database) (temporary : Bool) : Parser Statement := do
  expectKeyword "VIEW"
  let quiet ← ifNotExists
  let nameStart := (← get).tokens
  let first ← nameToken
  let written ← (do if ← acceptSymbol "." then pure (← nameToken) else pure first)
  let columns ← (do if ← acceptSymbol "(" then nameList else pure [])
  expectKeyword "AS"
  let query ← fullQuery
  let sql := "CREATE VIEW " ++ (← definitionText nameStart) ++
    String.ofList ((← closingGap).toList.reverse.dropWhile Char.isWhitespace).reverse
  let reader ← get
  if !endsStatement (← peek) then throw (failAt (← peek))
  if 0 < reader.parameterCount then throw (.refused "parameters are not allowed in views")
  set { reader with tokens := nameStart }
  let target ← startTable db temporary quiet fun _ => true
  set reader
  match target with
  | none => pure .unchanged
  | some (schema, name) =>
    if schema != "temp" then
      if let some other := foreignSchema db schema (query.namedSchemas 10000) then
        throw (.refused ("view " ++ written.text ++ " cannot reference objects in database " ++
          other))
    pure (.createView schema name columns query sql)

/-- The arguments of a module after the `(` that opens them, up to and with the `)` that closes
them: the text of each as written, the arguments apart at the commas outside parentheses; an
argument of no token is left out. -/
def moduleArguments : Parser (List String) := do
  let rec go (fuel depth : Nat) (current : List Token) (done : List String) :
      Parser (List String) := do
    match fuel with
    | 0 => throw (failAt (← peek))
    | fuel + 1 =>
      let token ← take
      let closed := if current.isEmpty then done else done ++ [writtenText current]
      if token.text.isEmpty then throw (failAt token)
      else if depth == 0 && token.isSymbol ")" then pure closed
      else if depth == 0 && token.isSymbol "," then go fuel 0 [] closed
      else if token.isSymbol "(" then go fuel (depth + 1) (current ++ [token]) done
      else if token.isSymbol ")" then go fuel (depth - 1) (current ++ [token]) done
      else go fuel depth (current ++ [token]) done
  go ((← get).tokens.length + 1) 0 [] []

/-- The rest of `CREATE VIRTUAL TABLE [IF NOT EXISTS] [schema.]name USING module [(arguments)]`
after `CREATE`. Its name is checked as a table's once the module is read, and the text of its
definition runs from its name to the module or the closing `)`. -/
def createVirtual (db : Database) : Parser Statement := do
  expectKeyword "VIRTUAL"
  expectKeyword "TABLE"
  let quiet ← ifNotExists
  let nameStart := (← get).tokens
  let _ ← nameToken
  if ← acceptSymbol "." then
    let _ ← nameToken
  expectKeyword "USING"
  let moduleToken ← nameToken
  let reader ← get
  let next ← peek
  set { reader with tokens := nameStart }
  let target ← startTable db false quiet fun _ => next.isSymbol "(" || endsStatement next
  set reader
  let arguments ← if ← acceptSymbol "(" then moduleArguments else pure []
  let sql := "CREATE VIRTUAL TABLE " ++ (← definitionText nameStart)
  match target with
  | none => pure .unchanged
  | some (schema, name) => pure (.createVirtual schema name moduleToken.nameText arguments sql)

/-- The statements of a trigger, each ended by `;`, up to `END`. -/
def triggerBody : Parser (List Statement) := do
  let rec more (fuel : Nat) (read : List Statement) : Parser (List Statement) := do
    match fuel with
    | 0 => pure read
    | fuel + 1 =>
      let token ← peek
      let step ← if token.isKeyword "SELECT" || token.isKeyword "VALUES" ||
          token.isKeyword "WITH" then do pure (Statement.select (← fullQuery))
        else change true
      expectSymbol ";"
      let read := read ++ [step]
      if (← peek).isKeyword "END" then pure read else more fuel read
  more ((← get).tokens.length + 1) []

/-- The rest of `CREATE [TEMP] TRIGGER [IF NOT EXISTS] [schema.]name [BEFORE | AFTER | INSTEAD OF]
event ON table [FOR EACH ROW] [WHEN condition] BEGIN statements END`. The name and the table are
checked at `BEGIN`; the statements, which may use no parameter, at `END`. -/
def createTrigger (db : Database) (temporary : Bool) : Parser Statement := do
  expectKeyword "TRIGGER"
  let quiet ← ifNotExists
  let nameStart := (← get).tokens
  let first ← nameToken
  let (schemaToken, nameToken) ← (do
    if ← acceptSymbol "." then pure (some first, ← nameToken) else pure (none, first))
  let token ← peek
  let timing ← (do
    if token.isKeyword "BEFORE" then
      advance
      pure TriggerTiming.before
    else if token.isKeyword "AFTER" then
      advance
      pure .after
    else if token.isKeyword "INSTEAD" then
      advance
      expectKeyword "OF"
      pure .insteadOf
    else pure .before)
  let eventToken ← take
  let event ← (do
    if eventToken.isKeyword "DELETE" then pure TriggerEvent.delete
    else if eventToken.isKeyword "INSERT" then pure .insert
    else if eventToken.isKeyword "UPDATE" then
      if ← acceptKeyword "OF" then
        let rec names (fuel : Nat) (read : List String) : Parser (List String) := do
          match fuel with
          | 0 => pure read
          | fuel + 1 =>
            let read := read ++ [(← Parser.nameToken).nameText]
            if ← acceptSymbol "," then names fuel read else pure read
        pure (.update (← names ((← get).tokens.length + 1) []))
      else pure (.update [])
    else throw (failAt eventToken))
  expectKeyword "ON"
  let table ← tableName false
  if ← acceptKeyword "FOR" then
    expectKeyword "EACH"
    expectKeyword "ROW"
  let condition ← (do if ← acceptKeyword "WHEN" then pure (some (← fullExpression)) else pure none)
  let begin ← peek
  if !begin.isKeyword "BEGIN" then throw (failAt begin)
  let start : Except StoreError (Option (String × String × String)) := do
    let schema ← match schemaToken with
      | some written =>
        if temporary then throw (.refused "temporary trigger may not have qualified name")
        else
          match db.schemaNamed? written.nameText with
          | some schema => pure schema
          | none => throw (.unknownDatabase written.text)
      | none => pure (if temporary then "temp" else "main")
    let lookup (fixed : Option String) : Option (String × Bool × Bool) :=
      let schemas := match fixed, table.schema with
        | some schema, _ => [schema]
        | none, some written => (db.schemaNamed? written).toList
        | none, none => db.schemaOrder
      schemas.findSome? fun schema =>
        match db.tableIn? schema table.name, db.viewIn? schema table.name with
        | some found, _ => some (found.spec.schema, false, found.spec.virtual.isSome)
        | none, some view => some (view.schema, true, false)
        | none, none => none
    let missing (fixed : Option String) : StoreError :=
      match fixed, table.schema with
      | some schema, _ => .noSuchTable (schema ++ "." ++ table.name)
      | none, _ => .noSuchTable table.shown
    let schema := match schemaToken, lookup none with
      | none, some ("temp", _, _) => "temp"
      | _, _ => schema
    let fixed := if schema == "temp" then none else some schema
    if let some written := table.schema then
      if fixed.isSome && db.schemaNamed? written != fixed then
        throw (.refused ("trigger " ++ nameToken.text ++ " cannot reference objects in database " ++
          written))
    let some (_, isView, isVirtual) := lookup fixed | throw (missing fixed)
    if isVirtual then throw (.refused "cannot create triggers on virtual tables")
    let name := nameToken.nameText
    if sameName (String.ofList (name.toList.take 7)) "sqlite_" then throw (.reservedName name)
    if (db.triggerIn? schema name).isSome then
      if quiet then return none
      else throw (.refused ("trigger " ++ nameToken.text ++ " already exists"))
    if sameName (String.ofList (table.name.toList.take 7)) "sqlite_" then
      throw (.refused "cannot create trigger on system table")
    if isView && timing != .insteadOf then
      throw (.refused ("cannot create " ++ (if timing == .before then "BEFORE" else "AFTER") ++
        " trigger on view: " ++ table.shown))
    if !isView && timing == .insteadOf then
      throw (.refused ("cannot create INSTEAD OF trigger on table: " ++ table.shown))
    pure (some (schema, name, table.name))
  let target ← check start fun _ => true
  advance
  let body ← triggerBody
  expectKeyword "END"
  let sql := "CREATE TRIGGER " ++ (← definitionText nameStart)
  if !endsStatement (← peek) then throw (failAt (← peek))
  match target with
  | none => pure .unchanged
  | some (schema, name, tableName) =>
    let parts := body.map Statement.parts
    let exprs := condition.toList ++ parts.flatMap (·.1)
    let queries := parts.flatMap (·.2)
    if schema != "temp" then
      let named := exprs.flatMap (Expr.namedSchemas 10000) ++
        queries.flatMap (Query.namedSchemas 10000)
      if let some other := foreignSchema db schema named then
        throw (.refused ("trigger " ++ name ++ " cannot reference objects in database " ++
          other))
    if 0 < (← get).parameterCount then throw (.refused "trigger cannot use variables")
    pure (.createTrigger schema name timing event tableName condition body sql)

/-- The rest of `ALTER TABLE [schema.]name …` after `ALTER`: `RENAME TO`, `RENAME [COLUMN] … TO`,
`ADD [COLUMN]`, or `DROP [COLUMN]`. The table of an `ADD` is looked up before its column is
read. -/
def alter (db : Database) : Parser Statement := do
  expectKeyword "TABLE"
  let table ← tableName false
  let token ← take
  if token.isKeyword "RENAME" then
    if ← acceptKeyword "TO" then pure (.alter table (.renameTable (← nameToken).nameText))
    else
      let _ ← acceptKeyword "COLUMN"
      let old ← nameToken
      expectKeyword "TO"
      let new ← nameToken
      pure (.alter table (.renameColumn old.nameText new.nameText (new.kind != .name)))
  else if token.isKeyword "DROP" then
    let _ ← acceptKeyword "COLUMN"
    pure (.alter table (.dropColumn (← nameToken).nameText))
  else if token.isKeyword "ADD" then
    let found : Except StoreError TableSpec :=
      let schemas := match table.schema with
        | some written => (db.schemaNamed? written).toList
        | none => db.schemaOrder
      match schemas.findSome? fun schema =>
          match db.tableIn? schema table.name, db.viewIn? schema table.name with
          | some found, _ => some (Sum.inl found.spec)
          | none, some view => some (Sum.inr view)
          | none, none => none with
      | some (.inl spec) =>
        if spec.virtual.isSome then .error (.refused "virtual tables may not be altered")
        else if sameName (String.ofList (spec.name.toList.take 7)) "sqlite_" then
          .error (.refused ("table " ++ spec.name ++ " may not be altered"))
        else .ok spec
      | some (.inr _) => .error (.refused "Cannot add a column to a view")
      | none => .error (.noSuchTable table.shown)
    let spec ← check found fun _ => true
    let _ ← acceptKeyword "COLUMN"
    pure (.alter { table with schema := some spec.schema } (.addColumn (← addedColumn spec)))
  else throw (failAt token)

/-- The rest of a query after its first token. -/
def select : Parser Statement := do
  pure (.select (← fullQuery))

/-- A name token as written and as the name it stands for. -/
def writtenName : Parser WrittenName := do
  let token ← nameToken
  pure ⟨token.text, token.nameText⟩

/-- An optional name token. -/
def optionalName : Parser (Option WrittenName) := do
  if isNameToken (← peek) then pure (some (← writtenName)) else pure none

/-- An optional `TRANSACTION`, with an optional name after it. -/
def transactionWord : Parser Unit := do
  if ← acceptKeyword "TRANSACTION" then
    let _ ← optionalName

/-- The rest of `BEGIN [DEFERRED | IMMEDIATE | EXCLUSIVE] [TRANSACTION [name]]`. -/
def begin : Parser Statement := do
  let token ← peek
  if token.isKeyword "DEFERRED" || token.isKeyword "IMMEDIATE" || token.isKeyword "EXCLUSIVE" then
    advance
  transactionWord
  pure (.control .begin)

/-- The rest of `ROLLBACK [TRANSACTION [name]] [TO [SAVEPOINT] name]`. -/
def rollback : Parser Statement := do
  transactionWord
  if ← acceptKeyword "TO" then
    let _ ← acceptKeyword "SAVEPOINT"
    pure (.control (.rollbackTo (← writtenName).name))
  else pure (.control .rollback)

/-- The rest of `VACUUM [schema] [INTO file]`. -/
def vacuum : Parser Statement := do
  let schema ← optionalName
  let into ← (do if ← acceptKeyword "INTO" then pure (some (← fullExpression)) else pure none)
  pure (.vacuum schema into)

/-- The value of a pragma: a number with an optional sign, a name, or `ON`, `DELETE` or
`DEFAULT`. A negative number keeps its sign. -/
def pragmaValue : Parser String := do
  let token ← peek
  let number : Parser String := do
    let digits ← peek
    if digits.kind == .integer || digits.kind == .float then
      advance
      pure digits.text
    else throw (failAt digits)
  if token.isSymbol "-" then
    advance
    pure ("-" ++ (← number))
  else if token.isSymbol "+" then
    advance
    number
  else if token.kind == .integer || token.kind == .float then number
  else if isNameToken token || token.isKeyword "ON" || token.isKeyword "DELETE" ||
      token.isKeyword "DEFAULT" then
    advance
    pure token.nameText
  else throw (failAt token)

/-- The rest of `PRAGMA [schema.]name [= value | (value)]`. -/
def pragma : Parser Statement := do
  let first ← writtenName
  let (schema, name) ← (do
    if ← acceptSymbol "." then pure (some first, (← writtenName).name)
    else pure (none, first.name))
  let token ← peek
  let argument ← (do
    if token.isSymbol "=" || token.isSymbol "==" then
      advance
      pure (some (← pragmaValue))
    else if token.isSymbol "(" then
      advance
      let value ← pragmaValue
      expectSymbol ")"
      pure (some value)
    else pure none)
  pure (.pragma schema name argument)

/-- The optional `name` or `schema.name` after `ANALYZE` or `REINDEX`. -/
def maintenanceTarget : Parser (Option (WrittenName × Option WrittenName)) := do
  match ← optionalName with
  | none => pure none
  | some first =>
    if ← acceptSymbol "." then pure (some (first, some (← writtenName)))
    else pure (some (first, none))

/-- A statement that starts with `WITH`: a query, or an insert, update or delete that may read
the common tables. -/
def withStatement : Parser Statement := do
  let saved ← get
  expectKeyword "WITH"
  let recursive ← acceptKeyword "RECURSIVE"
  let tables ← fullCommonTables
  let next ← peek
  if next.isKeyword "SELECT" || next.isKeyword "VALUES" then
    set saved
    select
  else if next.isKeyword "INSERT" || next.isKeyword "REPLACE" || next.isKeyword "UPDATE" ||
      next.isKeyword "DELETE" then
    pure (.common recursive tables (← change false))
  else throw (failAt next)

/-- Reads one statement other than `EXPLAIN`, at its first token, checking definitions against a
database. -/
def command (db : Database) : Parser Statement := do
  let token ← peek
  if token.isKeyword "SELECT" || token.isKeyword "VALUES" then select
  else if token.isKeyword "WITH" then withStatement
  else if token.isKeyword "INSERT" || token.isKeyword "REPLACE" || token.isKeyword "UPDATE" ||
      token.isKeyword "DELETE" then change false
  else
    advance
    if token.isKeyword "DROP" then drop
    else if token.isKeyword "CREATE" then
      let temporary ← acceptKeyword "TEMP" <||> acceptKeyword "TEMPORARY"
      let next ← peek
      if next.isKeyword "UNIQUE" || next.isKeyword "INDEX" then
        if temporary then throw (failAt next) else createIndex
      else if next.isKeyword "VIEW" then createView db temporary
      else if next.isKeyword "TRIGGER" then createTrigger db temporary
      else if next.isKeyword "VIRTUAL" && !temporary then createVirtual db
      else createTable db temporary
    else if token.isKeyword "ALTER" then alter db
    else if token.isKeyword "ATTACH" then
      let _ ← acceptKeyword "DATABASE"
      let file ← fullExpression
      expectKeyword "AS"
      let name ← fullExpression
      if ← acceptKeyword "KEY" then
        let _ ← fullExpression
      pure (.attach file name)
    else if token.isKeyword "DETACH" then
      let _ ← acceptKeyword "DATABASE"
      pure (.detach (← fullExpression))
    else if token.isKeyword "BEGIN" then begin
    else if token.isKeyword "COMMIT" || token.isKeyword "END" then
      transactionWord
      pure (.control .commit)
    else if token.isKeyword "ROLLBACK" then rollback
    else if token.isKeyword "SAVEPOINT" then
      pure (.control (.savepoint (← writtenName).name))
    else if token.isKeyword "RELEASE" then
      let _ ← acceptKeyword "SAVEPOINT"
      pure (.control (.release (← writtenName).name))
    else if token.isKeyword "VACUUM" then vacuum
    else if token.isKeyword "PRAGMA" then pragma
    else if token.isKeyword "ANALYZE" then pure (.analyze (← maintenanceTarget))
    else if token.isKeyword "REINDEX" then pure (.reindex (← maintenanceTarget))
    else throw (failAt token)

/-- Reads one statement, checking definitions against a database, and its end. A statement may
be explained: `EXPLAIN [QUERY PLAN]` before it. -/
def statement (db : Database) : Parser Statement := do
  let read ←
    if ← acceptKeyword "EXPLAIN" then do
      if ← acceptKeyword "QUERY" then expectKeyword "PLAN"
      pure (.explain (← command db))
    else command db
  let last ← peek
  if endsStatement last then pure read else throw (failAt last)

end Parser

/-- Reads the statement of a list of tokens: the statement and the number of parameters it uses. -/
def readStatement (db : Database) (tokens : List Token) : Except StoreError (Statement × Nat) := do
  let (statement, reader) ← (Parser.statement db).run ⟨tokens, 0, []⟩
  pure (statement, reader.parameterCount)

end SheetExport.Store.Sql
