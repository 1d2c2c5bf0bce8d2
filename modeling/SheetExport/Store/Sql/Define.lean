import SheetExport.Store.Sql.Parse
import SheetExport.Store.Sql.Resolve
import SheetExport.Store.Sql.Statement

/-!
# Reading table definitions

`CREATE TABLE` is checked while it is read, each check made as soon as the part it concerns is
complete: the database and name of the table once the token after the name is seen, a column once
its type is read, each constraint once it is read, and the table as a whole once the token after
its options is seen. A failed check ends the statement, unless the token that completed the part
is itself out of place, which makes the failure a syntax error at that token. When the table
exists and the statement says `IF NOT EXISTS`, the rest is only read.

**Columns.** The declared type of a column is its words as written, without the words
`GENERATED ALWAYS` that may end a long one, and without the quotes around a quoted one; the six
standard names `ANY`, `BLOB`, `INT`, `INTEGER`, `REAL` and `TEXT` are kept in upper case. The
affinity follows from the declared type. A column is the row id when it is declared
`INTEGER PRIMARY KEY` with exactly the standard type `INTEGER` and no `DESC`; any other primary
key, and every `UNIQUE`, becomes a unique key of the table. Keys are checked on writes newest
first, except that a key whose conflict rule is replace comes after the keys that are not; a key
on the same columns and collations as an earlier one only lends that one its conflict rule.

**Checks.** A `CHECK` constraint is named by the `CONSTRAINT` clause before it, which holds until
the next column or the comma before the next table constraint; otherwise by the text of its
condition.

**The whole table.** Once read, a strict table must give every column a standard type, and its
primary-key columns refuse NULL; a table without row id must have a primary key and no
`AUTOINCREMENT`, and its primary-key columns refuse NULL. Then the `CHECK` conditions and the
generated columns are looked up against the table, the last failure counting, and a table must
have a column that is not generated.
-/

namespace SheetExport.Store.Sql

/-- A unique key while a table is read: its columns with their collations, and the conflict rule
it was declared with. -/
structure KeyDraft where
  columns : List (Nat × Collation)
  onConflict : Option Conflict
  /-- The key's place among the keys of the table that bring an index, counted from one in the
  order they were declared; the index is named for it. -/
  serial : Nat

/-- A table while it is read. -/
structure Draft where
  name : String
  schema : String
  columns : List ColumnSpec
  /-- Whether each column's type is one of the standard names. -/
  standard : List Bool
  /-- Whether each column belongs to the primary key. -/
  inPrimaryKey : List Bool
  hasPrimaryKey : Bool
  rowIdColumn : Option Nat
  rowIdConflict : Option Conflict
  autoIncrement : Bool
  /-- The keys, in the order writes check them. -/
  keys : List KeyDraft
  /-- The columns of a primary key that is not the row id. -/
  primaryKey : List (Nat × Collation)
  checks : List CheckSpec
  /-- The name the last `CONSTRAINT` clause gave, while it holds. -/
  constraintName : Option String
  /-- The references to parent tables, in the order they were declared. -/
  references : List ReferenceSpec

namespace Draft

/-- A table with no column yet. -/
def start (schema name : String) : Draft :=
  ⟨name, schema, [], [], [], false, none, none, false, [], [], [], none, []⟩

/-- The position of the column read last. -/
def last (draft : Draft) : Nat := draft.columns.length - 1

/-- The column read last. -/
def lastColumn? (draft : Draft) : Option ColumnSpec := draft.columns.getLast?

/-- Changes the column read last. -/
def modifyLast (draft : Draft) (change : ColumnSpec → ColumnSpec) : Draft :=
  { draft with columns := draft.columns.modify draft.last change }

/-- Whether two keys have the same columns and collations. -/
def sameKey (a b : KeyDraft) : Bool :=
  a.columns.length == b.columns.length &&
    (a.columns.zip b.columns).all fun ((i, x), (j, y)) => i == j && x == y

/-- Adds a unique key. A key like an earlier one lends it its conflict rule; two explicit rules
that differ are refused. -/
def addKey (draft : Draft) (key : KeyDraft) : Except String Draft :=
  match draft.keys.find? (sameKey · key) with
  | some earlier =>
    match earlier.onConflict, key.onConflict with
    | some a, some b => if a == b then .ok draft else .error "conflicting ON CONFLICT clauses specified"
    | none, some _ =>
      .ok { draft with
        keys := draft.keys.map fun other =>
          if sameKey other key then { key with serial := other.serial } else other }
    | _, none => .ok draft
  | none =>
    let key := { key with serial := draft.keys.length + 1 }
    let isReplace (k : KeyDraft) : Bool := k.onConflict == some .replace
    match draft.keys with
    | [] => .ok { draft with keys := [key] }
    | first :: _ =>
      if !isReplace key || isReplace first then .ok { draft with keys := key :: draft.keys }
      else
        let before := draft.keys.takeWhile (!isReplace ·)
        let after := draft.keys.dropWhile (!isReplace ·)
        .ok { draft with keys := before ++ [key] ++ after }

/-- Makes some columns the primary key: the row id when it is one column of the standard type
`INTEGER` and not descending, otherwise a unique key. A generated column cannot be part of it. -/
def addPrimaryKey (draft : Draft) (columns : List (Nat × Collation)) (count : Nat)
    (onConflict : Option Conflict) (autoIncrement descending : Bool) : Except String Draft :=
  if draft.hasPrimaryKey then .error ("table \"" ++ draft.name ++ "\" has more than one primary key")
  else if columns.any fun (index, _) => ((draft.columns[index]?).bind (·.generated)).isSome then
    .error "generated columns cannot be part of the PRIMARY KEY"
  else
    let marked := columns.foldl (fun marks (index, _) => marks.set index true) draft.inPrimaryKey
    let draft := { draft with hasPrimaryKey := true, inPrimaryKey := marked }
    let integerTyped (index : Nat) : Bool :=
      draft.standard.getD index false &&
        ((draft.columns[index]?).map (·.declared == "INTEGER")).getD false
    match columns.getLast?.map (·.1) with
    | some index =>
      if count == 1 && integerTyped index && !descending then
        .ok { draft with
          rowIdColumn := some index
          rowIdConflict := onConflict
          autoIncrement := autoIncrement }
      else if autoIncrement then .error "AUTOINCREMENT is only allowed on an INTEGER PRIMARY KEY"
      else
        (draft.addKey ⟨columns, onConflict, 0⟩).map fun draft => { draft with primaryKey := columns }
    | none =>
      if autoIncrement then .error "AUTOINCREMENT is only allowed on an INTEGER PRIMARY KEY"
      else .ok draft

/-- Sets the collation of the column read last, and of the keys on that column alone. -/
def collateLast (draft : Draft) (collation : Collation) : Draft :=
  let index := draft.last
  let draft := draft.modifyLast fun column => { column with collation := collation }
  let recollate (columns : List (Nat × Collation)) : List (Nat × Collation) :=
    match columns with
    | [(i, _)] => if i == index then [(i, collation)] else columns
    | _ => columns
  { draft with
    keys := draft.keys.map fun key => { key with columns := recollate key.columns }
    primaryKey := recollate draft.primaryKey }

/-- Adds a `CHECK` constraint, named by the `CONSTRAINT` clause that holds, else by the text of
its condition. -/
def addCheck (draft : Draft) (condition : Expr) (text : String) : Draft :=
  { draft with checks := draft.checks ++ [⟨draft.constraintName.getD text, condition⟩] }

/-- Adds a reference from some columns, or from the column read last when `columns` is none,
to a parent table: a column's reference names at most one parent column, and a table's as many
as it has columns; each column it lists must be one of the table's. -/
def addReference (draft : Draft) (columns : Option (List String)) (parent : Token)
    (parentColumns : List String) (onDelete onUpdate : ReferenceAction) :
    Except String Draft := do
  let positions ← match columns with
    | none =>
      if 1 < parentColumns.length then
        throw ("foreign key on " ++ ((draft.lastColumn?.map (·.name)).getD "") ++
          " should reference only one column of table " ++ parent.text)
      pure [draft.last]
    | some names =>
      if !parentColumns.isEmpty && parentColumns.length != names.length then
        throw ("number of columns in foreign key does not match the number of columns in the " ++
          "referenced table")
      names.mapM fun name =>
        match draft.columns.findIdx? (sameName ·.name name) with
        | some index => .ok index
        | none => .error ("unknown column \"" ++ name ++ "\" in foreign key definition")
  pure { draft with
    references := draft.references ++
      [⟨positions, parent.nameText, parentColumns, onDelete, onUpdate, false⟩] }

/-- Sets whether the reference declared last may wait for the end of the transaction. -/
def deferLast (draft : Draft) (deferred : Bool) : Draft :=
  let defer (reference : ReferenceSpec) : ReferenceSpec := { reference with deferred := deferred }
  { draft with references := draft.references.modify (draft.references.length - 1) defer }

/-- The shape of the table read, with the options after its columns. -/
def spec (draft : Draft) (strict withoutRowId : Bool) : TableSpec :=
  { name := draft.name
    schema := draft.schema
    columns := draft.columns
    rowIdColumn := draft.rowIdColumn
    rowIdConflict := draft.rowIdConflict.getD .abort
    uniques := draft.keys.map fun key =>
      ⟨key.columns, key.onConflict.getD .abort, none, [], none, key.serial⟩
    autoIncrement := draft.autoIncrement
    indexes := []
    checkConstraints := draft.checks
    strict := strict
    withoutRowId := withoutRowId
    primaryKey := draft.primaryKey
    references := draft.references
    sql := ""
    entry := 0 }

end Draft

/-- The names of the standard column types, as a strict table requires them. -/
def standardTypes : List String := ["ANY", "BLOB", "INT", "INTEGER", "REAL", "TEXT"]

/-- Whether a character is one of the quotes a name may be written in. -/
def isQuote (c : Char) : Bool := c == '"' || c == '\'' || c == '[' || c == '`'

/-- The text inside the quotes that open a text, a doubled closing quote standing for one; a text
that does not open with a quote stays as it is. -/
def dequote (text : String) : String :=
  match text.toList with
  | opening :: rest =>
    if isQuote opening then
      let closing := if opening == '[' then ']' else opening
      let rec inside : List Char → List Char
        | c :: d :: more =>
          if c == closing then (if d == closing then c :: inside more else [])
          else c :: inside (d :: more)
        | [c] => if c == closing then [] else [c]
        | [] => []
      String.ofList (inside rest)
    else text
  | [] => text

/-- The declared type of a column as its type is written, and whether it is a standard name. Two
words `GENERATED ALWAYS` that end a type of sixteen characters or more are not part of it. A
type of three characters or more in quotes (with no quote inside) is read without them, and a
standard name is kept in upper case; any other type is read without its quotes. -/
def declaredType (written : String) : String × Bool :=
  let trimEnd (chars : List Char) : List Char := (chars.reverse.dropWhile Char.isWhitespace).reverse
  let endsWith (chars : List Char) (word : String) : Bool :=
    word.length ≤ chars.length && sameName (String.ofList (chars.drop (chars.length - word.length))) word
  let chars := written.toList
  let chars :=
    if 16 ≤ chars.length && endsWith chars "always" then
      let shorter := trimEnd (chars.take (chars.length - 6))
      if 9 ≤ shorter.length && endsWith shorter "generated" then
        trimEnd (shorter.take (shorter.length - 9))
      else shorter
    else chars
  let unquoted := match chars with
    | first :: rest =>
      if 3 ≤ chars.length && isQuote first && !((rest.take (rest.length - 1)).any isQuote) then
        rest.take (rest.length - 1)
      else chars
    | [] => chars
  let text := String.ofList unquoted
  if 3 ≤ chars.length then
    match standardTypes.find? (sameName · text) with
    | some standard => (standard, true)
    | none => (dequote text, false)
  else (dequote text, false)

namespace Parser

/-- Fails with a check that a part of a statement failed, or with a syntax error when the token
that completed the part cannot follow it. -/
def settle {α : Type} (error : StoreError) (follows : Token → Bool) : Parser α := do
  let token ← peek
  if follows token then throw error else throw (failAt token)

/-- Runs a check of a part: a failure settles as `settle` says. -/
def check {α : Type} (result : Except StoreError α) (follows : Token → Bool) : Parser α :=
  match result with
  | .ok value => pure value
  | .error error => settle error follows

/-- Whether a token starts a column constraint. -/
def startsColumnConstraint (token : Token) : Bool :=
  ["CONSTRAINT", "DEFAULT", "NULL", "NOT", "PRIMARY", "UNIQUE", "CHECK", "REFERENCES",
    "DEFERRABLE", "COLLATE", "GENERATED", "AS"].any token.isKeyword

/-- Whether a token may follow a column definition or one of its constraints. -/
def followsColumn (token : Token) : Bool :=
  token.isSymbol "," || token.isSymbol ")" || startsColumnConstraint token

/-- Whether a token starts a table constraint. -/
def startsTableConstraint (token : Token) : Bool :=
  ["CONSTRAINT", "PRIMARY", "UNIQUE", "CHECK", "FOREIGN"].any token.isKeyword

/-- Whether a token may follow a table constraint. -/
def followsTableConstraint (token : Token) : Bool :=
  token.isSymbol "," || token.isSymbol ")" || startsTableConstraint token

/-- Whether a token ends a statement. -/
def endsStatement (token : Token) : Bool := token.isSymbol ";" || token.text.isEmpty

/-- Whether a token may follow the column `ALTER TABLE … ADD COLUMN` defines, or one of its
constraints: the statement ends there. -/
def followsAddedColumn (token : Token) : Bool :=
  startsColumnConstraint token || endsStatement token

/-- A conflict rule: `ROLLBACK`, `ABORT`, `FAIL`, `IGNORE` or `REPLACE`. -/
def conflictRule : Parser Conflict := do
  let token ← peek
  let rule : Option Conflict := match token.keyword? with
    | some "ROLLBACK" => some .rollback
    | some "ABORT" => some .abort
    | some "FAIL" => some .fail
    | some "IGNORE" => some .ignore
    | some "REPLACE" => some .replace
    | _ => none
  match rule with
  | some rule =>
    advance
    pure rule
  | none => throw (failAt token)

/-- An optional `ON CONFLICT rule`. -/
def onConflict : Parser (Option Conflict) := do
  if ← acceptKeyword "ON" then
    expectKeyword "CONFLICT"
    pure (some (← conflictRule))
  else pure none

/-- The text of a column type as written, with its size, if any; empty when there is none. -/
def columnType : Parser String := do
  let before := (← get).tokens
  let rec words (fuel : Nat) (count : Nat) : Parser Nat := do
    match fuel with
    | 0 => pure count
    | fuel + 1 =>
      let token ← peek
      if isPlainName token || token.kind == .string then
        advance
        words fuel (count + 1)
      else pure count
  let count ← words ((← get).tokens.length + 1) 0
  if 0 < count && (← acceptSymbol "(") then
    let signed : Parser Unit := do
      let _ ← (do if ← acceptSymbol "+" then pure () else let _ ← acceptSymbol "-"; pure ())
      let number ← peek
      if number.kind == .integer || number.kind == .float then advance else throw (failAt number)
    signed
    if ← acceptSymbol "," then signed
    expectSymbol ")"
  textSince before

/-- The parenthesized names of a foreign key's columns. -/
def foreignColumns : Parser (List String) := do
  expectSymbol "("
  let rec more (fuel : Nat) (names : List String) : Parser (List String) := do
    match fuel with
    | 0 => pure names
    | fuel + 1 =>
      let token ← nameToken
      if (← peek).isKeyword "COLLATE" then
        advance
        let _ ← word
      let _ ← descending
      if ← acceptSymbol "," then more fuel (names ++ [token.nameText])
      else pure (names ++ [token.nameText])
  let names ← more ((← get).tokens.length + 1) []
  expectSymbol ")"
  pure names

/-- What a reference names after `REFERENCES`: the parent table as written, its columns (none
for its primary key), and what a removal and a change of a parent row do. A clause given twice
counts the last time; `MATCH` and `ON INSERT` have no effect. -/
def references : Parser (Token × List String × ReferenceAction × ReferenceAction) := do
  let parent ← nameToken
  let columns ← if (← peek).isSymbol "(" then foreignColumns else pure []
  let rec clauses (fuel : Nat) (onDelete onUpdate : ReferenceAction) :
      Parser (ReferenceAction × ReferenceAction) := do
    match fuel with
    | 0 => pure (onDelete, onUpdate)
    | fuel + 1 =>
      let token ← peek
      if token.isKeyword "MATCH" then
        advance
        let _ ← nameToken
        clauses fuel onDelete onUpdate
      else if token.isKeyword "ON" then
        advance
        let event ← peek
        if event.isKeyword "INSERT" || event.isKeyword "DELETE" || event.isKeyword "UPDATE" then
          advance
        else throw (failAt event)
        let what ← peek
        let action ← if what.isKeyword "SET" then do
            advance
            let next ← peek
            if next.isKeyword "NULL" then
              advance
              pure ReferenceAction.setNull
            else if next.isKeyword "DEFAULT" then
              advance
              pure .setDefault
            else throw (failAt next)
          else if what.isKeyword "CASCADE" then
            advance
            pure .cascade
          else if what.isKeyword "RESTRICT" then
            advance
            pure .restrict
          else if what.isKeyword "NO" then
            advance
            expectKeyword "ACTION"
            pure .noAction
          else throw (failAt what)
        if event.isKeyword "DELETE" then clauses fuel action onUpdate
        else if event.isKeyword "UPDATE" then clauses fuel onDelete action
        else clauses fuel onDelete onUpdate
      else pure (onDelete, onUpdate)
  let (onDelete, onUpdate) ← clauses ((← get).tokens.length + 1) .noAction .noAction
  pure (parent, columns, onDelete, onUpdate)

/-- An optional `INITIALLY DEFERRED` or `INITIALLY IMMEDIATE` after `DEFERRABLE`: whether a
broken reference may wait for the end of the transaction. -/
def deferrable : Parser Bool := do
  if ← acceptKeyword "INITIALLY" then
    let token ← peek
    if token.isKeyword "DEFERRED" then
      advance
      pure true
    else if token.isKeyword "IMMEDIATE" then
      advance
      pure false
    else throw (failAt token)
  else pure false

/-- A default term: a literal or a clock word. -/
def term : Parser Expr := do
  let token ← peek
  if token.isKeyword "NULL" then
    advance
    pure .null
  else if token.kind == .float then
    advance
    pure (.real token.text)
  else if token.kind == .blob then
    advance
    pure (.blob (blobBytes token.text))
  else if token.kind == .string then
    advance
    pure (.string token.nameText)
  else if token.kind == .integer then
    advance
    pure (.integer token.text)
  else if token.isKeyword "CURRENT_DATE" || token.isKeyword "CURRENT_TIME" ||
      token.isKeyword "CURRENT_TIMESTAMP" then
    advance
    pure (.clock token.upper)
  else throw (failAt token)

/-- The value of a default expression; one that fails to evaluate is NULL. -/
def defaultValue (e : Expr) : Value :=
  match e.eval (fun _ _ _ => .ok []) (Scope.start Database.empty []) with
  | .ok value => value
  | .error _ => .null

/-- Whether a parenthesized default is constant: it names no column and has no parameter. -/
def constantDefault : Expr → Bool
  | .name qualifiers written =>
    qualifiers.isEmpty && !written.quoted &&
      (sameName written.text "true" || sameName written.text "false")
  | .parameter _ | .column .. | .proposed _ | .subquery _ | .existence _ | .inQuery .. => false
  | .unary _ operand | .isNull operand | .notNull operand | .cast operand _
  | .collate operand _ => constantDefault operand
  | .binary _ left right => constantDefault left && constantDefault right
  | .between operand low high =>
    constantDefault operand && constantDefault low && constantDefault high
  | .inList operand items => constantDefault operand && items.attach.all fun ⟨item, _⟩ => constantDefault item
  | .call _ _ arguments => arguments.attach.all fun ⟨argument, _⟩ => constantDefault argument
  | .choose condition yes no =>
    constantDefault condition && constantDefault yes && constantDefault no
  | .vector items => items.attach.all fun ⟨item, _⟩ => constantDefault item
  | _ => true
termination_by e => sizeOf e

/-- Whether a token names the current date or time, which a bare default reads as the clock. -/
def isClockWord (token : Token) : Bool :=
  token.isKeyword "CURRENT_DATE" || token.isKeyword "CURRENT_TIME" ||
    token.isKeyword "CURRENT_TIMESTAMP"

/-- A default as a name is written bare: a string, or a truth for `TRUE` and `FALSE`. -/
def nameDefault (token : Token) : Expr :=
  if token.kind != .quoted && sameName token.text "true" then .truth true
  else if token.kind != .quoted && sameName token.text "false" then .truth false
  else .string token.nameText

/-- Whether a default is a value the store reads without running code: a literal, NULL, a
truth, a signed one of these, or one cast to a type. Any other default is computed. -/
def plainDefault : Expr → Bool
  | .null | .integer _ | .real _ | .string _ | .blob _ | .truth _ => true
  | .name [] written =>
    !written.quoted && (sameName written.text "true" || sameName written.text "false")
  | .unary .plus operand | .unary .negate operand | .cast operand _ => plainDefault operand
  | _ => false

/-- The rest of a `DEFAULT` constraint: the default and whether it is computed (not a plain
value), or the failure of a default that is not constant. -/
def defaultClause (column : String) : Parser (Except StoreError (Expr × Bool)) := do
  let token ← peek
  if token.isSymbol "(" then
    advance
    let e ← fullExpression
    expectSymbol ")"
    if constantDefault e then pure (.ok (e, !plainDefault e))
    else pure (.error (.defaultNotConstant column))
  else if token.isSymbol "+" then
    advance
    let e ← term
    pure (.ok (e, !plainDefault e))
  else if token.isSymbol "-" then
    advance
    let e := Expr.unary .negate (← term)
    pure (.ok (e, !plainDefault e))
  else if isIdentifier token && !isClockWord token then
    advance
    pure (.ok (nameDefault token, false))
  else
    let e ← term
    pure (.ok (e, !plainDefault e))

/-- What the constraints of a column ask beyond the table: whether it is in the primary key,
whether it is unique, whether its default is computed, and whether it refers to another table. -/
structure ColumnMarks where
  primaryKey : Bool
  unique : Bool
  computedDefault : Bool
  refers : Bool

/-- The constraints of the column read last; a constraint that fails settles against the tokens
that may follow it (`follows`). -/
def columnConstraints (follows : Token → Bool) (fuel : Nat) (draft : Option Draft)
    (marks : ColumnMarks) :
    Parser (Option Draft × ColumnMarks) :=
  match fuel with
  | 0 => pure (draft, marks)
  | fuel + 1 => do
    let token ← peek
    let onDraft (change : Draft → Except String Draft) : Parser (Option Draft) :=
      match draft with
      | none => pure none
      | some draft =>
        match change draft with
        | .ok draft => pure (some draft)
        | .error message => settle (.definition message) follows
    if token.isKeyword "CONSTRAINT" then
      advance
      let name ← nameToken
      columnConstraints follows fuel
        (draft.map fun d => { d with constraintName := some name.nameText }) marks
    else if token.isKeyword "DEFAULT" then
      advance
      let columnName := (draft.bind fun d => d.lastColumn?.map (·.name)).getD ""
      let start := (← get).tokens
      let result ← defaultClause columnName
      let text ← textSince start
      let (value, computed) ← if draft.isSome then check result follows
        else pure (.null, false)
      let generated := (draft.bind fun d => d.lastColumn?.bind (·.generated)).isSome
      if generated then
        settle (.definition "cannot use DEFAULT on a generated column") follows
      let draft := draft.map fun d => d.modifyLast fun column =>
        { column with
          default := some (defaultValue value)
          defaultText := some text }
      columnConstraints follows fuel draft { marks with computedDefault := computed }
    else if token.isKeyword "NULL" then
      advance
      let _ ← onConflict
      columnConstraints follows fuel draft marks
    else if token.isKeyword "NOT" then
      advance
      if ← acceptKeyword "DEFERRABLE" then
        let _ ← deferrable
        columnConstraints follows fuel (draft.map (·.deferLast false)) marks
      else
        expectKeyword "NULL"
        let rule ← onConflict
        let draft := draft.map fun d => d.modifyLast fun column =>
          { column with notNull := some (rule.getD .abort) }
        columnConstraints follows fuel draft marks
    else if token.isKeyword "PRIMARY" then
      advance
      expectKeyword "KEY"
      let down ← descending
      let rule ← onConflict
      let auto ← acceptKeyword "AUTOINCREMENT"
      let draft ← onDraft fun d =>
        let collation := (d.lastColumn?.map (·.collation)).getD .binary
        d.addPrimaryKey [(d.last, collation)] 1 rule auto down
      columnConstraints follows fuel draft { marks with primaryKey := true }
    else if token.isKeyword "UNIQUE" then
      advance
      let rule ← onConflict
      let draft ← onDraft fun d =>
        let collation := (d.lastColumn?.map (·.collation)).getD .binary
        d.addKey ⟨[(d.last, collation)], rule, 0⟩
      columnConstraints follows fuel draft { marks with unique := true }
    else if token.isKeyword "CHECK" then
      advance
      expectSymbol "("
      let before := (← get).tokens
      let condition ← fullExpression
      let text ← textSince before
      expectSymbol ")"
      columnConstraints follows fuel (draft.map (·.addCheck condition text)) marks
    else if token.isKeyword "REFERENCES" then
      advance
      let (parent, parentColumns, onDelete, onUpdate) ← references
      let draft ← onDraft (·.addReference none parent parentColumns onDelete onUpdate)
      columnConstraints follows fuel draft { marks with refers := true }
    else if token.isKeyword "DEFERRABLE" then
      advance
      let deferred ← deferrable
      columnConstraints follows fuel (draft.map (·.deferLast deferred)) marks
    else if token.isKeyword "COLLATE" then
      advance
      let name ← word
      match Collation.ofName? name.nameText with
      | some collation => columnConstraints follows fuel (draft.map (·.collateLast collation)) marks
      | none =>
        match draft with
        | some _ => settle (.noSuchCollation name.nameText) follows
        | none => columnConstraints follows fuel draft marks
    else if token.isKeyword "GENERATED" || token.isKeyword "AS" then
      advance
      if token.isKeyword "GENERATED" then
        expectKeyword "ALWAYS"
        expectKeyword "AS"
      expectSymbol "("
      let e ← fullExpression
      expectSymbol ")"
      let next ← peek
      let kind ← if isPlainName next then do
          advance
          pure (some next.text)
        else pure none
      match draft with
      | none => columnConstraints follows fuel draft marks
      | some d =>
        let columnName := (d.lastColumn?.map (·.name)).getD ""
        let stored ← match kind with
          | none => pure false
          | some word =>
            if sameName word "virtual" then pure false
            else if sameName word "stored" then pure true
            else settle (.definition ("error in generated column \"" ++ columnName ++ "\"")) follows
        if (d.lastColumn?.bind (·.default)).isSome then
          settle (.definition ("error in generated column \"" ++ columnName ++ "\"")) follows
        if d.inPrimaryKey.getD d.last false then
          settle (.definition "generated columns cannot be part of the PRIMARY KEY") follows
        let value := match e with
          | .name _ _ => Expr.unary .plus e
          | _ => e
        let d := d.modifyLast fun column => { column with generated := some ⟨value, stored⟩ }
        columnConstraints follows fuel (some d) marks
    else pure (draft, marks)

/-- A column definition: its name, type and constraints, with what the constraints ask beyond the
table. -/
def columnDefinition (follows : Token → Bool) (draft : Option Draft) :
    Parser (Option Draft × ColumnMarks) := do
  let nameToken ← nameToken
  let columnName := nameToken.nameText
  let written ← columnType
  let (declared, standard) := declaredType written
  let draft ← match draft with
    | none => pure none
    | some d =>
      if d.columns.any (sameName ·.name columnName) then
        settle (.duplicateColumn columnName) follows
      else
        let column : ColumnSpec := ⟨columnName, declared, Affinity.ofTypeName declared, none, none,
          .binary, none, none⟩
        pure (some { d with
          columns := d.columns ++ [column]
          standard := d.standard ++ [standard]
          inPrimaryKey := d.inPrimaryKey ++ [false]
          constraintName := none })
  columnConstraints follows ((← get).tokens.length + 1) draft ⟨false, false, false, false⟩

/-- The columns a table constraint lists, each looked up in the table, with their number and
whether `AUTOINCREMENT` closes the list; a column that does not exist, or an expression, is a
failure of the constraint. -/
def keyColumns (draft : Option Draft) :
    Parser (Except StoreError (List (Nat × Collation)) × Nat × Bool) := do
  expectSymbol "("
  let rec more (fuel : Nat) (read : Except StoreError (List (Nat × Collation))) (count : Nat) :
      Parser (Except StoreError (List (Nat × Collation)) × Nat × Bool) := do
    match fuel with
    | 0 => pure (read, count, false)
    | fuel + 1 =>
      let e ← fullExpression
      let _ ← descending
      let (target, collationName) : Expr × Option String := match e with
        | .collate operand collation => (operand, some collation)
        | other => (other, none)
      let written : Option String := match target with
        | .name [] column => some column.text
        | .string text => some text
        | _ => none
      let read : Except StoreError (List (Nat × Collation)) := do
        let read ← read
        match draft with
        | none => pure read
        | some d =>
          match written with
          | none =>
            throw (.definition "expressions prohibited in PRIMARY KEY and UNIQUE constraints")
          | some text =>
            match d.columns.findIdx? (sameName ·.name text) with
            | none => throw (.noSuchColumn text)
            | some index =>
              let columnCollation := ((d.columns[index]?).map (·.collation)).getD .binary
              match collationName with
              | none => pure (read ++ [(index, columnCollation)])
              | some name =>
                match Collation.ofName? name with
                | some collation => pure (read ++ [(index, collation)])
                | none => throw (.noSuchCollation name)
      if ← acceptKeyword "AUTOINCREMENT" then
        expectSymbol ")"
        pure (read, count + 1, true)
      else if ← acceptSymbol "," then more fuel read (count + 1)
      else
        expectSymbol ")"
        pure (read, count + 1, false)
  more ((← get).tokens.length + 1) (.ok []) 0

/-- The table constraints after the columns. A comma between two of them ends the name a
`CONSTRAINT` clause gave. -/
def tableConstraints (fuel : Nat) (draft : Option Draft) : Parser (Option Draft) :=
  match fuel with
  | 0 => pure draft
  | fuel + 1 => do
    let token ← peek
    let onDraft (change : Draft → Except String Draft) : Parser (Option Draft) :=
      match draft with
      | none => pure none
      | some draft =>
        match change draft with
        | .ok draft => pure (some draft)
        | .error message => settle (.definition message) followsTableConstraint
    let next (draft : Option Draft) : Parser (Option Draft) := do
      if ← acceptSymbol "," then
        tableConstraints fuel (draft.map fun d => { d with constraintName := none })
      else tableConstraints fuel draft
    if token.isKeyword "CONSTRAINT" then
      advance
      let name ← nameToken
      tableConstraints fuel (draft.map fun d => { d with constraintName := some name.nameText })
    else if token.isKeyword "PRIMARY" then
      advance
      expectKeyword "KEY"
      let (columns, count, auto) ← keyColumns draft
      let rule ← onConflict
      let columns ← check columns followsTableConstraint
      let draft ← onDraft fun d => d.addPrimaryKey columns count rule auto false
      next draft
    else if token.isKeyword "UNIQUE" then
      advance
      let (columns, _, auto) ← keyColumns draft
      if auto then throw (failAt (← peek))
      let rule ← onConflict
      let columns ← check columns followsTableConstraint
      let draft ← onDraft fun d => d.addKey ⟨columns, rule, 0⟩
      next draft
    else if token.isKeyword "CHECK" then
      advance
      expectSymbol "("
      let before := (← get).tokens
      let condition ← fullExpression
      let text ← textSince before
      expectSymbol ")"
      let _ ← onConflict
      next (draft.map (·.addCheck condition text))
    else if token.isKeyword "FOREIGN" then
      advance
      expectKeyword "KEY"
      let columns ← foreignColumns
      expectKeyword "REFERENCES"
      let (parent, parentColumns, onDelete, onUpdate) ← references
      let draft ← onDraft (·.addReference (some columns) parent parentColumns onDelete onUpdate)
      let following ← peek
      let deferred ← if following.isKeyword "DEFERRABLE" then do
          advance
          deferrable
        else if following.isKeyword "NOT" then do
          advance
          expectKeyword "DEFERRABLE"
          let _ ← deferrable
          pure false
        else pure false
      next (draft.map (·.deferLast deferred))
    else pure draft

/-- The columns and constraints of a table, from `(` to `)`. -/
def tableBody (draft : Option Draft) : Parser (Option Draft) := do
  expectSymbol "("
  let rec columns (fuel : Nat) (draft : Option Draft) : Parser (Option Draft) := do
    match fuel with
    | 0 => pure draft
    | fuel + 1 =>
      let (draft, _) ← columnDefinition followsColumn draft
      if (← peek).isSymbol "," then
        advance
        if startsTableConstraint (← peek) then
          tableConstraints ((← get).tokens.length + 1) draft
        else columns fuel draft
      else pure draft
  let draft ← columns ((← get).tokens.length + 1) draft
  expectSymbol ")"
  pure draft

/-- The options after a table's columns, `WITHOUT ROWID` and `STRICT` separated by commas:
whether the table is strict and whether it has no row id. -/
def tableOptions : Parser (Bool × Bool) := do
  let rec more (fuel : Nat) (strict withoutRowId : Bool) : Parser (Bool × Bool) := do
    match fuel with
    | 0 => pure (strict, withoutRowId)
    | fuel + 1 =>
      let token ← nameToken
      let (strict, withoutRowId) ← (do
        if token.isKeyword "WITHOUT" then
          let option ← nameToken
          if sameName option.nameText "rowid" then pure (strict, true)
          else settle (.definition ("unknown table option: " ++ option.text)) endsStatement
        else if sameName token.nameText "strict" then pure (true, withoutRowId)
        else settle (.definition ("unknown table option: " ++ token.text)) endsStatement)
      if ← acceptSymbol "," then more fuel strict withoutRowId else pure (strict, withoutRowId)
  if isNameToken (← peek) then more ((← get).tokens.length + 1) false false
  else pure (false, false)

end Parser

/-- The checks of a table once read whole: a strict table's types, a table without row id's
primary key, and its `CHECK` conditions and generated columns, which are looked up against the
table. The result is the table's shape, or the last failure. -/
def Draft.finish (draft : Draft) (db : Database) (strict withoutRowId : Bool) :
    Except StoreError TableSpec := do
  let mut draft := draft
  if strict then
    for (column, standard) in draft.columns.zip draft.standard do
      if !standard then
        if column.declared.isEmpty then
          throw (.definition ("missing datatype for " ++ draft.name ++ "." ++ column.name))
        else
          throw (.definition ("unknown datatype for " ++ draft.name ++ "." ++ column.name ++
            ": \"" ++ column.declared ++ "\""))
    let rowId := draft.rowIdColumn
    draft := { draft with columns := draft.columns.zipIdx.map fun (column, index) =>
      let column := if column.declared == "ANY" then { column with affinity := .blob } else column
      if draft.inPrimaryKey.getD index false && rowId != some index && column.notNull.isNone then
        { column with notNull := some .abort }
      else column }
  if withoutRowId then
    if draft.autoIncrement then
      throw (.definition "AUTOINCREMENT not allowed on WITHOUT ROWID tables")
    if !draft.hasPrimaryKey then
      throw (.definition ("PRIMARY KEY missing on table " ++ draft.name))
    draft := { draft with columns := draft.columns.zipIdx.map fun (column, index) =>
      if draft.inPrimaryKey.getD index false && column.notNull.isNone then
        { column with notNull := some .abort }
      else column }
    if let some index := draft.rowIdColumn then
      let collation := ((draft.columns[index]?).map (·.collation)).getD .binary
      let converted := { draft with rowIdColumn := none, autoIncrement := false }
      match converted.addKey ⟨[(index, collation)], draft.rowIdConflict, 0⟩ with
      | .ok added => draft := { added with primaryKey := [(index, collation)] }
      | .error message => throw (.definition message)
  let spec := draft.spec strict withoutRowId
  let ctx (purpose : Purpose) := Context.ofTable db spec spec.name purpose
  let checkFault : Option StoreError :=
    match resolveListIn (ctx .check) (spec.checkConstraints.map (·.condition)) with
    | .error error => some error
    | .ok _ => none
  let generatedFaults : List StoreError := spec.columns.filterMap fun column =>
    match column.generated with
    | some generated =>
      match resolveIn (ctx .generated) generated.expr with
      | .error error => some error
      | .ok _ => none
    | none => none
  let faults := checkFault.toList ++ generatedFaults
  let faults := if spec.columns.all (·.generated.isSome) then
      faults ++ [StoreError.definition "must have at least one non-generated column"]
    else faults
  match faults.getLast? with
  | some fault => throw fault
  | none => pure spec

namespace Parser

/-- The database and name of a new table or view, checked against a database: the schema that
will hold it and its name, or `none` when it exists and the statement says `IF NOT EXISTS`.
A temporary one goes to `temp`, and may only be qualified with it. -/
def startTable (db : Database) (temporary quiet : Bool) (follows : Token → Bool) : Parser (Option (String × String)) := do
  let first ← nameToken
  let (schemaToken, nameToken) ← (do
    if ← acceptSymbol "." then pure (some first, ← nameToken) else pure (none, first))
  let name := nameToken.nameText
  let schema ← match schemaToken with
    | some written =>
      match db.schemaNamed? written.nameText with
      | some schema =>
        if temporary && schema != "temp" then
          settle (.definition "temporary table name must be unqualified") follows
        else pure schema
      | none => settle (.unknownDatabase written.text) follows
    | none => pure (if temporary then "temp" else "main")
  if sameName (String.ofList (name.toList.take 7)) "sqlite_" then
    settle (.reservedName name) follows
  match db.tableIn? schema name, db.viewIn? schema name with
  | some _, _ =>
    if quiet then pure none else settle (.tableExists nameToken.text) follows
  | none, some _ =>
    if quiet then pure none else settle (.refused ("view " ++ nameToken.text ++ " already exists")) follows
  | none, none =>
    if (db.indexIn? schema name).isSome then
      settle (.indexNamed name) follows
    else pure (some (schema, name))

/-- An optional `IF NOT EXISTS`. -/
def ifNotExists : Parser Bool := do
  if (← peek).isKeyword "IF" then
    advance
    expectKeyword "NOT"
    expectKeyword "EXISTS"
    pure true
  else pure false

/-- Reads `CREATE [TEMP] TABLE [IF NOT EXISTS] [schema.]name (…)` or `… AS query`, after
`CREATE [TEMP]`, checking it against a database. -/
def createTable (db : Database) (temporary : Bool) : Parser Statement := do
  expectKeyword "TABLE"
  let quiet ← ifNotExists
  let follows (token : Token) : Bool := token.isSymbol "(" || token.isKeyword "AS"
  let nameStart := (← get).tokens
  let target ← startTable db temporary quiet follows
  let next ← peek
  if next.isKeyword "AS" then
    advance
    let query ← fullQuery
    match target with
    | some (schema, name) => pure (.createTableAs schema name query)
    | none => pure (.createTable none)
  else if next.isSymbol "(" then
    let draft ← tableBody (target.map fun (schema, name) => Draft.start schema name)
    let (strict, withoutRowId) ← tableOptions
    let tail ← closingGap
    let sql := "CREATE TABLE " ++ (← definitionText nameStart) ++
      (if strict || withoutRowId then tail else "")
    match draft with
    | some draft =>
      let spec ← check (draft.finish db strict withoutRowId) endsStatement
      pure (.createTable (some { spec with sql := sql }))
    | none => pure (.createTable none)
  else throw (failAt next)

/-- Reads a column definition of `ALTER TABLE … ADD COLUMN`, for a table. -/
def addedColumn (spec : TableSpec) : Parser AddedColumn := do
  let draft : Draft := { Draft.start spec.schema spec.name with
    columns := spec.columns
    standard := spec.columns.map fun _ => true
    inPrimaryKey := spec.columns.map fun _ => false }
  let (draft, marks) ← columnDefinition followsAddedColumn (some draft)
  match draft with
  | some draft =>
    let column := (draft.lastColumn?).getD ⟨"", "", .blob, none, none, .binary, none, none⟩
    pure ⟨column, marks.primaryKey, marks.unique, marks.computedDefault, marks.refers,
      draft.checks, draft.references⟩
  | none => throw .incomplete

end Parser

end SheetExport.Store.Sql
