import SheetExport.Store.Sql.Command

/-!
# Renaming within definitions

`ALTER TABLE … RENAME` changes a name wherever the definitions of the table's database use it.
The text of each definition is written again with the new name in place of the old where the old
names the table or the column, and views and triggers are then read again from their new text,
so that what they do follows the text the schema table shows.

A table's new name is always written quoted. A column's new name is written as the statement
wrote it, and quoted where the old name was quoted.

Which words name the table, or the column, is decided from the text alone:

* in a view or a trigger, a word names the table when it is not a function before `(` (a word
  after `INTO` is a table) and not a column after a `.` (a database before the `.` aside); in the
  definition of a table only its own name and the parent named after `REFERENCES` are the table,
  and in an index the table after `ON`;
* a word names the column in the table's own definition, in its indexes, and in a view or a
  trigger that reads the table; not before `(` or `.`, and after a `.` only when that follows the
  table's name, a name given to it with or without `AS`, or `NEW` or `OLD` in a trigger on the
  table. In another table's definition the column is only named within the `REFERENCES` of the
  table.

With the legacy setting for renames, a table's rename leaves views and the statements of
triggers as they are, renaming only the table a trigger is on, and renames the parent of a
`REFERENCES` only while references are enforced.
-/

namespace SheetExport.Store.Sql

namespace Rename

/-- A name written as a quoted identifier, its quotes doubled. -/
def quoteName (name : String) : String :=
  "\"" ++ String.intercalate "\"\"" (name.splitOn "\"") ++ "\""

/-- Whether a token is a word that may name a table or a column. -/
def isWord (token : Token) : Bool := token.kind == .name || token.kind == .quoted

/-- Writes tokens back with some of them replaced: `choose` sees the tokens before one (the
nearest first), the token, and the tokens after it, and gives the text of a token it replaces. -/
def replaceTokens (choose : List Token → Token → List Token → Option String) :
    List Token → List Token → List Token
  | _, [] => []
  | before, token :: after =>
    let written := match choose before token after with
      | some text => { token with text := text }
      | none => token
    written :: replaceTokens choose (token :: before) after

/-- Whether the next token is a given symbol. -/
def nextIs (after : List Token) (symbol : String) : Bool :=
  after.head?.any (·.isSymbol symbol)

/-- Whether a word follows `INTO`, perhaps with its database before it. -/
def followsInto (before : List Token) : Bool :=
  match before with
  | previous :: _ :: into :: _ => previous.isKeyword "INTO" || (previous.isSymbol "." && into.isKeyword "INTO")
  | previous :: _ => previous.isKeyword "INTO"
  | [] => false

/-- Whether a word of a view or a trigger names a table: the word, not a function (a word before
`(` names a table only after `INTO`), and not a column after a `.` unless what stands before the
`.` is one of the databases `schemas`. -/
def namesTable (schemas : List String) (table : String) (before : List Token) (token : Token)
    (after : List Token) : Bool :=
  isWord token && sameName token.nameText table && (!nextIs after "(" || followsInto before) &&
    match before with
    | dot :: qualifier :: _ =>
      !dot.isSymbol "." || schemas.any (sameName · qualifier.nameText)
    | _ => true

/-- The names a definition gives a table with or without `AS`: the word after each mention of it,
when that word is no keyword. -/
def aliasesOf (schemas : List String) (table : String) (tokens : List Token) : List String :=
  let rec go (before : List Token) : List Token → List String
    | [] => []
    | token :: after =>
      let found := if namesTable schemas table before token after && !nextIs after "." then
          match after with
          | next :: more =>
            if next.isKeyword "AS" then
              match more with
              | word :: _ => if isWord word then [word.nameText] else []
              | [] => []
            else if next.kind == .quoted || (next.kind == .name && next.keyword?.isNone) then
              [next.nameText]
            else []
          | [] => []
        else []
      found ++ go (token :: before) after
  go [] tokens

/-- Whether a word names a table's column: the word, not a function and not before a `.`, and
after a `.` only when that follows the table's name, one of its aliases, or `NEW` or `OLD` when
`rows` (in a trigger on the table). -/
def namesColumn (table column : String) (aliases : List String) (rows : Bool)
    (before : List Token) (token : Token) (after : List Token) : Bool :=
  isWord token && sameName token.nameText column && !nextIs after "(" && !nextIs after "." &&
    match before with
    | dot :: qualifier :: _ =>
      if dot.isSymbol "." then
        let name := qualifier.nameText
        sameName name table || aliases.any (sameName · name) ||
          (rows && (sameName name "new" || sameName name "old"))
      else true
    | _ => true

/-- The text a renamed column is written with in place of a token: unquoted when the statement
wrote the new name unquoted and the token is unquoted, quoted otherwise. -/
def columnText (name : String) (quoted : Bool) (token : Token) : String :=
  if !quoted && token.kind == .name then name else quoteName name

/-- The tokens of a definition's text. -/
def tokensOf (sql : String) : List Token := (firstStatement sql).1

/-- Marks each token with whether it stands within the parentheses after `REFERENCES table`. -/
def referenceSpans (schemas : List String) (table : String) : List Token → List (Token × Bool) :=
  let rec go (state : Nat) : List Token → List (Token × Bool)
    | [] => []
    | token :: rest =>
      -- 0 outside, 1 after REFERENCES, 2 after its table, 3 within its columns
      let (inside, next) :=
        match state with
        | 0 => (false, if token.isKeyword "REFERENCES" then 1 else 0)
        | 1 =>
          if isWord token && sameName token.nameText table then (false, 2)
          else if isWord token && schemas.any (sameName · token.nameText) then (false, 1)
          else if token.isSymbol "." then (false, 1)
          else (false, 0)
        | 2 => (false, if token.isSymbol "(" then 3 else 0)
        | _ => if token.isSymbol ")" then (false, 0) else (true, 3)
      (token, inside) :: go next rest
  go 0

/-- The text of a table's definition with a table renamed: its own name when it is that table, and
with `references` the parent named after `REFERENCES`. -/
def renameTableInTable (schemas : List String) (old new : String) (references : Bool)
    (sql : String) : String :=
  writtenText (replaceTokens (fun before token _ =>
    let named := isWord token && sameName token.nameText old
    let afterReferences := match before with
      | previous :: _ => previous.isKeyword "REFERENCES"
      | [] => false
    let afterSchema := match before with
      | dot :: qualifier :: previous :: _ =>
        dot.isSymbol "." && previous.isKeyword "REFERENCES" &&
          schemas.any (sameName · qualifier.nameText)
      | _ => false
    if named && (before.length == 2 || (references && (afterReferences || afterSchema))) then
      some (quoteName new)
    else none) [] (tokensOf sql))

/-- The text of a view, a trigger or an index with a table renamed. -/
def renameTableInDefinition (schemas : List String) (old new : String) (sql : String) : String :=
  writtenText (replaceTokens (fun before token after =>
    if namesTable schemas old before token after then some (quoteName new) else none) []
    (tokensOf sql))

/-- The text of an index with its table renamed: the name after `ON`. -/
def renameIndexTable (schemas : List String) (old new : String) (sql : String) : String :=
  writtenText (replaceTokens (fun before token after =>
    let afterOn := match before with
      | previous :: _ => previous.isKeyword "ON"
      | [] => false
    let afterSchema := match before with
      | dot :: qualifier :: previous :: _ =>
        dot.isSymbol "." && previous.isKeyword "ON" && schemas.any (sameName · qualifier.nameText)
      | _ => false
    if (afterOn || afterSchema) && isWord token && sameName token.nameText old &&
        !nextIs after "." then
      some (quoteName new)
    else none) [] (tokensOf sql))

/-- The text of a trigger with the table it is on renamed, and nothing else. -/
def renameTriggerTable (schemas : List String) (old new : String) (sql : String) : String :=
  let tokens := tokensOf sql
  let header := (tokens.takeWhile fun token => !token.isKeyword "BEGIN").length
  writtenText (replaceTokens (fun before token after =>
    let afterOn := match before with
      | previous :: _ => previous.isKeyword "ON"
      | [] => false
    let afterSchema := match before with
      | dot :: qualifier :: previous :: _ =>
        dot.isSymbol "." && previous.isKeyword "ON" && schemas.any (sameName · qualifier.nameText)
      | _ => false
    if before.length < header && (afterOn || afterSchema) && isWord token &&
        sameName token.nameText old && !nextIs after "." then
      some (quoteName new)
    else none) [] tokens)

/-- The text of a table's definition with one of its own columns renamed. -/
def renameColumnInOwnTable (table old new : String) (quoted : Bool) (sql : String) : String :=
  writtenText (replaceTokens (fun before token after =>
    if before.length ≥ 3 && namesColumn table old [] false before token after then
      some (columnText new quoted token)
    else none) [] (tokensOf sql))

/-- The text of another table's definition with a column of the table renamed where its
`REFERENCES` names it. -/
def renameColumnInReferences (schemas : List String) (table old new : String) (quoted : Bool)
    (sql : String) : String :=
  writtenText ((referenceSpans schemas table (tokensOf sql)).map fun (token, inside) =>
    if inside && isWord token && sameName token.nameText old then
      { token with text := columnText new quoted token }
    else token)

/-- The text of an index of a table with one of the table's columns renamed, in its terms and
its condition. -/
def renameColumnInIndex (table old new : String) (quoted : Bool) (sql : String) : String :=
  let tokens := tokensOf sql
  let terms := (tokens.dropWhile fun token => !token.isKeyword "ON").length
  writtenText (replaceTokens (fun before token after =>
    if tokens.length - before.length < terms &&
        namesColumn table old [] false before token after then
      some (columnText new quoted token)
    else none) [] tokens)

/-- The text of a view, a trigger or an index with a column of a table renamed, when it reads
the table (`rows` for a trigger on it). -/
def renameColumnInDefinition (schemas : List String) (table old new : String) (quoted rows : Bool)
    (sql : String) : String :=
  let tokens := tokensOf sql
  let reads := rows || (tokens.zipIdx.any fun (token, index) =>
    namesTable schemas table ((tokens.take index).reverse) token (tokens.drop (index + 1)))
  if !reads then sql
  else
    let aliases := aliasesOf schemas table tokens
    writtenText (replaceTokens (fun before token after =>
      if namesColumn table old aliases rows before token after then
        some (columnText new quoted token)
      else none) [] tokens)

/-- The statement a definition of a database is read again from: its text, with `TEMP` for the
`temp` database and the database's name before the defined name for an attached one. -/
def definitionStatement (kind schema sql : String) : String :=
  let prefixText := "CREATE " ++ kind ++ " "
  let rest := if sql.startsWith prefixText then (sql.drop prefixText.length).toString else sql
  if schema == "temp" then "CREATE TEMP " ++ kind ++ " " ++ rest
  else if schema == "main" then prefixText ++ rest
  else prefixText ++ quoteName schema ++ "." ++ rest

/-- Reads a trigger again from new text, within a database that holds every other definition. -/
def rereadTrigger (db : Database) (trigger : Trigger) (sql : String) :
    Except StoreError Trigger := do
  let others := { db with triggers := db.triggers.filter fun other =>
    !(sameName other.name trigger.name && other.schema == trigger.schema) }
  let (tokens, _) := firstStatement (definitionStatement "TRIGGER" trigger.schema sql)
  match ← readStatement others tokens with
  | (.createTrigger _ _ timing event table condition body text, _) =>
    pure { trigger with
      table := table
      timing := timing
      event := event
      condition := condition
      body := body
      sql := text }
  | _ => pure { trigger with sql := sql }

/-- Reads a view again from new text, within a database that holds every other definition. -/
def rereadView (db : Database) (view : View) (sql : String) : Except StoreError View := do
  let others := { db with views := db.views.filter fun other =>
    !(sameName other.name view.name && other.schema == view.schema) }
  let (tokens, _) := firstStatement (definitionStatement "VIEW" view.schema sql)
  match ← readStatement others tokens with
  | (.createView _ _ columns query text, _) =>
    pure { view with columns := columns, query := query, sql := text }
  | _ => pure { view with sql := sql }

/-- The failure of a definition that cannot be read again after a rename. -/
def definitionError (kind name : String) (error : StoreError) : StoreError :=
  .refused ("error in " ++ kind ++ " " ++ name ++ ": " ++ error.message)

/-- Writes the definitions of a database again after a rename: `table` settings the text of a
table's definition, `index` that of an index, `other` that of a view (`none`) or of a trigger
(with its table); views and triggers whose text changed are read again. -/
def restateDefinitions (db : Database) (schema : String) (table : TableSpec → String → String)
    (index : TableSpec → String → String) (other : Option String → String → String) :
    Except StoreError Database := do
  let inSchema (name : String) : Bool := sameName name schema
  let tables := db.tables.map fun found =>
    if inSchema found.spec.schema && found.spec.sql != "" then
      { found with spec := { found.spec with
          sql := table found.spec found.spec.sql
          indexes := found.spec.indexes.map fun created =>
            { created with sql := index found.spec created.sql } } }
    else found
  let db := { db with tables := tables }
  let views ← db.views.mapM fun view =>
    if !inSchema view.schema then pure view
    else
      let sql := other none view.sql
      if sql == view.sql then pure view
      else
        match rereadView db view sql with
        | .ok view => pure view
        | .error error => throw (definitionError "view" view.name error)
  let db := { db with views := views }
  let triggers ← db.triggers.mapM fun trigger =>
    if !inSchema trigger.schema && trigger.schema != "temp" then pure trigger
    else
      let sql := other (some trigger.table) trigger.sql
      if sql == trigger.sql then pure trigger
      else
        match rereadTrigger db trigger sql with
        | .ok trigger => pure trigger
        | .error error => throw (definitionError "trigger" trigger.name error)
  pure { db with triggers := triggers }

end Rename

end SheetExport.Store.Sql
