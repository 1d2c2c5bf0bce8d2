import SheetExport.Store.Sql.Command

/-!
# Modules of virtual tables

`CREATE VIRTUAL TABLE name USING module(arguments)` hands its arguments, each as written, to a
module. The module reads them, declares the columns of the table with a `CREATE TABLE` statement
of its own (read as any other, but against no database), and makes the ordinary tables it keeps
beside the virtual one. Five modules are known:

* `fts5`: each argument is a column (`name`, or `name UNINDEXED`) or an option `key = value`, the
  key standing for the first of `prefix`, `tokenize`, `content`, `content_rowid`, `columnsize`
  and `detail` it begins. Words are bare (letters, digits, `_` and characters above ASCII) or
  quoted, and only spaces stand between them. After its own columns the table has two hidden
  ones: one named as the table, and `rank`.
* `fts3` and `fts4`: an argument `tokenize …` names the tokenizer, for `fts4` an argument
  `key=value` is an option, and any other argument is a column, named by its first word. After
  its own columns the table has three hidden ones: one named as the table, `docid`, and the
  language id.
* `rtree` and `rtree_i32`: the first argument names the id, the next ones the least and greatest
  coordinates along one to five dimensions, and those written `+name`, which must come last,
  auxiliary columns.
-/

namespace SheetExport.Store.Sql

/-- A text written as an SQL string. -/
def quotedString (text : String) : String := "'" ++ text.replace "'" "''" ++ "'"

/-- A text written as an SQL name in double quotes. -/
def quotedIdentifier (text : String) : String := "\"" ++ text.replace "\"" "\"\"" ++ "\""

/-- How the failure of a statement a module runs to make one of its tables is reported. -/
inductive ShadowFailure where
  /-- With the name of the table the statement makes. -/
  | named (name : String)
  /-- As the statement failed. -/
  | plain
  /-- As a failure of the module, which gives no reason. -/
  | silent
  deriving DecidableEq, Repr

/-- A statement a module runs to make or fill one of the tables it keeps. -/
structure ShadowStatement where
  text : String
  failure : ShadowFailure
  deriving Repr

/-- What a module makes of the arguments of a new table: the columns it declares (or why it could
not), whether it declares them before it makes its own tables, the kind of table, and the
statements that make those tables. -/
structure Construction where
  columns : Except StoreError (List ColumnSpec)
  declaredFirst : Bool
  kind : VirtualKind
  shadows : List ShadowStatement

/-- A declared type without its first word `HIDDEN`, in any case. -/
def withoutHidden (declared : String) : String :=
  let words := declared.splitOn " "
  match words.findIdx? (sameName · "hidden") with
  | some index => " ".intercalate (words.eraseIdx index)
  | none => declared

/-- The columns a `CREATE TABLE` statement declares for a virtual table, read against no
database; a type holding the word `HIDDEN` loses it. -/
def declaredColumns (text : String) : Except StoreError (List ColumnSpec) := do
  let (statement, _) ← readStatement Database.empty (firstStatement text).1
  match statement with
  | .createTable (some spec) =>
    pure (spec.columns.map fun column => { column with declared := withoutHidden column.declared })
  | _ => throw (.refused "vtable constructor did not declare schema")

/-- The failure of a module that makes a table of a name and gives no reason. -/
def constructorFailure (name : String) : StoreError := .refused ("vtable constructor failed: " ++ name)

/-- The statement that makes a table a module keeps, in a schema, named by the table's name and a
suffix, both written as strings. -/
def shadowTable (schema name suffix definition : String) : String :=
  "CREATE TABLE " ++ quotedString schema ++ "." ++ quotedString (name ++ "_" ++ suffix) ++
    "(" ++ definition ++ ")"

namespace TextOptions

/-- Whether a character may stand in a bare word. -/
def isBare (c : Char) : Bool := 0x80 ≤ c.toNat || c.isAlphanum || c == '_'

/-- Whether a character opens a quoted word. -/
def isOpeningQuote (c : Char) : Bool := c == '\'' || c == '"' || c == '`' || c == '['

/-- The closing quote of an opening one. -/
def closingQuote (c : Char) : Char := if c == '[' then ']' else c

/-- The rest of a quoted word after its opening quote: the word, a doubled closing quote read as
one, and what follows the closing quote; a word that does not close runs to the end. -/
def quotedRest (close : Char) : List Char → List Char × List Char
  | [] => ([], [])
  | c :: tail =>
    if c == close then
      match tail with
      | d :: rest =>
        if d == close then
          let (word, after) := quotedRest close rest
          (close :: word, after)
        else ([], tail)
      | [] => ([], [])
    else
      let (word, after) := quotedRest close tail
      (c :: word, after)

/-- A word without its quotes, when it is quoted. -/
def unquoted (chars : List Char) : List Char :=
  match chars with
  | c :: rest => if isOpeningQuote c then (quotedRest (closingQuote c) rest).1 else chars
  | [] => []

/-- The word at the start of a text: a quoted word (with that it was quoted) or a run of bare
characters, and the rest; none when neither starts there. -/
def word (chars : List Char) : Option (String × Bool × List Char) :=
  match chars with
  | c :: rest =>
    if isOpeningQuote c then
      let (text, after) := quotedRest (closingQuote c) rest
      some (String.ofList text, true, after)
    else
      let bare := chars.takeWhile isBare
      if bare.isEmpty then none else some (String.ofList bare, false, chars.drop bare.length)
  | [] => none

/-- A text without the spaces it starts with. -/
def skipSpaces (chars : List Char) : List Char := chars.dropWhile (· == ' ')

/-- An argument: a column, with the word after its name if any, or an option and its value. -/
inductive Argument where
  | column (name : String) (option : Option String)
  | option (key value : String)

/-- Reads an argument: a word, then `=` and a value for an option (whose key may not be quoted),
or a second word for a column; nothing may follow. -/
def Argument.read (text : String) : Except String Argument := do
  let fault := "parse error in \"" ++ text ++ "\""
  let some (first, quoted, rest) := word text.toList | throw fault
  let rest := skipSpaces rest
  let (isOption, rest) := match rest with
    | '=' :: after => (true, after)
    | _ => (false, rest)
  if isOption && quoted then throw fault
  let rest := skipSpaces rest
  let second ← if rest.isEmpty then pure none else
    match word rest with
    | some (second, _, []) => pure (some second)
    | _ => throw fault
  pure (if isOption then .option first (second.getD "") else .column first second)

/-- The rest of a text after the opening quote of an SQL string, past its closing quote (two
quotes standing for one inside); none when it does not close. -/
def afterLiteral : List Char → Option (List Char)
  | [] => none
  | c :: rest =>
    if c == '\'' then
      match rest with
      | d :: more => if d == '\'' then (if more.isEmpty then none else afterLiteral more) else some rest
      | [] => some []
    else if rest.isEmpty then none else afterLiteral rest

/-- The words of a `tokenize` option, apart by spaces: bare words and SQL strings, unquoted; none
when something else stands there. -/
def tokenizeWords : Nat → List Char → Option (List String)
  | 0, _ => some []
  | _, [] => some []
  | fuel + 1, chars =>
    let start := skipSpaces chars
    let after := match start with
      | '\'' :: rest => afterLiteral rest
      | _ =>
        let bare := start.takeWhile isBare
        if bare.isEmpty then none else some (start.drop bare.length)
    match after with
    | none => none
    | some rest =>
      let piece := start.take (start.length - rest.length)
      (tokenizeWords fuel (skipSpaces rest)).map (String.ofList (unquoted piece) :: ·)

/-- The pairs of a list of arguments, none when their number is odd. -/
def pairs : List String → Option (List (String × String))
  | [] => some []
  | [_] => none
  | key :: value :: rest => (pairs rest).map ((key, value) :: ·)

/-- The words of a text apart by spaces and tabs. -/
def blankWords (chars : List Char) : List (List Char) :=
  let (words, current) := chars.foldl (fun (acc : List (List Char) × List Char) c =>
    let (words, current) := acc
    if c == ' ' || c == '\t' then (if current.isEmpty then words else words ++ [current], [])
    else (words, current ++ [c])) ([], [])
  if current.isEmpty then words else words ++ [current]

/-- The general categories a `categories` setting names, word by word; none when a word names a
class but no kind of it. Naming anything at all also takes in the code points the table of
categories leaves out. -/
def categoriesOf (text : String) : Option (List Nat) :=
  let words := blankWords text.toList
  let named := words.mapM fun word =>
    match word with
    | first :: rest => Text.categoriesNamed first (rest.head?.getD ' ')
    | [] => some []
  named.map fun lists => if words.isEmpty then [] else 0 :: lists.flatten

/-- The failure of a tokenizer given arguments it does not take. -/
def constructorFault : String := "error in tokenizer constructor"

/-- The Unicode tokenizer its arguments make: pairs of `remove_diacritics` (0, 1 or 2),
`tokenchars`, `separators` and `categories`. -/
def unicodeOf (arguments : List String) : Except String FullText.Tokenizer := do
  let some settings := pairs arguments | throw constructorFault
  let named := ((settings.filter fun (key, _) => sameName key "categories").getLast?.map
    (·.2)).getD "L* N* Co"
  let some categories := categoriesOf named | throw constructorFault
  let (accents, overrides) ← settings.foldlM (fun (acc : Nat × List (Nat × Bool)) (key, value) =>
    let (accents, overrides) := acc
    if sameName key "remove_diacritics" then
      if value == "0" || value == "1" || value == "2" then pure (value.toNat!, overrides)
      else throw constructorFault
    else if sameName key "tokenchars" then
      pure (accents, overrides ++ value.toList.map (·.toNat, true))
    else if sameName key "separators" then
      pure (accents, overrides ++ value.toList.map (·.toNat, false))
    else if sameName key "categories" then pure acc
    else throw constructorFault) (1, [])
  pure (.unicode accents categories overrides)

/-- The ASCII tokenizer its arguments make: pairs of `tokenchars` and `separators`, of which only
the ASCII characters count. -/
def asciiOf (arguments : List String) : Except String FullText.Tokenizer := do
  let some settings := pairs arguments | throw constructorFault
  let overrides ← settings.foldlM (fun (overrides : List (Nat × Bool)) (key, value) =>
    let codes := (value.toList.map Char.toNat).filter (· < 0x80)
    if sameName key "tokenchars" then pure (overrides ++ codes.map (·, true))
    else if sameName key "separators" then pure (overrides ++ codes.map (·, false))
    else throw constructorFault) []
  pure (.ascii overrides)

/-- The trigram tokenizer its arguments make: pairs of `case_sensitive` (0 or 1). -/
def trigramOf (arguments : List String) : Except String FullText.Tokenizer := do
  let some settings := pairs arguments | throw constructorFault
  let caseSensitive ← settings.foldlM (fun (_ : Bool) (key, value) =>
    if sameName key "case_sensitive" && (value == "0" || value == "1") then pure (value == "1")
    else throw constructorFault) false
  pure (.trigram caseSensitive)

/-- The names of the tokenizers. -/
def tokenizerNames : List String := ["unicode61", "ascii", "porter", "trigram"]

/-- The tokenizer the words of a `tokenize` option make: its name (the Unicode tokenizer when
none is given) and its arguments. The Porter tokenizer takes the name and arguments of the
tokenizer whose tokens it cuts, the Unicode one by default. -/
def tokenizerOf : Nat → List String → Except String FullText.Tokenizer
  | 0, _ => .error constructorFault
  | _, [] => unicodeOf []
  | fuel + 1, name :: rest =>
    if sameName name "unicode61" then unicodeOf rest
    else if sameName name "ascii" then asciiOf rest
    else if sameName name "trigram" then trigramOf rest
    else if sameName name "porter" then
      match rest with
      | [] => .porter <$> unicodeOf []
      | base :: _ =>
        if tokenizerNames.any (sameName base) then .porter <$> tokenizerOf fuel rest
        else .error constructorFault
    else .error ("no such tokenizer: " ++ name)

/-- The settings of a table as its arguments give them, read in order. -/
structure Settings where
  columns : List String := []
  unindexed : List Nat := []
  tokenizer : Option FullText.Tokenizer := none
  detail : FullText.Detail := .full
  /-- The table that holds the text: empty for none. -/
  content : Option String := none
  contentRowId : Option String := none
  sized : Bool := true
  prefixes : Nat := 0

/-- A number at the start of a text, read while it is below 1000, with the rest. -/
def leadingNumber : Nat → List Char → Nat × List Char
  | n, c :: rest =>
    if c.isDigit && n < 1000 then leadingNumber (n * 10 + (c.toNat - 48)) rest else (n, c :: rest)
  | n, [] => (n, [])

/-- Counts the lengths of a `prefix` option, each from 1 to 999, apart by commas or spaces, and
at most 31 in all. -/
def countPrefixes (count : Nat) : Nat → Bool → List Char → Except String Nat
  | 0, _, _ => .ok count
  | fuel + 1, first, chars =>
    let chars := skipSpaces chars
    let chars := match first, chars with
      | false, ',' :: rest => some (skipSpaces rest)
      | _, [] => none
      | _, _ => some chars
    match chars with
    | none => .ok count
    | some chars =>
      if !(chars.head?.any Char.isDigit) then .error "malformed prefix=... directive"
      else if count == 31 then .error "too many prefix indexes (max 31)"
      else
        let (length, rest) := leadingNumber 0 chars
        if length == 0 || 1000 ≤ length then .error "prefix length out of range (max 999)"
        else countPrefixes (count + 1) fuel false rest

/-- The value of a `detail` option: the one of `none`, `full` and `columns` it begins. -/
def detailOf (value : String) : Option FullText.Detail :=
  let lowered := lowerName value
  match [("none", FullText.Detail.none), ("full", .full), ("columns", .column)].filter
      fun (name, _) => lowered.isPrefixOf name with
  | [(_, detail)] => some detail
  | _ => none

/-- The settings after an option. -/
def Settings.option (settings : Settings) (key value : String) : Except String Settings := do
  let lowered := lowerName key
  let names := ["prefix", "tokenize", "content", "content_rowid", "columnsize", "detail"]
  match names.find? lowered.isPrefixOf with
  | some "prefix" =>
    pure { settings with
      prefixes := (← countPrefixes settings.prefixes (value.length + 1) true value.toList) }
  | some "tokenize" =>
    if settings.tokenizer.isSome then throw "multiple tokenize=... directives"
    match tokenizeWords (value.length + 1) value.toList with
    | none => throw "parse error in tokenize directive"
    | some words => pure { settings with tokenizer := some (← tokenizerOf (words.length + 1) words) }
  | some "content" =>
    if settings.content.isSome then throw "multiple content=... directives"
    pure { settings with content := some value }
  | some "content_rowid" =>
    if settings.contentRowId.isSome then throw "multiple content_rowid=... directives"
    pure { settings with contentRowId := some value }
  | some "columnsize" =>
    if value == "0" || value == "1" then pure { settings with sized := value == "1" }
    else throw "malformed columnsize=... directive"
  | some _ =>
    match detailOf value with
    | some detail => pure { settings with detail := detail }
    | none => throw "malformed detail=... directive"
  | none => throw ("unrecognized option: \"" ++ key ++ "\"")

/-- The settings after a column: `rank` and `rowid` are reserved, and the only word that may
follow a column's name is `UNINDEXED`. -/
def Settings.column (settings : Settings) (name : String) (option : Option String) :
    Except String Settings :=
  if sameName name "rank" || sameName name "rowid" then
    .error ("reserved fts5 column name: " ++ name)
  else
    match option with
    | some word =>
      if sameName word "unindexed" then
        .ok { settings with
          columns := settings.columns ++ [name]
          unindexed := settings.unindexed ++ [settings.columns.length] }
      else .error ("unrecognized column option: " ++ word)
    | none => .ok { settings with columns := settings.columns ++ [name] }

end TextOptions

open TextOptions in
/-- A full-text table of the fifth version. Its tables: `data` and `idx` of the index, with the
index's first two rows, then `content` unless another table or none keeps the text, `docsize`
unless sizes are not kept, and `config` with the version of the format. -/
def textFive (schema name : String) (arguments : List String) : Except String Construction := do
  if sameName name "rank" then throw ("reserved fts5 table name: " ++ name)
  let settings ← arguments.foldlM (fun (settings : Settings) argument => do
    match ← Argument.read argument with
    | .column column option => settings.column column option
    | .option key value => settings.option key value) {}
  let table : TextTable :=
    { version := .five
      columns := settings.columns
      unindexed := settings.unindexed
      tokenizer := settings.tokenizer.getD (.unicode 1 Text.wordCategories [])
      detail := settings.detail
      contentless := settings.content == some ""
      sized := settings.sized
      external := settings.content.filter (· != "")
      externalKey := settings.contentRowId.getD "rowid" }
  let target (suffix : String) : String :=
    quotedString schema ++ "." ++ quotedString (name ++ "_" ++ suffix)
  let make (suffix definition : String) (withoutRowId : Bool) : ShadowStatement :=
    ⟨shadowTable schema name suffix definition ++ (if withoutRowId then " WITHOUT ROWID" else ""),
      .named ((name ++ "_" ++ suffix).replace "'" "''")⟩
  let contentColumns := String.join (table.columns.zipIdx.map fun (_, index) =>
    ", c" ++ toString index)
  let shadows :=
    [make "data" "id INTEGER PRIMARY KEY, block BLOB" false,
     make "idx" "segid, term, pgno, PRIMARY KEY(segid, term)" true,
     ⟨"REPLACE INTO " ++ target "data" ++ "(id, block) VALUES(1, X'')", .silent⟩,
     ⟨"REPLACE INTO " ++ target "data" ++ "(id, block) VALUES(10, X'00000000000000')", .silent⟩] ++
    (if table.contentless || table.external.isSome then []
      else [make "content" ("id INTEGER PRIMARY KEY" ++ contentColumns) false]) ++
    (if table.sized then [make "docsize" "id INTEGER PRIMARY KEY, sz BLOB" false] else []) ++
    [make "config" "k PRIMARY KEY, v" true,
     ⟨"REPLACE INTO " ++ target "config" ++ " VALUES('version', 4)", .silent⟩]
  let declaration := "CREATE TABLE x(" ++ ", ".intercalate (table.columns.map quotedString) ++
    ", " ++ quotedString name ++ " HIDDEN, rank HIDDEN)"
  pure ⟨(declaredColumns declaration).mapError fun _ => constructorFailure name, false,
    .text table, shadows⟩

namespace ThirdVersion

/-- Whether a character may stand in a word. -/
def isWordChar (c : Char) : Bool := 0x80 ≤ c.toNat || c.isAlphanum || c == '_'

/-- The rest of a quoted word after its opening quote, with the closing quote, a doubled quote
kept as written; a word that does not close runs to the end. -/
def quotedSpan (quote : Char) : List Char → List Char × List Char
  | [] => ([], [])
  | c :: rest =>
    if c == quote then
      match rest with
      | d :: more =>
        if d == quote then
          let (span, after) := quotedSpan quote more
          (c :: d :: span, after)
        else ([c], rest)
      | [] => ([c], [])
    else
      let (span, after) := quotedSpan quote rest
      (c :: span, after)

/-- The first word of a text, past the characters before it that start none: a quoted word with
its quotes (a `[` closing at the first `]`), or a run of word characters; with the rest. -/
def nextWord : List Char → Option (List Char × List Char)
  | [] => none
  | c :: rest =>
    if c == '\'' || c == '"' || c == '`' then
      let (span, after) := quotedSpan c rest
      some (c :: span, after)
    else if c == '[' then
      let inside := rest.takeWhile (· != ']')
      let after := rest.drop inside.length
      match after with
      | close :: more => some (c :: inside ++ [close], more)
      | [] => some (c :: inside, [])
    else if isWordChar c then
      let run := rest.takeWhile isWordChar
      some (c :: run, rest.drop run.length)
    else nextWord rest

/-- The words of a text, each unquoted. -/
def words : Nat → List Char → List String
  | 0, _ => []
  | fuel + 1, chars =>
    match nextWord chars with
    | some (found, rest) => String.ofList (TextOptions.unquoted found) :: words fuel rest
    | none => []

/-- The simple tokenizer its arguments make. From a second argument on, the characters of the
second are the only separators, and every other ASCII character is part of a word; they must
all be ASCII. -/
def simpleOf (arguments : List String) : Except String FullText.Tokenizer :=
  match arguments with
  | _ :: (separators : String) :: _ =>
    let codes := separators.toList.map Char.toNat
    if codes.any (0x80 ≤ ·) then .error "unknown tokenizer"
    else
      .ok (.ascii ((List.range 0x80).map fun code => (code, !codes.contains code)))
  | _ => .ok (.ascii [])

/-- The tokenizer a `tokenize` argument names, with its arguments: `simple` (the default),
`porter` or `unicode61`, the name in its exact case. -/
def tokenizerOf (spec : String) : Except String FullText.Tokenizer := do
  let words := words (spec.length + 1) spec.toList
  let name := words.headD ""
  let arguments := words.drop 1
  if name == "simple" then simpleOf arguments
  else if name == "porter" then pure .wordStems
  else if name == "unicode61" then
    let step (acc : Nat × List (Nat × Bool)) (argument : String) :
        Except String (Nat × List (Nat × Bool)) :=
      let (accents, overrides) := acc
      if argument == "remove_diacritics=0" then pure (0, overrides)
      else if argument == "remove_diacritics=1" then pure (1, overrides)
      else if argument == "remove_diacritics=2" then pure (2, overrides)
      else if argument.startsWith "tokenchars=" then
        pure (accents, overrides ++ ((argument.drop 11).toString.toList.map (·.toNat, true)))
      else if argument.startsWith "separators=" then
        pure (accents, overrides ++ ((argument.drop 11).toString.toList.map (·.toNat, false)))
      else throw "unknown tokenizer"
    let (accents, overrides) ← arguments.foldlM step (1, [])
    let moved := overrides.filter fun (code, token) => token != Text.isAlphanumeric code
    pure (.unicode accents Text.wordCategories moved)
  else throw ("unknown tokenizer: " ++ name)

/-- The settings of a table of the third or fourth version as its arguments give them. -/
structure Settings where
  columns : List String := []
  tokenizer : Option FullText.Tokenizer := none
  content : Option String := none
  languageId : Option String := none
  notIndexed : List String := []
  sized : Bool := true
  compress : Bool := false
  uncompress : Bool := false

/-- The settings after an argument. -/
def Settings.read (four : Bool) (settings : Settings) (argument : String) :
    Except String Settings := do
  let chars := argument.toList
  if settings.tokenizer.isNone && 8 < chars.length &&
      sameName (String.ofList (chars.take 8)) "tokenize" &&
      !(chars[8]?.any isWordChar) then
    return { settings with tokenizer := some (← tokenizerOf (String.ofList (chars.drop 9))) }
  let key := chars.takeWhile (· != '=')
  if four && key.length < chars.length then
    let value := String.ofList (TextOptions.unquoted (chars.drop (key.length + 1)))
    let key := String.ofList key
    if sameName key "matchinfo" then
      if !sameName value "fts3" then throw ("unrecognized matchinfo: " ++ value)
      return { settings with sized := false }
    if sameName key "prefix" then return settings
    if sameName key "compress" then return { settings with compress := true }
    if sameName key "uncompress" then return { settings with uncompress := true }
    if sameName key "order" then
      if sameName value "asc" || sameName value "desc" then return settings
      throw ("unrecognized order: " ++ value)
    if sameName key "content" then return { settings with content := some value }
    if sameName key "languageid" then return { settings with languageId := some value }
    if sameName key "notindexed" then
      return { settings with notIndexed := settings.notIndexed ++ [value] }
    throw ("unrecognized parameter: " ++ argument)
  let name := match nextWord chars with
    | some (found, _) => String.ofList (TextOptions.unquoted found)
    | none => ""
  pure { settings with columns := settings.columns ++ [name] }

end ThirdVersion

open ThirdVersion in
/-- A full-text table of the third or fourth version. Its tables: `content` unless another table
or none keeps the text, `segments` and `segdir` of the index, and for the fourth version
`docsize` (unless sizes are not kept) and `stat`. A table whose text another table keeps takes
that table's columns when it names none. -/
def textThree (four : Bool) (db : Database) (schema name : String) (arguments : List String) :
    Except String Construction := do
  let settings ← arguments.foldlM (Settings.read four) {}
  let columns ← match settings.content, settings.columns with
    | some table, [] =>
      if table == "" then pure []
      else
        match db.tableIn? schema table with
        | some found =>
          pure ((found.spec.columns.map (·.name)).filter fun column =>
            !(settings.languageId.any (sameName · column)))
        | none => throw ("no such table: " ++ schema ++ "." ++ table)
    | _, columns => pure columns
  let columns := if columns.isEmpty then ["content"] else columns
  let unindexed := columns.zipIdx.filterMap fun (column, index) =>
    if settings.notIndexed.any (sameName · column) then some index else none
  if let some missing := settings.notIndexed.find? fun other => !columns.any (sameName other) then
    throw ("no such column: " ++ missing)
  if settings.compress != settings.uncompress then
    throw ("missing " ++ (if settings.compress then "uncompress" else "compress") ++
      " parameter in fts4 constructor")
  let table : TextTable :=
    { version := if four then .four else .three
      columns := columns
      unindexed := unindexed
      tokenizer := settings.tokenizer.getD (.ascii [])
      detail := .full
      contentless := settings.content == some ""
      sized := four && settings.sized
      external := settings.content.filter (· != "") }
  let make (suffix definition : String) : ShadowStatement :=
    ⟨shadowTable schema name suffix definition, .silent⟩
  let contentColumns := String.join (columns.zipIdx.map fun (column, index) =>
    ", " ++ quotedString ("c" ++ toString index ++ column))
  let shadows :=
    (if settings.content.isSome then []
      else [make "content" ("docid INTEGER PRIMARY KEY" ++ contentColumns ++
        (if settings.languageId.isSome then ", langid" else ""))]) ++
    [make "segments" "blockid INTEGER PRIMARY KEY, block BLOB",
     make "segdir" ("level INTEGER,idx INTEGER,start_block INTEGER,leaves_end_block INTEGER," ++
       "end_block INTEGER,root BLOB,PRIMARY KEY(level, idx)")] ++
    (if table.sized then [make "docsize" "docid INTEGER PRIMARY KEY, size BLOB"] else []) ++
    (if four then
      [⟨"CREATE TABLE IF NOT EXISTS " ++ quotedString schema ++ "." ++
        quotedString (name ++ "_stat") ++ "(id INTEGER PRIMARY KEY, value BLOB)", .silent⟩]
    else [])
  let declaration := "CREATE TABLE x(" ++ String.join (columns.map (quotedString · ++ ", ")) ++
    quotedString name ++ " HIDDEN, docid HIDDEN, " ++
    quotedString (settings.languageId.getD "__langid") ++ " HIDDEN)"
  pure ⟨(declaredColumns declaration).mapError fun _ => constructorFailure name, false,
    .text table, shadows⟩

/-- The text of the first token of an argument, as a spatial table names a column by it. -/
def firstTokenText (argument : String) : String :=
  (((firstStatement argument).1.head?).map (·.text)).getD ""

/-- A spatial table, its coordinates integers or single-precision reals. Its tables: `rowid`
(with a column for each auxiliary one), `node` and `parent`, and the root node, empty, whose size
grows with the number of dimensions. -/
def boxTable (integer : Bool) (schema name : String) (arguments : List String) :
    Except StoreError Construction := do
  if arguments.length < 3 then throw (.refused "Too few columns for an rtree table")
  if 100 < arguments.length then throw (.refused "Too many columns for an rtree table")
  let rest := arguments.drop 1
  let coordinates := rest.takeWhile fun argument => !argument.startsWith "+"
  let auxiliary := rest.drop coordinates.length
  if auxiliary.any fun argument => !argument.startsWith "+" then
    throw (.refused "Auxiliary rtree columns must be last")
  let kind := if integer then " INT" else " REAL"
  let declaration := "CREATE TABLE x(" ++ firstTokenText (arguments.headD "") ++ " INT" ++
    String.join (coordinates.map fun argument => "," ++ firstTokenText argument ++ kind) ++
    String.join (auxiliary.map fun argument => "," ++ firstTokenText (argument.drop 1).toString) ++
    ");"
  let count := coordinates.length
  let columns := do
    let columns ← declaredColumns declaration
    if count < 2 then throw (.refused "Too few columns for an rtree table")
    if 10 < count then throw (.refused "Too many columns for an rtree table")
    if count % 2 == 1 then throw (.refused "Wrong number of columns for an rtree table")
    pure columns
  let target (suffix : String) : String :=
    quotedIdentifier schema ++ "." ++ quotedIdentifier (name ++ "_" ++ suffix)
  let nodeSize := 4 + 51 * (8 + 4 * count)
  let shadows : List ShadowStatement :=
    [⟨"CREATE TABLE " ++ target "rowid" ++ "(rowid INTEGER PRIMARY KEY,nodeno" ++
      String.join (auxiliary.zipIdx.map fun (_, index) => ",a" ++ toString index) ++ ")", .plain⟩,
     ⟨"CREATE TABLE " ++ target "node" ++ "(nodeno INTEGER PRIMARY KEY,data)", .plain⟩,
     ⟨"CREATE TABLE " ++ target "parent" ++ "(nodeno INTEGER PRIMARY KEY,parentnode)", .plain⟩,
     ⟨"INSERT INTO " ++ target "node" ++ "VALUES(1,zeroblob(" ++ toString nodeSize ++ "))",
      .plain⟩]
  pure ⟨columns, true, .boxes ⟨integer, count / 2, auxiliary.length⟩, shadows⟩

/-- What the module a `CREATE VIRTUAL TABLE` names makes of its arguments, for a table of a name
in a schema; a module the store does not know fails. -/
def construct (db : Database) (schema name moduleName : String) (arguments : List String) :
    Except StoreError Construction :=
  let failed (result : Except String Construction) : Except StoreError Construction :=
    result.mapError StoreError.refused
  if sameName moduleName "fts5" then failed (textFive schema name arguments)
  else if sameName moduleName "fts4" then failed (textThree true db schema name arguments)
  else if sameName moduleName "fts3" then failed (textThree false db schema name arguments)
  else if sameName moduleName "rtree" then boxTable false schema name arguments
  else if sameName moduleName "rtree_i32" then boxTable true schema name arguments
  else .error (.refused ("no such module: " ++ moduleName))

end SheetExport.Store.Sql
