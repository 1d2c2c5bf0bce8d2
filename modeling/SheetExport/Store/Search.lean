import SheetExport.Store.Catalog
import SheetExport.Store.FullText.Snippet
import SheetExport.Store.FullText.Expression
import SheetExport.Store.FullText.Report
import SheetExport.Number.MachineFloat

/-!
# Searching full-text tables

A row of a full-text table keeps the values of its columns (NULL for a table that keeps no copy
of its text), then its hidden columns, then the values of its columns again as the index reads
them. A search reads each of its queries, the one given for a column looking in that column
alone, and joins them with `AND`; the rows it finds are those whose document holds the query, in
row-id order, each with its rank in the `rank` column.

The functions a query calls on the table's own column work on the row of the current search:
`bm25` ranks it, with a weight for each column (1 for a column given none), and `highlight` sets
the runs of a column's text that the query's phrases cover between two texts. A call is handed
the row id, the table, the queries of the search and their columns, then its own arguments.
-/

namespace SheetExport.Store

open FullText

namespace TextTable

/-- The number of hidden columns of a full-text table. -/
def hiddenCount (table : TextTable) : Nat := if table.version == .five then 2 else 3

/-- The values of a row's columns as the index reads them. -/
def indexedValues (table : TextTable) (row : Row) : List Value :=
  (row.values.drop (table.columns.length + table.hiddenCount)).take table.columns.length

/-- The bytes of a text as the index reads it: the third and fourth versions stop at its first
NUL. -/
def indexedBytes (table : TextTable) (value : Value) : List UInt8 :=
  if table.version == .five then value.textBytes else Characters.beforeNul value.textBytes

/-- The document of a row: the tokens of each column's text. -/
def document (table : TextTable) (row : Row) : Document :=
  Document.read table.tokenizer table.unindexed ((table.indexedValues row).map table.indexedBytes)

/-- How the table's queries are read. -/
def setting (table : TextTable) : QuerySetting := ⟨table.columns, table.tokenizer, table.detail⟩

/-- The values a row keeps for the values given to its columns and its row id: the text columns
as given (NULL when the table keeps no text), the hidden columns (NULL, and for the third and
fourth versions the row id and the language id), then the text columns as given. -/
def rowValues (table : TextTable) (id : Int) (given : List Value) : List Value :=
  let width := table.columns.length
  let texts := (List.range width).map fun index => given.getD index .null
  let shown := if table.contentless then texts.map fun _ => .null else texts
  let hidden := if table.version == .five then [.null, .null]
    else [.null, .integer id, .integer (given.getD (width + 2) .null).integerValue]
  shown ++ hidden ++ texts

/-- Whether the text of a ranking reads as a function call: a name, `(`, and later `)`. -/
def readsAsRank (text : String) : Bool :=
  let chars := text.toList.dropWhile (· == ' ')
  let name := chars.takeWhile fun c => c.isAlphanum || c == '_' || 128 ≤ c.toNat
  let rest := (chars.drop name.length).dropWhile (· == ' ')
  !name.isEmpty && rest.head? == some '(' && rest.contains ')'

/-- The weights of the columns a ranking gives: the numbers between the parentheses of
`bm25(…)`, none when there are none. -/
def weightsOf (rank : String) : List Float :=
  let inside := (rank.splitOn "(").getD 1 ""
  let inside := (inside.splitOn ")").headD ""
  if inside.toList.all (· == ' ') then []
  else (inside.splitOn ",").map fun part => (readReal part.toList).value.toFloat

end TextTable

/-- A search of a full-text table: the text of each query and the column it looks in alone. -/
abbrev Searches := List (Value × Option Nat)

/-- The query of a search: its queries read in turn and joined with `AND`. A search of no query
finds every row. -/
def searchQuery (table : TextTable) (searches : Searches) : Except StoreError (Option Query) :=
  searches.foldlM (fun (joined : Option Query) (text, column) => do
    let read := if table.version == .five then Query.read table.setting column text.textBytes
      else Query.readClassic ⟨table.columns, table.tokenizer, table.version == .four, column⟩
        (Characters.beforeNul text.textBytes)
    let query ← read.mapError StoreError.refused
    pure (some (match joined with
      | some earlier => .both earlier query
      | none => query))) none

/-- The rank of a document among the documents of its table, as a value. -/
def rankValue (query : Query) (weights : List Float) (document : Document)
    (documents : List Document) : Value :=
  .real (Binary64.ofFloat (query.rank weights document documents))

/-- The weights a search ranks its rows with: those of the ranking it names (NULL for none),
else those of the table's own. A ranking that reads as no function call fails. -/
def searchWeights (text : TextTable) (rank : Option Value) : Except StoreError (List Float) :=
  match rank with
  | none => pure (TextTable.weightsOf text.rank)
  | some rank =>
    if rank != .null && TextTable.readsAsRank rank.asString then
      pure (TextTable.weightsOf rank.asString)
    else throw (.refused ("parse error in rank function: " ++ rank.asString))

/-- The rows of a full-text table that a search finds, in row-id order; in the fifth version each
carries its rank in the `rank` column. -/
def searchRows (text : TextTable) (rows : List Row) (searches : Searches) (rank : Option Value) :
    Except StoreError (List Row) := do
  let weights ← searchWeights text rank
  let some query ← searchQuery text searches | return rows
  let documents := rows.map text.document
  pure ((rows.zip documents).filterMap fun (row, document) =>
    if query.holds document then
      if text.version == .five then
        let rank := rankValue query weights document documents
        some { row with values := row.values.set (text.columns.length + 1) rank }
      else some row
    else none)

/-- The names the functions on a search's row are called by; no statement can write them. -/
def rankCall : String := "\x00bm25"

/-- See `rankCall`. -/
def highlightCall : String := "\x00highlight"

/-- See `rankCall`. -/
def snippetCall : String := "\x00snippet"

/-- See `rankCall`. -/
def offsetsCall : String := "\x00offsets"

/-- See `rankCall`. -/
def matchinfoCall : String := "\x00matchinfo"

/-- A call of a search function on a column of a full-text table other than the one named as the
table. -/
def strayCall : String := "\x00cursor"

/-- A call of a function of the third and fourth versions on a column of a full-text table other
than the one named as the table, with the function's name. -/
def illegalCall : String := "\x00illegal"

/-- The full-text table of a name in a schema, with its rows. -/
def textTable? (db : Database) (schema name : String) : Option (TextTable × List Row) :=
  match db.tableIn? schema name with
  | some table =>
    match table.spec.virtual with
    | some (.text text) => some (text, table.rows)
    | _ => none
  | none => none

/-- A search as its arguments name it: the table's database and name, its queries with their
columns, and the ranking it asks for, if any. -/
structure SearchNamed where
  schema : String
  name : String
  searches : Searches
  rank : Option Value

/-- Splits the arguments that name a search: the table's database and name, the number of its
queries, the queries, the column each looks in alone (NULL for all of them), then the ranking
asked for and whether one is (NULL when none is); the arguments after them are left over. -/
def splitSearch (values : List Value) : Option (SearchNamed × List Value) :=
  match values with
  | schema :: name :: count :: rest =>
    let count := count.integerValue.toNat
    let queries := rest.take count
    let columns := (rest.drop count).take count
    let searches := queries.zip (columns.map fun
      | .integer column => some column.toNat
      | _ => none)
    match rest.drop (2 * count) with
    | rank :: rankGiven :: own =>
      some (⟨schema.asString, name.asString, searches,
        if rankGiven == .null then none else some rank⟩, own)
    | _ => none
  | _ => none

/-- The rows a search of a full-text table finds, by the arguments that name it. -/
def searchSourceRows (db : Database) (values : List Value) : Except StoreError (List Row) := do
  let some (named, _) := splitSearch values | pure []
  let some (text, rows) := textTable? db named.schema named.name | pure []
  searchRows text rows named.searches named.rank

/-- The places and lengths of the instances of a query in one column of a document, in order. -/
def columnInstances (query : Option Query) (document : Document) (column : Nat) :
    List (Nat × Nat) :=
  match query with
  | some query =>
    let lengths := query.phrases.map fun (phrase : List Term × Option (List Nat)) =>
      phrase.1.length
    (query.instances document).filterMap fun (found : Instance) =>
      if found.column == column then some (found.place, lengths.getD found.phrase 1) else none
  | none => []

/-- The text `highlight` marks for a column given by its number: the column's value, or for -1
the row id; none for NULL and for a number that names no column. -/
def markedText (text : TextTable) (row : Row) (column : Int) : Option (List UInt8) :=
  if column == -1 then some (Value.integer row.id).textBytes
  else if column < 0 || text.columns.length ≤ column.toNat then none
  else
    match row.values[column.toNat]? with
    | none | some .null => none
    | some value => some value.textBytes

/-- `highlight` on the row of a search: the text of a column with the runs of the query's
instances in it set between two texts. -/
def highlightOf (text : TextTable) (row : Row) (query : Option Query) (own : List Value) :
    Except StoreError Value :=
  match own with
  | [column, opening, closing] =>
    let column := column.int32Value
    match markedText text row column with
    | none => pure .null
    | some bytes =>
      let instances := if column < 0 then [] else
        columnInstances query (text.document row) column.toNat
      pure (.text (highlightText (text.tokenizer.tokens bytes) bytes instances
        opening.textBytes closing.textBytes))
  | _ => throw (.function "wrong number of arguments to function highlight()")

/-- `snippet` on the row of a search: a window of a column's text with the query's instances
marked, from a given column or from the one with the best window. -/
def snippetOf (text : TextTable) (row : Row) (query : Option Query) (own : List Value) :
    Except StoreError Value :=
  match own with
  | [column, opening, closing, ellipsis, width] =>
    let column := column.int32Value
    if text.columns.length ≤ column then throw .outOfRange
    else
      let document := text.document row
      let texts := (List.range text.columns.length).map fun index =>
        if text.contentless then none
        else match row.values[index]? with
          | none | some .null => none
          | some value => some value.textBytes
      let (instances, sizes) := match query with
        | some query =>
          ((query.instances document).map fun (found : Instance) =>
            ((found.phrase, found.column, found.place) : Found),
           query.phrases.map fun (phrase : List Term × Option (List Nat)) => phrase.1.length)
        | none => ([], [])
      match snippetText text.tokenizer texts (document.map List.length) instances sizes column
          opening.textBytes closing.textBytes ellipsis.textBytes width.int32Value with
      | some bytes => pure (.text bytes)
      | none => pure .null
  | _ => throw (.function "wrong number of arguments to function snippet()")

/-- The texts of a row's columns as the functions on it read them: none for NULL, and for every
column of a table that keeps no text. -/
def TextTable.texts (text : TextTable) (row : Row) : List (Option (List UInt8)) :=
  (List.range text.columns.length).map fun index =>
    if text.contentless then none
    else match row.values[index]? with
      | none | some .null => none
      | some value => some value.textBytes

/-- The counted phrases of a query in a column of a row: each one's length and the places of its
last term. -/
def columnPhrases (query : Query) (document : Document) (column : Nat) : List (Nat × List Int) :=
  (countedPlaces query document).map fun placed =>
    (placed.1, (lastPlaces column placed).map fun (place : Nat) => (place : Int))

/-- `offsets` on the row of a search. -/
def offsetsOf (text : TextTable) (row : Row) (query : Option Query) : Value :=
  match query with
  | none => .text []
  | some query =>
    match offsetsText text.tokenizer (text.texts row) (countedPlaces query (text.document row)) with
    | some entries => .text entries.toUTF8.toList
    | none => .null

/-- `matchinfo` on the row of a search, with its format (`pcx` when none is given or it is
NULL). -/
def matchinfoOf (text : TextTable) (row : Row) (rows : List Row) (query : Option Query)
    (own : List Value) : Except StoreError Value :=
  match query with
  | none => pure (.blob [])
  | some query =>
    let format := match own with
      | [] | [.null] => asciiBytes "pcx"
      | given :: _ => cString given.textBytes
    let input : MatchinfoInput := ⟨query, text.document row, rows.map text.document,
      text.columns.length, text.version == .four, text.sized⟩
    match input.report format with
    | .ok bytes => pure (.blob bytes)
    | .error letter =>
      throw (.function ("unrecognized matchinfo request: " ++ Text.decodeUtf8Lossy [letter]))

/-- `snippet` on the row of a search of a table of the third or fourth version: the texts before
and after a marked token and of an ellipsis, the column (-1 for any) and the number of tokens,
each optional. -/
def classicSnippetOf (text : TextTable) (row : Row) (query : Option Query) (own : List Value) :
    Except StoreError Value :=
  if 5 < own.length then throw (.function "wrong number of arguments to function snippet()")
  else
    let textAt (index : Nat) (fallback : String) : Option (List UInt8) :=
      match own[index]? with
      | none => some (asciiBytes fallback)
      | some .null => none
      | some value => some value.textBytes
    let column := (own.getD 3 (.integer (-1))).int32Value
    let wanted := (own.getD 4 (.integer 15)).int32Value
    match textAt 0 "<b>", textAt 1 "</b>", textAt 2 "<b>...</b>" with
    | some opening, some closing, some ellipsis =>
      if wanted == 0 then pure (.text [])
      else
        match query with
        | none => pure (.text [])
        | some query =>
          let document := text.document row
          let column := if column < 0 then none else some column.toNat
          match classicSnippet text.tokenizer (text.texts row) (columnPhrases query document)
              column wanted opening closing ellipsis with
          | some bytes => pure (.text bytes)
          | none => pure .null
    | _, _, _ => throw .outOfMemory

/-- Splits the arguments of a search function: the row id, the search, and the function's own
arguments. -/
def searchArguments (values : List Value) : Option (Int × SearchNamed × List Value) :=
  match values with
  | .integer id :: rest => (splitSearch rest).map fun (named, own) => (id, named, own)
  | _ => none

/-- The value of a search function on the row of a search, by its name and its arguments; none
for a name that is no search function. -/
def searchCall (db : Database) (functionName : String) (values : List Value) :
    Option (Except StoreError Value) :=
  if functionName == strayCall then
    some (.error (.function ("no such cursor: " ++ toString (values.headD .null).integerValue)))
  else if functionName == illegalCall then
    some (.error (.function ("illegal first argument to " ++ (values.headD .null).asString)))
  else if functionName == rankCall || functionName == highlightCall ||
      functionName == snippetCall || functionName == offsetsCall ||
      functionName == matchinfoCall then
    some (do
      let some (id, named, own) := searchArguments values | pure .null
      let some (text, rows) := textTable? db named.schema named.name | pure .null
      let some row := rows.find? (·.id == id) | pure .null
      let query ← searchQuery text named.searches
      if text.version != .five then
        if functionName == offsetsCall then pure (offsetsOf text row query)
        else if functionName == matchinfoCall then matchinfoOf text row rows query own
        else classicSnippetOf text row query own
      else if functionName == rankCall then
        let weights := own.map fun weight => weight.realValue.toFloat
        match query with
        | some query =>
          pure (rankValue query weights (text.document row) (rows.map text.document))
        | none => pure (.real (Binary64.ofFloat (Float.neg 0.0)))
      else if functionName == highlightCall then highlightOf text row query own
      else snippetOf text row query own)
  else none

theorem hiddenCount_le (table : TextTable) : table.hiddenCount ≤ 3 := by
  unfold TextTable.hiddenCount
  split <;> omega

end SheetExport.Store
