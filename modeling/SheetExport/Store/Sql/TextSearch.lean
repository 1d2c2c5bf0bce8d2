import SheetExport.Store.Sql.ColumnUse
import SheetExport.Store.Sql.Function
import SheetExport.Store.Search

/-!
# Searches of full-text tables in a query

A full-text table finds its rows by a query only when a search takes the query. After the names
of a part of a query are looked up, each full-text table among its sources takes the terms of
the condition that ask for a search of it:

* `column MATCH query` on one of its columns, the query then looking in that column alone, or on
  the column named as the table, the query looking in every column;
* in the fifth version, `table = query` on the column named as the table, and `rank MATCH
  ranking` or `rank = ranking`, which names the function that ranks the rows found, with its
  arguments.

The terms taken are those joined by `AND` at the top of the `WHERE` condition and of the `ON`
conditions of the inner joins, in that order; a table on the right of a left join only takes
terms of its own `ON`. A query may not read the table it searches: if one does, the table takes
no term. The third and fourth versions take only the last query they are offered, the fifth
every query and the first ranking. A term taken
leaves its condition, and the source becomes a search of the table, whose rows are those the
queries find.

The functions `bm25`, `highlight` and `snippet` work on the row of a search when their first
argument is the column named as the table: a call is then handed the row id and the search.
On another column of the table the call fails, as no search stands behind it. These are the
functions of the fifth version; those of the third and fourth are `snippet`, `offsets` and
`matchinfo`. Any term or call that is not taken stays as it is and fails
when it runs.
-/

namespace SheetExport.Store.Sql

/-- The name of a source that searches a full-text table; no statement can write it. -/
def searchSource : String := "\x00search"

/-- A full-text table that one of the sources of a query part reads: its position among them,
how it joins the sources before it, and where the table is. -/
structure SearchedTable where
  position : Nat
  kind : JoinKind
  schema : String
  name : String
  text : TextTable

/-- The full-text tables among the sources of a query part. -/
def searchedTables (db : Database) (sources : List Joined) : List SearchedTable :=
  sources.zipIdx.filterMap fun (joined, position) =>
    match joined with
    | .mk kind _ (.table table) _ _ =>
      match table.schema with
      | some schema =>
        match db.tableIn? schema table.name with
        | some found =>
          match found.spec.virtual with
          | some (.text text) => some ⟨position, kind, schema, found.spec.name, text⟩
          | _ => none
        | none => none
      | none => none
    | _ => none

/-- The column of the source at `position` of the query an expression stands in, when the
expression is one. -/
def ownColumn (position : Nat) : Expr → Option Nat
  | .column ⟨0, source⟩ (.column index) _ _ => if source == position then some index else none
  | _ => none

/-- Whether an expression reads the source at `position` of the query it stands in. -/
def readsSource (position : Nat) (e : Expr) : Bool :=
  (Expr.references 10000 0 e).any (·.1 == position)

/-- What a term asks of a search of a full-text table: a query, with the column it looks in
alone, or (fifth version) the ranking of the rows. -/
inductive Asked where
  | query (query : Expr) (column : Option Nat)
  | rank (ranking : Expr)

/-- What a term asks of a full-text table: none when it asks for no search of it; otherwise
what it asks, or none when what it gives reads the table. -/
def SearchedTable.ask (table : SearchedTable) (term : Expr) : Option (Option Asked) :=
  let width := table.text.columns.length
  let five := table.text.version == .five
  let reading (given : Expr) (asked : Asked) : Option (Option Asked) :=
    some (if readsSource table.position given then none else some asked)
  let onColumn (index : Nat) (given : Expr) : Option (Option Asked) :=
    if index < width then reading given (.query given (some index))
    else if index == width then reading given (.query given none)
    else if five && index == width + 1 then reading given (.rank given)
    else none
  match term with
  | .call functionName _ [given, operand] =>
    if lowerName functionName == "match" then
      (ownColumn table.position operand).bind (onColumn · given)
    else none
  | .binary .eq left right =>
    if five then
      match ownColumn table.position left, ownColumn table.position right with
      | some index, _ => if width ≤ index then onColumn index right else none
      | _, some index => if width ≤ index then onColumn index left else none
      | _, _ => none
    else none
  | _ => none

/-- Where a term of a condition stands: the `WHERE` condition, or the `ON` condition of a source;
with its position among the terms there. -/
inductive TermPlace where
  | condition (index : Nat)
  | joining (source index : Nat)
  deriving DecidableEq, Repr

/-- The terms a full-text table is offered, each with its place: those of the `WHERE` condition,
then those of the `ON` conditions of the inner joins; only its own `ON` on the right of a left
join. -/
def offeredTerms (table : SearchedTable) (condition : List Expr)
    (joins : List (JoinKind × List Expr)) : List (TermPlace × Expr) :=
  let fromJoins := joins.zipIdx.flatMap fun ((kind, terms), source) =>
    if (table.kind == .left && source == table.position) ||
        (table.kind != .left && (kind == .inner || kind == .cross)) then
      terms.zipIdx.map fun (term, index) => (TermPlace.joining source index, term)
    else []
  let fromCondition := if table.kind == .left then []
    else condition.zipIdx.map fun (term, index) => (TermPlace.condition index, term)
  fromCondition ++ fromJoins

/-- A search a query part makes of a full-text table: the table, the query and column of each
term it takes, and the ranking a term asks for. -/
structure Search where
  table : SearchedTable
  terms : List (Expr × Option Nat)
  rank : Option Expr

/-- The search a full-text table makes of the terms offered to it, with the places of the terms
it takes, leaving out those already taken; none when a term it is offered reads the table. A
table of the third or fourth version takes only the last query offered; one of the fifth takes
every query and the first ranking. -/
def takenTerms (table : SearchedTable) (offered : List (TermPlace × Expr))
    (taken : List TermPlace) : Option (Search × List TermPlace) :=
  let asked := (offered.filter fun (place, _) => !taken.contains place).filterMap
    fun (place, term) => (table.ask term).map (place, ·)
  if asked.any (·.2.isNone) then none
  else
    let usable := asked.filterMap fun (place, found) => found.map (place, ·)
    let queries := usable.filterMap fun
      | (place, .query given column) => some (place, given, column)
      | _ => none
    let queries := if table.text.version == .five then queries else queries.getLast?.toList
    let ranking := usable.findSome? fun
      | (place, .rank given) => some (place, given)
      | _ => none
    let places := queries.map (·.1) ++ ranking.toList.map (·.1)
    if places.isEmpty then none
    else some (⟨table, queries.map fun (_, given, column) => (given, column),
      ranking.map (·.2)⟩, places)

/-- The arguments that name a search: the table's database and name, the number of its queries,
the queries, the column each looks in alone (NULL for all), then the ranking it asks for and
whether it asks for one (both NULL when it does not). -/
def Search.arguments (search : Search) : List Expr :=
  [.string search.table.schema, .string search.table.name,
    .integer (toString search.terms.length)] ++ search.terms.map (·.1) ++
    search.terms.map (fun (_, column) => match column with
      | some index => .integer (toString index)
      | none => .null) ++
    match search.rank with
    | some ranking => [ranking, .integer "1"]
    | none => [.null, .null]

/-- Terms joined by `AND`, from the left; none for no term. -/
def joinTerms : List Expr → Option Expr
  | [] => none
  | first :: rest => some (rest.foldl (.binary .and) first)

/-- The searches a query part makes of the full-text tables among its sources, and the part
without the terms they take: its sources, the search of a table standing for it, and its
condition. -/
def planSearches (db : Database) (sources : List Joined) (condition : Option Expr) :
    List Joined × Option Expr × List Search :=
  let tables := searchedTables db sources
  if tables.isEmpty then (sources, condition, [])
  else
    let whereTerms := (condition.map Expr.conjuncts).getD []
    let joins := sources.map fun
      | .mk kind _ _ on _ => (kind, (on.map Expr.conjuncts).getD [])
    let (searches, taken) := tables.foldl (fun (acc : List Search × List TermPlace) table =>
      let (searches, taken) := acc
      match takenTerms table (offeredTerms table whereTerms joins) taken with
      | some (search, places) => (searches ++ [search], taken ++ places)
      | none => acc) ([], [])
    if searches.isEmpty then (sources, condition, [])
    else
      let kept (place : TermPlace) := !taken.contains place
      let condition := joinTerms (whereTerms.zipIdx.filterMap fun (term, index) =>
        if kept (.condition index) then some term else none)
      let sources := sources.zipIdx.map fun (joined, position) =>
        match joined with
        | .mk kind natural source on usingColumns =>
          let on := on.bind fun on => joinTerms ((Expr.conjuncts on).zipIdx.filterMap
            fun (term, index) => if kept (.joining position index) then some term else none)
          let source := match searches.find? (·.table.position == position), source with
            | some search, .table name =>
              Source.function { name with name := searchSource } search.arguments
            | _, other => other
          .mk kind natural source on usingColumns
      (sources, condition, searches)

/-- The call a function of searches stands for when its first argument is a column of a
full-text table the query part reads: on the column named as the table, a call handed the row id
and the search (an empty one when the table is not searched); on another column, a call that
fails. None for any other call. -/
def searchCallFor (tables : List SearchedTable) (searches : List Search) (functionName : String)
    (arguments : List Expr) : Option Expr :=
  let lowered := lowerName functionName
  let internalFor (version : TextVersion) : Option String :=
    if version == .five then
      if lowered == "bm25" then some rankCall
      else if lowered == "highlight" then some highlightCall
      else if lowered == "snippet" then some snippetCall
      else none
    else if lowered == "snippet" then some snippetCall
    else if lowered == "offsets" then some offsetsCall
    else if lowered == "matchinfo" then some matchinfoCall
    else none
  match arguments with
  | first :: rest =>
    tables.findSome? fun table =>
      (internalFor table.text.version).bind fun internal =>
        (ownColumn table.position first).map fun index =>
          if index == table.text.columns.length then
            let search := (searches.find? (·.table.position == table.position)).getD
              ⟨table, [], none⟩
            .call internal false
              ((.column ⟨0, table.position⟩ .rowId none none :: search.arguments) ++ rest)
          else if table.text.version == .five then .call strayCall false [first]
          else .call illegalCall false [.string lowered]
  | [] => none

/-- An expression with the calls of the functions of searches in it replaced as
`searchCallFor` says; the queries within it are left alone. -/
def Expr.withSearchCalls (tables : List SearchedTable) (searches : List Search) (fuel : Nat)
    (e : Expr) : Expr :=
  match fuel with
  | 0 => e
  | fuel + 1 =>
    let go := Expr.withSearchCalls tables searches fuel
    match e with
    | .extended called filter windowClause =>
      .extended (go called) (filter.map go) (windowClause.map (Window.mapExprs go))
    | .unary op operand => .unary op (go operand)
    | .binary op left right => .binary op (go left) (go right)
    | .isNull operand => .isNull (go operand)
    | .notNull operand => .notNull (go operand)
    | .between operand low high => .between (go operand) (go low) (go high)
    | .inList operand items => .inList (go operand) (items.map go)
    | .cast operand typeName => .cast (go operand) typeName
    | .collate operand collation => .collate (go operand) collation
    | .call functionName distinct arguments =>
      let arguments := arguments.map go
      (searchCallFor tables searches functionName arguments).getD
        (.call functionName distinct arguments)
    | .choose condition yes no => .choose (go condition) (go yes) (go no)
    | .vector items => .vector (items.map go)
    | .inQuery operand query => .inQuery (go operand) query
    | other => other

end SheetExport.Store.Sql
