import SheetExport.Store.Sql.Eval
import SheetExport.Store.Sql.TableFunction
import SheetExport.Store.Sql.TextSearch

/-!
# Looking names up

Before a statement runs, every name in its expressions is looked up, every table it reads is
found, and every function it calls is checked. The result is the same tree with each name
replaced by the column it finds.

**Levels.** A query looks names up in its own sources first, then in those of the queries
around it, innermost first; a column found `k` queries outward is addressed by level `k`. The
ordering and grouping of a query see only its own sources, and its limits see none. A statement
that works on one table (an update, a delete, the `RETURNING` of an insert) is one level with
that table as its only source. Inside a trigger, `NEW.x` and `OLD.x` name the row the trigger
runs for, which lives below every level.

**Names.** At one level a name is looked for in each source, in order: the table's alias or name
must match the qualifier, if there is one (and the database, if that is given too). A name
found in two sources is ambiguous, unless a `USING` or `NATURAL` join made the later one share it
with the first. When no source has the column, `NEW`/`OLD` in a trigger and `excluded` in the
`DO UPDATE` of an upsert are tried, then the row id (`rowid`, `oid`, `_rowid_`) when exactly one
source has a row id, then the aliases of the query's result columns. An unqualified name that is
nothing at any level is a string when it is written in double quotes, and `TRUE` or `FALSE` when
it is written bare; otherwise the lookup fails with the name as it was written.

**Sources.** A table name that is not qualified with a database is first looked for among the
common tables of the `WITH` clauses around, innermost first, then among the tables and views of
`temp`, `main` and the attached databases. A view or a common table stands for its query, looked
up afresh where it is used; a common table whose query is a compound joined by `UNION` or
`UNION ALL` whose last parts read the table itself is recursive, those parts reading the row
being extended. `*` and `table.*` stand for the columns of the sources, `*` leaving out the
columns a later source shares with an earlier one.

**Aggregates.** A call of an aggregate function belongs to the innermost query whose sources its
arguments read (the query it stands in when they read none); it is replaced by a reference to
its position among that query's aggregates. A query with a `GROUP BY` or with an aggregate in its
results is an aggregate query; only such a query may have `HAVING`.

**Truth tests.** `x IS TRUE`, `x IS NOT FALSE` and the like, where the right operand is a bare
name that reads as `TRUE` or `FALSE`, test the truth of `x` rather than compare it with 1 or 0.
That right operand is looked up before `x`.

**Order of failures.** The lookup walks an expression before its operands, left to right, and a
query in this order: its limits, its sources, its results, `HAVING`, `WHERE`, the `ON` conditions,
the ordering, the grouping; the parts of a compound from the last. A missing column or table
stops the walk. A call of a missing function, a call with the wrong number of arguments, an
aggregate where none may stand, a `likelihood` whose second argument is not a real numeral
between 0 and 1, and a comparison of lists of different lengths are noted and the walk goes on;
the last failure noted is the one reported. A list of expressions stops after the first that
failed.

**Faults of code.** Some faults are found only when the code of an expression is made: a
hexadecimal numeral out of range, a collation that does not exist where a comparison needs one,
and a list of values where one value is needed. They are listed in the order the code is made;
the last is reported.
-/

namespace SheetExport.Store.Sql

/-- What the expressions looked up are for. The terms of an index, the condition of a partial
index, a `CHECK` constraint and a generated column are parts of a table's definition, with
restrictions of their own. -/
inductive Purpose where
  | statement
  /-- The `DO UPDATE` of an upsert, where `excluded.` names the row the insert proposed. -/
  | upsert
  /-- The `RETURNING` terms of a statement, computed for each row it writes, where a column may
  not be qualified with its database. -/
  | returning
  | indexTerm
  | indexCondition
  | check
  | generated
  deriving DecidableEq, Repr

namespace Purpose

/-- Whether the purpose is a part of a table's definition, where parameters and queries are
prohibited. -/
def restricted : Purpose → Bool
  | .indexTerm | .indexCondition | .check | .generated => true
  | _ => false

/-- Whether functions whose results vary are prohibited. -/
def fixedResults : Purpose → Bool
  | .indexTerm | .indexCondition | .generated => true
  | _ => false

/-- Whether a column may not be qualified, nor the row id named. -/
def ownColumnsOnly : Purpose → Bool
  | .indexTerm | .generated => true
  | _ => false

/-- Where a prohibited part of an expression is said to be. -/
def place : Purpose → String
  | .indexTerm => "index expressions"
  | .check => "CHECK constraints"
  | .generated => "generated columns"
  | _ => "partial index WHERE clauses"

end Purpose

/-- A column a source offers to the names of a query: its name, and the affinity and collation
it gives the values read from it. -/
structure SourceColumn where
  name : String
  affinity : Option Affinity
  collation : Option Collation
  deriving Inhabited

/-- A source of a query as names see it. -/
structure SourceFrame where
  /-- The name its columns may be qualified with: its alias, or the name of the table. -/
  visible : String
  /-- The database of a table or view, which a name may put before the table's. -/
  schema : Option String
  columns : List SourceColumn
  /-- `some` when names may read the row id, with the column that is the row id, if any. -/
  rowId : Option (Option Nat)
  /-- The columns this source shares with earlier ones through `USING` or `NATURAL`. -/
  shared : List String
  /-- How the source joins the sources before it. -/
  kind : JoinKind
  /-- How many of its last columns only a name reads: `*` leaves them out. -/
  hidden : Nat
  deriving Inhabited

/-- A table as a source of names. -/
def SourceFrame.ofTable (spec : TableSpec) (visible : String) : SourceFrame :=
  ⟨visible, some spec.schema,
    spec.columns.map fun column => ⟨column.name, some column.affinity, some column.collation⟩,
    if spec.withoutRowId then none else some spec.rowIdColumn, [], .inner,
    (spec.virtual.map VirtualKind.hidden).getD 0⟩

/-- The columns of a query's result as a source of names. -/
def SourceFrame.ofColumns (visible : String) (schema : Option String)
    (columns : List SourceColumn) : SourceFrame :=
  ⟨visible, schema, columns, none, [], .inner, 0⟩

/-- One level of names: the sources of a query, and the aliases of its result columns with
the expressions they stand for. -/
structure Frame where
  sources : List SourceFrame
  aliases : List (String × Expr)
  deriving Inhabited

/-- The table of the trigger whose statements are looked up, and which of its rows they may
read: `OLD` for updates and deletes, `NEW` for inserts and updates. -/
structure TriggerFrame where
  spec : TableSpec
  old : Bool
  new : Bool

/-- Where names are looked up. -/
structure Context where
  db : Database
  /-- The levels, innermost first. -/
  frames : List Frame
  /-- How many of the levels, innermost first, names may be looked up in. -/
  reach : Nat
  purpose : Purpose
  /-- Whether a call of an aggregate function may stand here. -/
  aggregates : Bool
  /-- Whether an aggregate that stands here is a misuse found when the code is made. -/
  misplaced : Bool
  /-- Whether a call of a window function may stand here: in the results and the ordering of a
  `SELECT`, outside the arguments of aggregate and window functions. -/
  windows : Bool
  trigger : Option TriggerFrame
  /-- The common tables of the `WITH` clauses around, innermost clause first. -/
  withs : List (List CommonTable)
  /-- The common tables whose queries are being looked up, each with the number of clauses
  out to its own: a reference to one of them is circular. -/
  pending : List (String × Nat)
  /-- The views being expanded. -/
  views : List String
  /-- The database that tables named in a view or a trigger belong to. -/
  fixedSchema : Option String
  /-- The columns of the row a recursive common table is being extended from, which its
  recursive parts read. -/
  queue : Option SourceFrame
  /-- Whether the names are inside a query, whose subqueries have their stars expanded before
  any name is looked up. -/
  expanded : Bool

/-- A result column of a query: its name, and the affinity and collation its values carry. -/
structure ResultColumn where
  name : String
  affinity : Option Affinity
  collation : Option Collation
  deriving Inhabited

namespace Context

/-- Names looked up in nothing, for a database. -/
def start (db : Database) : Context :=
  ⟨db, [], 0, .statement, false, false, false, none, [], [], [], none, none, false⟩

/-- The context with a new innermost level. -/
def push (ctx : Context) (frame : Frame) : Context :=
  { ctx with frames := frame :: ctx.frames, reach := ctx.reach + 1 }

/-- Names looked up in one table, for the statements that work on one table. -/
def ofTable (db : Database) (spec : TableSpec) (visible : String) (purpose : Purpose) :
    Context :=
  { (Context.start db).push ⟨[SourceFrame.ofTable spec visible], []⟩ with purpose := purpose }

end Context

/-- What a lookup keeps as it walks: the failure last noted, for each level being looked up,
innermost first, the calls of aggregate functions found for it so far (`none` for a level that
computes no aggregates), and the calls of window functions found so far for the innermost
`SELECT`. -/
structure LookupState where
  noted : Option StoreError
  aggregates : List (Option (List Expr))
  windows : List Expr

/-- Looking names up: the failure last noted is kept while the walk goes on; a missing column
stops it. -/
abbrev Lookup := StateT LookupState (Except StoreError)

/-- Notes a failure that does not stop the walk. -/
def note (error : StoreError) : Lookup Unit := modify fun state => { state with noted := some error }

/-- Notes a failure when there is one. -/
def noteSome : Option StoreError → Lookup Unit
  | some error => note error
  | none => pure ()

/-- Runs a lookup for a new level, collecting its aggregates when it computes some. -/
def withLevel {α : Type} (collects : Bool) (action : Lookup α) : Lookup (α × List Expr) := do
  modify fun state =>
    { state with aggregates := (if collects then some [] else none) :: state.aggregates }
  let result ← action
  let state ← get
  match state.aggregates with
  | bucket :: rest =>
    set { state with aggregates := rest }
    pure (result, bucket.getD [])
  | [] => pure (result, [])

/-- Runs a lookup that sees none of the levels being looked up. -/
def isolated {α : Type} (action : Lookup α) : Lookup α := do
  let saved := (← get).aggregates
  modify fun state => { state with aggregates := [] }
  let result ← action
  modify fun state => { state with aggregates := saved }
  pure result

/-- Adds a call of a window function to those of the innermost `SELECT`; its position there. -/
def placeWindow (call : Expr) : Lookup Nat := do
  let state ← get
  set { state with windows := state.windows ++ [call] }
  pure state.windows.length

/-- Runs a lookup of a `SELECT`, collecting the calls of window functions found for it. -/
def withWindows {α : Type} (action : Lookup α) : Lookup (α × List Expr) := do
  let saved := (← get).windows
  modify fun state => { state with windows := [] }
  let result ← action
  let found := (← get).windows
  modify fun state => { state with windows := saved }
  pure (result, found)

/-- The frame a window function computes over in place of the one written, for the functions
that only a window computes and that do not read a frame. -/
def builtinFrame (functionName : String) : Option WindowFrame :=
  match lowerName functionName with
  | "row_number" => some (.mk .rows .unboundedPreceding .currentRow .noOthers)
  | "rank" | "dense_rank" => some (.mk .range .unboundedPreceding .currentRow .noOthers)
  | "percent_rank" => some (.mk .groups .currentRow .unboundedFollowing .noOthers)
  | "cume_dist" => some (.mk .groups (.following (.integer "1")) .unboundedFollowing .noOthers)
  | "ntile" => some (.mk .rows .currentRow .unboundedFollowing .noOthers)
  | "lead" => some (.mk .rows .unboundedPreceding .unboundedFollowing .noOthers)
  | "lag" => some (.mk .rows .unboundedPreceding .currentRow .noOthers)
  | _ => none

/-- The frame of a window when none is written: from the first row to the last peer of the
current row. -/
def defaultFrame : WindowFrame := .mk .range .unboundedPreceding .currentRow .noOthers

/-- Whether a frame has a bound with an offset. -/
def WindowFrame.hasOffset : WindowFrame → Bool
  | .mk _ start finish _ => start.offset?.isSome || finish.offset?.isSome

/-- Whether the first function a name finds, whatever the number of arguments, is a scalar
function, which cannot be a window function. -/
def scalarFirst (functionName : String) : Bool :=
  let key := lowerName functionName
  key == "min" || key == "max" || (scalarFunctions.lookup key).isSome

/-- Adds a call of an aggregate function to the aggregates of a level; its position there, or
none when the level computes no aggregates. -/
def placeAggregate (level : Nat) (call : Expr) : Lookup (Option Nat) := do
  let state ← get
  match state.aggregates[level]? with
  | some (some bucket) =>
    set { state with aggregates := state.aggregates.set level (some (bucket ++ [call])) }
    pure (some bucket.length)
  | _ => pure none

/-- The ordinal of a 1-based position as messages write it: `1st`, `2nd`, `3rd`, `4th`, `11th`,
and so on. -/
def ordinal (n : Nat) : String :=
  let suffix := if n % 100 / 10 == 1 then "th"
    else match n % 10 with
      | 1 => "st"
      | 2 => "nd"
      | 3 => "rd"
      | _ => "th"
  toString n ++ suffix

/-! ## Moving expressions between levels -/

/-- A level as seen from `delta` levels further in, for the levels at or beyond `floor`. -/
def shiftLevel (delta : Int) (floor level : Nat) : Nat :=
  if level < floor then level else (level + delta).toNat

mutual

/-- The expression moved `delta` levels inward (outward when negative): the levels it reads at
or beyond `floor` are counted from the new place. -/
def Expr.shift (fuel : Nat) (delta : Int) (floor : Nat) (e : Expr) : Expr :=
  match fuel with
  | 0 => e
  | fuel + 1 =>
    let go := Expr.shift fuel delta floor
    match e with
    | .column address slot affinity collation =>
      .column ⟨shiftLevel delta floor address.level, address.source⟩ slot affinity collation
    | .aggregate level index => .aggregate (shiftLevel delta floor level) index
    | .extended called filter window =>
      .extended (go called) (filter.map go) (window.map (Window.mapExprs go))
    | .unary op operand => .unary op (go operand)
    | .binary op left right => .binary op (go left) (go right)
    | .isNull operand => .isNull (go operand)
    | .notNull operand => .notNull (go operand)
    | .between operand low high => .between (go operand) (go low) (go high)
    | .inList operand items => .inList (go operand) (items.map go)
    | .cast operand typeName => .cast (go operand) typeName
    | .collate operand collation => .collate (go operand) collation
    | .call name distinct arguments => .call name distinct (arguments.map go)
    | .choose condition yes no => .choose (go condition) (go yes) (go no)
    | .vector items => .vector (items.map go)
    | .subquery query => .subquery (Query.shift fuel delta floor query)
    | .existence query => .existence (Query.shift fuel delta floor query)
    | .inQuery operand query => .inQuery (go operand) (Query.shift fuel delta floor query)
    | other => other

/-- A query moved as `Expr.shift` moves an expression: its limits stand at `floor`, the
expressions of its parts one level in. -/
def Query.shift (fuel : Nat) (delta : Int) (floor : Nat) (query : Query) : Query :=
  match fuel with
  | 0 => query
  | fuel + 1 =>
    match query with
    | .mk recursive tables body orderBy limit offset =>
      .mk recursive tables (Body.shift fuel delta floor body)
        (orderBy.map fun | .mk e down nulls => .mk (Expr.shift fuel delta (floor + 1) e) down nulls)
        (limit.map (Expr.shift fuel delta floor)) (offset.map (Expr.shift fuel delta floor))

/-- The parts of a query moved as `Query.shift` moves them. -/
def Body.shift (fuel : Nat) (delta : Int) (floor : Nat) (body : Body) : Body :=
  match fuel with
  | 0 => body
  | fuel + 1 =>
    match body with
    | .core core => .core (Core.shift fuel delta floor core)
    | .compound left op right =>
      .compound (Body.shift fuel delta floor left) op (Core.shift fuel delta floor right)

/-- One part of a query moved: its sources stand at `floor`, its expressions one level in. -/
def Core.shift (fuel : Nat) (delta : Int) (floor : Nat) (core : Core) : Core :=
  match fuel with
  | 0 => core
  | fuel + 1 =>
    let inner := Expr.shift fuel delta (floor + 1)
    match core with
    | .values rows => .values (rows.map (·.map inner))
    | .select distinct result sources condition groupBy having aggregates windows =>
      .select distinct
        (result.map fun
          | .value e asName text => .value (inner e) asName text
          | other => other)
        (sources.map fun
          | .mk kind natural source on usingColumns =>
            .mk kind natural (Source.shift fuel delta floor source) (on.map inner) usingColumns)
        (condition.map inner) (groupBy.map inner) (having.map inner) (aggregates.map inner)
        (windows.map inner)

/-- A source moved: a query in `FROM` stands where the sources do. -/
def Source.shift (fuel : Nat) (delta : Int) (floor : Nat) (source : Source) : Source :=
  match fuel with
  | 0 => source
  | fuel + 1 =>
    match source with
    | .query query asName => .query (Query.shift fuel delta floor query) asName
    | .function name arguments => .function name (arguments.map (Expr.shift fuel delta (floor + 1)))
    | other => other

end

/-- The levels an expression reads, as seen from where it stands, not looking into queries. -/
def Expr.levelsRead (fuel : Nat) (e : Expr) : List Nat :=
  match fuel with
  | 0 => []
  | fuel + 1 =>
    let go := Expr.levelsRead fuel
    match e with
    | .column address _ _ _ => [address.level]
    | .unary _ operand | .isNull operand | .notNull operand | .cast operand _
    | .collate operand _ => go operand
    | .binary _ left right => go left ++ go right
    | .between operand low high => go operand ++ go low ++ go high
    | .inList operand items => go operand ++ items.flatMap go
    | .call _ _ arguments => arguments.flatMap go
    | .extended called filter _ => go called ++ (filter.map go).getD []
    | .choose condition yes no => go condition ++ go yes ++ go no
    | .vector items => items.flatMap go
    | .inQuery operand _ => go operand
    | _ => []

/-- Whether an expression holds a call of an aggregate function, found or not yet looked up. -/
def Expr.hasAggregate (fuel : Nat) (e : Expr) : Bool :=
  match fuel with
  | 0 => false
  | fuel + 1 =>
    let go := Expr.hasAggregate fuel
    match e with
    | .aggregate .. => true
    | .callStar functionName => callee functionName 0 == .aggregate
    | .call functionName _ arguments =>
      callee functionName arguments.length == .aggregate || arguments.any go
    | .extended called _ windowClause =>
      match windowClause, called with
      | none, _ => go called
      | some _, .call _ _ arguments => arguments.any go
      | some _, _ => false
    | .unary _ operand | .isNull operand | .notNull operand | .cast operand _
    | .collate operand _ => go operand
    | .binary _ left right => go left || go right
    | .between operand low high => go operand || go low || go high
    | .inList operand items => go operand || items.any go
    | .choose condition yes no => go condition || go yes || go no
    | .vector items => items.any go
    | .inQuery operand _ => go operand
    | _ => false

/-! ## Names -/

/-- What a name finds among the sources of one level. -/
inductive Found where
  | nothing
  | column (e : Expr)
  /-- More than one source has the column. -/
  | ambiguous

/-- Whether qualifiers select a source: no qualifier, or its visible name, after its database
when one is given (which the `RETURNING` terms may not give). -/
def SourceFrame.selectedBy (source : SourceFrame) (purpose : Purpose) :
    List String → Bool
  | [] => true
  | [table] => sameName table source.visible
  | [schema, table] =>
    purpose != .returning && source.schema.any (sameName schema) && sameName table source.visible
  | _ => false

/-- The column of a source at a position, as an expression read at a level. -/
def SourceFrame.columnAt (source : SourceFrame) (level position index : Nat) : Expr :=
  let column := source.columns.getD index default
  if source.rowId == some (some index) then .column ⟨level, position⟩ .rowId (some .integer) none
  else .column ⟨level, position⟩ (.column index) column.affinity column.collation

/-- Looks a column up in the sources of a level: the column it finds, with the number of
sources that have a row id and that the qualifiers select, and the last of them. -/
def findInSources (sources : List SourceFrame) (level : Nat) (purpose : Purpose)
    (qualifiers : List String) (column : String) : Found × Nat × Option (Nat × SourceFrame) :=
  let step (state : Nat × Option Expr × Nat × Option (Nat × SourceFrame))
      (entry : SourceFrame × Nat) : Nat × Option Expr × Nat × Option (Nat × SourceFrame) :=
    let (count, found, withRowId, rowSource) := state
    let (source, position) := entry
    if !source.selectedBy purpose qualifiers then state
    else
      let (count, found) :=
        match source.columns.findIdx? (sameName ·.name column) with
        | some index =>
          let e := source.columnAt level position index
          if count == 0 then (1, some e)
          else if !source.shared.any (sameName · column) then (count + 1, some e)
          else
            match source.kind with
            | .right => (1, some e)
            | .full =>
              (count, found.map fun earlier => .call "coalesce" false [earlier, e])
            | _ => (count, found)
        | none => (count, found)
      if count == 0 && source.rowId.isSome then (count, found, withRowId + 1, some (position, source))
      else (count, found, withRowId, rowSource)
  let (count, found, withRowId, rowSource) :=
    (sources.zip (List.range sources.length)).foldl step (0, none, 0, none)
  match count, found with
  | 0, _ => (.nothing, withRowId, rowSource)
  | 1, some e => (.column e, withRowId, rowSource)
  | _, _ => (.ambiguous, withRowId, rowSource)

/-- The column `NEW.x` or `OLD.x` names in the table of a trigger, read at a level. -/
def triggerColumn? (trigger : TriggerFrame) (level : Nat) (qualifiers : List String)
    (column : String) : Option Expr :=
  let source? : Option Nat := match qualifiers with
    | [table] =>
      if trigger.new && sameName table "new" then some 1
      else if trigger.old && sameName table "old" then some 0
      else none
    | _ => none
  source?.bind fun source =>
    let spec := trigger.spec
    match spec.columnIndex? column with
    | some index =>
      if spec.rowIdColumn == some index then some (.column ⟨level, source⟩ .rowId (some .integer) none)
      else
        (spec.column? index).map fun found =>
          .column ⟨level, source⟩ (.column index) none (some found.collation)
    | none =>
      if isRowIdName column && !spec.withoutRowId then
        some (.column ⟨level, source⟩ .rowId (some .integer) none)
      else none

/-- The column of the proposed row that `excluded.column` names in the `DO UPDATE` of an upsert
on a table: the integer primary key and the names of the row id name its row id. -/
def proposedColumn? (spec : TableSpec) (qualifiers : List String) (column : String) :
    Option Expr :=
  match qualifiers with
  | [table] =>
    if sameName table "excluded" then
      match spec.columnIndex? column with
      | some index =>
        if spec.rowIdColumn == some index then some (.proposed .rowId)
        else some (.proposed (.column index))
      | none => if isRowIdName column then some (.proposed .rowId) else none
    else none
  | _ => none

/-- The failure of a name that nothing answers, written as the statement qualifies it. -/
def missingName (qualifiers : List String) (column : String) : StoreError :=
  .noSuchColumn (".".intercalate (qualifiers ++ [column]))

/-- The table an upsert writes, when names are looked up for its `DO UPDATE`: the one source of
the outermost level. -/
def Context.upsertTable? (ctx : Context) : Option TableSpec :=
  if ctx.purpose != .upsert then none
  else
    (ctx.frames.getLast?.bind (·.sources.head?)).bind fun source =>
      source.schema.bind fun schema => (ctx.db.tableIn? schema source.visible).map (·.spec)

/-- Looks a name up through the levels a context may reach, innermost first. -/
def lookupLevels (ctx : Context) (upsert : Option TableSpec) (qualifiers : List String)
    (column : String) : List Frame → Nat → Except StoreError (Option Expr)
  | [], _ => .ok none
  | frame :: frames, level =>
    if ctx.reach ≤ level then .ok none
    else
      let (found, withRowId, rowSource) :=
        findInSources frame.sources level ctx.purpose qualifiers column
      match found with
      | .ambiguous =>
        .error (.refused ("ambiguous column name: " ++ ".".intercalate (qualifiers ++ [column])))
      | .column e => .ok (some e)
      | .nothing =>
        let special : Option Expr :=
          if qualifiers.length ≤ 1 then
            (ctx.trigger.bind fun trigger =>
              triggerColumn? trigger ctx.frames.length qualifiers column) <|>
            (upsert.bind fun spec => proposedColumn? spec qualifiers column)
          else none
        match special with
        | some e => .ok (some e)
        | none =>
          let rowId : Option Expr :=
            if withRowId == 1 && isRowIdName column && !ctx.purpose.ownColumnsOnly then
              rowSource.map fun (position, _) =>
                .column ⟨level, position⟩ .rowId (some .integer) none
            else none
          match rowId with
          | some e => .ok (some e)
          | none =>
            let aliased := if qualifiers.isEmpty then
                frame.aliases.find? (sameName ·.1 column)
              else none
            match aliased with
            | some (_, e) =>
              if Expr.hasAggregate 10000 e && !ctx.aggregates then
                .error (.refused ("misuse of aliased aggregate " ++ column))
              else if (match e with | .vector _ => true | _ => false) then .error .rowValueMisused
              else .ok (some (e.shift 10000 level 0))
            | none => lookupLevels ctx upsert qualifiers column frames (level + 1)

/-- What a name stands for in a context. -/
def lookupName (ctx : Context) (qualifiers : List String) (column : Name) :
    Except StoreError Expr := do
  match ← lookupLevels ctx ctx.upsertTable? qualifiers column.text ctx.frames 0 with
  | some found => pure found
  | none =>
    let special : Option Expr :=
      if qualifiers.length ≤ 1 then
        (ctx.trigger.bind fun trigger =>
            triggerColumn? trigger ctx.frames.length qualifiers column.text) <|>
          (ctx.upsertTable?.bind fun spec => proposedColumn? spec qualifiers column.text)
      else none
    match special with
    | some e => pure e
    | none =>
      if qualifiers.isEmpty && column.doubleQuoted then pure (.string column.text)
      else if qualifiers.isEmpty && !column.quoted && sameName column.text "true" then
        pure (.truth true)
      else if qualifiers.isEmpty && !column.quoted && sameName column.text "false" then
        pure (.truth false)
      else throw (missingName qualifiers column.text)

/-- The fault of a call of a function with a number of arguments, where aggregates may stand or
not. -/
def callFault (aggregates : Bool) (functionName : String) (count : Nat) : Option StoreError :=
  match callee functionName count with
  | .scalar => none
  | .aggregate => if aggregates then none else some (.misuseAggregate functionName)
  | .window => some (.refused ("misuse of window function " ++ functionName ++ "()"))
  | .missing => some (.noSuchFunction functionName)
  | .wrongCount => some (.wrongArgumentCount functionName)

namespace Expr

/-- The right operand of `IS` when it may be `TRUE` or `FALSE`: a bare name or a truth, through
any `COLLATE`. -/
def truthCandidate : Expr → Option Expr
  | .collate operand _ => operand.truthCandidate
  | .name [] written => some (.name [] written)
  | .truth value => some (.truth value)
  | _ => none

/-- `operand IS [NOT] TRUE|FALSE`: whether the operand's truth is the value, NULL being neither,
then negated by `NOT`; written as a choice on the operand's truth. -/
def truthTest (operand : Expr) (value negated : Bool) : Expr :=
  let test := if value then operand else .unary .not operand
  if negated then .choose test (.integer "0") (.integer "1")
  else .choose test (.integer "1") (.integer "0")

/-- The expression inside any `COLLATE`. -/
def skipCollate : Expr → Expr
  | .collate operand _ => operand.skipCollate
  | e => e

/-- The expression with the `COLLATE` clauses around `e` put around a replacement. -/
def replaceInner : Expr → Expr → Expr
  | .collate operand collation, replacement => .collate (operand.replaceInner replacement) collation
  | _, replacement => replacement

/-- The integer an expression is as an ordering term names a result column: an integer numeral
below 2³¹, with any signs before it. -/
def smallInteger? : Expr → Option Int
  | .integer text =>
    match Eval.numeral text false with
    | .integer n => if 0 ≤ n && n < 2147483648 then some n else none
    | _ => none
  | .unary .plus operand => operand.smallInteger?
  | .unary .negate operand => operand.smallInteger?.map (- ·)
  | _ => none

end Expr

/-- A common table found by name among the `WITH` clauses of a context: the number of clauses
inside its own, and the table. -/
def findCommon (withs : List (List CommonTable)) (name : String) : Option (Nat × CommonTable) :=
  (withs.zip (List.range withs.length)).findSome? fun (tables, position) =>
    (tables.find? fun | .mk tableName _ _ => sameName tableName name).map (position, ·)

/-- The name of a common table. -/
def CommonTable.name : CommonTable → String
  | .mk name _ _ => name

/-- What a name in `FROM` finds among the tables and views of a database. -/
inductive Relation where
  | table (table : Table)
  | view (view : View)

/-- Looks a table or view up: in the database it is qualified with, else in the database fixed
for a view or trigger, else in `temp`, `main` and the attached databases in turn. -/
def findRelation (db : Database) (fixed : Option String) (name : TableName) : Option Relation :=
  let inSchema (schema : String) : Option Relation :=
    (db.tableIn? schema name.name).map .table <|> (db.viewIn? schema name.name).map .view
  match name.schema with
  | some written => (db.schemaNamed? written).bind inSchema
  | none =>
    match fixed, Database.schemaTableSchema? name.name with
    | some schema, _ => inSchema schema
    | none, some schema => inSchema schema
    | none, none => db.schemaOrder.findSome? inSchema

/-- The failure of a table that cannot be found, named as the statement names it. -/
def missingTable (fixed : Option String) (name : TableName) : StoreError :=
  match name.schema, fixed with
  | some schema, _ => .noSuchTable (schema ++ "." ++ name.name)
  | none, some schema => .noSuchTable (schema ++ "." ++ name.name)
  | none, none => .noSuchTable name.name

/-- The names a query's result columns take as the columns of a table: each as given, except
that `true` and `false` become `columnN`, and a name met before (ASCII case ignored) takes `:N`
after it, counting up until it is new. -/
def uniqueNames (names : List String) : List String :=
  let base (name : String) (position : Nat) : String :=
    if sameName name "true" || sameName name "false" then "column" ++ toString (position + 1)
    else name
  let rec fresh (taken : List String) (stem : String) (count : Nat) (fuel : Nat) : String :=
    match fuel with
    | 0 => stem
    | fuel + 1 =>
      let candidate := stem ++ ":" ++ toString count
      if taken.any (sameName · candidate) then fresh taken stem (count + 1) fuel else candidate
  let stemOf (name : String) : String :=
    let chars := name.toList
    let digits := (chars.reverse.takeWhile Char.isDigit).length
    if digits < chars.length && chars[chars.length - digits - 1]? == some ':' then
      String.ofList (chars.take (chars.length - digits - 1))
    else name
  (names.zip (List.range names.length)).foldl (fun taken (name, position) =>
    let name := base name position
    if taken.any (sameName · name) then
      taken ++ [fresh taken (stemOf name) 1 (taken.length + 1)]
    else taken ++ [name]) []

/-- The name of a result column as a cursor reports it and as a table built from the result
first takes it: the alias; else, for a column, its name (`rowid` for the row id); else the
text as written. -/
def resultName (ctx : Context) (e : Expr) (asName : Option String) (text : String) : String :=
  match asName with
  | some name => name
  | none =>
    match e with
    | .column address slot _ _ =>
      let source := ((ctx.frames[address.level]?).bind fun frame =>
        frame.sources[address.source]?)
      match source, slot with
      | some source, .column index => (source.columns.getD index default).name
      | some source, .rowId =>
        match source.rowId with
        | some (some index) => (source.columns.getD index default).name
        | _ => "rowid"
      | none, _ => text
    | _ => text

/-- The parts of a compound query from the first, each with the operator before it. -/
def Body.parts : Body → List (Option CompoundOp × Core)
  | .core part => [(none, part)]
  | .compound left op right => left.parts ++ [(some op, right)]

/-- The compound query of some parts. -/
def Body.ofParts : List (Option CompoundOp × Core) → Body
  | [] => .core (.values [])
  | (_, first) :: rest =>
    rest.foldl (fun body (op, part) => .compound body (op.getD .unionAll) part) (.core first)

/-- Whether a part of a query reads a table of a name directly in its `FROM`. -/
def Core.readsDirectly (name : String) : Core → Bool
  | .select _ _ sources _ _ _ _ _ =>
    sources.any fun
      | .mk _ _ (.table table) _ _ => table.schema.isNone && sameName table.name name
      | _ => false
  | .values _ => false

/-- How many sources of a part read a table of a name directly. -/
def Core.directReads (name : String) : Core → Nat
  | .select _ _ sources _ _ _ _ _ =>
    (sources.filter fun
      | .mk _ _ (.table table) _ _ => table.schema.isNone && sameName table.name name
      | _ => false).length
  | .values _ => 0

/-- The result columns of a `VALUES` row. -/
def valuesColumns (row : List Expr) : List ResultColumn :=
  (row.zip (List.range row.length)).map fun (e, position) =>
    ⟨"column" ++ toString (position + 1), e.affinity?, (e.collation?.bind (·.toOption))⟩

/-- The failure of two parts of a compound query with different numbers of columns. -/
def widthMismatch (rightIsValues : Bool) (op : CompoundOp) : StoreError :=
  if rightIsValues then .unevenValues
  else .refused ("SELECTs to the left and right of " ++ op.shown ++
    " do not have the same number of result columns")

/-- The number of result columns of a part once looked up, and whether it is a row of
`VALUES`. -/
def Core.shape : Core → Nat × Bool
  | .select _ result _ _ _ _ _ _ => (result.length, false)
  | .values rows => ((rows.getLast?.map List.length).getD 0, true)

/-- The sources of a query with the columns their `USING` and `NATURAL` joins share with earlier
sources, and the conditions those joins add: each shared column equal to the same column of the
first earlier source that has it. -/
def joinShared (sources : List (Joined × SourceFrame)) :
    Except StoreError (List (Joined × SourceFrame)) :=
  let leftColumn (left : List SourceFrame) (name : String) : Option Expr :=
    (left.zip (List.range left.length)).findSome? fun (source, position) =>
      (source.columns.findIdx? (sameName ·.name name)).map (source.columnAt 0 position ·)
  let step (done : List (Joined × SourceFrame)) (entry : (Joined × SourceFrame) × Nat) :
      Except StoreError (List (Joined × SourceFrame)) :=
    let ((joined, frame), position) := entry
    let left := done.map (·.2)
    match joined with
    | .mk kind natural source on usingColumns =>
      if position == 0 then .ok (done ++ [(joined, frame)])
      else if natural && (on.isSome || !usingColumns.isEmpty) then
        .error (.refused "a NATURAL join may not have an ON or USING clause")
      else do
        let names := if natural then
            (frame.columns.map (·.name)).filter fun name => (leftColumn left name).isSome
          else usingColumns
        let equalities ← names.mapM fun name =>
          match frame.columns.findIdx? (sameName ·.name name), leftColumn left name with
          | some index, some earlier =>
            .ok (Expr.binary .eq earlier (frame.columnAt 0 position index))
          | _, _ =>
            .error (.refused ("cannot join using column " ++ name ++
              " - column not present in both tables"))
        let condition := match equalities with
          | [] => on
          | first :: rest => some (rest.foldl (Expr.binary .and) first)
        pure (done ++ [(.mk kind natural source condition usingColumns,
          { frame with shared := names })])
  (sources.zip (List.range sources.length)).foldlM step []

/-- The result terms of a query with `*` and `table.*` replaced by the columns they stand for,
each with its name as alias; `*` leaves out the columns a later source shares with an earlier
one. The last `*` that names no source fails. -/
def expandStars (sources : List SourceFrame) (result : List ResultTerm) :
    Except StoreError (List (Expr × Option String × String)) :=
  let columnsOf (source : SourceFrame) (position : Nat) (skipShared : Bool) :
      List (Expr × Option String × String) :=
    ((source.columns.zip (List.range (source.columns.length - source.hidden))).filter
      fun (column, _) =>
        !(skipShared && source.shared.any (sameName · column.name))).map fun (column, index) =>
        (source.columnAt 0 position index, some column.name, column.name)
  let numbered := sources.zip (List.range sources.length)
  let expand : ResultTerm → Except StoreError (List (Expr × Option String × String))
    | .value e asName text => .ok [(e, asName, text)]
    | .all =>
      if sources.isEmpty then .error .noTables
      else .ok (numbered.flatMap fun (source, position) => columnsOf source position (0 < position))
    | .allOf table =>
      let chosen := numbered.filter fun (source, _) => sameName source.visible table
      if chosen.isEmpty then .error (.noSuchTable table)
      else .ok (chosen.flatMap fun (source, position) => columnsOf source position false)
  let expanded := result.map expand
  match (expanded.filterMap fun | .error error => some error | .ok _ => none).getLast? with
  | some error => .error error
  | none => .ok (expanded.flatMap fun | .ok terms => terms | .error _ => [])

mutual

/-- Looks the names of an expression up. -/
def resolveExpr (fuel : Nat) (ctx : Context) (e : Expr) : Lookup Expr :=
  match fuel with
  | 0 => throw (.refused "expression tree is too large")
  | fuel + 1 =>
    let go := resolveExpr fuel ctx
    match e with
    | .parameter index => do
      if ctx.purpose.restricted then note (.prohibited "parameters" ctx.purpose.place)
      pure (.parameter index)
    | .name qualifiers written => do
      if !qualifiers.isEmpty && ctx.purpose.ownColumnsOnly then
        note (.prohibited "the \".\" operator" ctx.purpose.place)
      match lookupName ctx qualifiers written with
      | .ok found => pure found
      | .error error => throw error
    | .unary op operand => do pure (.unary op (← go operand))
    | .binary op left right => do
      let truth : Option Bool ← (do
        if op == .is || op == .isNot then
          match right.truthCandidate with
          | some (.name [] written) =>
            match lookupName ctx [] written with
            | .ok (.truth value) => pure (some value)
            | .ok _ => pure none
            | .error error => throw error
          | some (.truth value) => pure (some value)
          | _ => pure none
        else pure none)
      match truth with
      | some value => pure (Expr.truthTest (← go left) value (op == .isNot))
      | none =>
        if op.isComparison then
          if (← checkedWidth fuel ctx left) != (← checkedWidth fuel ctx right) then
            note .rowValueMisused
        let left ← go left
        let right ← go right
        pure (.binary op left right)
    | .isNull operand => do pure (.isNull (← go operand))
    | .notNull operand => do pure (.notNull (← go operand))
    | .between operand low high => do
      let width ← checkedWidth fuel ctx operand
      if width != (← checkedWidth fuel ctx low) || width != (← checkedWidth fuel ctx high) then
        note .rowValueMisused
      let operand ← go operand
      let low ← go low
      let high ← go high
      pure (.between operand low high)
    | .inList operand items => do
      let operand ← go operand
      let items ← items.mapM go
      pure (.inList operand items)
    | .cast operand typeName => do pure (.cast (← go operand) typeName)
    | .collate operand collation => do pure (.collate (← go operand) collation)
    | .call functionName distinct arguments => do
      let kind := callee functionName arguments.length
      if lowerName functionName == "likelihood" && kind == .scalar then
        let probability := match arguments with
          | [_, .real text] => (readReal text.toList).value.compareInt 1 != some .gt
          | _ => false
        if !probability then note (.probability functionName)
      if ctx.purpose.fixedResults && !isDeterministic functionName && kind == .scalar then
        note (.prohibited "non-deterministic functions" ctx.purpose.place)
      if kind == .aggregate && ctx.aggregates && ctx.misplaced then
        note (.refused ("misuse of aggregate: " ++ functionName ++ "()"))
      else noteSome (callFault ctx.aggregates functionName arguments.length)
      let inner := { ctx with
        aggregates := ctx.aggregates && kind != .aggregate
        windows := ctx.windows && kind != .aggregate }
      let arguments ← arguments.mapM (resolveExpr fuel inner)
      if kind == .aggregate && ctx.aggregates && !ctx.misplaced then
        let level : Nat := ((arguments.flatMap (Expr.levelsRead 10000)).foldl
          (fun best level => match best with
            | some top => some (min top level)
            | none => some level) none).getD 0
        let call := Expr.call functionName distinct
          (arguments.map (Expr.shift 10000 (-(level : Int)) 0))
        match ← placeAggregate level call with
        | some index => pure (.aggregate level index)
        | none => pure (.call functionName distinct arguments)
      else pure (.call functionName distinct arguments)
    | .callStar functionName => do
      let kind := callee functionName 0
      if kind == .aggregate && ctx.aggregates && ctx.misplaced then
        note (.refused ("misuse of aggregate: " ++ functionName ++ "()"))
      else noteSome (callFault ctx.aggregates functionName 0)
      if kind == .aggregate && ctx.aggregates && !ctx.misplaced then
        match ← placeAggregate 0 (.callStar functionName) with
        | some index => pure (.aggregate 0 index)
        | none => pure (.callStar functionName)
      else pure (.callStar functionName)
    | .extended called filter windowClause => do
      let (functionName, arguments) := match called with
        | .call name _ arguments => (name, arguments)
        | .callStar name => (name, [])
        | _ => ("", [])
      let kind := callee functionName arguments.length
      let windowed := windowClause.isSome
      let aggregateLike := kind == .aggregate || kind == .window
      let notWindow := windowed &&
        (kind == .scalar || (kind == .wrongCount && scalarFirst functionName))
      let misuse := !notWindow && aggregateLike &&
        (!ctx.aggregates || (kind == .window && !windowed) || (windowed && !ctx.windows))
      let fault : Option StoreError :=
        if notWindow then
          some (.refused (functionName ++ "() may not be used as a window function"))
        else if misuse then
          if kind == .window || windowed then
            some (.refused ("misuse of window function " ++ functionName ++ "()"))
          else some (.misuseAggregate functionName)
        else if kind == .missing then some (.noSuchFunction functionName)
        else if kind == .wrongCount then some (.wrongArgumentCount functionName)
        else if !aggregateLike then
          some (.refused ("FILTER may not be used with non-aggregate " ++ functionName ++ "()"))
        else if !windowed && ctx.misplaced then
          some (.refused ("misuse of aggregate: " ++ functionName ++ "()"))
        else none
      noteSome fault
      let accepted := aggregateLike && !misuse
      let inner := if accepted then
          { ctx with windows := false, aggregates := ctx.aggregates && windowed }
        else ctx
      let arguments ← arguments.mapM (resolveExpr fuel inner)
      let withArguments (arguments : List Expr) : Expr := match called with
        | .call name distinct _ => .call name distinct arguments
        | other => other
      match accepted, windowClause with
      | true, some (.mk _ partition orderBy frame) =>
        let frame := frame.getD defaultFrame
        let rangeFault := match frame with
          | .mk .range _ _ _ => frame.hasOffset && orderBy.length != 1
          | _ => false
        if rangeFault then
          note (.refused "RANGE with offset PRECEDING/FOLLOWING requires one ORDER BY expression")
        else if kind == .window && filter.isSome then
          note (.refused "FILTER clause may only be used with aggregate window functions")
        let frame := if kind == .window then (builtinFrame functionName).getD frame else frame
        let partition ← partition.mapM (resolveExpr fuel inner)
        let orderBy ← orderBy.mapM fun
          | .mk e down nulls => do pure (OrderTerm.mk (← resolveExpr fuel inner e) down nulls)
        let filter ← filter.mapM (resolveExpr fuel inner)
        let offsetCtx := { inner with reach := 0 }
        let frame ← match frame with
          | .mk unit start finish exclusion => do
            let bound (b : Bound) : Lookup Bound := match b with
              | .preceding offset => do pure (.preceding (← resolveExpr fuel offsetCtx offset))
              | .following offset => do pure (.following (← resolveExpr fuel offsetCtx offset))
              | other => pure other
            pure (WindowFrame.mk unit (← bound start) (← bound finish) exclusion)
        let index ← placeWindow
          (.extended (withArguments arguments) filter (some (.mk none partition orderBy (some frame))))
        pure (.window index)
      | true, some (.faulty message) => do
        note (.refused message)
        pure .null
      | true, some _ => pure .null
      | true, none =>
        let filter ← filter.mapM (resolveExpr fuel inner)
        if ctx.misplaced then pure (withArguments arguments)
        else
          let level : Nat := (((arguments ++ filter.toList).flatMap (Expr.levelsRead 10000)).foldl
            (fun best level => match best with
              | some top => some (min top level)
              | none => some level) none).getD 0
          let shifted := Expr.shift 10000 (-(level : Int)) 0
          let placed := Expr.extended (withArguments (arguments.map shifted)) (filter.map shifted)
            none
          match ← placeAggregate level placed with
          | some index => pure (.aggregate level index)
          | none => pure (.extended (withArguments arguments) filter none)
      | false, _ => pure (withArguments arguments)
    | .choose condition yes no => do
      let condition ← go condition
      let yes ← go yes
      let no ← go no
      pure (.choose condition yes no)
    | .vector items => do pure (.vector (← items.mapM go))
    | .subquery query => do
      if ctx.purpose.restricted then
        note (.prohibited "subqueries" ctx.purpose.place)
        pure .null
      else
        let (query, _) ← resolveQuery fuel { ctx with purpose := .statement } query
        pure (.subquery query)
    | .existence query => do
      if ctx.purpose.restricted then
        note (.prohibited "subqueries" ctx.purpose.place)
        pure .null
      else
        let (query, _) ← resolveQuery fuel { ctx with purpose := .statement } query
        pure (.existence query)
    | .inQuery operand query => do
      if ctx.purpose.restricted then
        note (.prohibited "subqueries" ctx.purpose.place)
        let _ ← go operand
        pure .null
      else
        let (query, columns) ← resolveQuery fuel { ctx with purpose := .statement } query
        if columns.length != operand.width then
          note (.refused ("sub-select returns " ++ toString columns.length ++
            " columns - expected " ++ toString operand.width))
        let operand ← go operand
        pure (.inQuery operand query)
    | .clock word => do
      if ctx.purpose.fixedResults then
        note (.prohibited "non-deterministic functions" ctx.purpose.place)
      pure (.clock word)
    | .raise action message => do
      if ctx.trigger.isNone then
        note (.refused "RAISE() may only be used within a trigger-program")
      pure (.raise action message)
    | other => pure other

/-- Looks the names of a query up, giving the query and its result columns. Common tables and
views are expanded in place, so the query needs no `WITH` once looked up; a query marked
recursive is the query of a recursive common table. -/
def resolveQuery (fuel : Nat) (ctx : Context) (query : Query) :
    Lookup (Query × List ResultColumn) :=
  match fuel with
  | 0 => throw (.refused "query tree is too large")
  | fuel + 1 =>
    match query with
    | .mk _ tables body orderBy limit offset => do
      let ctx := { ctx with expanded := true }
      let ctx := if tables.isEmpty then ctx else { ctx with withs := tables :: ctx.withs }
      let limitCtx := { ctx with
        reach := 0
        aggregates := false
        misplaced := false
        windows := false }
      let limit ← limit.mapM (resolveExpr fuel limitCtx)
      let offset ← offset.mapM (resolveExpr fuel limitCtx)
      match body with
      | .core core =>
        let (core, columns, orderBy) ← resolveCore fuel ctx core orderBy
        pure (.mk false [] (.core core) orderBy limit offset, columns)
      | .compound .. =>
        let (parts, columns) ← resolveParts fuel ctx body.parts.reverse none
        let orderBy ← compoundOrder fuel parts orderBy
        pure (.mk false [] (Body.ofParts parts) orderBy limit offset, columns)

/-- The number of values a side of a comparison stands for when the widths are checked. Inside a
query the stars of a subquery's results are already expanded, so its width is that of its
looked-up columns; elsewhere a star counts as one. -/
def checkedWidth (fuel : Nat) (ctx : Context) (e : Expr) : Lookup Nat :=
  match fuel, e with
  | fuel + 1, .subquery query => do
    if ctx.expanded && !ctx.purpose.restricted then
      match (resolveQuery fuel { ctx with purpose := .statement } query).run (← get) with
      | .ok ((_, columns), _) => pure columns.length
      | .error _ => pure e.width
    else pure e.width
  | _, _ => pure e.width

/-- Looks up the parts of a compound query from the last, each checked to have as many columns
as the part after it: the parts in order, and the result columns of the first. -/
def resolveParts (fuel : Nat) (ctx : Context) (reversed : List (Option CompoundOp × Core))
    (after : Option (Nat × Bool × CompoundOp)) :
    Lookup (List (Option CompoundOp × Core) × List ResultColumn) :=
  match fuel with
  | 0 => pure ([], [])
  | fuel + 1 =>
    match reversed with
    | [] => pure ([], [])
    | (op, core) :: earlier => do
      let (core, columns, _) ← resolveCore fuel ctx core []
      let (width, isValues) := core.shape
      if let some (rightWidth, rightIsValues, rightOp) := after then
        if width != rightWidth then throw (widthMismatch rightIsValues rightOp)
      match earlier with
      | [] => pure ([(op, core)], columns)
      | _ =>
        let (parts, firstColumns) ← resolveParts fuel ctx earlier
          (op.map fun op => (width, isValues, op))
        pure (parts ++ [(op, core)], firstColumns)

/-- Looks up the ordering of a compound query: each term is the position of a result column,
by number, by the alias of a column of a part, or by the name of a column a part reads, tried
from the first part. -/
def compoundOrder (fuel : Nat) (parts : List (Option CompoundOp × Core))
    (orderBy : List OrderTerm) : Lookup (List OrderTerm) :=
  match fuel with
  | 0 => pure []
  | _ + 1 => do
    let width := ((parts.head?.map fun (_, core) => core.shape.1)).getD 0
    let matchIn (core : Core) (term : Expr) : Option Nat :=
      match core, term with
      | .select _ result _ _ _ _ _ _, .name [] written =>
        result.findIdx? fun
          | .value e asName text =>
            asName.any (sameName · written.text) ||
              (asName.isNone && (sameName text written.text || match e with
                | .column .. => sameName text written.text
                | _ => false))
          | _ => false
      | .values rows, .name [] written =>
        ((rows.head?.map List.length).getD 0 |> List.range).find? fun position =>
          sameName written.text ("column" ++ toString (position + 1))
      | _, _ => none
    (orderBy.zip (List.range orderBy.length)).mapM fun (term, position) =>
      match term with
      | .mk e down nulls =>
        let inner := e.skipCollate
        match inner.smallInteger? with
        | some n =>
          if n < 1 || width < n.toNat then
            throw (.refused (ordinal (position + 1) ++ " ORDER BY term out of range - should be between 1 and " ++ toString width))
          else pure (.mk (e.replaceInner (.result (n.toNat - 1))) down nulls)
        | none =>
          match parts.findSome? fun (_, core) => matchIn core inner with
          | some index => pure (.mk (e.replaceInner (.result index)) down nulls)
          | none =>
            throw (.refused (ordinal (position + 1) ++
              " ORDER BY term does not match any column in the result set"))

/-- Looks up one part of a query with its ordering (empty for a part of a compound), giving the
part, its result columns and its ordering. -/
def resolveCore (fuel : Nat) (ctx : Context) (core : Core) (orderBy : List OrderTerm) :
    Lookup (Core × List ResultColumn × List OrderTerm) :=
  match fuel with
  | 0 => throw (.refused "query tree is too large")
  | fuel + 1 =>
    match core with
    | .values rows => do
      let inner := (ctx.push ⟨[], []⟩)
      let inner := { inner with
        aggregates := false
        misplaced := false
        windows := false
        purpose := .statement }
      let ((rows, orderBy), _) ← withLevel false (do
        let rows ← resolveRows fuel inner rows.reverse none
        let columns := valuesColumns ((rows.head?).getD [])
        let orderBy ← (orderBy.zip (List.range orderBy.length)).mapM fun
          | (.mk e down nulls, position) => do
            match e.skipCollate.smallInteger? with
            | some n =>
              if n < 1 || columns.length < n.toNat then
                throw (.refused (ordinal (position + 1) ++
                  " ORDER BY term out of range - should be between 1 and " ++
                  toString columns.length))
              else pure (OrderTerm.mk (e.replaceInner (.result (n.toNat - 1))) down nulls)
            | none =>
              if 1 < rows.length then
                throw (.refused (ordinal (position + 1) ++
                  " ORDER BY term does not match any column in the result set"))
              else pure (OrderTerm.mk (← resolveExpr fuel inner e) down nulls)
        pure (rows, orderBy))
      pure (.values rows, valuesColumns ((rows.head?).getD []), orderBy)
    | .select distinct result sources condition groupBy having _ _ => do
      let resolvedSources ← resolveSources fuel ctx sources 0 []
      let joined ← match joinShared resolvedSources with
        | .ok joined => pure joined
        | .error error => throw error
      let frames := joined.map (·.2)
      let sourcesOut := joined.map (·.1)
      let expanded ← match expandStars frames result with
        | .ok expanded => pure expanded
        | .error error => throw error
      let base := (ctx.push ⟨frames, []⟩)
      let base := { base with purpose := .statement, misplaced := false, windows := false }
      let (((core, columns, orderBy), aggregates), windows) ← withWindows (withLevel true (do
        let resultCtx := { base with aggregates := true, windows := true }
        let terms ← expanded.mapM fun (e, asName, text) => do
          pure (← resolveExpr fuel resultCtx e, asName, text)
        let found := (← get).aggregates.head?.bind id |>.getD []
        let aggregateQuery := !groupBy.isEmpty || !found.isEmpty
        let aliases := terms.filterMap fun (e, asName, _) => asName.map (·, e)
        let withAliases := { base with
          frames := ⟨frames, aliases⟩ :: ctx.frames, aggregates := aggregateQuery }
        let having ← match having with
          | some having =>
            if !aggregateQuery then throw (.refused "HAVING clause on a non-aggregate query")
            else do pure (some (← resolveExpr fuel withAliases having))
          | none => pure none
        let whereCtx := { withAliases with misplaced := aggregateQuery }
        let condition ← condition.mapM (resolveExpr fuel whereCtx)
        let sourcesOut ← sourcesOut.mapM fun
          | .mk kind natural source on usingColumns => do
            let source ← match source with
              | .function name arguments => do
                pure (Source.function name (← arguments.mapM (resolveExpr fuel whereCtx)))
              | other => pure other
            pure (Joined.mk kind natural source (← on.mapM (resolveExpr fuel whereCtx))
              usingColumns)
        let ownCtx : Context :=
          { withAliases with
            reach := 1
            aggregates := true
            misplaced := !aggregateQuery
            windows := true }
        let orderBy ← (orderBy.zip (List.range orderBy.length)).mapM fun
          | (.mk e down nulls, position) => do
            let inner := e.skipCollate
            let byAlias : Option Nat := match inner with
              | .name [] written =>
                terms.findIdx? fun (_, asName, _) => asName.any (sameName · written.text)
              | _ => none
            match byAlias with
            | some index => pure (OrderTerm.mk (e.replaceInner (.result index)) down nulls)
            | none =>
              match inner.smallInteger? with
              | some n =>
                if n < 1 || terms.length < n.toNat then
                  throw (.refused (ordinal (position + 1) ++
                    " ORDER BY term out of range - should be between 1 and " ++
                    toString terms.length))
                else pure (OrderTerm.mk (e.replaceInner (.result (n.toNat - 1))) down nulls)
              | none => pure (OrderTerm.mk (← resolveExpr fuel ownCtx e) down nulls)
        let groupCtx := { ownCtx with misplaced := false, windows := false }
        let groupBy ← (groupBy.zip (List.range groupBy.length)).mapM fun (e, position) => do
          match e.skipCollate.smallInteger? with
          | some n =>
            if n < 1 || terms.length < n.toNat then
              throw (.refused (ordinal (position + 1) ++
                " GROUP BY term out of range - should be between 1 and " ++
                toString terms.length))
            else pure (e.replaceInner (((terms[n.toNat - 1]?).map (·.1)).getD .null))
          | none => resolveExpr fuel groupCtx e
        if groupBy.any (Expr.hasAggregate 10000) then
          throw (.refused "aggregate functions are not allowed in the GROUP BY clause")
        let columns := terms.map fun (e, asName, text) =>
          ResultColumn.mk (resultName (ctx.push ⟨frames, []⟩) e asName text) e.affinity?
            (e.collation?.bind (·.toOption))
        pure ((terms, sourcesOut, condition, groupBy, having, aggregateQuery), columns, orderBy)))
      let (terms, sourcesOut, condition, groupBy, having, aggregateQuery) := core
      let tables := searchedTables ctx.db sourcesOut
      let (sourcesOut, condition, searches) := planSearches ctx.db sourcesOut condition
      let calls := Expr.withSearchCalls tables searches 10000
      -- In a query that groups its rows or computes windows, the result, the order and the
      -- aggregates read the columns of the sources from the rows set aside, not from the
      -- tables, so a function of searches there is not handed the search.
      let late := if aggregateQuery || !windows.isEmpty then id else calls
      let sourcesOut := sourcesOut.map fun
        | .mk kind natural source on usingColumns =>
          .mk kind natural source (on.map calls) usingColumns
      let orderBy := orderBy.map fun | .mk e down nulls => .mk (late e) down nulls
      pure (.select distinct (terms.map fun (e, asName, text) => .value (late e) asName text)
        sourcesOut (condition.map calls) (groupBy.map calls) (having.map late)
        (aggregates.map late) (windows.map late), columns, orderBy)

/-- Looks up the rows of `VALUES` from the last, each checked to be as long as the one after
it; the rows in order. -/
def resolveRows (fuel : Nat) (ctx : Context) (reversed : List (List Expr))
    (after : Option Nat) : Lookup (List (List Expr)) :=
  match fuel with
  | 0 => pure []
  | fuel + 1 =>
    match reversed with
    | [] => pure []
    | row :: earlier => do
      let resolved ← row.mapM (resolveExpr fuel ctx)
      if let some width := after then
        if width != row.length then throw .unevenValues
      let rest ← resolveRows fuel ctx earlier (some row.length)
      pure (rest ++ [resolved])

/-- A virtual table named with arguments, as a function of rows is: the table, and a term
`column = argument` for each argument, the columns being the table's hidden ones in order; none
for a source that is no such table. More arguments than hidden columns fail. -/
def virtualArguments (db : Database) (fixed : Option String) (source : Source) :
    Option (Except StoreError (TableName × List Expr)) :=
  match source with
  | .function name arguments =>
    match findRelation db fixed name with
    | some (.table table) =>
      table.spec.virtual.map fun kind =>
        let columns := table.spec.columns
        let hidden := (columns.drop (columns.length - kind.hidden)).map (·.name)
        if hidden.length < arguments.length then
          .error (.refused ("too many arguments on " ++ table.spec.name ++ " - max " ++
            toString hidden.length))
        else
          .ok (name, (hidden.zip arguments).map fun (column, argument) =>
            .binary .eq (.name [name.visible] ⟨column, false, false⟩) argument)
    | _ => none
  | _ => none

/-- Finds the sources of a query, in order, each with the names it offers. -/
def resolveSources (fuel : Nat) (ctx : Context) (sources : List Joined) (position : Nat)
    (found : List (Joined × SourceFrame)) : Lookup (List (Joined × SourceFrame)) :=
  match fuel with
  | 0 => pure found
  | fuel + 1 =>
    match sources with
    | [] => pure found
    | .mk kind natural source on usingColumns :: rest => do
      let (source, on) ← match virtualArguments ctx.db ctx.fixedSchema source with
        | some (.ok (table, terms)) => pure (Source.table table, joinTerms (on.toList ++ terms))
        | some (.error error) => throw error
        | none => pure (source, on)
      let (source, frame) ← resolveSource fuel ctx source
      resolveSources fuel ctx rest (position + 1)
        (found ++ [(.mk kind natural source on usingColumns, { frame with kind := kind })])

/-- Finds one source of a query: a common table, a table or a view by its name, or a query. -/
def resolveSource (fuel : Nat) (ctx : Context) (source : Source) :
    Lookup (Source × SourceFrame) :=
  match fuel with
  | 0 => throw (.refused "query tree is too large")
  | fuel + 1 =>
    match source with
    | .table name => do
      let common := if name.schema.isNone then findCommon ctx.withs name.name else none
      match common with
      | some (position, .mk tableName columnNames body) =>
        expandCommon fuel ctx position tableName columnNames body name
      | none =>
        match findRelation ctx.db ctx.fixedSchema name with
        | some (.table table) =>
          if let some index := name.indexedBy then
            let names := table.spec.indexes.map (·.name) ++
              Database.constraintIndexNames table.spec
            if !names.any (sameName · index) then throw (.noSuchIndex index)
          pure (.table { name with schema := some table.spec.schema },
            SourceFrame.ofTable table.spec name.visible)
        | some (.view view) =>
          if ctx.views.any (sameName · view.name) then
            throw (.refused ("view " ++ view.name ++ " is circularly defined"))
          let viewCtx : Context := { Context.start ctx.db with
            views := view.name :: ctx.views,
            fixedSchema := if view.schema == "temp" then none else some view.schema }
          let (body, columns) ← isolated (resolveQuery fuel viewCtx view.query)
          let names ← if view.columns.isEmpty then pure (uniqueNames (columns.map (·.name)))
            else if view.columns.length != columns.length then
              throw (.refused ("expected " ++ toString view.columns.length ++
                " columns for '" ++ view.name ++ "' but got " ++ toString columns.length))
            else pure view.columns
          pure (.query body (some name.visible),
            SourceFrame.ofColumns name.visible (some view.schema)
              ((names.zip columns).map fun (columnName, column) =>
                ⟨columnName, column.affinity, column.collation⟩))
        | none => throw (missingTable ctx.fixedSchema name)
    | .query body asName => do
      let (body, columns) ← resolveQuery fuel { ctx with purpose := .statement } body
      pure (.query body asName,
        SourceFrame.ofColumns (asName.getD "") none
          ((uniqueNames (columns.map (·.name))).zip columns |>.map fun (columnName, column) =>
            ⟨columnName, column.affinity, column.collation⟩))
    | .recursion asName =>
      match ctx.queue with
      | some queue => pure (.recursion asName, { queue with visible := asName.getD queue.visible })
      | none => pure (.recursion asName, SourceFrame.ofColumns "" none [])
    | .function name arguments => do
      if (findRelation ctx.db ctx.fixedSchema name).isSome then
        throw (.refused ("'" ++ name.name ++ "' is not a function"))
      match TableFunction.ofName? name.name with
      | none => throw (missingTable ctx.fixedSchema name)
      | some function =>
        let hidden := function.hiddenColumns
        if hidden.length < arguments.length then
          throw (.refused ("too many arguments on " ++ function.name ++ "() - max " ++
            toString hidden.length))
        let columns := (function.shownColumns ++ hidden).map fun column =>
          SourceColumn.mk column (some .blob) (some .binary)
        pure (.function name arguments,
          { SourceFrame.ofColumns name.visible none columns with hidden := hidden.length })

/-- Expands a reference to a common table into its query, looked up where it is used; a
recursive one reads the row being extended in its recursive parts, none of which may aggregate
or compute window functions. -/
def expandCommon (fuel : Nat) (ctx : Context) (position : Nat) (tableName : String)
    (columnNames : List String) (body : Query) (reference : TableName) :
    Lookup (Source × SourceFrame) :=
  match fuel with
  | 0 => throw (.refused "query tree is too large")
  | fuel + 1 => do
    let depth := ctx.withs.length - position
    if ctx.pending.any fun (name, at_) => at_ == depth && sameName name tableName then
      throw (.refused ("circular reference: " ++ tableName))
    if let some index := reference.indexedBy then
      throw (.noSuchIndex ("\"" ++ index ++ "\""))
    let inner : Context := { ctx with
      withs := ctx.withs.drop position
      pending := (tableName, depth) :: ctx.pending
      purpose := .statement }
    let visible := reference.visible
    match body with
    | .mk _ tables queryBody orderBy limit offset =>
      let parts := queryBody.parts
      let sameOps := match parts.getLast? with
        | some (some op, _) => op == .union || op == .unionAll
        | _ => false
      let recursiveCount := (parts.reverse.takeWhile fun (op, core) =>
        op.isSome && core.readsDirectly tableName).length
      let recursive := sameOps && 0 < recursiveCount && recursiveCount < parts.length
      if recursive then
        let initial := parts.take (parts.length - recursiveCount)
        let recursiveParts := parts.drop (parts.length - recursiveCount)
        if recursiveParts.any fun (_, core) => 1 < core.directReads tableName then
          throw (.refused ("multiple references to recursive table: " ++ tableName))
        let inner := if tables.isEmpty then inner else { inner with withs := tables :: inner.withs }
        let (initialQuery, initialColumns) ←
          resolveQuery fuel inner (.mk false [] (Body.ofParts initial) [] none none)
        let (names : List String) ← if columnNames.isEmpty then
            pure (uniqueNames (initialColumns.map (·.name)))
          else if columnNames.length != initialColumns.length then
            throw (.refused ("table " ++ tableName ++ " has " ++ toString initialColumns.length ++
              " values for " ++ toString columnNames.length ++ " columns"))
          else pure columnNames
        let sourceColumns := (names.zip initialColumns).map fun (columnName, column) =>
          SourceColumn.mk columnName column.affinity column.collation
        let queueFrame := SourceFrame.ofColumns visible none sourceColumns
        let recursiveCtx := { inner with queue := some queueFrame }
        let resolvedRecursive ← recursiveParts.mapM fun (op, core) => do
          let replaced := match core with
            | .select distinct result sources condition groupBy having aggregates windows =>
              Core.select distinct result (sources.map fun
                | .mk kind natural (.table table) on usingColumns =>
                  if table.schema.isNone && sameName table.name tableName then
                    .mk kind natural (.recursion (some (table.asName.getD tableName))) on
                      usingColumns
                  else .mk kind natural (.table table) on usingColumns
                | other => other) condition groupBy having aggregates windows
            | other => other
          let (resolved, _, _) ← resolveCore fuel recursiveCtx replaced []
          pure (op, resolved)
        for (_, core) in resolvedRecursive do
          if let .select _ _ _ _ groupBy _ aggregates windows := core then
            if !groupBy.isEmpty || !aggregates.isEmpty then
              throw (.refused "recursive aggregate queries not supported")
            if !windows.isEmpty then
              throw (.refused "cannot use window functions in recursive queries")
        let initialParts := match initialQuery with
          | .mk _ _ initialBody _ _ _ => initialBody.parts
        let limitCtx := { inner with reach := 0, aggregates := false, misplaced := false }
        let limit ← limit.mapM (resolveExpr fuel limitCtx)
        let offset ← offset.mapM (resolveExpr fuel limitCtx)
        let allParts := initialParts ++ resolvedRecursive
        let orderBy ← compoundOrder fuel allParts orderBy
        pure (.query (.mk true [] (Body.ofParts allParts) orderBy limit offset) (some visible),
          SourceFrame.ofColumns visible none sourceColumns)
      else
        let (resolved, columns) ← resolveQuery fuel inner body
        let names ← if columnNames.isEmpty then pure (uniqueNames (columns.map (·.name)))
          else if columnNames.length != columns.length then
            throw (.refused ("table " ++ tableName ++ " has " ++ toString columns.length ++
              " values for " ++ toString columnNames.length ++ " columns"))
          else pure columnNames
        pure (.query resolved (some visible),
          SourceFrame.ofColumns visible none ((names.zip columns).map fun (columnName, column) =>
            ⟨columnName, column.affinity, column.collation⟩))

end


/-- Depth enough for the lookup of any statement the store reads. -/
def lookupDepth : Nat := 100000

/-- Runs a lookup from nothing noted, failing with the last failure noted. -/
def Lookup.finish {α : Type} (lookup : Lookup α) : Except StoreError α := do
  let (result, state) ← lookup.run ⟨none, [], []⟩
  match state.noted with
  | some error => throw error
  | none => pure result

/-- Looks up the names of one expression, failing with the last failure noted. -/
def resolveIn (ctx : Context) (e : Expr) : Except StoreError Expr :=
  (resolveExpr lookupDepth ctx e).finish

/-- Looks up the names of a list of expressions, stopping after the first that fails. -/
def resolveListIn (ctx : Context) (items : List Expr) : Except StoreError (List Expr) :=
  items.mapM (resolveIn ctx)

/-- Looks up the names of a query, failing with the last failure noted. -/
def resolveQueryIn (ctx : Context) (query : Query) :
    Except StoreError (Query × List ResultColumn) :=
  (resolveQuery lookupDepth ctx query).finish

/-- The collation faults met while looking for the collation of a call among its arguments: an
unknown collation is a fault and the search goes on, a known one ends it. -/
def argumentFaults : List Expr → List StoreError
  | [] => []
  | argument :: rest =>
    match argument.collation? with
    | some (.ok _) => []
    | some (.error unknown) => .noSuchCollation unknown :: argumentFaults rest
    | none => argumentFaults rest

/-- The fault of a comparison's collation, if it names an unknown one. -/
def collationFault : Option (Except String Collation) → List StoreError
  | some (.error unknown) => [.noSuchCollation unknown]
  | _ => []

/-- Whether a call needs the collation of its arguments. -/
def needsCollation (functionName : String) (count : Nat) : Bool :=
  let key := lowerName functionName
  key == "nullif" || ((key == "min" || key == "max") && 2 ≤ count)

namespace Expr

/-- The faults met while making the code of an expression, in order. `single` says whether one
value is needed where the expression stands. -/
def faults (single : Bool) (e : Expr) : List StoreError :=
  match e with
  | .integer text => if Eval.hexTooBig text false then [.hexTooBig text] else []
  | .unary .negate (.integer text) =>
    if Eval.hexTooBig text true then [.hexTooBig ("-" ++ text)] else []
  | .unary _ operand | .isNull operand | .notNull operand | .cast operand _
  | .collate operand _ => operand.faults true
  | .binary op left right =>
    if op.isComparison then
      let lists := left.width != 1
      let pairFaults : List StoreError := match left, right with
        | .vector lefts, .vector rights =>
          ((lefts.zip rights).map fun (l, r) => collationFault (comparisonCollation l r)).flatten
        | _, _ => []
      left.faults (!lists) ++ right.faults (!lists) ++
        (if lists then pairFaults else collationFault (comparisonCollation left right))
    else left.faults true ++ right.faults true
  | .between operand low high =>
    let lists := operand.width != 1
    operand.faults (!lists) ++ low.faults (!lists) ++
      (if lists then [] else collationFault (comparisonCollation operand low)) ++
      high.faults (!lists) ++
      (if lists then [] else collationFault (comparisonCollation operand high))
  | .inList operand items =>
    if operand.width != 1 then [.rowValueMisused]
    else
      let itemFaults := (items.attach.map fun ⟨item, _⟩ => item.faults true).flatten
      let own := if operand.collation?.isSome then collationFault operand.collation? else []
      if items.length ≤ 2 || !(items.all isConstant) then operand.faults true ++ own ++ itemFaults
      else own ++ itemFaults ++ operand.faults true
  | .call functionName _ arguments =>
    (if needsCollation functionName arguments.length then argumentFaults arguments else []) ++
      (arguments.attach.map fun ⟨argument, _⟩ => argument.faults true).flatten
  | .choose condition yes no => condition.faults true ++ yes.faults true ++ no.faults true
  | .vector items =>
    if single then [.rowValueMisused]
    else (items.attach.map fun ⟨item, _⟩ => item.faults true).flatten
  | .subquery query =>
    if single && query.width != 1 then
      [.refused ("sub-select returns " ++ toString query.width ++ " columns - expected 1")]
    else []
  | _ => []
termination_by sizeOf e
decreasing_by
  all_goals simp_wf
  all_goals first
    | omega
    | have := List.sizeOf_lt_of_mem ‹_›; omega

/-- Whether an expression reads the row: it names a column. -/
def readsRow : Expr → Bool
  | .column .. | .proposed _ | .name .. => true
  | .unary _ operand | .isNull operand | .notNull operand | .cast operand _
  | .collate operand _ => operand.readsRow
  | .binary _ left right => left.readsRow || right.readsRow
  | .between operand low high => operand.readsRow || low.readsRow || high.readsRow
  | .inList operand items => operand.readsRow || items.attach.any fun ⟨item, _⟩ => item.readsRow
  | .call _ _ arguments => arguments.attach.any fun ⟨argument, _⟩ => argument.readsRow
  | .choose condition yes no => condition.readsRow || yes.readsRow || no.readsRow
  | .vector items => items.attach.any fun ⟨item, _⟩ => item.readsRow
  | _ => false
termination_by e => sizeOf e

/-- Whether an expression calls an aggregate function, so that a query with it reads every row it
keeps before giving one. -/
def usesAggregate (e : Expr) : Bool :=
  match e with
  | .callStar _ => true
  | .call functionName _ arguments =>
    callee functionName arguments.length == .aggregate ||
      arguments.attach.any fun ⟨argument, _⟩ => argument.usesAggregate
  | .unary _ operand | .isNull operand | .notNull operand | .cast operand _
  | .collate operand _ => operand.usesAggregate
  | .binary _ left right => left.usesAggregate || right.usesAggregate
  | .between operand low high => operand.usesAggregate || low.usesAggregate || high.usesAggregate
  | .inList operand items =>
    operand.usesAggregate || items.attach.any fun ⟨item, _⟩ => item.usesAggregate
  | .choose condition yes no => condition.usesAggregate || yes.usesAggregate || no.usesAggregate
  | .vector items => items.attach.any fun ⟨item, _⟩ => item.usesAggregate
  | _ => false
termination_by sizeOf e
decreasing_by
  all_goals simp_wf
  all_goals first
    | omega
    | have := List.sizeOf_lt_of_mem ‹_›; omega

/-- The calls of an expression that are computed once before a statement visits its rows: calls
of functions that always give the same result, on arguments that do not read the row. -/
def fixedCalls (e : Expr) : List Expr :=
  match e with
  | .unary _ operand | .isNull operand | .notNull operand | .cast operand _
  | .collate operand _ => operand.fixedCalls
  | .binary _ left right => left.fixedCalls ++ right.fixedCalls
  | .between operand low high => operand.fixedCalls ++ low.fixedCalls ++ high.fixedCalls
  | .inList operand items =>
    operand.fixedCalls ++ (items.attach.map fun ⟨item, _⟩ => item.fixedCalls).flatten
  | .call functionName _ arguments =>
    if !e.readsRow && isDeterministic functionName then [e]
    else (arguments.attach.map fun ⟨argument, _⟩ => argument.fixedCalls).flatten
  | .choose condition yes no => condition.fixedCalls ++ yes.fixedCalls ++ no.fixedCalls
  | .vector items => (items.attach.map fun ⟨item, _⟩ => item.fixedCalls).flatten
  | _ => []
termination_by sizeOf e
decreasing_by
  all_goals simp_wf
  all_goals first
    | omega
    | have := List.sizeOf_lt_of_mem ‹_›; omega

end Expr

/-- The last fault of a list, if any. -/
def lastFault (faults : List StoreError) : Except StoreError Unit :=
  match faults.getLast? with
  | some fault => .error fault
  | none => .ok ()

end SheetExport.Store.Sql
