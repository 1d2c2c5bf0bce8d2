import SheetExport.Store.Sql.Access.Plan
import SheetExport.Store.Sql.Windows

/-!
# Running queries

A query whose names are looked up runs in a scope: the levels of the queries around it, the
parameters, and the database as it stood when its statement began. It gives its rows in order.

**Limits.** The limit of a query is computed before its rows, then its offset; each must read as
an integer once given numeric affinity, or the query fails with a datatype mismatch. A limit of
zero gives no row and computes no offset; a negative limit is no limit and a negative offset is
none. A compound query of `UNION`, `INTERSECT` or `EXCEPT` with no ordering computes its limit
after its parts.

**Rows of a part.** The terms of the condition that read nothing of the part (and call no function
whose value may change) are tested once, before any row: when one fails, no row is read. A part
whose sources are joined without right or full joins reads them in nested loops in the order its
plan chooses, each source's rows in the order its loop reads them: a table in row-id order (a
table without row id in the order of its primary key) or in the order of an index, forward or
backward, and a query in `FROM` by running it. Every other term of the condition, and of the
conditions of inner joins, is tested in the innermost loop of the sources it reads. A left join
keeps a combination that meets no row of its source, with NULLs for it. A part with a right or
full join reads its sources in the order written, and adds, after all others, the rows of the
right side that met no combination.

**Groups.** A query with `GROUP BY` computes its keys in the order the rows are read and groups
rows of equal keys: in the order they come when the plan gives them in groups, and otherwise in
the order of the keys, each in the direction the ordering gives the term at its place when the
ordering has as many terms. A query with aggregates and no `GROUP BY` is one group, also when no
row is read. The columns an aggregate query reads outside its aggregates come from one row of
the group: the first, or, when it calls `min` or `max`, the last row that changed the last of
those calls. `HAVING` then keeps the groups.

**Window functions.** A part that calls window functions reads its rows in the order of the
window computed first, computes the windows over its rows (or over its groups whose `HAVING`
holds) as `applyWindows` says, and then computes its results in the order the windows leave the
rows.

**Order.** A part that keeps only distinct rows keeps the first of equal rows, compared in the
collations of its result columns. Ordering is stable; NULL comes first in an ascending term and
last in a descending one unless the term says. A part that neither sorts nor groups stops once
it has the rows asked for.

**Compounds.** `UNION ALL` puts the rows of its parts one after the other. `UNION`, `INTERSECT`
and `EXCEPT` work on the distinct rows of their left side, in the order of all their columns;
between equal rows the one kept is the last without an ordering and the first with one.

**Recursive common tables.** The rows of the parts that do not read the table go into a queue,
and each row taken from the queue (the first, or the least in the ordering) is given and then
handed to the recursive parts, whose rows join the queue. With `UNION` a row already queued once
is not queued again.
-/

namespace SheetExport.Store.Sql

/-! ## Limits -/

/-- The integer a limit or an offset stands for: its value given numeric affinity must be an
integer. -/
def limitInteger (value : Value) : Except StoreError Int :=
  match value.withAffinity .numeric with
  | .integer n => .ok n
  | _ => .error .mismatch

/-- The rows a query passes over before those it gives, and how many it gives at most. -/
structure Slice where
  offset : Nat
  limit : Option Nat

namespace Slice

/-- No limit and no offset. -/
def whole : Slice := ⟨0, none⟩

/-- How many rows a query must compute to give a slice, or `need` rows of it. -/
def wanted (slice : Slice) (need : Option Nat) : Option Nat :=
  match slice.limit, need with
  | some limit, some need => some (slice.offset + min limit need)
  | some limit, none => some (slice.offset + limit)
  | none, some need => some (slice.offset + need)
  | none, none => none

/-- The rows of a slice, and at most `need` of them. -/
def apply {α : Type} (slice : Slice) (need : Option Nat) (rows : List α) : List α :=
  let rows := rows.drop slice.offset
  let rows := match slice.limit with
    | some limit => rows.take limit
    | none => rows
  match need with
  | some need => rows.take need
  | none => rows

end Slice

/-- The slice of a query's limit and offset, computed in the scope around the query; none for a
limit of zero, whose offset is not computed. -/
def sliceOf (run : QueryRunner) (scope : Scope) (limit offset : Option Expr) :
    Except StoreError (Option Slice) :=
  match limit with
  | none => .ok (some Slice.whole)
  | some limit => do
    let count ← limitInteger (← limit.eval run scope)
    if count == 0 then pure none
    else
      let skip ← match offset with
        | some offset => do pure (← limitInteger (← offset.eval run scope)).toNat
        | none => pure 0
      pure (some ⟨skip, if count < 0 then none else some count.toNat⟩)

/-! ## Ordering and comparing rows -/

/-- Whether two rows are equal in every column, each compared in its collation. -/
def sameValues (collations : List Collation) (a b : List Value) : Bool :=
  a.length == b.length &&
    ((a.zip b).zipIdx.all fun ((x, y), index) =>
      Value.compareWith (collations.getD index .binary) x y == .eq)

/-- The distinct rows of a list, in the order of all their columns: of equal rows, the first or
the last. -/
def distinctSorted (collations : List Collation) (firstWins : Bool) (rows : List (List Value)) :
    List (List Value) :=
  let keys := collations.map SortKey.ascending
  (keyRuns keys (sortEntries keys (rows.map fun row => (row, row)))).filterMap fun (_, run) =>
    if firstWins then run.head? else run.getLast?

/-- The rows a compound operator gives from the rows of its left side and of its right part. -/
def combineRows (collations : List Collation) (firstWins : Bool) :
    CompoundOp → List (List Value) → List (List Value) → List (List Value)
  | .unionAll, left, right => left ++ right
  | .union, left, right => distinctSorted collations firstWins (left ++ right)
  | .except, left, right =>
    (distinctSorted collations firstWins left).filter fun row =>
      !right.any (sameValues collations row)
  | .intersect, left, right =>
    (distinctSorted collations firstWins left).filter fun row =>
      right.any (sameValues collations row)

/-! ## Sources -/

/-- The rows of a table in the order a scan reads them: row-id order, or the order of the primary
key for a table without row id. -/
def scanOrder (table : Table) : List Row :=
  if table.spec.withoutRowId then
    let keys := table.spec.primaryKey.map fun (_, collation) => SortKey.ascending collation
    let key (row : Row) : List Value := table.spec.primaryKey.map fun (index, _) => row.get index
    (sortEntries keys (table.rows.map fun row => (key row, row))).map (·.2)
  else table.rows

/-- Rows of values as rows of a source, numbered from one. -/
def numberedRows (rows : List (List Value)) : List Row :=
  rows.zipIdx.map fun (values, index) => ⟨index + 1, values⟩

/-- The rows a function of rows gives, its arguments evaluated against the combination of rows of
the sources before it. -/
def functionRows (run : QueryRunner) (scope : Scope) (combination : Combination)
    (name : TableName) (arguments : List Expr) : Except StoreError (List Row) := do
  let inner := scope.enter ⟨combination, [], []⟩
  if name.name == searchSource then
    searchSourceRows scope.db (← arguments.mapM (·.eval run inner))
  else
    let some function := TableFunction.ofName? name.name | return []
    let values ← arguments.mapM (·.eval run inner)
    pure (numberedRows (← TableFunction.rows scope.db function values))

/-- The rows of one source of a query; a query in `FROM` computes at most `need` rows, and a
function of rows reads no row of the sources before it. -/
def sourceRows (run : QueryRunner) (scope : Scope) (need : Option Nat) :
    Source → Except StoreError (List Row)
  | .table name =>
    let table := match name.schema with
      | some schema => scope.db.tableIn? schema name.name
      | none => scope.db.table? name.name
    .ok ((table.map scanOrder).getD [])
  | .query query _ => do pure (numberedRows (← run scope query need))
  | .recursion _ => .ok (numberedRows scope.recursion)
  | .function name arguments => functionRows run scope [] name arguments

/-- Joins the rows of one more source, the one at `position`, to the combinations of the sources
before it, by the kind of its join and its condition. -/
def joinRows (run : QueryRunner) (scope : Scope) (kind : JoinKind) (condition : Option Expr)
    (position : Nat) (rows : List Row) (combinations : List Combination) :
    Except StoreError (List Combination) := do
  let meets (combination : Combination) (row : Row) : Except StoreError Bool :=
    match condition with
    | some e => e.holds run (scope.enter ⟨combination ++ [some row], [], []⟩)
    | none => pure true
  let matched ← combinations.mapM fun combination => do
    pure (combination, ← rows.filterM (meets combination))
  let joined := matched.flatMap fun (combination, found) =>
    if found.isEmpty && (kind == .left || kind == .full) then [combination ++ [none]]
    else found.map fun row => combination ++ [some row]
  if kind == .right || kind == .full then
    let unmatched := rows.filter fun row => !matched.any fun (_, found) => found.contains row
    pure (joined ++ unmatched.map fun row => List.replicate position none ++ [some row])
  else pure joined

/-! ## Parts of a query -/

/-- What a part of a query gives for a row it keeps: its result values, and the values of the
terms of its ordering. -/
structure Output where
  values : List Value
  keys : List Value

/-- Gives the outputs of candidates in order, passing over those equal to an output given before
when the part is distinct, until `wanted` outputs are given. -/
def collectOutputs {α : Type} (produce : α → Except StoreError (Option Output))
    (distinct : Option (List Collation)) (wanted : Option Nat) :
    List α → List Output → Except StoreError (List Output)
  | [], given => .ok given.reverse
  | candidate :: rest, given =>
    if wanted.any (· ≤ given.length) then .ok given.reverse
    else
      match produce candidate with
      | .error error => .error error
      | .ok none => collectOutputs produce distinct wanted rest given
      | .ok (some output) =>
        let fresh := match distinct with
          | some collations => !given.any fun earlier => sameValues collations earlier.values output.values
          | none => true
        collectOutputs produce distinct wanted rest (if fresh then output :: given else given)

/-- The value of a term of an ordering for a row: a result column by its position, or an
expression of the row. -/
def orderValue (run : QueryRunner) (scope : Scope) (values : List Value) (e : Expr) :
    Except StoreError Value :=
  match e.skipCollate with
  | .result index => .ok (values.getD index .null)
  | _ => e.eval run scope

/-- The collations of the result columns of a part, where they have one. -/
def Core.resultCollations : Core → List (Option Collation)
  | .select _ result .. => result.filterMap fun
    | .value e _ _ => some (e.collation?.bind (·.toOption))
    | _ => none
  | .values rows => ((rows.head?).getD []).map fun e => e.collation?.bind (·.toOption)

/-- The collation of each result column of the parts of a compound: that of the first part whose
column has one. -/
def partCollations (cores : List Core) : List Collation :=
  let each := cores.map Core.resultCollations
  let width := ((each.head?).map List.length).getD 0
  (List.range width).map fun index =>
    (each.findSome? fun collations => (collations[index]?).bind id).getD .binary

/-- The key a term of an ordering sorts by: a `COLLATE` written on it, else the collation of the
result column it names, else its own. -/
def orderKey (resultCollations : List Collation) : OrderTerm → SortKey
  | .mk e descending nullsFirst =>
    let collation := match e, e.skipCollate with
      | .collate _ written, _ => (Collation.ofName? written).getD .binary
      | _, .result index => resultCollations.getD index .binary
      | _, _ => usedCollation e.collation?
    ⟨collation, descending, nullsFirst.getD !descending⟩

/-- Whether a part reads the row a recursive common table is extended from. -/
def Core.readsQueue : Core → Bool
  | .select _ _ sources .. => sources.any fun
    | .mk _ _ (.recursion _) _ _ => true
    | _ => false
  | .values _ => false

/-- The names of functions whose value may change while a statement runs. -/
def isConstantFunction (functionName : String) : Bool :=
  isDeterministic functionName &&
    ! ["date", "time", "datetime", "julianday", "unixepoch", "strftime"].contains
      (lowerName functionName)

/-- Whether a term of a condition may be tested once before any row of its query is read: it
reads no source of the query, holds no query, and calls only functions whose value cannot
change. -/
def Expr.hoistable (fuel : Nat) (e : Expr) : Bool :=
  match fuel with
  | 0 => false
  | fuel + 1 =>
    let go := Expr.hoistable fuel
    match e with
    | .column address _ _ _ => address.level != 0
    | .aggregate .. | .subquery _ | .existence _ | .inQuery .. | .clock _ | .callStar _
    | .result _ | .proposed _ | .name .. => false
    | .call functionName _ arguments => isConstantFunction functionName && arguments.all go
    | .unary _ operand | .isNull operand | .notNull operand | .cast operand _
    | .collate operand _ => go operand
    | .binary _ left right => go left && go right
    | .between operand low high => go operand && go low && go high
    | .inList operand items => go operand && items.all go
    | .choose condition yes no => go condition && go yes && go no
    | .vector items => items.all go
    | _ => true

/-- Whether every condition holds, tested in order until one does not. -/
def allHold (run : QueryRunner) (scope : Scope) : List Expr → Except StoreError Bool
  | [] => .ok true
  | term :: rest => do
    if ← term.holds run scope then allHold run scope rest else pure false

/-- One of the nested loops that read the sources of a part: the source it reads, its rows in the
order it reads them (or how a function of rows gives them for the rows placed before it), whether
it keeps a combination that meets none of its rows (with NULLs for it) and the condition a row
must meet to count as met, and the terms of the condition tested once it has placed its row. -/
structure ReadLoop where
  source : Nat
  rows : List Row
  produce : Option (Combination → Except StoreError (List Row))
  outer : Bool
  on : Option Expr
  terms : List Expr

/-- Goes through the combinations the nested loops reach, the first loop outermost, handing each
to `visit`, until `visit` says to stop: the state, and whether it stopped. A loop that keeps
unmet combinations places its NULL row once no row met the combination, and tests its terms on
that row too. -/
def walkLoops {σ : Type} (run : QueryRunner) (scope : Scope)
    (visit : σ → Combination → Except StoreError (σ × Bool)) :
    List ReadLoop → Combination → σ → Except StoreError (σ × Bool)
  | [], combination, state => visit state combination
  | loop :: rest, combination, state => do
    let step (acc : σ × Bool × Bool) (row : Row) : Except StoreError (σ × Bool × Bool) := do
      let (state, stopped, _) := acc
      if stopped then return acc
      let placed := combination.set loop.source (some row)
      let meets ← match loop.on with
        | some on => if loop.outer then on.holds run (scope.enter ⟨placed, [], []⟩) else pure true
        | none => pure true
      if !meets then return acc
      if !(← allHold run (scope.enter ⟨placed, [], []⟩) loop.terms) then return (state, false, true)
      let (state, stopped) ← walkLoops run scope visit rest placed state
      pure (state, stopped, true)
    let rows ← match loop.produce with
      | some produce => produce combination
      | none => pure loop.rows
    let (state, stopped, met) ← rows.foldlM step (state, false, false)
    if stopped || met || !loop.outer then return (state, stopped)
    let placed := combination.set loop.source none
    if !(← allHold run (scope.enter ⟨placed, [], []⟩) loop.terms) then return (state, false)
    walkLoops run scope visit rest placed state

/-- How the combinations of rows of a part's sources are gone through: by nested loops over a
part of `width` sources; by joining the sources in the order written, each with its kind of join,
its condition and its rows, and testing each combination on the terms given; or not at all. -/
inductive Walk where
  | nested (loops : List ReadLoop) (width : Nat)
  | listed (sources : List (JoinKind × Option Expr × List Row)) (terms : List Expr)
  | empty

/-- Hands the combinations of a walk to `visit` in order, until it says to stop. -/
def Walk.fold {σ : Type} (run : QueryRunner) (scope : Scope) (walk : Walk)
    (visit : σ → Combination → Except StoreError (σ × Bool)) (state : σ) :
    Except StoreError σ :=
  match walk with
  | .nested loops width =>
    Prod.fst <$> walkLoops run scope visit loops (List.replicate width none) state
  | .empty => pure state
  | .listed sources terms => do
    let combinations ← sources.zipIdx.foldlM (fun combinations ((kind, on, rows), position) =>
      joinRows run scope kind on position rows combinations) [[]]
    Prod.fst <$> combinations.foldlM (fun (state, stopped) combination => do
      if stopped then return (state, true)
      if !(← allHold run (scope.enter ⟨combination, [], []⟩) terms) then return (state, false)
      visit state combination) (state, false)

/-- The level of a group of an aggregate query: the row its bare columns read, and the values of
its aggregates. -/
def GroupState.level (width : Nat) (calls : List Expr) (state : GroupState) :
    Except StoreError Level := do
  let values ← (calls.zip state.tallies).mapM fun (call, tally) =>
    match aggregateName? call with
    | some functionName => tally.result functionName
    | none => pure .null
  pure ⟨state.bare.getD (List.replicate width none), values, []⟩

/-- The levels of the groups of an aggregate query whose `HAVING` holds. -/
def keptGroups (run : QueryRunner) (scope : Scope) (width : Nat) (calls : List Expr)
    (having : Option Expr) (groups : List GroupState) : Except StoreError (List Level) :=
  groups.filterMapM fun state => do
    let level ← state.level width calls
    let kept ← match having with
      | some having => having.holds run (scope.enter level)
      | none => pure true
    pure (if kept then some level else none)

/-- Runs the groups of an aggregate query: the outputs of the groups whose `HAVING` holds, until
`wanted` of them. -/
def groupOutputs (run : QueryRunner) (scope : Scope) (width : Nat) (calls : List Expr)
    (having : Option Expr) (results : List Expr) (orderBy : List OrderTerm)
    (distinct : Option (List Collation)) (wanted : Option Nat) (groups : List GroupState) :
    Except StoreError (List Output) :=
  let produce (state : GroupState) : Except StoreError (Option Output) := do
    let groupScope := scope.enter (← state.level width calls)
    let kept ← match having with
      | some having => having.holds run groupScope
      | none => pure true
    if !kept then return none
    let row ← results.mapM (·.eval run groupScope)
    let keys ← orderBy.mapM fun | .mk e _ _ => orderValue run groupScope row e
    pure (some ⟨row, keys⟩)
  collectOutputs produce distinct wanted groups []

/-- The groups of an aggregate query, from the combinations of a walk: one group of all of them
without `GROUP BY`; otherwise the runs of equal keys when the walk gives rows in their groups, and
else the runs of the rows sorted by their keys, each key in the direction of the ordering's term
at its place when the ordering has as many terms, and ascending otherwise. -/
def groupStates (run : QueryRunner) (scope : Scope) (walk : Walk) (calls groupBy : List Expr)
    (orderBy : List OrderTerm) (groupsInOrder : Bool) : Except StoreError (List GroupState) := do
  if groupBy.isEmpty then
    let state ← walk.fold run scope (fun state combination => do
      pure (← state.add run scope calls combination, false)) (GroupState.start calls)
    pure [state]
  else
    let keyed ← walk.fold run scope (fun keyed combination => do
      let rowScope := scope.enter ⟨combination, [], []⟩
      pure ((← groupBy.mapM (·.eval run rowScope), combination) :: keyed, false)) []
    let keyed := keyed.reverse
    let directions := if orderBy.length == groupBy.length then
        orderBy.map fun | .mk _ descending _ => descending
      else groupBy.map fun _ => false
    let keys := (groupBy.zip directions).map fun (e, descending) =>
      (⟨usedCollation e.collation?, descending, !descending⟩ : SortKey)
    let groups := (keyRuns keys (if groupsInOrder then keyed else sortEntries keys keyed)).map (·.2)
    groups.mapM fun rows =>
      rows.foldlM (fun state combination => state.add run scope calls combination)
        (GroupState.start calls)

/-- Runs one part of a query through a walk of its combinations, once the terms of its condition
that read none of its rows hold: its outputs, unsorted, at most `wanted` of them. A part that
computes window functions computes them over its rows, or over its groups whose `HAVING` holds,
before its results; its rows then come in the order the windows leave them. -/
def runSelect (run : QueryRunner) (scope : Scope) (distinct : Bool) (results : List Expr)
    (walk : Walk) (width : Nat) (fixed : List Expr) (groupBy : List Expr)
    (having : Option Expr) (calls windows : List Expr) (orderBy : List OrderTerm)
    (groupsInOrder : Bool) (wanted : Option Nat) : Except StoreError (List Output) := do
  let fixedHold ← allHold run (scope.enter ⟨List.replicate width none, [], []⟩) fixed
  let walk := if fixedHold then walk else .empty
  let rowScope (combination : Combination) : Scope := scope.enter ⟨combination, [], []⟩
  let collations := results.map fun e => usedCollation e.collation?
  let distinctBy := if distinct then some collations else none
  if !windows.isEmpty then
    let levels ← if groupBy.isEmpty && calls.isEmpty then
        (·.reverse) <$> walk.fold run scope (fun levels combination =>
          pure ((⟨combination, [], []⟩ : Level) :: levels, false)) []
      else
        keptGroups run scope width calls having
          (← groupStates run scope walk calls groupBy (windowReadOrder windows) groupsInOrder)
    let levels ← applyWindows run scope windows levels
    let produce (level : Level) : Except StoreError (Option Output) := do
      let inner := scope.enter level
      let values ← results.mapM (·.eval run inner)
      let keys ← orderBy.mapM fun | .mk e _ _ => orderValue run inner values e
      pure (some ⟨values, keys⟩)
    collectOutputs produce distinctBy wanted levels []
  else if groupBy.isEmpty && calls.isEmpty then
    let visit (given : List Output) (combination : Combination) :
        Except StoreError (List Output × Bool) := do
      if wanted.any (· ≤ given.length) then return (given, true)
      let scope := rowScope combination
      let values ← results.mapM (·.eval run scope)
      let keys ← orderBy.mapM fun | .mk e _ _ => orderValue run scope values e
      let fresh := match distinctBy with
        | some collations => !given.any fun earlier => sameValues collations earlier.values values
        | none => true
      let given := if fresh then ⟨values, keys⟩ :: given else given
      pure (given, wanted.any (· ≤ given.length))
    pure (← walk.fold run scope visit []).reverse
  else
    groupOutputs run scope width calls having results orderBy distinctBy wanted
      (← groupStates run scope walk calls groupBy orderBy groupsInOrder)

/-- The rows of a source in the order a loop reads them: as the source keeps them, or sorted by
the parts of an index key, equal keys in stored order; reversed for a loop read backward. -/
def orderedRows (run : QueryRunner) (scope : Scope) (order : Access.RowOrder) (backward : Bool)
    (rows : List Row) : Except StoreError (List Row) := do
  let sorted ← match order with
    | .stored => pure rows
    | .keyed keys => do
      let keyed ← rows.mapM fun row => do
        let values ← keys.mapM fun key => match key.target with
          | .column index => pure (row.get index)
          | .rowId => pure (Value.integer row.id)
          | .expr e => e.eval run (scope.enter ⟨[some row], [], []⟩)
        pure (values, row)
      let sortKeys := keys.map fun key =>
        (⟨key.collation, key.descending, !key.descending⟩ : SortKey)
      pure ((sortEntries sortKeys keyed).map (·.2))
  pure (if backward then sorted.reverse else sorted)

/-- How many times a part reruns the query of its first source for more rows. -/
def sourceRetries : Nat := 40

/-- Runs a part, its first loop's rows computed by `attempt` for at most a number of rows: asked
for as many rows as the part needs, and asked again for twice as many while the part needs more
and the source may have them. -/
def retryLazily (attempt : Option Nat → Except StoreError (List Output × Bool)) (count : Nat) :
    Nat → Nat → Except StoreError (List Output)
  | 0, need => Prod.fst <$> attempt (some need)
  | fuel + 1, need => do
    let (outputs, exhausted) ← attempt (some need)
    if exhausted || count ≤ outputs.length then pure outputs
    else retryLazily attempt count fuel (2 * need)

/-- Runs one part of a query: its outputs, unsorted, at most `wanted` of them. A part with a plan
reads its sources in nested loops in the plan's order, each source's rows in the order of its
loop; each term of the condition, and of the conditions of inner joins, is tested in the
innermost loop of the sources it reads, or once before any row when it reads none and may be.
A first loop that reads a query in `FROM` as it gives its rows asks it only for as many rows as
the part needs. A part with no plan joins its sources in the order written. -/
def runCore (run : QueryRunner) (scope : Scope) (core : Core) (orderBy : List OrderTerm)
    (limit : Option Expr) (wanted : Option Nat) : Except StoreError (List Output) :=
  match core with
  | .values rows =>
    let produce (row : List Expr) : Except StoreError (Option Output) := do
      let inner := scope.enter ⟨[], [], []⟩
      let values ← row.mapM (·.eval run inner)
      let keys ← orderBy.mapM fun | .mk e _ _ => orderValue run inner values e
      pure (some ⟨values, keys⟩)
    collectOutputs produce none (if orderBy.isEmpty then wanted else none) rows []
  | .select distinct result sources condition groupBy having calls windows => do
    let results := result.filterMap fun
      | .value e _ _ => some e
      | _ => none
    let width := sources.length
    let conjuncts := (condition.map Expr.conjuncts).getD []
    let settings : Access.Settings :=
      ⟨scope.session.reverseUnordered, scope.session.automaticIndex⟩
    let readOrder := if windows.isEmpty then orderBy else windowReadOrder windows
    match Access.planCore scope.db settings core readOrder
      (if windows.isEmpty then limit else none) with
    | none =>
      let (fixed, varying) :=
        if sources.isEmpty then (conjuncts, []) else conjuncts.partition (Expr.hoistable 10000)
      let joined ← sources.mapM fun | .mk kind _ source on _ => do
        pure (kind, on, ← sourceRows run scope none source)
      runSelect run scope distinct results (.listed joined varying) width fixed groupBy having
        calls windows orderBy false (if orderBy.isEmpty then wanted else none)
    | some plan =>
      let wanted := if orderBy.isEmpty || (windows.isEmpty && plan.ordersRows) then wanted
        else none
      let outer := Access.outerSources sources condition
      let ons := sources.map fun | .mk _ _ _ on _ => on
      let joining := (ons.zipIdx).flatMap fun (on, position) =>
        if outer.contains position then [] else (on.map Expr.conjuncts).getD []
      let (fixed, varying) := (conjuncts ++ joining).partition (Expr.hoistable 10000)
      let placeOf (source : Nat) : Nat := plan.steps.findIdx (·.source == source)
      let levelOf (term : Expr) : Nat :=
        let used := Access.Expr.usage 10000 0 term
        ((List.range width).filter used.testBit).foldl (fun level source =>
          max level (placeOf source)) 0
      let rowsOf (step : Access.Step) (need : Option Nat) : Except StoreError (List Row) :=
        match sources[step.source]? with
        | some (.mk _ _ (.function ..) _ _) => pure []
        | some (.mk _ _ source _ _) => do
          orderedRows run scope step.order step.backward (← sourceRows run scope need source)
        | none => pure []
      let loopOf (level : Nat) (step : Access.Step) (rows : List Row) : ReadLoop :=
        { source := step.source
          rows := rows
          produce := match sources[step.source]? with
            | some (.mk _ _ (.function name arguments) _ _) =>
              some fun combination => functionRows run scope combination name arguments
            | _ => none
          outer := outer.contains step.source
          on := if outer.contains step.source then (ons[step.source]?).bind id else none
          terms := varying.filter (levelOf · == level) }
      let others ← (plan.steps.drop 1).mapM (rowsOf · none)
      let attempt (need : Option Nat) : Except StoreError (List Output × Bool) := do
        let first ← match plan.steps.head? with
          | some step => rowsOf step need
          | none => pure []
        let loops := ((plan.steps.zip (first :: others)).zipIdx).map fun ((step, rows), level) =>
          loopOf level step rows
        let outputs ← runSelect run scope distinct results (.nested loops width) width fixed
          groupBy having calls windows orderBy plan.groupsInOrder wanted
        pure (outputs, need.all (first.length < ·))
      let lazy := groupBy.isEmpty && calls.isEmpty && windows.isEmpty && match plan.steps.head? with
        | some step =>
          !step.backward && (match step.order with
            | .stored => true
            | .keyed _ => false) && match sources[step.source]? with
            | some (.mk _ _ (.query ..) _ _) => true
            | _ => false
        | none => false
      match wanted with
      | some count =>
        if lazy then retryLazily attempt count sourceRetries (max count 1)
        else Prod.fst <$> attempt none
      | none => Prod.fst <$> attempt none

/-- Sorts outputs by the values of their ordering terms; equal outputs keep their order. -/
def sortOutputs (keys : List SortKey) (outputs : List Output) : List Output :=
  outputs.mergeSort fun a b => compareKeys keys a.keys b.keys != .gt

/-! ## Queries -/

/-- Whether a compound query computes its limit before its parts: when it has an ordering, or when
its last operator is `UNION ALL` and the same holds of its left side. -/
def Body.limitFirst : Body → Bool
  | .core _ => true
  | .compound left .unionAll _ => left.limitFirst
  | .compound .. => false

/-- The rows of the parts of a compound, combined from the left; with only `UNION ALL`, at most
`wanted` rows. -/
def runParts (run : QueryRunner) (scope : Scope) (firstWins : Bool) (wanted : Option Nat) :
    List Core → List (Option CompoundOp × Core) → List (List Value) →
      Except StoreError (List (List Value))
  | _, [], rows => .ok rows
  | seen, (op, core) :: rest, rows => do
    let remaining := wanted.map (· - rows.length)
    if remaining == some 0 then return rows
    let outputs ← runCore run scope core [] none (if op.isNone || op == some .unionAll then remaining else none)
    let partRows := outputs.map (·.values)
    let cores := seen ++ [core]
    let combined := match op with
      | some op => combineRows (partCollations cores) firstWins op rows partRows
      | none => partRows
    runParts run scope firstWins wanted cores rest combined

/-- Inserts a row into a queue ordered by keys, after every row whose keys are not greater. -/
def enqueue (keys : List SortKey) (entry : List Value × List Value) :
    List (List Value × List Value) → List (List Value × List Value)
  | [] => [entry]
  | first :: rest =>
    if compareKeys keys entry.1 first.1 == .lt then entry :: first :: rest
    else first :: enqueue keys entry rest

/-- How many rows a recursive common table takes from its queue at most. -/
def recursionSteps : Nat := 1000000

/-- Runs a recursive common table from the rows in its queue: takes the first row, gives it
unless the offset passes over it, and hands it to the recursive parts, whose rows join the queue;
stops when the queue is empty or `wanted` rows are given. -/
def recurse (run : QueryRunner) (scope : Scope) (recursive : List (Option CompoundOp × Core))
    (keysOf : List Value → List Value) (keys : List SortKey) (ordered : Bool)
    (distinct : Option (List Collation)) (offset : Nat) (wanted : Option Nat) :
    Nat → List (List Value × List Value) → List (List Value) → Nat → List (List Value) → Nat →
      Except StoreError (List (List Value))
  | 0, _, _, _, _, _ => .error (.refused "interrupted")
  | _, [], _, _, given, _ => .ok given.reverse
  | fuel + 1, (_, row) :: queue, queued, skipped, given, count => do
    let (skipped, given, count) :=
      if skipped < offset then (skipped + 1, given, count) else (skipped, row :: given, count + 1)
    if wanted.any (· ≤ count) then return given.reverse
    let stepScope := { scope with recursion := [row] }
    let produced := (← recursive.mapM fun (_, core) => do
      pure ((← runCore run stepScope core [] none none).map (·.values))).flatten
    let (fresh, queued) := produced.foldl (fun (fresh, queued) row =>
      match distinct with
      | some collations =>
        if queued.any (sameValues collations row) then (fresh, queued)
        else (fresh ++ [row], row :: queued)
      | none => (fresh ++ [row], queued)) ([], queued)
    let queue := fresh.foldl (fun queue row =>
      if ordered then enqueue keys (keysOf row, row) queue else queue ++ [(keysOf row, row)]) queue
    recurse run scope recursive keysOf keys ordered distinct offset wanted fuel queue queued
      skipped given count

/-- Runs the query of a recursive common table. -/
def runRecursive (run : QueryRunner) (scope : Scope) (body : Body) (orderBy : List OrderTerm)
    (limit offset : Option Expr) (need : Option Nat) : Except StoreError (List (List Value)) := do
  let some slice ← sliceOf run scope limit offset | return []
  let parts := body.parts
  let setup := parts.takeWhile fun (_, core) => !core.readsQueue
  let recursive := parts.drop setup.length
  let cores := parts.map (·.2)
  let collations := partCollations cores
  let distinct := match parts.getLast? with
    | some (some .union, _) => some collations
    | _ => none
  let keys := orderBy.map (orderKey collations)
  let keysOf (row : List Value) : List Value := orderBy.map fun
    | .mk e _ _ => match e.skipCollate with
      | .result index => row.getD index .null
      | _ => .null
  let setupRows ← runParts run scope false none [] setup []
  let (fresh, queued) := setupRows.foldl (fun (fresh, queued) row =>
    match distinct with
    | some collations =>
      if queued.any (sameValues collations row) then (fresh, queued)
      else (fresh ++ [row], row :: queued)
    | none => (fresh ++ [row], queued)) ([], [])
  let ordered := !orderBy.isEmpty
  let queue := fresh.foldl (fun queue row =>
    if ordered then enqueue keys (keysOf row, row) queue else queue ++ [(keysOf row, row)]) []
  let given ← recurse run scope recursive keysOf keys ordered distinct slice.offset
    (slice.wanted need) recursionSteps queue queued 0 [] 0
  pure (Slice.apply ⟨0, slice.limit⟩ need given)

/-- Runs a query with a runner for the queries within it. -/
def runQueryWith (run : QueryRunner) : QueryRunner := fun scope query need =>
  match query with
  | .mk recursive _ body orderBy limit offset =>
    if recursive then runRecursive run scope body orderBy limit offset need
    else
      match body with
      | .core core => do
        let some slice ← sliceOf run scope limit offset | return []
        let outputs ← runCore run scope core orderBy limit (slice.wanted need)
        let collations := core.resultCollations.map (·.getD .binary)
        let outputs := if orderBy.isEmpty then outputs
          else sortOutputs (orderBy.map (orderKey collations)) outputs
        pure (slice.apply need (outputs.map (·.values)))
      | .compound .. => do
        let parts := body.parts
        let early ← if !orderBy.isEmpty || body.limitFirst then
            (some <$> sliceOf run scope limit offset) else pure none
        if let some none := early then return []
        let allUnionAll := parts.all fun (op, _) => op.isNone || op == some .unionAll
        let streaming := orderBy.isEmpty && allUnionAll
        let wanted := match early with
          | some (some slice) => if streaming then slice.wanted need else none
          | _ => none
        let rows ← runParts run scope (!orderBy.isEmpty) wanted [] parts []
        let collations := partCollations (parts.map (·.2))
        let rows := if orderBy.isEmpty then rows
          else
            let keys := orderBy.map (orderKey collations) ++
              (if allUnionAll then [] else collations.map SortKey.ascending)
            let keyed := rows.map fun row =>
              (orderBy.map (fun
                | .mk e _ _ => match e.skipCollate with
                  | .result index => row.getD index .null
                  | _ => .null) ++ (if allUnionAll then [] else row), row)
            (sortEntries keys keyed).map (·.2)
        match early with
        | some (some slice) => pure (slice.apply need rows)
        | _ =>
          let some slice ← sliceOf run scope limit offset | return []
          pure (slice.apply need rows)

/-- Runs a query, with queries nested at most `depth` deep within it. -/
def runQuery : Nat → QueryRunner
  | 0 => fun _ _ _ => .error (.refused "too many levels of nested queries")
  | depth + 1 => runQueryWith (runQuery depth)

/-- Runs the queries of a statement. -/
def queryRunner : QueryRunner := runQuery 1000

end SheetExport.Store.Sql
