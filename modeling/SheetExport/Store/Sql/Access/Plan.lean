import SheetExport.Store.Sql.Access.Path

/-!
# Plans of queries

The plan of one `SELECT` says in which order its sources are read, as nested loops, and how the
rows of each come: in the order the source keeps them, or in the order of an index key (an index
of the table, or one built for the query), forward or backward. It also says whether the rows come
grouped as `GROUP BY` asks, so that the groups need no sorting.

A left join whose right side the condition requires to have a row (`b.x = 1`, but not
`b.x IS NULL`) is planned as an inner join. The order asked for is the `ORDER BY`; for an
aggregate query the `GROUP BY`, or the argument of a lone `min` or `max`; and for `DISTINCT`
without `ORDER BY` the result columns, unless a unique index already makes the rows distinct.
With `reverse_unordered_selects`, a query that asks for no order reads every loop backward.
-/

namespace SheetExport.Store.Sql.Access

/-- How the rows of one source come as its loop reads them. -/
inductive RowOrder where
  /-- In the order the source keeps them. -/
  | stored
  /-- By the parts of an index key, rows with equal keys in stored order. -/
  | keyed (keys : List IndexKey)
  deriving Repr

/-- One loop of a plan: the source it reads, the order of its rows, and whether it reads them
backward. -/
structure Step where
  source : Nat
  order : RowOrder
  backward : Bool
  deriving Repr

/-- The plan of a query part: its loops from the outermost, whether the rows come in the groups
of its `GROUP BY`, whether they come in the order its `ORDER BY` asks, and the rows it is expected
to give. -/
structure Plan where
  steps : List Step
  groupsInOrder : Bool
  ordersRows : Bool
  rows : Estimate
  deriving Repr

/-- The choices of the connection that the plans follow. -/
structure Settings where
  reverseUnordered : Bool
  automaticIndex : Bool
  deriving Repr

/-- Whether a condition can only hold when the source at `source` has a row: some term joined by
`AND` (or the operand of a top-level `IS NOT NULL`) reads a column of it in a place where a NULL
makes the term NULL or false. -/
def impliesRowOf (source : Nat) (condition : Expr) : Bool :=
  let rec reads (fuel : Nat) (e : Expr) : Bool :=
    match fuel with
    | 0 => false
    | fuel + 1 =>
      match e with
      | .column address _ _ _ => address.level == 0 && address.source == source
      | .binary .and left right => reads fuel left && reads fuel right
      | .binary .or _ _ | .binary .is _ _ | .binary .isNot _ _ => false
      | .isNull _ | .notNull _ | .vector _ | .choose .. | .inList .. | .inQuery ..
      | .call .. | .callStar _ => false
      | .between operand _ _ => reads fuel operand
      | .binary _ left right => reads fuel left || reads fuel right
      | .unary _ operand | .cast operand _ | .collate operand _ => reads fuel operand
      | _ => false
  let rec top (fuel : Nat) (e : Expr) : Bool :=
    match fuel with
    | 0 => false
    | fuel + 1 =>
      match (unwrapLikelihood e.skipCollate).1.skipCollate with
      | .notNull operand => reads 64 operand
      | .binary .and left right => top fuel left || top fuel right
      | other => reads 64 other
  top 64 condition

/-- The measurements `ANALYZE` recorded in a schema, in the order they were recorded. -/
def measurementsOf (db : Database) (schema : String) : List Measurement :=
  match db.tableIn? schema "sqlite_stat1" with
  | none => []
  | some table =>
    let textOf : Value → Option String
      | .text bytes => some (Value.text bytes).asString
      | .integer n => some (toString n)
      | _ => none
    table.rows.filterMap fun row =>
      match textOf (row.get 0), textOf (row.get 2) with
      | some name, some stat => some (name, textOf (row.get 1), stat)
      | _, _ => none

/-- The expressions of the results of a query part. -/
def Core.resultExprs : Core → List Expr
  | .select _ result .. => result.filterMap fun
    | .value e _ _ => some e
    | _ => none
  | .values _ => []

/-- An ordering expression as the query means it: a result column named by position or alias
stands for the result's expression. -/
def resolveOrderExpr (results : List Expr) (e : Expr) : Expr :=
  match e.skipCollate with
  | .result index => results.getD index e
  | _ => e

/-- Whether `DISTINCT` over the result expressions of a query of one table is sure to change
nothing: a result is the row id, or a unique index has each key part either fixed by an `=` term
or among the results, not NULL and in the index's collation. -/
def distinctRedundant (facts : QueryFacts) (table : TableShape) (results : List Expr) : Bool :=
  let spec := table.spec
  let isRowId (e : Expr) : Bool :=
    match e.skipCollate with
    | .column address slot _ _ =>
      address.level == 0 && address.source == 0 &&
        (match keyOfSlot [some spec] 0 slot with
          | .rowId => true
          | _ => false)
    | _ => false
  results.any isRowId ||
    table.indexes.any fun shape =>
      shape.unique && shape.condition.isNone &&
        shape.keys.all fun key =>
          let fixed := facts.terms.any fun term =>
            term.relation == .equal &&
              (match term.target with
                | some (0, target) => Key.sameAs 0 target key.target
                | _ => false) &&
              (match key.target with
                | .rowId => true
                | _ => term.collation == key.collation &&
                    affinityFits term.affinity (keyAffinity spec key))
          fixed || (keyNotNull spec key &&
            results.any fun e =>
              match e.skipCollate, key.target with
              | .column address slot _ _, .column index =>
                address.level == 0 && address.source == 0 &&
                  (match keyOfSlot [some spec] 0 slot with
                    | .column c => c == index
                    | _ => false) &&
                  usedCollation e.collation? == key.collation
              | _, _ => false)

/-- The order of the rows a loop reads: an index's key, or for an index built for the query the
columns its usable equalities fix (in the collations of the terms) and then the other columns the
query reads. -/
def stepOrder (facts : QueryFacts) (source : SourceFacts) (notReady : Sources) (loop : Loop) :
    RowOrder :=
  match loop.reach with
  | .rows => .stored
  | .index shape => .keyed shape.keys
  | .automatic =>
    let fixed := facts.terms.foldl (fun (columns : List (Nat × Collation)) term =>
      match term.target with
      | some (position, .column index) =>
        if position == source.position && term.relation.isEquality &&
            term.valueSources &&& notReady == 0 && drivesBuiltIndex source term &&
            !columns.any (·.1 == index) then columns ++ [(index, term.collation)]
        else columns
      | _ => columns) []
    let others := (source.columnsUsed.filter fun index => !fixed.any (·.1 == index)).mergeSort
    .keyed (fixed.map (fun (index, collation) => ⟨.column index, collation, false⟩) ++
      others.map fun index => ⟨.column index, .binary, false⟩)

/-- What a query part asks of the order of its rows, besides its sources. -/
structure Asked where
  distinct : Bool
  results : List Expr
  groupBy : List Expr
  aggregates : List Expr
  orderBy : List OrderTerm
  /-- The limit, when it is a whole number written as such. -/
  limit : Option Nat

/-- The order a query part asks for, how the sorting it saves is costed, and whether it wants
distinct rows. -/
def wantedOf (facts : QueryFacts) (tables : SourceTables) (asked : Asked)
    (single : Option TableShape) : Option Wanted × Bool × Bool :=
  let itemOf (e : Expr) (descending : Bool) (nullsFirst : Option Bool) : OrderItem :=
    let e := resolveOrderExpr asked.results e
    { expr := e
      collation := usedCollation e.collation?
      descending := descending
      nullsLast := match nullsFirst with
        | some first => first == descending
        | none => false }
  let aggregate := !asked.groupBy.isEmpty || !asked.aggregates.isEmpty
  let orderItems := asked.orderBy.map fun | .mk e down nulls => itemOf e down nulls
  let sameAsResults := asked.orderBy.length == asked.results.length &&
    (asked.orderBy.zip asked.results).all fun (term, result) =>
      match term with
      | .mk e down nulls =>
        !down && nulls.isNone &&
          Expr.matchesIndexed 10000 0 (resolveOrderExpr asked.results e) result
  let _ := tables
  if !aggregate && asked.distinct && !asked.orderBy.isEmpty && sameAsResults then
    (some { items := asked.results.map fun e => itemOf e false none, grouping := true,
            distinctRows := false, listsKeepOrder := false }, false, true)
  else if !aggregate then
    if !orderItems.isEmpty then
      (some { items := orderItems, grouping := false, distinctRows := false,
              listsKeepOrder := false }, false, asked.distinct)
    else if asked.distinct then
      let redundant := match single with
        | some table => distinctRedundant facts table asked.results
        | none => false
      if redundant then (none, false, true)
      else
        (some { items := asked.results.map fun e => itemOf e false none, grouping := false,
                distinctRows := true, listsKeepOrder := false }, false, true)
    else (none, false, false)
  else if !asked.groupBy.isEmpty then
    let directions := if asked.orderBy.length == asked.groupBy.length then
        asked.orderBy.map fun | .mk _ down _ => down
      else asked.groupBy.map fun _ => false
    let items := (asked.groupBy.zip directions).map fun (e, down) => itemOf e down none
    let sorted := asked.orderBy.length == asked.groupBy.length &&
      (asked.orderBy.zip asked.groupBy).all fun (term, e) =>
        match term with
        | .mk written _ nulls =>
          nulls.isNone && Expr.matchesIndexed 10000 0 (resolveOrderExpr asked.results written) e
    (some { items := items, grouping := true, distinctRows := false, listsKeepOrder := false },
      sorted, false)
  else
    match asked.aggregates with
    | [.call name _ [argument]] =>
      let lower := lowerName name
      if lower == "min" then
        (some { items := [{ itemOf argument false none with nullsLast := true }],
                grouping := false, distinctRows := false, listsKeepOrder := true }, false, false)
      else if lower == "max" then
        (some { items := [itemOf argument true none], grouping := false, distinctRows := false,
                listsKeepOrder := true }, false, false)
      else (none, false, false)
    | _ => (none, false, false)

/-- The plan of a query part of a `SELECT` over its sources. `sources` describes each source;
`conjuncts` are the terms of the condition with their origins, the `WHERE` first and then the
`ON` conditions in the order of the sources. -/
def planSelect (settings : Settings) (tables : SourceTables) (sources : List SourceFacts)
    (conjuncts : List (Expr × Origin)) (asked : Asked) (outerRows : Estimate) : Option Plan := do
  let terms := analyze tables conjuncts
  let single := match sources with
    | [only] => only.table
    | _ => none
  let base : QueryFacts := { terms := terms, baseCount := conjuncts.length, orderExprs := [] }
  let (wanted, sortsByGroup, wantsDistinct) := wantedOf base tables asked single
  let facts := { base with orderExprs := ((wanted.map (·.items)).getD []).map (·.expr) }
  let loops := sources.foldl (fun kept source => sourceLoops facts source kept) []
  let sortFacts : SortFacts :=
    { resultCount := asked.results.length
      limit := if asked.groupBy.isEmpty && asked.aggregates.isEmpty then
          asked.limit.bind fun n => if n == 0 then none else some (Estimate.ofNat n)
        else none
      distinct := wantsDistinct }
  let first ← solvePaths facts tables loops sources.length none sortFacts none outerRows
  let path ← match wanted with
    | some wanted =>
      solvePaths facts tables loops sources.length (some wanted) sortFacts (some (first.rows + 1))
        outerRows
    | none => some first
  let levels := path.loops.length
  let all := (1 <<< levels) - 1
  let reverse := match wanted with
    | none => if settings.reverseUnordered then all else 0
    | some wanted =>
      if wanted.distinctRows then 0
      else
        let ordered := path.ordered
        let reverse := if ordered > 0 then path.reverse
          else
            match path.loops.getLast? with
            | some last =>
              let inList := last.byRowId && last.fixedToList
              if last.oneRow || inList then path.reverse
              else
                let (count, mask) :=
                  orderedCount facts tables { wanted with grouping := false, listsKeepOrder := true }
                    path.loops.dropLast last true
                if count == (wanted.items.length : Int) then mask else path.reverse
            | none => path.reverse
        if sortsByGroup && ordered == (wanted.items.length : Int) && levels > 0 then
          match path.loops.getLast? with
          | some last =>
            let (count, mask) := orderedCount facts tables { wanted with grouping := false }
              path.loops.dropLast last false
            if count == (wanted.items.length : Int) then mask else reverse
          | none => reverse
        else reverse
  let groupsInOrder := match wanted with
    | some wanted => wanted.grouping && !asked.groupBy.isEmpty &&
        path.ordered == (wanted.items.length : Int)
    | none => false
  let steps := (path.loops.zipIdx).map fun (loop, level) =>
    let notReady := (path.loops.drop level).foldl (fun set inner =>
      set ||| Sources.single inner.source) 0
    let source := (sources.find? (·.position == loop.source)).getD
      { position := loop.source, table := none, rows := 0, outer := false, indexedBy := none,
        notIndexed := false, columnsUsed := [], prerequisites := 0, mayBuildIndex := false }
    { source := loop.source
      order := stepOrder facts source notReady loop
      backward := reverse.testBit level }
  let ordersRows := match wanted with
    | some wanted => asked.groupBy.isEmpty && asked.aggregates.isEmpty &&
        !asked.orderBy.isEmpty && !wanted.grouping &&
        path.ordered == (wanted.items.length : Int)
    | none => false
  pure { steps := steps, groupsInOrder := groupsInOrder, ordersRows := ordersRows,
         rows := path.rows }

/-- The rows a query in `FROM` is expected to give: one for an aggregate without `GROUP BY`, a
hundred at most with one, the rows of a `VALUES`, at most its limit, and otherwise about a
million. -/
def queryRows (query : Query) : Estimate :=
  match query with
  | .mk _ _ body _ limit _ =>
    let bodyRows := match body with
      | .core (.select _ _ _ _ groupBy _ calls _) =>
        if groupBy.isEmpty && !calls.isEmpty then 0
        else if !groupBy.isEmpty then 66
        else Estimate.unknownRows
      | .core (.values rows) => Estimate.ofNat rows.length
      | .compound .. => Estimate.unknownRows
    match limit with
    | some (.integer text) =>
      match text.toNat? with
      | some n => min bodyRows (Estimate.ofNat n)
      | none => bodyRows
    | _ => bodyRows

/-- The table a source names, looked up as a query reads it; none for a virtual table, whose
module alone knows the order of its rows. -/
def sourceTable (db : Database) : Source → Option Table
  | .table name =>
    let table := match name.schema with
      | some schema => db.tableIn? schema name.name
      | none => db.table? name.name
    table.filter (·.spec.virtual.isNone)
  | _ => none

/-- The sources of a query part that stay the right side of a left join: those whose condition
does not require them to have a row. -/
def outerSources (sources : List Joined) (condition : Option Expr) : List Nat :=
  (sources.zipIdx).filterMap fun (joined, position) =>
    match joined with
    | .mk kind _ _ _ _ =>
      if kind == .left && !(condition.any (impliesRowOf position)) then some position else none

/-- The plan of a part of a query that reads sources, with the ordering and limit of the query
when the part is all of it; none for a part with no sources or with a right or full join, which
reads its sources in the order written. A part with window functions is planned for the order
its windows read its rows in, and keeps distinct rows only after them. -/
def planCore (db : Database) (settings : Settings) (core : Core) (orderBy : List OrderTerm)
    (limit : Option Expr) : Option Plan :=
  match core with
  | .values _ => none
  | .select distinct _ sources condition groupBy having calls windows =>
    let kinds := sources.map fun | .mk kind _ _ _ _ => kind
    if sources.isEmpty || kinds.any (fun kind => kind == .right || kind == .full) then none
    else
      let tables : SourceTables := sources.map fun
        | .mk _ _ source _ _ => (sourceTable db source).map (·.spec)
      let outer := outerSources sources condition
      let ons := sources.map fun | .mk _ _ _ on _ => on
      let conjuncts : List (Expr × Origin) :=
        ((condition.map Expr.conjuncts).getD []).map (·, Origin.condition) ++
          (ons.zipIdx).flatMap fun (on, position) =>
            ((on.map Expr.conjuncts).getD []).map (·, Origin.joining position (outer.contains position))
      let results := Core.resultExprs core
      let exprs := results ++ condition.toList ++ groupBy ++ having.toList ++ calls ++ windows ++
        ons.filterMap id ++ orderBy.map fun | .mk e _ _ => e
      let references := exprs.flatMap (Expr.references 10000 0)
      let argumentSources : List Sources := sources.map fun
        | .mk _ _ (.function _ arguments) _ _ =>
          (arguments.flatMap (Expr.references 10000 0)).foldl
            (fun (set : Sources) (source, _) => set ||| Sources.single source) 0
        | _ => 0
      let prerequisites := (kinds.zipIdx).foldl (fun (acc : List Sources × Sources × Sources)
          (kind, position) =>
        let (done, required, prior) := acc
        let required := if kind == .cross || outer.contains position then required ||| prior
          else 0
        let needed := required ||| argumentSources.getD position 0
        (done ++ [needed], required, prior ||| Sources.single position)) ([], 0, 0)
      let facts := (sources.zipIdx).map fun (joined, position) =>
        match joined with
        | .mk _ _ source _ _ =>
          let table := sourceTable db source
          let spec := table.map (·.spec)
          let columns := (references.filterMap fun (at_, slot) =>
            if at_ != position then none
            else match slot with
              | .rowId => none
              | .column index =>
                if (spec.bind (·.rowIdColumn)) == some index &&
                    !((spec.map (·.withoutRowId)).getD false) then none
                else some index).eraseDups
          let (indexedBy, notIndexed) := match source with
            | .table name => (name.indexedBy, name.notIndexed)
            | _ => (none, false)
          let shape := table.map fun found =>
            TableShape.of found.spec (measurementsOf db found.spec.schema)
          let rows := match source with
            | .query inner _ => queryRows inner
            | .function name _ =>
              Estimate.ofNat (if (name.name.toLower.startsWith "pragma_") then 20 else 25)
            | _ => Estimate.unknownRows
          let recursive := match source with
            | .recursion _ | .function .. => true
            | _ => false
          ({ position := position
             table := shape
             rows := rows
             outer := outer.contains position
             indexedBy := indexedBy
             notIndexed := notIndexed
             columnsUsed := columns
             prerequisites := (prerequisites.1.getD position 0)
             mayBuildIndex := settings.automaticIndex && !recursive } : SourceFacts)
      let limitCount := match limit with
        | some (.integer text) => text.toNat?
        | _ => none
      let asked : Asked :=
        { distinct := distinct && windows.isEmpty, results := results, groupBy := groupBy,
          aggregates := calls,
          orderBy := orderBy, limit := limitCount }
      planSelect settings tables facts conjuncts asked 0

end SheetExport.Store.Sql.Access
