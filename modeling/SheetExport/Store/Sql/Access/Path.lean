import SheetExport.Store.Sql.Access.Probe

/-!
# The order of the loops

A query with several sources reads them in nested loops, and the store chooses which loop goes
where. It grows paths one loop at a time, keeping the best few of each length (one for a single
source, five for two, ten for more), a path costing what its loops cost, each run as often as the
rows of the loops before it; a loop may only follow the loops of the sources it needs.

When the query asks for an order (of `ORDER BY`, of the groups of `GROUP BY`, of the rows
`DISTINCT` compares, or of the one value `min` or `max` looks for), a path that gives its rows in
that order saves the cost of sorting them. `Path.orderedCount` says how many terms of the order a
path gives, maybe by reading some loops backward; the cost of sorting the rest is added to a path
that does not give them all.
-/

namespace SheetExport.Store.Sql.Access

/-- A term of the order a query asks for: the expression, its collation, whether descending, and
whether NULL comes after the other values where it would come first. -/
structure OrderItem where
  expr : Expr
  collation : Collation
  descending : Bool
  nullsLast : Bool
  deriving Repr

/-- What order a query asks for, and why: for `GROUP BY` the direction does not matter; for the
rows `DISTINCT` compares, a loop need not be reversed; for `min` and `max`, and for finding the
order of the innermost loop alone, a key part fixed to each value of a list keeps the order. -/
structure Wanted where
  items : List OrderItem
  grouping : Bool
  distinctRows : Bool
  listsKeepOrder : Bool
  deriving Repr

/-- Whether an expression is the same for every row: it reads no column, no aggregate and no
query, and calls only functions that give the same result for the same arguments. -/
def Expr.constant (fuel : Nat) (e : Expr) : Bool :=
  match fuel with
  | 0 => false
  | fuel + 1 =>
    let go := Expr.constant fuel
    match e with
    | .column .. | .aggregate .. | .subquery _ | .existence _ | .inQuery .. | .raise .. => false
    | .proposed _ | .result _ | .clock _ => false
    | .unary _ operand | .isNull operand | .notNull operand | .cast operand _
    | .collate operand _ => go operand
    | .binary _ left right => go left && go right
    | .between operand low high => go operand && go low && go high
    | .inList operand items => go operand && items.all go
    | .call name _ arguments =>
      ! ["random", "randomblob", "changes", "total_changes", "last_insert_rowid", "sqlite_log",
        "date", "time", "datetime", "julianday", "unixepoch", "strftime"].contains
          (lowerName name) && arguments.all go
    | .callStar _ => false
    | .choose condition yes no => go condition && go yes && go no
    | .vector items => items.all go
    | _ => true

/-- An expression with a `COLLATE`, `likely`, `unlikely` or `likelihood` around it removed. -/
def Expr.bare (e : Expr) : Expr :=
  (unwrapLikelihood e.skipCollate).1.skipCollate

/-- The key a column of a source stands for, as an order term reads it. -/
def orderKeyOf (facts : SourceTables) (source : Nat) (slot : Slot) : Key :=
  keyOfSlot facts source slot

/-- The term that fixes the column `key` of the source at `source` to one value from sources that
are `ready`, among the relations allowed: one whose value reads no source and is `=`, if any,
else the first. -/
def fixingTerm (facts : QueryFacts) (source : Nat) (key : Key) (ready : Sources)
    (allowed : Relation → Bool) : Option (Term × Nat) :=
  let found := (facts.terms.zipIdx).filter fun (term, _) =>
    match term.target with
    | some (position, target) =>
      position == source && Key.sameAs source target key && allowed term.relation &&
        Sources.within term.valueSources ready
    | none => false
  match found.find? fun (term, _) => term.valueSources == 0 && term.relation == .equal with
  | some best => some best
  | none => found.head?

/-- The state of the walk that finds how much of an order a path gives. -/
structure OrderWalk where
  /-- The order terms given so far, as a mask. -/
  given : Nat
  /-- Whether each row of the loops so far differs in the order terms that read them. -/
  distinct : Bool
  /-- The sources whose rows are told apart by the order. -/
  distinctSources : Sources
  ready : Sources
  /-- The levels of the path to read backward. -/
  reverse : Nat
  /-- Whether an index cannot tell the order at all. -/
  failed : Bool
  deriving Repr

/-- Walks the key parts of one loop's index against the order terms, from the first key part: a
part fixed by an equality is passed over, and each other part must give the next order term (any
of them, for `GROUP BY` and `DISTINCT`), in a direction that agrees with the parts before it. -/
def walkKeyParts (wanted : Wanted) (sources : SourceTables) (terms : List Term) (loop : Loop)
    (level : Nat) (parts : List IndexKey) (keyCount : Nat) (walk : OrderWalk) : OrderWalk :=
  let items := wanted.items
  let start := { walk with
    distinct := match loop.reach with
      | .index shape => shape.unique
      | _ => walk.distinct }
  let step (state : OrderWalk × Option Bool × Bool × Bool)
      (entry : IndexKey × Nat) : OrderWalk × Option Bool × Bool × Bool :=
    let (walk, direction, distinctColumns, stopped) := state
    let (key, part) := entry
    if stopped then state
    else
      let fixedBy := if part < loop.equalities then
          (loop.used[part]?).bind fun position => terms[position]?
        else none
      let passOver := match fixedBy with
        | some term =>
          match term.relation with
          | .equal | .same | .isNull => true
          | .member _ => wanted.listsKeepOrder
          | _ => false
        | none => false
      if passOver then
        let clears := match fixedBy with
          | some term => term.relation == .same || term.relation == .isNull
          | none => false
        ({ walk with distinct := walk.distinct && !clears }, direction, distinctColumns, false)
      else
        let walk := if walk.distinct then
            match key.target with
            | .column index =>
              let nullable := match sources.getD loop.source none with
                | some spec => ((spec.columns[index]?).map (·.notNull.isNone)).getD true
                | none => true
              if part ≥ loop.equalities && nullable then { walk with distinct := false } else walk
            | .expr _ => { walk with distinct := false }
            | .rowId => walk
          else walk
        let candidates := (items.zipIdx).filter fun (_, i) => !walk.given.testBit i
        let candidates := if wanted.grouping || wanted.distinctRows then candidates
          else candidates.take 1
        let fits (item : OrderItem) : Bool :=
          let e := Expr.bare item.expr
          let sameTarget := match key.target, e with
            | .expr indexed, _ => Expr.matchesIndexed 10000 loop.source e indexed
            | target, .column address slot _ _ =>
              address.level == 0 && address.source == loop.source &&
                Key.sameAs loop.source (orderKeyOf sources loop.source slot) target
            | _, _ => false
          let collationOk := match key.target with
            | .rowId => true
            | _ => item.collation == key.collation
          sameTarget && collationOk
        match candidates.find? fun (item, _) => fits item with
        | some (item, i) =>
          let (agrees, direction, walk) :=
            if wanted.grouping then (true, direction, walk)
            else
              match direction with
              | some reversed => ((reversed != key.descending) == item.descending, direction, walk)
              | none =>
                let reversed := key.descending != item.descending
                (true, some reversed,
                  if reversed then { walk with reverse := walk.reverse ||| (1 <<< level) } else walk)
          let agrees := agrees && (!item.nullsLast || part == loop.equalities)
          if agrees then
            let distinctColumns := distinctColumns || (match key.target with
              | .rowId => true
              | _ => false)
            ({ walk with given := walk.given ||| (1 <<< i) }, direction, distinctColumns, false)
          else
            let walk := if part == 0 || part < keyCount then { walk with distinct := false }
              else walk
            (walk, direction, distinctColumns, true)
        | none =>
          let walk := if part == 0 || part < keyCount then { walk with distinct := false }
            else walk
          (walk, direction, distinctColumns, true)
  let (walk, _, distinctColumns, _) :=
    (parts.zipIdx).foldl step (start, none, false, false)
  if distinctColumns then { walk with distinct := true } else walk

/-- How many of the order's terms a path followed by one more loop gives, and the levels it reads
backward: all of them; or, when the path cannot give more with further loops, the longest
leading run of them it gives; or `-1` when further loops may still give more. With `innerOnly`,
only the last loop counts. -/
def orderedCount (facts : QueryFacts) (sources : SourceTables) (wanted : Wanted)
    (path : List Loop) (last : Loop) (innerOnly : Bool) : Int × Nat :=
  let items := wanted.items
  let count := items.length
  let all := (1 <<< count) - 1
  let loops := path ++ [last]
  let eachLoop (walk : OrderWalk) (entry : Loop × Nat) : OrderWalk :=
    let (loop, level) := entry
    if walk.failed || !walk.distinct || walk.given == all then walk
    else if innerOnly && level < path.length then
      { walk with ready := walk.ready ||| Sources.single loop.source }
    else
      let source := loop.source
      let fixedAllowed (relation : Relation) : Bool :=
        match relation with
        | .equal | .same | .isNull => true
        | .member _ => wanted.listsKeepOrder
        | _ => false
      -- order terms fixed by an equality on a column of this source
      let given := (items.zipIdx).foldl (fun given (item, i) =>
        if given.testBit i then given
        else
          match Expr.bare item.expr with
          | .column address slot _ _ =>
            if address.level != 0 || address.source != source then given
            else
              let key := orderKeyOf sources source slot
              match fixingTerm facts source key walk.ready fixedAllowed with
              | none => given
              | some (term, position) =>
                let inUsed := match term.relation with
                  | .member _ => loop.used.contains position
                  | _ => true
                let collationOk := match key, term.relation with
                  | .rowId, _ => true
                  | _, .isNull => true
                  | _, .member _ => true
                  | _, _ => usedCollation item.expr.collation? == term.collation
                if inUsed && collationOk then given ||| (1 <<< i) else given
          | _ => given) walk.given
      let walk := { walk with given := given }
      let walk :=
        if loop.oneRow then walk
        else
          match loop.reach with
          | .automatic => { walk with failed := true }
          | .rows =>
            walkKeyParts wanted sources facts.terms loop level [⟨.rowId, .binary, false⟩] 0 walk
          | .index shape =>
            if shape.unordered then { walk with failed := true }
            else
              let withoutRowId := match sources.getD source none with
                | some spec => spec.withoutRowId
                | none => false
              let parts := probeParts (some shape) withoutRowId
              walkKeyParts wanted sources facts.terms loop level parts shape.keys.length walk
      if walk.failed then walk
      else
        let walk := { walk with ready := walk.ready ||| Sources.single source }
        if !walk.distinct then walk
        else
          let distinctSources := walk.distinctSources ||| Sources.single source
          let given := (items.zipIdx).foldl (fun given (item, i) =>
            if given.testBit i then given
            else
              let used := Expr.usage 10000 0 item.expr
              if used == 0 && !Expr.constant 10000 item.expr then given
              else if Sources.within used distinctSources then given ||| (1 <<< i)
              else given) walk.given
          { walk with given := given, distinctSources := distinctSources }
  let start : OrderWalk :=
    { given := 0, distinct := true, distinctSources := 0, ready := 0, reverse := 0,
      failed := false }
  let walk := (loops.zipIdx).foldl eachLoop start
  if count > 63 || walk.failed then (0, 0)
  else if walk.given == all then (count, walk.reverse)
  else if !walk.distinct then
    let run := ((List.range count).reverse.find? fun i =>
      i > 0 && Nat.all i fun bit _ => walk.given.testBit bit).getD 0
    (run, walk.reverse)
  else (-1, walk.reverse)

/-- A path of loops: the sources it reads, the rows it gives, its cost with and without sorting,
how many order terms it gives (`-1` while unknown), and the levels it reads backward. -/
structure Path where
  loops : List Loop
  mask : Sources
  rows : Estimate
  cost : Estimate
  unsorted : Estimate
  ordered : Int
  reverse : Nat
  deriving Repr

/-- What sorting costs, beyond the rows, besides the choice of loops: the result columns, a
limit the query has (as an estimate), and whether it wants distinct rows. -/
structure SortFacts where
  resultCount : Nat
  limit : Option Estimate
  distinct : Bool
  deriving Repr

/-- The cost of sorting `rows` rows by `count` terms of which the first `sorted` are in order
already: about `rows log rows`, times a factor that grows with the result columns, scaled by the
part still to sort; twice as dear with a limit, more when partly sorted, and for `DISTINCT` taken
over half the rows. -/
def sortCost (facts : SortFacts) (rows : Estimate) (count sorted : Nat) : Estimate :=
  let columns := Estimate.ofNat ((facts.resultCount + 59) / 30)
  let cost := rows + columns
  let cost := if sorted > 0 then cost + Estimate.ofNat ((count - sorted) * 100 / count) - 66
    else cost
  let (cost, rows) := match facts.limit with
    | some limit =>
      (cost + 10 + (if sorted != 0 then 6 else 0), if limit < rows then limit else rows)
    | none => (cost, if facts.distinct && rows > 10 then rows - 10 else rows)
  cost + Estimate.logOf rows

/-- The best paths kept while growing: the candidates, and which one is the worst. -/
structure Frontier where
  paths : Array Path
  worst : Nat
  worstCost : Estimate
  worstUnsorted : Estimate
  deriving Repr

/-- Offers a new path to the frontier of at most `room` paths: it replaces a path of the same
sources and the same knowledge of order when it is better, or the worst path when the frontier is
full and it is better than that. -/
def Frontier.offer (room : Nat) (frontier : Frontier) (path : Path) : Frontier :=
  let same := frontier.paths.findIdx? fun other =>
    other.mask == path.mask && (other.ordered < 0) == (path.ordered < 0)
  let slot : Option Nat :=
    match same with
    | none =>
      if frontier.paths.size ≥ room &&
          (path.cost > frontier.worstCost ||
            path.cost == frontier.worstCost && path.unsorted ≥ frontier.worstUnsorted) then none
      else if frontier.paths.size < room then some frontier.paths.size
      else some frontier.worst
    | some index =>
      match frontier.paths[index]? with
      | some other =>
        if other.cost < path.cost ||
            other.cost == path.cost &&
              (other.rows < path.rows || other.rows == path.rows && other.unsorted ≤ path.unsorted)
        then none
        else some index
      | none => none
  match slot with
  | none => frontier
  | some index =>
    let paths := if index < frontier.paths.size then frontier.paths.set! index path
      else frontier.paths.push path
    if paths.size ≥ room then
      let first := paths[0]?
      let start := (0, (first.map (·.cost)).getD 0, (first.map (·.rows)).getD 0)
      let (worst, worstCost, worstUnsorted) :=
        ((paths.toList.zipIdx).drop 1).foldl (fun (best : Nat × Estimate × Estimate) (p, i) =>
          if p.cost > best.2.1 || p.cost == best.2.1 && p.unsorted > best.2.2 then
            (i, p.cost, p.unsorted)
          else best) start
      { paths := paths, worst := worst, worstCost := worstCost, worstUnsorted := worstUnsorted }
    else { frontier with paths := paths }

/-- Chooses the order of the loops: `sourceCount` levels, each taking a loop whose sources needed
are read already; `wanted` is the order asked for, counted only when `rowEstimate` is given (the
rows the query is expected to give); `outerRows` the rows of the loops outside the query. -/
def solvePaths (facts : QueryFacts) (sources : SourceTables) (loops : LoopSet)
    (sourceCount : Nat) (wanted : Option Wanted) (sortFacts : SortFacts)
    (rowEstimate : Option Estimate) (outerRows : Estimate) : Option Path :=
  let room := if sourceCount ≤ 1 then 1 else if sourceCount == 2 then 5 else 10
  let orderCount : Nat := match wanted, rowEstimate with
    | some wanted, some _ => wanted.items.length
    | _, _ => 0
  let seed : Path :=
    { loops := [], mask := 0, rows := min outerRows 48, cost := 0, unsorted := 0,
      ordered := if orderCount > 0 then (if sourceCount > 0 then -1 else (orderCount : Int)) else 0,
      reverse := 0 }
  let extend (frontier : Frontier) (entry : Path × Loop) : Frontier :=
    let (from_, loop) := entry
    let self := Sources.single loop.source
    if !Sources.within loop.prerequisites from_.mask || from_.mask &&& self != 0 then frontier
    else if loop.automatic && from_.rows < 3 then frontier
    else
      let unsorted := Estimate.add loop.setup (loop.run + from_.rows)
      let unsorted := Estimate.add unsorted from_.unsorted
      let rows := from_.rows + loop.rows
      let (ordered, reverse) :=
        if from_.ordered < 0 then
          match wanted with
          | some wanted => orderedCount facts sources wanted from_.loops loop false
          | none => (0, 0)
        else (from_.ordered, from_.reverse)
      let (cost, unsorted) :=
        if ordered ≥ 0 && ordered < (orderCount : Int) then
          let sorting := sortCost sortFacts ((rowEstimate.getD 0)) orderCount ordered.toNat
          (Estimate.add unsorted sorting + 3, unsorted)
        else (unsorted, unsorted - 2)
      let (cost, rows) :=
        if from_.loops.isEmpty && loop.viewScan then (cost - 10, rows - 30) else (cost, rows)
      frontier.offer room
        { loops := from_.loops ++ [loop], mask := from_.mask ||| self, rows := rows,
          cost := cost, unsorted := unsorted, ordered := ordered, reverse := reverse }
  let level (paths : Array Path) (_ : Nat) : Array Path :=
    let pairs := paths.toList.flatMap fun from_ => loops.map fun loop => (from_, loop)
    (pairs.foldl extend ⟨#[], 0, 0, 0⟩).paths
  let final := (List.range sourceCount).foldl level #[seed]
  final.toList.foldl (fun (best : Option Path) path =>
    match best with
    | some chosen => if chosen.cost > path.cost then some path else best
    | none => some path) none

end SheetExport.Store.Sql.Access
