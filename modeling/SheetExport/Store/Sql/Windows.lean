import SheetExport.Store.Sql.Aggregate
import SheetExport.Store.Sql.Sorting

/-!
# Window functions

A window function gives each row a query keeps a value computed over the other rows of its
partition: the rows with equal values of the window's `PARTITION BY`, in the order of its
`ORDER BY`. Rows whose values of the ordering are equal are peers; without an ordering every row
of a partition is a peer of every other.

**Groups of calls.** The calls of a query are taken in groups: the first call with every later
call over the same window (the same partition, ordering and frame), then the first call left with
every later one over its window, and so on. The groups are computed from the last one: each sorts
the rows by its partition and then its ordering, rows that compare equal keeping the order they
came in, and computes its calls over them. The query's rows come in the order the first group
leaves them.

**Frames.** An aggregate function, `first_value`, `last_value` and `nth_value` compute over the
frame of the current row. `ROWS` counts rows from the current one; `GROUPS` counts groups of
peers; `RANGE` with an offset takes the rows whose value of the ordering lies within the offset of
the current row's (a value that is not a number is its own bound, and NULL is a peer of NULL
only); `CURRENT ROW` of a `RANGE` or `GROUPS` frame is the first or the last peer. The frame of
a window written with none runs from the first row to the last peer of the current row. A frame
may leave out the current row, its peers, or its peers but itself. Offsets are computed once per
partition, and must be numbers that are not negative, whole numbers for `ROWS` and `GROUPS`.

**Moving frames.** Over a frame that leaves nothing out, an aggregate takes rows in as the frame
reaches them and lets them go as it leaves them, so that `sum` over a frame that once held a real
stays a real, and `group_concat` of a frame whose text is empty is NULL. `min` and `max` over a
frame whose start moves give, of equal values, the one taken in last. A frame that leaves rows
out computes its aggregates afresh for each row.

**The other functions.** `row_number`, `rank`, `dense_rank`, `percent_rank`, `cume_dist` and
`ntile` count rows and peers of the partition. `lag` and `lead` read the row that many rows before
or after the current one (one by default, a negative count reading the other way), or give their
default, computed at the current row, when there is none.
-/

namespace SheetExport.Store.Sql

/-- A call of a window function as a query computes it: the function's name in lower case, its
arguments, its `FILTER` condition, and its window. -/
structure WindowCall where
  name : String
  arguments : List Expr
  filter : Option Expr
  partition : List Expr
  orderBy : List OrderTerm
  frame : WindowFrame

/-- The call an entry of a query's list of window functions stands for. -/
def WindowCall.of? : Expr → Option WindowCall
  | .extended called filter (some (.mk _ partition orderBy (some frame))) =>
    match called with
    | .call name _ arguments => some ⟨lowerName name, arguments, filter, partition, orderBy, frame⟩
    | .callStar name => some ⟨lowerName name, [], filter, partition, orderBy, frame⟩
    | _ => none
  | _ => none

/-- Whether two expressions are written alike: the same columns, values, operators and calls,
names of functions, types and collations compared without case. No query is alike another. -/
def Expr.same (fuel : Nat) (a b : Expr) : Bool :=
  match fuel with
  | 0 => false
  | fuel + 1 =>
    let go := Expr.same fuel
    let all (xs ys : List Expr) : Bool :=
      xs.length == ys.length && (xs.zip ys).all fun (x, y) => go x y
    match a, b with
    | .column x s _ _, .column y t _ _ => x == y && s == t
    | .null, .null => true
    | .integer x, .integer y | .real x, .real y | .string x, .string y => x == y
    | .blob x, .blob y => x == y
    | .truth x, .truth y => x == y
    | .parameter x, .parameter y => x == y
    | .aggregate l i, .aggregate m j => l == m && i == j
    | .result i, .result j => i == j
    | .clock x, .clock y => x == y
    | .unary op x, .unary op' y => op == op' && go x y
    | .binary op x y, .binary op' z w => op == op' && go x z && go y w
    | .isNull x, .isNull y | .notNull x, .notNull y => go x y
    | .between x l h, .between y l' h' => go x y && go l l' && go h h'
    | .inList x xs, .inList y ys => go x y && all xs ys
    | .cast x t, .cast y t' => lowerName t == lowerName t' && go x y
    | .collate x c, .collate y c' => lowerName c == lowerName c' && go x y
    | .call f d xs, .call g d' ys => lowerName f == lowerName g && d == d' && all xs ys
    | .callStar f, .callStar g => lowerName f == lowerName g
    | .choose c y n, .choose c' y' n' => go c c' && go y y' && go n n'
    | .vector xs, .vector ys => all xs ys
    | _, _ => false

/-- Whether two bounds of frames are alike. -/
def Bound.same : Bound → Bound → Bool
  | .unboundedPreceding, .unboundedPreceding | .currentRow, .currentRow
  | .unboundedFollowing, .unboundedFollowing => true
  | .preceding x, .preceding y | .following x, .following y => Expr.same 10000 x y
  | _, _ => false

/-- The sort key of a term of a window's ordering. -/
def windowOrderKey : OrderTerm → SortKey
  | .mk e descending nullsFirst =>
    ⟨usedCollation e.collation?, descending, nullsFirst.getD !descending⟩

namespace WindowCall

/-- Whether two calls compute over the same window: alike partitions, orderings (with their
directions and places of NULL) and frames. -/
def sameWindow (a b : WindowCall) : Bool :=
  let sameTerm : OrderTerm × OrderTerm → Bool := fun
    | (.mk x down nulls, .mk y down' nulls') =>
      Expr.same 10000 x y && down == down' && nulls.getD !down == nulls'.getD !down'
  let sameFrame := match a.frame, b.frame with
    | .mk unit start finish exclusion, .mk unit' start' finish' exclusion' =>
      unit == unit' && start.same start' && finish.same finish' && exclusion == exclusion'
  a.partition.length == b.partition.length &&
    (a.partition.zip b.partition).all (fun (x, y) => Expr.same 10000 x y) &&
    a.orderBy.length == b.orderBy.length && (a.orderBy.zip b.orderBy).all sameTerm && sameFrame

/-- Whether the frame of a call starts at the first row of its partition. -/
def fromFirstRow (call : WindowCall) : Bool :=
  match call.frame with
  | .mk _ .unboundedPreceding _ _ => true
  | _ => false

/-- The rows its frame leaves out. -/
def exclusion (call : WindowCall) : Exclusion :=
  match call.frame with
  | .mk _ _ _ exclusion => exclusion

end WindowCall

/-- The calls of a query in groups over one window each, each call with its position: the first
call with every later call over its window, then the first call left with those over its, and so
on. -/
def windowGroups : Nat → List (Nat × WindowCall) → List (List (Nat × WindowCall))
  | 0, _ => []
  | _, [] => []
  | fuel + 1, first :: rest =>
    let (same, other) := rest.partition fun (_, call) => first.2.sameWindow call
    (first :: same) :: windowGroups fuel other

/-- The calls of a query's list of window functions in their groups, each call with its
position in the list. -/
def callGroups (windows : List Expr) : List (List (Nat × WindowCall)) :=
  let calls := windows.zipIdx.filterMap fun (e, index) => (WindowCall.of? e).map (index, ·)
  windowGroups calls.length calls

/-- The ordering a query's rows are read in when it computes window functions: the partition,
ascending, and the ordering of the group of calls computed first, the last group. -/
def windowReadOrder (windows : List Expr) : List OrderTerm :=
  match ((callGroups windows).getLast?).bind List.head? with
  | some (_, call) => call.partition.map (fun e => .mk e false none) ++ call.orderBy
  | none => []

/-- A row of a query while its window functions are computed: its level, and the values of the
calls computed so far, each with the call's position. -/
structure WindowRow where
  level : Level
  values : List (Nat × Value)

/-- What a window function reads of one row of its partition: its arguments, each with whether it
is JSON, and whether its `FILTER` condition holds there. -/
structure WindowEntry where
  arguments : List (Value × Bool)
  counted : Bool

/-- The first argument of an entry. -/
def WindowEntry.first (entry : WindowEntry) : Value :=
  ((entry.arguments.head?).map (·.1)).getD .null

/-- The rows of a partition as frames see them: each row's values of the ordering and the group
of peers it is in, and the first and last row of each group. -/
structure Peers where
  order : Array (List Value)
  group : Array Nat
  starts : Array Nat
  ends : Array Nat

namespace Peers

/-- The peers of the rows of a partition, from their values of the window's ordering. -/
def of (keys : List SortKey) (order : List (List Value)) : Peers :=
  let step (acc : Array Nat × Array Nat × Array Nat × Option (List Value))
      (entry : List Value × Nat) : Array Nat × Array Nat × Array Nat × Option (List Value) :=
    let (group, starts, ends, previous) := acc
    let (values, index) := entry
    let fresh : Bool := match previous with
      | none => true
      | some before => compareKeys keys before values != .eq
    if fresh then (group.push starts.size, starts.push index, ends.push index, some values)
    else (group.push (starts.size - 1), starts, ends.pop.push index, some values)
  let (group, starts, ends, _) := order.zipIdx.foldl step (#[], #[], #[], none)
  ⟨order.toArray, group, starts, ends⟩

/-- The group of peers of a row. -/
def groupOf (peers : Peers) (index : Nat) : Nat := peers.group.getD index 0

/-- The first row of a group of peers. -/
def startOf (peers : Peers) (group : Nat) : Nat := peers.starts.getD group 0

/-- The last row of a group of peers. -/
def endOf (peers : Peers) (group : Nat) : Nat := peers.ends.getD group 0

/-- The number of groups of peers. -/
def groupCount (peers : Peers) : Nat := peers.starts.size

/-- A row's value of the first term of the ordering. -/
def key (peers : Peers) (index : Nat) : Value := ((peers.order.getD index []).head?).getD .null

end Peers

/-- Compares a value of a window's single ordering term with a bound, in the order the partition
is sorted: NULL equals NULL and comes first, or last where the ordering puts it there. -/
def rangePosition (key : SortKey) (value bound : Value) : Ordering :=
  let nullsLarge := key.nullsFirst == key.descending
  let raw : Value → Value → Ordering := fun
    | .null, .null => .eq
    | .null, _ => if nullsLarge then .gt else .lt
    | _, .null => if nullsLarge then .lt else .gt
    | x, y => Value.compareWith key.collation x y
  if key.descending then raw bound value else raw value bound

/-- The bound a `RANGE` offset sets from the current row's value: the value moved by the offset
toward the rows before it (`preceding`) or after it in the order of the partition; a value that is
not a number is its own bound. -/
def rangeBound (key : SortKey) (preceding : Bool) (value offset : Value) : Value :=
  match value with
  | .integer _ | .real _ =>
    Eval.arithmetic (if preceding != key.descending then .sub else .add) value offset
  | other => other

/-- The first row of a partition not before a bound, or the row count when every row is. -/
def rangeStart (key : SortKey) (peers : Peers) (count : Nat) (bound : Value) : Int :=
  match (List.range count).find? fun j => rangePosition key (peers.key j) bound != .lt with
  | some j => j
  | none => count

/-- The last row of a partition not after a bound, or -1 when every row is. -/
def rangeEnd (key : SortKey) (peers : Peers) (count : Nat) (bound : Value) : Int :=
  match ((List.range count).reverse).find? fun j => rangePosition key (peers.key j) bound != .gt with
  | some j => j
  | none => -1

/-- Where the frame of the row at `index` of a partition of `count` rows starts and ends, as
positions; the frame is empty when it ends before it starts. `offsets` are the values of the
offsets of its start and end, and `key` the sort key of the single term of the ordering that a
`RANGE` offset needs. -/
def frameBounds (frame : WindowFrame) (key : SortKey) (peers : Peers) (offsets : Value × Value)
    (count index : Nat) : Int × Int :=
  match frame with
  | .mk unit start finish _ =>
    let i : Int := index
    let n : Int := count
    let group := peers.groupOf index
    let groups := peers.groupCount
    let amount (value : Value) : Nat := value.integerValue.toNat
    let groupStart (g : Nat) : Int := peers.startOf g
    let groupEnd (g : Nat) : Int := peers.endOf g
    let startAt : Int := match unit, start with
      | _, .unboundedPreceding => 0
      | _, .unboundedFollowing => n
      | .rows, .currentRow => i
      | .rows, .preceding _ => max 0 (i - amount offsets.1)
      | .rows, .following _ => i + amount offsets.1
      | .groups, .preceding _ => groupStart (group - amount offsets.1)
      | _, .currentRow => groupStart group
      | .groups, .following _ =>
        if group + amount offsets.1 < groups then groupStart (group + amount offsets.1) else n
      | .range, .preceding _ =>
        rangeStart key peers count (rangeBound key true (peers.key index) offsets.1)
      | .range, .following _ =>
        rangeStart key peers count (rangeBound key false (peers.key index) offsets.1)
    let endAt : Int := match unit, finish with
      | _, .unboundedFollowing => n - 1
      | _, .unboundedPreceding => -1
      | .rows, .currentRow => i
      | .rows, .preceding _ => i - amount offsets.2
      | .rows, .following _ => i + amount offsets.2
      | .groups, .preceding _ =>
        if amount offsets.2 ≤ group then groupEnd (group - amount offsets.2) else -1
      | _, .currentRow => groupEnd group
      | .groups, .following _ => groupEnd (min (groups - 1) (group + amount offsets.2))
      | .range, .preceding _ =>
        rangeEnd key peers count (rangeBound key true (peers.key index) offsets.2)
      | .range, .following _ =>
        rangeEnd key peers count (rangeBound key false (peers.key index) offsets.2)
    (startAt, min endAt (n - 1))

/-- The value of one offset of a frame, computed once per partition: a number that is not
negative, and for `ROWS` and `GROUPS` a whole number. -/
def frameOffset (run : QueryRunner) (scope : Scope) (unit : FrameUnit) (starting : Bool)
    (bound : Bound) : Except StoreError Value := do
  match bound.offset? with
  | none => pure .null
  | some e =>
    let value ← e.eval run scope
    let fault := StoreError.refused ("frame " ++ (if starting then "starting" else "ending") ++
      " offset must be a non-negative " ++ (if unit == .range then "number" else "integer"))
    match unit, value.withAffinity .numeric with
    | _, .integer n => if n < 0 then throw fault else pure (.integer n)
    | .range, .real x =>
      if Value.compareWith .binary (.real x) (.integer 0) == .lt then throw fault
      else pure (.real x)
    | _, _ => throw fault

/-- What an aggregate function computed over a frame keeps: the tally of the rows in it, the
pieces of text `group_concat` joins, each with the separator before it, and, for `min` and `max`
over a frame whose start moves, the values in the frame with the order they came in. -/
structure Running where
  tally : Tally
  pieces : List (List UInt8 × List UInt8)
  kept : List (Value × Nat)
  taken : Nat

namespace Running

/-- Nothing taken in. -/
def empty : Running := ⟨Tally.empty, [], [], 0⟩

/-- Takes in one row of a frame, when its `FILTER` holds; `moving` says whether the frame's
start moves. -/
def add (call : WindowCall) (collation : Collation) (moving : Bool) (running : Running)
    (entry : WindowEntry) : Except StoreError Running := do
  if !entry.counted then return running
  match call.name, entry.arguments with
  | "group_concat", (value, _) :: rest =>
    if value == .null then pure running
    else
      let separator := match rest.head? with
        | none => [44]
        | some (.null, _) => []
        | some (given, _) => given.textBytes
      pure { running with pieces := running.pieces ++ [(separator, value.textBytes)] }
  | "min", [(value, _)] | "max", [(value, _)] =>
    if moving then
      if value == .null then pure running
      else
        pure { running with
          kept := running.kept ++ [(value, running.taken)]
          taken := running.taken + 1 }
    else
      let (tally, _) ← Tally.add call.name collation entry.arguments running.tally
      pure { running with tally := tally }
  | _, _ =>
    let (tally, _) ← Tally.add call.name collation entry.arguments running.tally
    pure { running with tally := tally }

/-- Lets go of the first row of a frame as the frame leaves it. `min` and `max` let go of the
first value taken in that equals the row's. -/
def remove (call : WindowCall) (collation : Collation) (running : Running) (entry : WindowEntry) :
    Running :=
  if !entry.counted then running
  else
    match call.name, entry.arguments with
    | "group_concat", (value, _) :: _ =>
      if value == .null then running else { running with pieces := running.pieces.drop 1 }
    | "min", [(value, _)] | "max", [(value, _)] =>
      match running.kept.findIdx? fun (kept, _) => Value.compareWith collation kept value == .eq with
      | some index => { running with kept := running.kept.eraseIdx index }
      | none => running
    | _, _ => { running with tally := Tally.remove call.name entry.arguments running.tally }

/-- The least value kept (or greatest, when `greatest`), the last taken in of equal ones. -/
def extreme (greatest : Bool) (collation : Collation) (kept : List (Value × Nat)) : Value :=
  (kept.foldl (fun best (value, _) =>
    match best with
    | none => some value
    | some current =>
      let order := Value.compareWith collation value current
      if (greatest && order != .lt) || (!greatest && order != .gt) then some value else best)
    none).getD .null

/-- The value of the aggregate over what is taken in. `final` says whether the value is the
aggregate's final one, computed afresh, where `group_concat` of empty text is empty text rather
than NULL. -/
def value (call : WindowCall) (collation : Collation) (moving final : Bool) (running : Running) :
    Except StoreError Value :=
  match call.name with
  | "group_concat" =>
    match running.pieces with
    | [] => .ok .null
    | (_, first) :: rest =>
      let text := first ++ rest.flatMap fun (separator, piece) => separator ++ piece
      .ok (if text.isEmpty && !final then .null else .text text)
  | "min" | "max" =>
    if moving then .ok (extreme (call.name == "max") collation running.kept)
    else Tally.result call.name running.tally
  | _ => Tally.result call.name running.tally

end Running

/-- The positive whole number the second argument of `nth_value` must be. -/
def nthCount (value : Value) : Except StoreError Nat :=
  match value.withAffinity .numeric with
  | .integer n =>
    if 0 < n then .ok n.toNat
    else .error (.refused "second argument to nth_value must be a positive integer")
  | _ => .error (.refused "second argument to nth_value must be a positive integer")

/-- The position `ntile` gives the row at `index` of `total` rows split into `buckets`: the
first rows of the partition fall into buckets one larger than the rest. -/
def ntileOf (buckets : Int) (total index : Nat) : Int :=
  let size := (total : Int) / buckets
  if size == 0 then index + 1
  else
    let large := total - buckets * size
    let small := large * (size + 1)
    if (index : Int) < small then 1 + index / (size + 1)
    else 1 + large + (index - small) / size

/-- The row `lag` or `lead` reads: the 1-based position the current row's position and the
offset give, when it is a whole number. -/
def shiftedRow (lead : Bool) (position : Nat) (offset : Option Value) : Option Int :=
  let target := match offset with
    | none => Value.integer (if lead then position + 1 else (position : Int) - 1)
    | some offset =>
      Eval.arithmetic (if lead then .add else .sub) (.integer position) offset
  match target.withAffinity .numeric with
  | .integer row => some row
  | _ => none

/-- The values of an aggregate function over moving frames, taking rows in as each frame reaches
them and letting them go as it leaves them. -/
def movingValues (call : WindowCall) (collation : Collation) (entries : List WindowEntry)
    (frames : List (Int × Int)) : Except StoreError (List Value) := do
  let moving := !call.fromFirstRow
  let step (acc : Running × Nat × Nat × List Value) (frame : Int × Int) :
      Except StoreError (Running × Nat × Nat × List Value) := do
    let (running, removed, added, values) := acc
    let start := frame.1.toNat
    let stop := (frame.2 + 1).toNat
    let cut := min start added
    let running := ((entries.drop removed).take (cut - removed)).foldl
      (Running.remove call collation) running
    let removed := max removed start
    let added := max added start
    let running ← ((entries.drop added).take (stop - added)).foldlM
      (Running.add call collation moving) running
    let added := max added stop
    let value ← running.value call collation moving false
    pure (running, removed, added, values ++ [value])
  let (_, _, _, values) ← frames.foldlM step (Running.empty, 0, 0, [])
  pure values

/-- The rows of the frame of the row at `index` that the frame does not leave out. -/
def keptRows (exclusion : Exclusion) (peers : Peers) (index : Nat) (frame : Int × Int)
    (count : Nat) : List Nat :=
  let inFrame := (List.range count).filter fun (j : Nat) => frame.1 ≤ (j : Int) && (j : Int) ≤ frame.2
  inFrame.filter fun j =>
    match exclusion with
    | .noOthers => true
    | .currentRow => j != index
    | .group => peers.groupOf j != peers.groupOf index
    | .ties => j == index || peers.groupOf j != peers.groupOf index

/-- The values of a call over the rows of one partition, in their order. -/
def partitionValues (run : QueryRunner) (scope : Scope) (call : WindowCall) (peers : Peers)
    (entries : List WindowEntry) : Except StoreError (List Value) := do
  let count := entries.length
  let positions := List.range count
  let rankOf (index : Nat) : Nat := peers.startOf (peers.groupOf index)
  let real (numerator denominator : Nat) : Value :=
    .real (Binary64.div (Binary64.ofInt numerator) (Binary64.ofInt denominator))
  let argumentAt (row : Nat) : Value := ((entries[row]?).map WindowEntry.first).getD .null
  match call.name with
  | "row_number" => pure (positions.map fun (index : Nat) => .integer ((index : Int) + 1))
  | "rank" => pure (positions.map fun (index : Nat) => .integer ((rankOf index : Int) + 1))
  | "dense_rank" => pure (positions.map fun (index : Nat) => .integer ((peers.groupOf index : Int) + 1))
  | "percent_rank" =>
    pure (positions.map fun index =>
      if 1 < count then real (rankOf index) (count - 1) else .real (Binary64.ofInt 0))
  | "cume_dist" =>
    pure (positions.map fun index => real (peers.endOf (peers.groupOf index) + 1) count)
  | "ntile" =>
    match entries.head? with
    | none => pure []
    | some first =>
      let buckets := first.first.integerValue
      if buckets ≤ 0 then throw (.refused "argument of ntile must be a positive integer")
      pure (positions.map fun index => .integer (ntileOf buckets count index))
  | "lag" | "lead" =>
    pure (entries.zipIdx.map fun (entry, index) =>
      let values := entry.arguments.map (·.1)
      let fallback := values.getD 2 .null
      match shiftedRow (call.name == "lead") (index + 1) values[1]? with
      | some row => if 1 ≤ row && row ≤ count then argumentAt (row - 1).toNat else fallback
      | none => fallback)
  | _ =>
    if count == 0 then return []
    let (unit, start, finish) := match call.frame with
      | .mk unit start finish _ => (unit, start, finish)
    let startOffset ← frameOffset run scope unit true start
    let endOffset ← frameOffset run scope unit false finish
    let key := ((call.orderBy.head?).map windowOrderKey).getD (SortKey.ascending .binary)
    let frames := positions.map (frameBounds call.frame key peers (startOffset, endOffset) count)
    let collation := argumentCollation call.arguments
    let exclusion := call.exclusion
    match call.name with
    | "first_value" | "last_value" | "nth_value" =>
      (entries.zip (positions.zip frames)).mapM fun (entry, index, frame) => do
        let rows := keptRows exclusion peers index frame count
        let wanted : Except StoreError (Option Nat) := match call.name with
          | "first_value" => pure rows.head?
          | "last_value" => pure rows.getLast?
          | _ =>
            if exclusion != .noOthers && rows.isEmpty then pure none
            else do
              let n ← nthCount ((entry.arguments[1]?).map (·.1) |>.getD .null)
              pure rows[n - 1]?
        pure ((← wanted).map argumentAt |>.getD .null)
    | _ =>
      if exclusion == .noOthers then movingValues call collation entries frames
      else
        (positions.zip frames).mapM fun (index, frame) => do
          let rows := keptRows exclusion peers index frame count
          let running ← (rows.filterMap (entries[·]?)).foldlM
            (Running.add call collation false) Running.empty
          running.value call collation false true

/-- Computes the calls of one group over the rows: sorts them by the group's partition and
ordering, then computes each call over each partition. -/
def applyWindowGroup (run : QueryRunner) (scope : Scope) (group : List (Nat × WindowCall))
    (rows : List WindowRow) : Except StoreError (List WindowRow) := do
  match group.head? with
  | none => pure rows
  | some (_, first) =>
    let partitionKeys := first.partition.map fun e => SortKey.ascending (usedCollation e.collation?)
    let orderKeys := first.orderBy.map windowOrderKey
    let keyed ← rows.mapM fun row => do
      let rowScope := scope.enter row.level
      let part ← first.partition.mapM (·.eval run rowScope)
      let order ← first.orderBy.mapM fun | .mk e _ _ => e.eval run rowScope
      pure (part ++ order, (part, order, row))
    let sorted := (sortEntries (partitionKeys ++ orderKeys) keyed).map (·.2)
    let partitions := (keyRuns partitionKeys
      (sorted.map fun (part, order, row) => (part, (order, row)))).map (·.2)
    let computed ← partitions.mapM fun partition => do
      let peers := Peers.of orderKeys (partition.map (·.1))
      let perCall ← group.mapM fun (index, call) => do
        let entries ← partition.mapM fun (_, row) => do
          let rowScope := scope.enter row.level
          let arguments ← call.arguments.mapM (·.evalTyped run rowScope)
          let counted ← match call.filter with
            | some condition => condition.holds run rowScope
            | none => pure true
          pure (WindowEntry.mk arguments counted)
        pure (index, ← partitionValues run scope call peers entries)
      pure (partition.zipIdx.map fun ((_, row), position) =>
        { row with values := row.values ++ perCall.map fun (index, values) =>
            (index, values.getD position .null) })
    pure computed.flatten

/-- Computes the window functions of a query over the levels of its rows: the levels in the
order the windows leave them, each holding the values of the calls by position. -/
def applyWindows (run : QueryRunner) (scope : Scope) (windows : List Expr) (levels : List Level) :
    Except StoreError (List Level) := do
  let rows ← (callGroups windows).reverse.foldlM (fun rows group => applyWindowGroup run scope group rows)
    (levels.map fun level => (⟨level, []⟩ : WindowRow))
  pure (rows.map fun row =>
    { row.level with
      windows := (List.range windows.length).map fun index =>
        (row.values.lookup index).getD .null })

end SheetExport.Store.Sql
