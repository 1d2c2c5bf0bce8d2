import SheetExport.Store.Sql.Eval

/-!
# Aggregate functions

What an aggregate function takes in of the rows of a group, and the value it gives. `count`
counts rows (every row for `count(*)`, otherwise those whose argument is not NULL); `sum`,
`total` and `avg` add numbers, exactly as integers while every argument is one and the sum fits
in 64 bits, and as reals once one is not; `min` and `max` keep the least or greatest argument in
the collation of the call; `group_concat` joins text with a separator; `json_group_array` and
`json_group_object` collect JSON. A call with `DISTINCT` passes over an argument equal to one
taken in before, and a call with `FILTER` passes over the rows its condition does not hold for.

A window computes an aggregate over a frame that moves with the current row, taking rows in as
the frame reaches them and letting rows go as it leaves them; `Tally.remove` lets one go.
-/

namespace SheetExport.Store.Sql

/-- A row of each source of a query, as nested loops reach them; none for the missing side of an
outer join. -/
abbrev Combination := List (Option Row)

/-- What an aggregate function has taken in of the rows of a group so far. -/
structure Tally where
  /-- The rows counted: every row for `count(*)`, otherwise those whose argument is not NULL. -/
  count : Nat
  /-- The sum of the integer arguments, while it fits in 64 bits and no other value came. -/
  integerSum : Int
  /-- Whether the integer sum left 64 bits. -/
  overflow : Bool
  /-- Whether an argument that is not an integer came, or the integer sum left 64 bits. -/
  approximate : Bool
  /-- The sum of the arguments as reals. -/
  realSum : Binary64
  /-- The least or greatest argument so far. -/
  best : Option Value
  /-- The text joined so far; none before the first argument that is not NULL. -/
  text : Option (List UInt8)
  /-- The JSON items so far. -/
  items : List (List UInt8)
  /-- The arguments taken in so far, for `DISTINCT`. -/
  seen : List Value

namespace Tally

/-- The tally of no row. -/
def empty : Tally := ⟨0, 0, false, false, .finite false 0 0, none, none, [], []⟩

/-- Takes in a value of `sum`, `total` or `avg`: text that reads wholly as a number counts as
that number, other text and blobs by their leading numeral; NULL is passed over. -/
def addNumber (tally : Tally) (value : Value) : Tally :=
  match value.forNumericComparison with
  | .null => tally
  | .integer n =>
    let realSum := Binary64.add tally.realSum (Binary64.ofInt n)
    if tally.approximate || tally.overflow then
      { tally with count := tally.count + 1, realSum := realSum }
    else if Value.fits (tally.integerSum + n) then
      { tally with
        count := tally.count + 1
        realSum := realSum
        integerSum := tally.integerSum + n }
    else
      { tally with
        count := tally.count + 1
        realSum := realSum
        overflow := true
        approximate := true }
  | other =>
    { tally with
      count := tally.count + 1
      approximate := true
      realSum := Binary64.add tally.realSum other.realValue }

/-- Takes in a value of `min` (or `max`, when `greatest`): the tally, and whether the value left
the best one as it was. A NULL leaves it as it was once there is one. -/
def addExtreme (tally : Tally) (greatest : Bool) (collation : Collation) (value : Value) :
    Tally × Bool :=
  match value, tally.best with
  | .null, some _ => (tally, true)
  | .null, none => (tally, false)
  | _, none => ({ tally with best := some value }, false)
  | _, some best =>
    let order := Value.compareWith collation best value
    if (greatest && order == .lt) || (!greatest && order == .gt) then
      ({ tally with best := some value }, false)
    else (tally, true)

/-- Takes in a value of `group_concat`, after the separator of its row (a comma when none is
given) unless it is the first. -/
def addText (tally : Tally) (value : Value) (separator : Option Value) : Tally :=
  if value == .null then tally
  else
    let between : List UInt8 := match tally.text, separator with
      | none, _ => []
      | some _, none => [44]
      | some _, some .null => []
      | some _, some given => given.textBytes
    { tally with text := some (tally.text.getD [] ++ between ++ value.textBytes) }

/-- Takes in the arguments of one row of an aggregate function: the tally after them, and, for
`min` and `max`, whether the row left the tally as it was. -/
def add (functionName : String) (collation : Collation) (arguments : List (Value × Bool))
    (tally : Tally) : Except StoreError (Tally × Option Bool) :=
  match lowerName functionName, arguments with
  | "count", [] => .ok ({ tally with count := tally.count + 1 }, none)
  | "count", (value, _) :: _ =>
    .ok (if value == .null then tally else { tally with count := tally.count + 1 }, none)
  | "sum", [(value, _)] | "total", [(value, _)] | "avg", [(value, _)] =>
    .ok (tally.addNumber value, none)
  | "min", [(value, _)] =>
    let (after, unchanged) := tally.addExtreme false collation value
    .ok (after, some unchanged)
  | "max", [(value, _)] =>
    let (after, unchanged) := tally.addExtreme true collation value
    .ok (after, some unchanged)
  | "group_concat", (value, _) :: rest =>
    .ok (tally.addText value (rest.head?.map (·.1)), none)
  | "json_group_array", [(value, json)] => do
    let item ← JsonDocument.valueText value json
    pure ({ tally with items := tally.items ++ [item] }, none)
  | "json_group_object", [(label, _), (value, json)] => do
    let member ← JsonDocument.valueText value json
    let key := if label == .null then [] else JsonDocument.quoteText label.textBytes
    pure ({ tally with items := tally.items ++ [key ++ [JsonDocument.byte ':'] ++ member] }, none)
  | _, _ => .ok (tally, none)

/-- Lets go of a value of `sum`, `total` or `avg` taken in before: from the integer sum too
while the sum is exact, from the real sum only once it is approximate, which it stays. -/
def removeNumber (tally : Tally) (value : Value) : Tally :=
  match value.forNumericComparison with
  | .null => tally
  | .integer n =>
    let realSum := Binary64.sub tally.realSum (Binary64.ofInt n)
    if tally.approximate then { tally with count := tally.count - 1, realSum := realSum }
    else
      { tally with
        count := tally.count - 1
        realSum := realSum
        integerSum := tally.integerSum - n }
  | other =>
    { tally with
      count := tally.count - 1
      realSum := Binary64.sub tally.realSum other.realValue }

/-- Lets go of the arguments of one row taken in before, the first of those still in, for the
functions that can: `count`, `sum`, `total`, `avg` and the JSON collectors. -/
def remove (functionName : String) (arguments : List (Value × Bool)) (tally : Tally) : Tally :=
  match lowerName functionName, arguments with
  | "count", [] => { tally with count := tally.count - 1 }
  | "count", (value, _) :: _ =>
    if value == .null then tally else { tally with count := tally.count - 1 }
  | "sum", [(value, _)] | "total", [(value, _)] | "avg", [(value, _)] => tally.removeNumber value
  | "json_group_array", _ | "json_group_object", _ => { tally with items := tally.items.drop 1 }
  | _, _ => tally

/-- A real result, NULL for NaN. -/
def realResult (x : Binary64) : Value := if x.isNaN then .null else .real x

/-- The value of an aggregate function over the rows taken in. -/
def result (functionName : String) (tally : Tally) : Except StoreError Value :=
  let joined (opening closing : Char) : Value :=
    .text ([JsonDocument.byte opening] ++ List.intercalate [JsonDocument.byte ','] tally.items ++
      [JsonDocument.byte closing])
  match lowerName functionName with
  | "count" => .ok (.integer tally.count)
  | "sum" =>
    if tally.count == 0 then .ok .null
    else if tally.overflow then .error .integerOverflow
    else if tally.approximate then .ok (realResult tally.realSum)
    else .ok (.integer tally.integerSum)
  | "total" => .ok (realResult tally.realSum)
  | "avg" =>
    if tally.count == 0 then .ok .null
    else .ok (realResult (Binary64.div tally.realSum (Binary64.ofInt tally.count)))
  | "min" | "max" => .ok (tally.best.getD .null)
  | "group_concat" => .ok ((tally.text.map Value.text).getD .null)
  | "json_group_array" => .ok (joined '[' ']')
  | "json_group_object" => .ok (joined '{' '}')
  | _ => .ok .null

end Tally

/-- Takes one row's arguments of a plain aggregate call into its tally; with `DISTINCT`, an
argument equal to one taken in before is passed over. -/
def stepPlain (run : QueryRunner) (scope : Scope) (call : Expr) (tally : Tally) :
    Except StoreError (Tally × Option Bool) :=
  match call with
  | .callStar functionName => Tally.add functionName .binary [] tally
  | .call functionName distinct arguments => do
    let typed ← arguments.mapM (·.evalTyped run scope)
    let collation := argumentCollation arguments
    match distinct, typed with
    | true, (value, _) :: _ =>
      if tally.seen.any (Value.compareWith collation · value == .eq) then pure (tally, none)
      else Tally.add functionName collation typed { tally with seen := value :: tally.seen }
    | _, _ => Tally.add functionName collation typed tally
  | _ => pure (tally, none)

/-- Takes one row's arguments of an aggregate call into its tally; a call with `FILTER` passes
over the rows its condition does not hold for. -/
def stepCall (run : QueryRunner) (scope : Scope) (call : Expr) (tally : Tally) :
    Except StoreError (Tally × Option Bool) :=
  match call with
  | .extended inner (some condition) none => do
    if ← condition.holds run scope then stepPlain run scope inner tally else pure (tally, none)
  | plain => stepPlain run scope plain tally

/-- The name of the function an aggregate call calls, also with `FILTER`. -/
def aggregateName? : Expr → Option String
  | .call functionName _ _ | .callStar functionName => some functionName
  | .extended inner _ _ => match inner with
    | .call functionName _ _ | .callStar functionName => some functionName
    | _ => none
  | _ => none

/-- A group being taken in: the tallies of the query's aggregate calls, and the row the query
reads its other columns from, none before the first. -/
structure GroupState where
  tallies : List Tally
  bare : Option Combination

/-- The state of a group of no row, for some aggregate calls. -/
def GroupState.start (calls : List Expr) : GroupState := ⟨calls.map fun _ => Tally.empty, none⟩

/-- Takes one row into a group. The row becomes the group's bare row when it is the first, or,
when the query calls `min` or `max`, when it changed the last of those calls. -/
def GroupState.add (run : QueryRunner) (scope : Scope) (calls : List Expr) (state : GroupState)
    (combination : Combination) : Except StoreError GroupState := do
  let rowScope := scope.enter ⟨combination, [], []⟩
  let stepped ← (calls.zip state.tallies).mapM fun (call, tally) =>
    stepCall run rowScope call tally
  let load := match (stepped.filterMap (·.2)).getLast? with
    | some unchanged => !unchanged
    | none => state.bare.isNone
  pure ⟨stepped.map (·.1), if load then some combination else state.bare⟩

end SheetExport.Store.Sql
