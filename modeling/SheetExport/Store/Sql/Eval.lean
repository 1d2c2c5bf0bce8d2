import SheetExport.Store.Catalog
import SheetExport.Store.Search
import SheetExport.Store.Sql.Function
import SheetExport.Store.Sql.Pattern
import SheetExport.Store.Sql.Mathematics
import SheetExport.Store.Sql.Clock
import SheetExport.Store.Sql.JsonFunction

/-!
# Evaluating expressions

An expression whose names have been looked up is evaluated against a row and the values of the
parameters.

**Literals.** An integer numeral is read as a 64-bit integer; one that does not fit is read as a
real, and so is `9223372036854775808`, except right after a minus sign, where it is the least
integer. A hexadecimal numeral is the 64-bit pattern of its digits. A minus sign in front of a
numeral negates the numeral itself; in front of anything else it subtracts from zero.

**Comparisons.** The operands are first converted by the affinity of the comparison: when both
operands have an affinity (a column's, or a cast's type) the comparison is numeric if either is,
and otherwise converts nothing; when one has, that one is used. A numeric comparison reads text
that is wholly a numeral as that number; a text comparison writes numbers as text. Text is then
compared in the collation named by a `COLLATE` on the left, else on the right, else the left
column's, else the right column's, else by code points. A comparison with NULL is NULL, except
that `IS` and `IS NOT` treat NULL as a value.

**Arithmetic.** Two integers give an integer unless the result leaves 64 bits, in which case the
operation is done on reals; otherwise both operands are read as numbers and, if either is not an
integer, the operation is done on reals. Division or remainder by zero, and a NaN result, are
NULL. The remainder of reals is the remainder of their integer parts.

**Truth.** `AND`, `OR` and `NOT` use three-valued logic; a value is true when it is a nonzero
number, text or blobs counting by their leading numeral.
-/

namespace SheetExport.Store.Sql

/-- Where a query stands while it runs: the row of each of its sources (none for the missing side
of an outer join), the values of its aggregates over the current group, and the values of its
window functions at the current row. -/
structure Level where
  rows : List (Option Row)
  aggregates : List Value
  windows : List Value
  deriving Inhabited

/-- A level at one row of one source. -/
def Level.single (row : Row) : Level := ⟨[some row], [], []⟩

/-- What an expression is evaluated against: the levels of the queries it stands in, innermost
first, the parameters, the row an insert proposes, the connection's session, the database its
queries read, and the rows handed to the recursive common tables being computed. -/
structure Scope where
  levels : List Level
  parameters : List Value
  /-- The row an insert proposes, which the `DO UPDATE` of an upsert reads. -/
  proposed : Option Row
  /-- The counters of the connection and its `LIKE` setting. -/
  session : Session
  db : Database
  recursion : List (List Value)
  /-- Where the values computed must not change with the clock or the local zone: a `CHECK`
  constraint, a generated column or an index, named as a failure names it. -/
  steadyPlace : Option String
  deriving Inhabited

namespace Scope

/-- A scope of no row, for a database and the parameters of a statement. -/
def start (db : Database) (parameters : List Value) : Scope :=
  ⟨[], parameters, none, db.session, db, [], none⟩

/-- The scope with a new innermost level. -/
def enter (scope : Scope) (level : Level) : Scope := { scope with levels := level :: scope.levels }

/-- The value of a column of a source of a level. -/
def read (scope : Scope) (address : Address) (slot : Slot) : Value :=
  match scope.levels[address.level]? with
  | some level =>
    match level.rows[address.source]? with
    | some (some row) =>
      match slot with
      | .rowId => .integer row.id
      | .column index => row.get index
    | _ => .null
  | none => .null

end Scope

/-- Runs a query in a scope whose levels are those around the query, giving its rows; with a
count, only that many rows are needed and no more are computed. -/
abbrev QueryRunner := Scope → Query → Option Nat → Except StoreError (List (List Value))

namespace Query

/-- The result expressions of the first part of a query, once `*` has been expanded. -/
def firstRow : Query → List Expr
  | .mk _ _ body _ _ _ =>
    let rec first : Body → List Expr
      | .core (.select _ result _ _ _ _ _ _) => result.filterMap fun
        | .value e _ _ => some e
        | _ => none
      | .core (.values (row :: _)) => row
      | .core (.values []) => []
      | .compound left _ _ => first left
    first body

/-- The first result expression of a query, once `*` has been expanded. -/
def firstResult? (query : Query) : Option Expr := query.firstRow.head?

/-- The number of columns a query gives: those of its first part, each `*` counting as one before
it is expanded. -/
def width : Query → Nat
  | .mk _ _ body _ _ _ =>
    let rec first : Body → Nat
      | .core (.select _ result _ _ _ _ _ _) => result.length
      | .core (.values rows) => (rows.getLast?.map List.length).getD 0
      | .compound left _ _ => first left
    first body

/-- The query a subquery runs as a value or under `EXISTS`: a limit `X` becomes `X <> 0`, compared
as numbers, and a query with no limit gets a limit of one, so that at most one row is computed. -/
def firstRowOnly : Query → Query
  | .mk recursive tables body orderBy limit offset =>
    .mk recursive tables body orderBy
      (some (match limit with
        | some limit => .binary .ne limit (.cast (.integer "0") "NUMERIC")
        | none => .integer "1")) offset

end Query

namespace Expr

/-- The number of values an expression stands for: the length of a list or the number of columns
of a subquery, otherwise one. -/
def width : Expr → Nat
  | .vector items => items.length
  | .subquery query => query.width
  | _ => 1

/-- The affinity an expression has in a comparison: a column's, or that of a cast's type;
other expressions have none. -/
def affinity? : Expr → Option Affinity
  | .column _ _ affinity _ => affinity
  | .subquery query =>
    match query.firstResult? with
    | some (.column _ _ affinity _) => affinity
    | some (.cast _ typeName) => some (Affinity.ofTypeName typeName)
    | _ => none
  | .cast _ typeName => some (Affinity.ofTypeName typeName)
  | .collate operand _ => operand.affinity?
  | .vector items =>
    match items.attach.head? with
    | some ⟨first, _⟩ => first.affinity?
    | none => none
  | _ => none
termination_by e => sizeOf e
decreasing_by
  all_goals simp_wf
  all_goals first
    | omega
    | have := List.sizeOf_lt_of_mem ‹_›; omega

/-- Whether a `COLLATE` occurs in an expression. -/
def marked : Expr → Bool
  | .collate .. => true
  | .unary _ operand | .isNull operand | .notNull operand | .cast operand _ => operand.marked
  | .binary _ left right => left.marked || right.marked
  | .between operand low high => operand.marked || low.marked || high.marked
  | .inList operand items => operand.marked || items.attach.any fun ⟨item, _⟩ => item.marked
  | .call _ _ arguments => arguments.attach.any fun ⟨item, _⟩ => item.marked
  | .choose condition yes no => condition.marked || yes.marked || no.marked
  | .vector items => items.attach.any fun ⟨item, _⟩ => item.marked
  | _ => false
termination_by e => sizeOf e

/-- The collation an expression names: a column's own, or the one a `COLLATE` gives, found
through casts, unary plus and the first item of a list, and otherwise through the first operand
that holds a `COLLATE`. An unknown name is kept as an error. -/
def collation? (e : Expr) : Option (Except String Collation) :=
  match e with
  | .column _ _ _ collation => collation.map .ok
  | .cast operand _ => operand.collation?
  | .unary .plus operand => operand.collation?
  | .collate _ written =>
    some (match Collation.ofName? written with
      | some collation => .ok collation
      | none => .error written)
  | .vector items =>
    match items.attach.head? with
    | some ⟨first, _⟩ => first.collation?
    | none => none
  | .unary _ operand | .isNull operand | .notNull operand =>
    if operand.marked then operand.collation? else none
  | .binary _ left right =>
    if left.marked then left.collation? else if right.marked then right.collation? else none
  | .between operand low high =>
    if operand.marked then operand.collation?
    else if low.marked then low.collation?
    else if high.marked then high.collation?
    else none
  | .choose condition yes no =>
    if condition.marked then condition.collation?
    else if yes.marked then yes.collation?
    else if no.marked then no.collation?
    else none
  | .inList operand items =>
    if operand.marked then operand.collation?
    else
      match items.attach.find? (fun item => item.1.marked) with
      | some ⟨item, _⟩ => item.collation?
      | none => none
  | .call _ _ arguments =>
    match arguments.attach.find? (fun item => item.1.marked) with
    | some ⟨item, _⟩ => item.collation?
    | none => none
  | _ => none
termination_by sizeOf e
decreasing_by
  all_goals simp_wf
  all_goals first
    | omega
    | have := List.sizeOf_lt_of_mem ‹_›; omega

end Expr

/-- The collation of a comparison of two expressions. -/
def comparisonCollation (left right : Expr) : Option (Except String Collation) :=
  if left.marked then left.collation?
  else if right.marked then right.collation?
  else
    match left.collation? with
    | some collation => some collation
    | none => right.collation?

/-- The collation a comparison uses; an unknown name, refused before evaluation, counts as
binary. -/
def usedCollation : Option (Except String Collation) → Collation
  | some (.ok collation) => collation
  | _ => .binary

/-- The affinity of a comparison of two expressions. -/
def comparisonAffinity (left right : Expr) : Option Affinity :=
  match left.affinity?, right.affinity? with
  | some a, some b => some (if a.isNumeric || b.isNumeric then .numeric else .blob)
  | some a, none => some a
  | none, some b => some b
  | none, none => none

namespace Value

/-- A value as a comparison of an affinity sees it. -/
def forComparison (affinity : Option Affinity) (value : Value) : Value :=
  match affinity with
  | some affinity =>
    if affinity.isNumeric then value.forNumericComparison
    else if affinity == .text then value.forTextComparison
    else value
  | none => value

/-- A value as a cast to a type gives it. -/
def castTo (affinity : Affinity) (value : Value) : Value :=
  match value with
  | .null => .null
  | _ =>
    match affinity with
    | .blob =>
      match value with
      | .blob _ => value
      | _ => .blob value.textBytes
    | .text => .text value.textBytes
    | .integer => .integer value.integerValue
    | .real => .real value.realValue
    | .numeric =>
      match value with
      | .integer _ | .real _ => value
      | _ =>
        let chars := value.numeralChars
        let reading := readReal chars
        let (n, integerFit) := readInteger64 chars
        let wholeInteger := (reading.fit == .integer || reading.fit == .none) &&
          (integerFit == .noDigits || integerFit == .exact || integerFit == .trailing)
        if wholeInteger then .integer n
        else
          let truncated := Value.realToInteger reading.value
          if reading.value.isZero || Value.realSameAsInteger reading.value truncated then
            .integer truncated
          else .real reading.value

end Value

namespace Eval

/-- The value of an integer numeral, negated when a minus sign stands before it. -/
def integerLiteral (text : String) (negated : Bool) : Value :=
  let chars := text.toList
  match chars with
  | '0' :: x :: digits =>
    if x == 'x' || x == 'X' then
      let digits := digits.dropWhile (· == '0')
      let magnitude : Nat := digits.foldl (fun (value : Nat) c =>
        value * 16 + (if c.isDigit then c.toNat - 48
          else if 'a' ≤ c && c ≤ 'f' then c.toNat - 87 else c.toNat - 55)) 0
      let signed : Int :=
        if magnitude < Nat.pow 2 63 then magnitude else (magnitude : Int) - Int.pow 2 64
      .integer (if negated then -signed else signed)
    else Value.null
  | _ => Value.null

/-- The value of a decimal or hexadecimal integer numeral. -/
def numeral (text : String) (negated : Bool) : Value :=
  let chars := text.toList
  if chars.take 2 == ['0', 'x'] || chars.take 2 == ['0', 'X'] then integerLiteral text negated
  else
    match readInteger64 chars with
    | (n, .exact) => .integer (if negated then -n else n)
    | (_, .boundary) =>
      if negated then .integer Value.leastInteger else .real (readReal chars).value
    | _ =>
      let x := (readReal chars).value
      .real (if negated then x.neg else x)

/-- Whether a hexadecimal numeral has more than 16 digits after its leading zeros, or is `2^63`
under a minus sign: such a numeral is refused. -/
def hexTooBig (text : String) (negated : Bool) : Bool :=
  let chars := text.toList
  if chars.take 2 == ['0', 'x'] || chars.take 2 == ['0', 'X'] then
    let digits := (chars.drop 2).dropWhile (· == '0')
    16 < digits.length || (negated && integerLiteral text false == .integer Value.leastInteger)
  else false

/-- The result of integer arithmetic, or `none` when it must be done on reals. -/
def integerArithmetic (op : BinaryOp) (a b : Int) : Option Value :=
  let fitting (n : Int) : Option Value := if Value.fits n then some (.integer n) else none
  match op with
  | .add => fitting (a + b)
  | .sub => fitting (a - b)
  | .mul => fitting (a * b)
  | .div =>
    if b == 0 then some .null
    else if a == Value.leastInteger && b == -1 then none
    else some (.integer (a.tdiv b))
  | .rem =>
    if b == 0 then some .null
    else some (.integer (a.tmod (if b == -1 then 1 else b)))
  | _ => some .null

/-- The result of real arithmetic on two values. -/
def realArithmetic (op : BinaryOp) (a b : Value) : Value :=
  let x := a.realValue
  let y := b.realValue
  let result : Option Binary64 := match op with
    | .add => some (Binary64.add x y)
    | .sub => some (Binary64.sub x y)
    | .mul => some (Binary64.mul x y)
    | .div => if y.isZero then none else some (Binary64.div x y)
    | .rem =>
      let divisor := b.integerValue
      if divisor == 0 then none
      else some (Binary64.ofInt (a.integerValue.tmod (if divisor == -1 then 1 else divisor)))
    | _ => none
  match result with
  | some r => if r.isNaN then .null else .real r
  | none => .null

/-- Arithmetic on two values. -/
def arithmetic (op : BinaryOp) (a b : Value) : Value :=
  match a, b with
  | .integer x, .integer y => (integerArithmetic op x y).getD (realArithmetic op a b)
  | _, _ =>
    if a == .null || b == .null then .null
    else
      match a.numeric, b.numeric with
      | .integer x, .integer y => (integerArithmetic op x y).getD (realArithmetic op a b)
      | _, _ => realArithmetic op a b

/-- The 64-bit pattern of an integer as a natural number. -/
def bits (n : Int) : Nat := (n % Int.pow 2 64).toNat

/-- The integer of a 64-bit pattern. -/
def ofBits (n : Nat) : Int :=
  let m : Nat := n % Nat.pow 2 64
  if m < Nat.pow 2 63 then (m : Int) else (m : Int) - Int.pow 2 64

/-- Bitwise operations and shifts on the integer values of two values. -/
def bitwise (op : BinaryOp) (a b : Value) : Value :=
  if a == .null || b == .null then .null
  else
    let x := a.integerValue
    let y := b.integerValue
    let shift (left : Bool) (amount : Nat) : Int :=
      if 64 ≤ amount then (if left || 0 ≤ x then 0 else -1)
      else if left then ofBits (bits x * Nat.pow 2 amount)
      else if 0 ≤ x then x / Int.pow 2 amount
      else -((-x - 1) / Int.pow 2 amount) - 1
    match op with
    | .bitAnd => .integer (ofBits (bits x &&& bits y))
    | .bitOr => .integer (ofBits (bits x ||| bits y))
    | .shiftLeft =>
      if y == 0 then .integer x
      else if y < 0 then .integer (shift false (if -64 < y then (-y).toNat else 64))
      else .integer (shift true y.toNat)
    | .shiftRight =>
      if y == 0 then .integer x
      else if y < 0 then .integer (shift true (if -64 < y then (-y).toNat else 64))
      else .integer (shift false y.toNat)
    | _ => .null

/-- A comparison of two values after the affinity of the comparison. -/
def compareValues (op : BinaryOp) (affinity : Option Affinity) (collation : Collation)
    (a b : Value) : Value :=
  let a := Value.forComparison affinity a
  let b := Value.forComparison affinity b
  let order := Value.compareWith collation a b
  match op with
  | .is => Value.ofBool (if a == .null || b == .null then a == b else order == .eq)
  | .isNot => Value.ofBool !(if a == .null || b == .null then a == b else order == .eq)
  | _ =>
    if a == .null || b == .null then .null
    else
      Value.ofBool (match op with
        | .eq => order == .eq
        | .ne => order != .eq
        | .lt => order == .lt
        | .le => order != .gt
        | .gt => order == .gt
        | .ge => order != .lt
        | _ => false)

/-- A comparison of two rows of values, each pair with the affinity and collation of its
expressions. Equality holds when every pair is equal, and `IS` when every pair is the same; the
order comparisons go pair by pair, the first unequal pair (or a NULL) deciding. -/
def compareRows (op : BinaryOp) : List (Option Affinity × Collation × Value × Value) → Value
  | [] => .null
  | [(affinity, collation, a, b)] =>
    match op with
    | .ne => compareValues .ne affinity collation a b
    | .isNot => compareValues .isNot affinity collation a b
    | _ => compareValues op affinity collation a b
  | (affinity, collation, a, b) :: rest =>
    match op with
    | .eq | .ne | .is | .isNot =>
      let pairOp := match op with
        | .is | .isNot => BinaryOp.is
        | _ => BinaryOp.eq
      let here := compareValues pairOp affinity collation a b
      let later := compareRows pairOp rest
      let both := match here.truth, later.truth with
        | some false, _ | _, some false => Value.ofBool false
        | some true, some true => Value.ofBool true
        | _, _ => Value.null
      if op == .ne || op == .isNot then
        match both.truth with
        | some holdsTrue => Value.ofBool !holdsTrue
        | none => .null
      else both
    | _ =>
      let strict := if op == .lt || op == .le then BinaryOp.lt else BinaryOp.gt
      let ahead := compareValues strict affinity collation a b
      let equal := compareValues .eq affinity collation a b
      match ahead.truth, equal.truth with
      | some true, _ => Value.ofBool true
      | some false, some true => compareRows op rest
      | some false, some false => Value.ofBool false
      | _, _ => .null

/-- `AND` and `OR` of two truths. -/
def logic (op : BinaryOp) (a b : Option Bool) : Value :=
  match op, a, b with
  | .and, some false, _ | .and, _, some false => .integer 0
  | .and, some true, some true => .integer 1
  | .or, some true, _ | .or, _, some true => .integer 1
  | .or, some false, some false => .integer 0
  | _, _, _ => .null

/-- `LIKE` and `GLOB` on their evaluated arguments: pattern, text, and the escape character. A
blob on either side matches nothing; otherwise each is read as code points up to its first NUL.
`LIKE` tells the case of ASCII letters apart when `caseSensitive`. -/
def patternCall (glob caseSensitive : Bool) (arguments : List Value) : Except StoreError Value :=
  match arguments with
  | patternValue :: textValue :: rest =>
    if Builtin.isBlob patternValue || Builtin.isBlob textValue then .ok (.integer 0)
    else if 50000 < patternValue.textBytes.length then .error .patternTooComplex
    else do
      let escape ← match rest with
        | [escapeValue] =>
          match Builtin.textOf escapeValue with
          | none => pure none
          | some bytes =>
            match Characters.split (Characters.beforeNul bytes) with
            | [c] => pure (some (some (Characters.pointOf c)))
            | _ => throw .escapeNotSingle
        | _ => pure (some none)
      match escape, Builtin.textOf patternValue, Builtin.textOf textValue with
      | some escape, some pattern, some text =>
        let pattern := Characters.points pattern
        let text := Characters.points text
        pure (Value.ofBool
          (if glob then globMatches pattern text else likeMatches caseSensitive pattern text escape))
      | _, _, _ => pure .null
  | _ => .ok .null

/-- The affinities of the comparisons of `IN` on a query: each operand's with the query's result
column at its position. -/
def inAffinities (items : List Expr) (query : Query) : List (Option Affinity) :=
  let results := query.firstRow
  items.zipIdx.map fun (item, index) =>
    match results[index]? with
    | some result => comparisonAffinity item result
    | none => item.affinity?

/-- The collations of the comparisons of `IN` on a query. -/
def inCollations (items : List Expr) (query : Query) : List Collation :=
  let results := query.firstRow
  items.zipIdx.map fun (item, index) =>
    match results[index]? with
    | some result => usedCollation (comparisonCollation item result)
    | none => usedCollation item.collation?

/-- Whether values are among the rows of a query: true when a row equals them, NULL when none
does but one might (a NULL on either side), false otherwise; false for no rows at all. -/
def memberOf (affinities : List (Option Affinity)) (collations : List Collation)
    (values : List Value) (rows : List (List Value)) : Value :=
  if rows.isEmpty then .integer 0
  else
    let compare (row : List Value) : Option Bool :=
      let pairs := ((affinities.zip collations).zip (values.zip row)).map
        fun ((affinity, collation), (a, b)) => (affinity, collation, a, b)
      (compareRows .eq pairs).truth
    if rows.any (compare · == some true) then .integer 1
    else if rows.any (compare · == none) then .null
    else .integer 0

/-- The value `random` gives, standing for the store's random integers: a fixed nonzero one. -/
def randomInteger : Int := 6151326722151473139

/-- The failure of a function of full-text searches called where no search takes the call. -/
def unusable (functionName : String) : StoreError :=
  .function ("unable to use function " ++ functionName ++ " in the requested context")

/-- A plain function on its evaluated arguments, in a session. -/
def callFunction (session : Session) (steadyPlace : Option String) (name : String)
    (collation : Collation) (arguments : List Value) : Except StoreError Value :=
  match lowerName name, arguments with
  | "abs", [value] => Builtin.abs value
  | "length", [value] => .ok (Builtin.length value)
  | "lower", [value] => .ok (Builtin.mapCase false value)
  | "upper", [value] => .ok (Builtin.mapCase true value)
  | "hex", [value] => .ok (Builtin.hex value)
  | "typeof", [value] => .ok (Builtin.typeName value)
  | "quote", [value] => .ok (Builtin.quote value)
  | "unicode", [value] => .ok (Builtin.unicode value)
  | "char", values => .ok (Builtin.chars values)
  | "trim", values => .ok (Builtin.trim true true values)
  | "ltrim", values => .ok (Builtin.trim true false values)
  | "rtrim", values => .ok (Builtin.trim false true values)
  | "substr", values | "substring", values => .ok (Builtin.substr values)
  | "replace", values => .ok (Builtin.replace values)
  | "instr", [haystack, needle] => .ok (Builtin.instr haystack needle)
  | "round", values => .ok (Builtin.round values)
  | "nullif", [a, b] => .ok (Builtin.nullif collation a b)
  | "min", values => .ok (Builtin.extreme false collation values)
  | "max", values => .ok (Builtin.extreme true collation values)
  | "zeroblob", [value] => Builtin.zeroblob value
  | "randomblob", [value] => Builtin.randomblob value
  | "random", _ => .ok (.integer randomInteger)
  | "likely", [value] | "unlikely", [value] | "likelihood", [value, _] => .ok value
  | "like", values => patternCall false session.caseSensitiveLike values
  | "glob", values => patternCall true false values
  | "changes", _ => .ok (.integer session.changes)
  | "total_changes", _ => .ok (.integer session.totalChanges)
  | "last_insert_rowid", _ => .ok (.integer session.lastInsertRowId)
  | "sqlite_version", _ => .ok (Value.ofString "3.40.1")
  | "sqlite_source_id", _ =>
    .ok (Value.ofString
      "2022-12-28 14:03:47 df5c253c0b3dd24916e4ec7cf77d3db5294cc9fd45ae7b9c5e82ad8197f38a")
  | "load_extension", _ => .error (.refused "not authorized")
  | "sqlite_log", _ => .ok .null
  | "sqlite_compileoption_used", [value] => .ok (Builtin.compileOptionUsed value)
  | "sqlite_compileoption_get", [value] => .ok (Builtin.compileOptionGet value)
  | "soundex", [value] => .ok (Builtin.soundex value)
  | "subtype", _ => .ok (.integer 0)
  | "date", values | "time", values | "datetime", values | "julianday", values
  | "unixepoch", values | "strftime", values => clockCall (lowerName name) steadyPlace values
  | "printf", format :: arguments | "format", format :: arguments =>
    .ok (formatValue format arguments)
  | "match", _ => .error (unusable "MATCH")
  | "bm25", _ | "highlight", _ | "snippet", _ | "offsets", _ | "matchinfo", _
  | "optimize", _ => .error (unusable (lowerName name))
  | other, values => .ok ((Mathematics.call other values).getD .null)

end Eval

/-- The first collation named among a function's arguments. -/
def argumentCollation (arguments : List Expr) : Collation :=
  usedCollation (arguments.findSome? Expr.collation?)

/-- The name of a function whose result is JSON text, or is a value whose mark it passes on. -/
def isJsonFunction (name : String) : Bool :=
  ["json", "json_array", "json_array_length", "json_extract", "json_insert", "json_object",
    "json_patch", "json_quote", "json_remove", "json_replace", "json_set", "json_type",
    "json_valid", "->", "->>"].contains name

mutual

/-- Evaluates an expression, with whether its value is JSON text: the value of a JSON function,
passed on by `CASE`, `iif`, `coalesce`, `ifnull` and `COLLATE`. -/
def Expr.evalTyped (run : QueryRunner) (scope : Scope) (e : Expr) :
    Except StoreError (Value × Bool) :=
  match e with
  | .null => .ok (.null, false)
  | .integer text => .ok (Eval.numeral text false, false)
  | .real text => .ok (.real (readReal text.toList).value, false)
  | .string text => .ok (Value.ofString text, false)
  | .blob bytes => .ok (.blob bytes, false)
  | .parameter index => .ok (scope.parameters.getD (index - 1) .null, false)
  | .name .. => .ok (.null, false)
  | .column address slot _ _ => .ok (scope.read address slot, false)
  | .proposed slot =>
    match scope.proposed with
    | some row =>
      match slot with
      | .rowId => .ok (.integer row.id, false)
      | .column index => .ok (row.get index, false)
    | none => .ok (.null, false)
  | .truth value => .ok (Value.ofBool value, false)
  | .unary .negate (.integer text) => .ok (Eval.numeral text true, false)
  | .unary .negate (.real text) => .ok (.real (readReal text.toList).value.neg, false)
  | .unary op operand => do
    let (value, _) ← operand.evalTyped run scope
    match op with
    | .negate => pure (Eval.arithmetic .sub (.integer 0) value, false)
    | .plus => pure (value, false)
    | .bitNot => pure (if value == .null then .null else .integer (-value.integerValue - 1), false)
    | .not =>
      pure (match value.truth with
        | some holdsTrue => Value.ofBool !holdsTrue
        | none => .null, false)
  | .binary op (.vector lefts) (.vector rights) =>
    if op.isComparison then do
      let leftValues ← lefts.attach.mapM fun ⟨item, _⟩ => Prod.fst <$> item.evalTyped run scope
      let rightValues ← rights.attach.mapM fun ⟨item, _⟩ => Prod.fst <$> item.evalTyped run scope
      let pairs := ((lefts.zip rights).zip (leftValues.zip rightValues)).map
        fun ((l, r), (a, b)) =>
          (comparisonAffinity l r, usedCollation (comparisonCollation l r), a, b)
      pure (Eval.compareRows op pairs, false)
    else .error .rowValueMisused
  | .binary op left right => do
    if op.isComparison && 1 < left.width then
      let (lefts, leftValues) ← left.rowTyped run scope
      let (rights, rightValues) ← right.rowTyped run scope
      let pairs := ((lefts.zip rights).zip (leftValues.zip rightValues)).map
        fun ((l, r), (a, b)) =>
          (comparisonAffinity l r, usedCollation (comparisonCollation l r), a, b)
      return (Eval.compareRows op pairs, false)
    let (a, _) ← left.evalTyped run scope
    let (b, _) ← right.evalTyped run scope
    if op.isComparison then
      pure (Eval.compareValues op (comparisonAffinity left right)
        (usedCollation (comparisonCollation left right)) a b, false)
    else
      match op with
      | .and | .or => pure (Eval.logic op a.truth b.truth, false)
      | .concat =>
        pure (if a == .null || b == .null then .null else .text (a.textBytes ++ b.textBytes), false)
      | .bitAnd | .bitOr | .shiftLeft | .shiftRight => pure (Eval.bitwise op a b, false)
      | _ => pure (Eval.arithmetic op a b, false)
  | .isNull operand => do
    let (value, _) ← operand.evalTyped run scope
    pure (Value.ofBool (value == .null), false)
  | .notNull operand => do
    let (value, _) ← operand.evalTyped run scope
    pure (Value.ofBool (value != .null), false)
  | .between operand low high => do
    if 1 < operand.width then
      let (operands, values) ← operand.rowTyped run scope
      let (lows, lowValues) ← low.rowTyped run scope
      let (highs, highValues) ← high.rowTyped run scope
      let pairsWith (others : List Expr) (otherValues : List Value) :=
        ((operands.zip others).zip (values.zip otherValues)).map fun ((l, r), (a, b)) =>
          (comparisonAffinity l r, usedCollation (comparisonCollation l r), a, b)
      let above := Eval.compareRows .ge (pairsWith lows lowValues)
      let below := Eval.compareRows .le (pairsWith highs highValues)
      return (Eval.logic .and above.truth below.truth, false)
    let (value, _) ← operand.evalTyped run scope
    let (lowValue, _) ← low.evalTyped run scope
    let (highValue, _) ← high.evalTyped run scope
    let above := Eval.compareValues .ge (comparisonAffinity operand low)
      (usedCollation (comparisonCollation operand low)) value lowValue
    let below := Eval.compareValues .le (comparisonAffinity operand high)
      (usedCollation (comparisonCollation operand high)) value highValue
    pure (Eval.logic .and above.truth below.truth, false)
  | .inList operand items => do
    let (value, _) ← operand.evalTyped run scope
    let values ← items.attach.mapM fun ⟨item, _⟩ => Prod.fst <$> item.evalTyped run scope
    if values.isEmpty then pure (.integer 0, false)
    else if value == .null then pure (.null, false)
    else
      let affinity := operand.affinity?
      let collation := usedCollation operand.collation?
      let found := values.any fun item =>
        item != .null && Eval.compareValues .eq affinity collation value item == .integer 1
      if found then pure (.integer 1, false)
      else if values.any (· == .null) then pure (.null, false)
      else pure (.integer 0, false)
  | .cast operand typeName => do
    let (value, _) ← operand.evalTyped run scope
    pure (Value.castTo (Affinity.ofTypeName typeName) value, false)
  | .collate operand _ => operand.evalTyped run scope
  | .call functionName _ arguments =>
    match lowerName functionName, arguments.attach with
    | "iif", [⟨condition, conditionIn⟩, ⟨yes, yesIn⟩, ⟨no, noIn⟩] => do
      have := List.sizeOf_lt_of_mem conditionIn
      have := List.sizeOf_lt_of_mem yesIn
      have := List.sizeOf_lt_of_mem noIn
      let (test, _) ← condition.evalTyped run scope
      if test.truth == some true then yes.evalTyped run scope else no.evalTyped run scope
    | "coalesce", _ | "ifnull", _ =>
      arguments.attach.foldlM (fun found ⟨argument, _⟩ =>
        if found.1 == .null then argument.evalTyped run scope else pure found) (.null, false)
    | lowered, _ => do
      let typed ← arguments.attach.mapM fun ⟨argument, _⟩ => argument.evalTyped run scope
      if isJsonFunction lowered then
        match JsonFunction.call lowered typed with
        | some answer => answer
        | none => pure (.null, false)
      else if lowered == "subtype" then
        pure (.integer (if typed.any (·.2) then 74 else 0), false)
      else
        match searchCall scope.db functionName (typed.map (·.1)) with
        | some answer => (Prod.mk · false) <$> answer
        | none =>
          (Prod.mk · false) <$>
            Eval.callFunction scope.session scope.steadyPlace functionName
              (argumentCollation arguments)
              (typed.map (·.1))
  | .callStar functionName =>
    (Prod.mk · false) <$> Eval.callFunction scope.session scope.steadyPlace functionName .binary []
  | .choose condition yes no => do
    let (test, _) ← condition.evalTyped run scope
    if test.truth == some true then yes.evalTyped run scope else no.evalTyped run scope
  | .vector _ => .error .rowValueMisused
  | .clock word =>
    (Prod.mk · false) <$> clockCall (if word == "CURRENT_DATE" then "date"
      else if word == "CURRENT_TIME" then "time" else "datetime") none []
  | .subquery query => do
    let rows ← run scope query.firstRowOnly (some 1)
    pure (((rows.head?.bind List.head?).getD .null), false)
  | .existence query => do
    let rows ← run scope query.firstRowOnly (some 1)
    pure (Value.ofBool !rows.isEmpty, false)
  | .inQuery (.vector items) query => do
    let rows ← run scope query none
    let values ← items.attach.mapM fun ⟨item, _⟩ => Prod.fst <$> item.evalTyped run scope
    pure (Eval.memberOf (Eval.inAffinities items query) (Eval.inCollations items query) values rows,
      false)
  | .inQuery operand query => do
    let rows ← run scope query none
    let (value, _) ← operand.evalTyped run scope
    pure (Eval.memberOf (Eval.inAffinities [operand] query) (Eval.inCollations [operand] query)
      [value] rows, false)
  | .raise action message =>
    if action == .ignore then .error .raiseIgnore else .error (.raised message)
  | .aggregate level index =>
    .ok (((scope.levels[level]?).bind fun found => found.aggregates[index]?).getD .null, false)
  | .window index =>
    .ok (((scope.levels.head?).bind fun found => found.windows[index]?).getD .null, false)
  | .result _ | .extended .. => .ok (.null, false)
termination_by 2 * sizeOf e + 1
decreasing_by
  all_goals simp_wf
  all_goals first
    | omega
    | have := List.sizeOf_lt_of_mem ‹_›; omega

/-- The values of a list or of the first row of a subquery that stands for several values, with
the expressions that give them their affinities and collations; a subquery with no row gives
NULLs. -/
def Expr.rowTyped (run : QueryRunner) (scope : Scope) (e : Expr) :
    Except StoreError (List Expr × List Value) :=
  match e with
  | .vector items => do
    let values ← items.attach.mapM fun ⟨item, _⟩ => Prod.fst <$> item.evalTyped run scope
    pure (items, values)
  | .subquery query => do
    let rows ← run scope query.firstRowOnly (some 1)
    let exprs := query.firstRow
    pure (exprs, (rows.head?.getD (exprs.map fun _ => .null)))
  | _ => .error .rowValueMisused
termination_by 2 * sizeOf e
decreasing_by
  all_goals simp_wf
  all_goals first
    | omega
    | have := List.sizeOf_lt_of_mem ‹_›; omega

end

/-- Evaluates an expression. -/
def Expr.eval (run : QueryRunner) (scope : Scope) (e : Expr) : Except StoreError Value :=
  Prod.fst <$> e.evalTyped run scope

/-- Whether a condition holds for a row: true, not false or NULL. `AND` and `OR` stop as soon as
their value is known. -/
def Expr.holds (run : QueryRunner) (scope : Scope) (e : Expr) : Except StoreError Bool :=
  match e with
  | .binary .and left right => do
    if ← left.holds run scope then right.holds run scope else pure false
  | .binary .or left right => do
    if ← left.holds run scope then pure true else right.holds run scope
  | _ => do
    let value ← e.eval run scope
    pure (value.truth == some true)
termination_by sizeOf e

end SheetExport.Store.Sql
