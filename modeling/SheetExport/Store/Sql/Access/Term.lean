import SheetExport.Store.Sql.Access.Estimate
import SheetExport.Store.Sql.Resolve

/-!
# Terms of a condition

The condition of a query, with the `ON` conditions of its joins after it, is split at its `AND`s
into terms. A term that compares a column of one source (or an expression some index of the
source holds) with a value computed without that source may drive a search of an index: `=`,
`IS`, `IS NULL`, `IN`, `<`, `<=`, `>` and `>=`. A comparison written the other way round is read
turned about; one with a column on both sides gives a second, turned term for the other column.
`BETWEEN` adds a `>=` and a `<=` term, and an `OR` of equalities on one column adds an `IN` term;
these added terms stand for the term they come from.

Each term records the sources it reads: on the side of the value (which must be read before the
term can drive a search) and in all. A term of the `ON` condition of a left join belongs to its
right source, and counts as reading every source before it.
-/

namespace SheetExport.Store.Sql.Access

/-- A set of the sources of a query, as a mask of their positions. -/
abbrev Sources := Nat

namespace Sources

/-- The set of one source. -/
def single (position : Nat) : Sources := 1 <<< position

/-- The sources before a position. -/
def before (position : Nat) : Sources := single position - 1

/-- Whether a set holds a source. -/
def has (set : Sources) (position : Nat) : Bool := set.testBit position

/-- Whether every source of `a` is in `b`. -/
def within (a b : Sources) : Bool := a &&& b == a

/-- The set without one source. -/
def without (set : Sources) (position : Nat) : Sources :=
  if set.testBit position then set - single position else set

end Sources

mutual

/-- The sources of the query `depth` levels out that an expression reads, also from within the
queries it holds. -/
def Expr.usage (fuel depth : Nat) (e : Expr) : Sources :=
  match fuel with
  | 0 => 0
  | fuel + 1 =>
    match e with
    | .column address _ _ _ =>
      if address.level == depth then Sources.single address.source else 0
    | .unary _ operand | .isNull operand | .notNull operand | .cast operand _
    | .collate operand _ => Expr.usage fuel depth operand
    | .binary _ left right => Expr.usage fuel depth left ||| Expr.usage fuel depth right
    | .between operand low high =>
      Expr.usage fuel depth operand ||| Expr.usage fuel depth low ||| Expr.usage fuel depth high
    | .inList operand items =>
      items.foldl (fun set item => set ||| Expr.usage fuel depth item)
        (Expr.usage fuel depth operand)
    | .call _ _ arguments | .vector arguments =>
      arguments.foldl (fun set item => set ||| Expr.usage fuel depth item) 0
    | .extended called filter windowClause =>
      (called :: filter.toList ++ ((windowClause.map Window.exprs).getD [])).foldl
        (fun set item => set ||| Expr.usage fuel depth item) 0
    | .choose condition yes no =>
      Expr.usage fuel depth condition ||| Expr.usage fuel depth yes ||| Expr.usage fuel depth no
    | .subquery query | .existence query => Query.usage fuel (depth + 1) query
    | .inQuery operand query =>
      Expr.usage fuel depth operand ||| Query.usage fuel (depth + 1) query
    | _ => 0

/-- The sources of the query `depth` levels out that a query reads. -/
def Query.usage (fuel depth : Nat) (query : Query) : Sources :=
  match fuel with
  | 0 => 0
  | fuel + 1 =>
    match query with
    | .mk _ tables body orderBy limit offset =>
      let exprs := (orderBy.map fun | .mk e _ _ => e) ++ limit.toList ++ offset.toList
      let inTables := tables.foldl (fun set table => match table with
        | .mk _ _ inner => set ||| Query.usage fuel depth inner) 0
      exprs.foldl (fun set e => set ||| Expr.usage fuel depth e)
        (inTables ||| Body.usage fuel depth body)

/-- The sources of the query `depth` levels out that the parts of a query read. -/
def Body.usage (fuel depth : Nat) (body : Body) : Sources :=
  match fuel with
  | 0 => 0
  | fuel + 1 =>
    match body with
    | .core core => Core.usage fuel depth core
    | .compound left _ right => Body.usage fuel depth left ||| Core.usage fuel depth right

/-- The sources of the query `depth` levels out that one part of a query reads. -/
def Core.usage (fuel depth : Nat) (core : Core) : Sources :=
  match fuel with
  | 0 => 0
  | fuel + 1 =>
    match core with
    | .select _ result sources condition groupBy having calls windows =>
      let exprs := (result.filterMap fun
          | .value e _ _ => some e
          | _ => none) ++ condition.toList ++ groupBy ++ having.toList ++ calls ++ windows
      let fromSources := sources.foldl (fun set joined => match joined with
        | .mk _ _ source on _ =>
          let inSource := match source with
            | .query inner _ => Query.usage fuel (depth + 1) inner
            | .function _ arguments =>
              arguments.foldl (fun set e => set ||| Expr.usage fuel (depth + 1) e) 0
            | _ => 0
          set ||| inSource ||| ((on.map (Expr.usage fuel (depth + 1))).getD 0)) 0
      exprs.foldl (fun set e => set ||| Expr.usage fuel (depth + 1) e) fromSources
    | .values rows =>
      rows.foldl (fun set row =>
        row.foldl (fun set e => set ||| Expr.usage fuel (depth + 1) e) set) 0

end

/-- The columns of the query's own sources that an expression reads outside the queries it
holds. -/
def Expr.directColumns (fuel : Nat) (e : Expr) : List (Nat × Slot) :=
  match fuel with
  | 0 => []
  | fuel + 1 =>
    let go := Expr.directColumns fuel
    match e with
    | .column address slot _ _ => if address.level == 0 then [(address.source, slot)] else []
    | .unary _ operand | .isNull operand | .notNull operand | .cast operand _
    | .collate operand _ => go operand
    | .binary _ left right => go left ++ go right
    | .between operand low high => go operand ++ go low ++ go high
    | .inList operand items => go operand ++ items.flatMap go
    | .call _ _ arguments | .vector arguments => arguments.flatMap go
    | .choose condition yes no => go condition ++ go yes ++ go no
    | .inQuery operand _ => go operand
    | _ => []

/-- Whether an expression of a query, reading source `source`, is the same as an expression of an
index or of its condition, which reads its table as source 0: the same operators, names and
written values, column for column. -/
def Expr.matchesIndexed (fuel source : Nat) (e indexed : Expr) : Bool :=
  match fuel with
  | 0 => false
  | fuel + 1 =>
    let go := Expr.matchesIndexed fuel source
    let all (xs ys : List Expr) : Bool :=
      xs.length == ys.length && (xs.zip ys).all fun (x, y) => go x y
    match e, indexed with
    | .column a slot _ _, .column b slot' _ _ =>
      a.level == 0 && a.source == source && b.level == 0 && b.source == 0 && slot == slot'
    | .null, .null => true
    | .integer a, .integer b | .real a, .real b | .string a, .string b => a == b
    | .blob a, .blob b => a == b
    | .truth a, .truth b => a == b
    | .parameter a, .parameter b => a == b
    | .unary op x, .unary op' y => op == op' && go x y
    | .binary op a b, .binary op' c d => op == op' && go a c && go b d
    | .isNull x, .isNull y | .notNull x, .notNull y => go x y
    | .between x l h, .between y l' h' => go x y && go l l' && go h h'
    | .inList x xs, .inList y ys => go x y && all xs ys
    | .cast x t, .cast y t' => lowerName t == lowerName t' && go x y
    | .collate x c, .collate y c' => lowerName c == lowerName c' && go x y
    | .call f d xs, .call g d' ys => lowerName f == lowerName g && d == d' && all xs ys
    | .callStar f, .callStar g => lowerName f == lowerName g
    | .choose c y n, .choose c' y' n' => go c c' && go y y' && go n n'
    | .vector xs, .vector ys => all xs ys
    | _, _ => false

/-- The part of a row a term constrains: a column, the row id, or an expression that an index
holds. -/
inductive Key where
  | column (index : Nat)
  | rowId
  | expr (e : Expr)
  deriving Repr, Inhabited

/-- How a term constrains its key. -/
inductive Relation where
  /-- The term cannot drive a search. -/
  | none
  | equal
  /-- `IS`: equal, NULL matching NULL. -/
  | same
  | isNull
  /-- `IN` a list of values of a length, or (`none`) a query. -/
  | member (count : Option Nat)
  | less
  | atMost
  | greater
  | atLeast
  deriving DecidableEq, Repr, Inhabited

namespace Relation

/-- Whether the term is `=` or `IS`. -/
def isEquality : Relation → Bool
  | .equal | .same => true
  | _ => false

/-- Whether the term bounds its key from below or above. -/
def isRange : Relation → Bool
  | .less | .atMost | .greater | .atLeast => true
  | _ => false

/-- The relation of a comparison read with its operands turned about. -/
def turned : Relation → Relation
  | .less => .greater
  | .atMost => .atLeast
  | .greater => .less
  | .atLeast => .atMost
  | other => other

end Relation

/-- Where a term of a condition comes from. -/
inductive Origin where
  | condition
  /-- The `ON` condition of the join of the source at a position; `outer` for a left join. -/
  | joining (position : Nat) (outer : Bool)
  deriving DecidableEq, Repr, Inhabited

/-- A term of a condition, as the choice of how to read the sources sees it. -/
structure Term where
  /-- The term as written, past a `likelihood` around it. -/
  expr : Expr
  /-- The source whose key the term constrains, and the key. -/
  target : Option (Nat × Key)
  relation : Relation
  /-- The collation and the affinity the comparison uses. -/
  collation : Collation
  affinity : Option Affinity
  /-- The affinity of the constrained operand. -/
  targetAffinity : Option Affinity
  /-- The sources the value side reads, and all the sources the term reads. -/
  valueSources : Sources
  allSources : Sources
  /-- The term an added term stands for. -/
  parent : Option Nat
  /-- Whether the term was added for another. -/
  added : Bool
  /-- How often the term is expected to hold, on the estimate scale; positive when unknown. -/
  truth : Estimate
  /-- Whether the value side is an integer from -1 to 1. -/
  smallValue : Bool
  origin : Origin
  /-- The columns of the query's sources that the term reads outside the queries it holds. -/
  columns : List (Nat × Slot)
  deriving Repr

/-- What a source of a query is, as far as the terms of its condition are concerned: for a
table, its shape. -/
abbrev SourceTables := List (Option TableSpec)

/-- The key of a column slot of a source: the row-id column of a table is its row id. -/
def keyOfSlot (tables : SourceTables) (source : Nat) : Slot → Key
  | .rowId => .rowId
  | .column index =>
    match tables.getD source none with
    | some spec => if !spec.withoutRowId && spec.rowIdColumn == some index then .rowId
      else .column index
    | none => .column index

/-- The source and key an operand of a comparison constrains, if an index may find it: a column
of the query's own sources, or an expression that an index of the one table it reads holds. -/
def indexedOperand (tables : SourceTables) (e : Expr) : Option (Nat × Key) :=
  match e.skipCollate with
  | .column address slot _ _ =>
    if address.level == 0 then some (address.source, keyOfSlot tables address.source slot)
    else none
  | .raise .. => none
  | operand =>
    let holds (position : Nat) : Bool :=
      match tables.getD position none with
      | some spec => spec.indexes.any fun index => index.terms.any fun term =>
          Expr.matchesIndexed 10000 position operand term.skipCollate
      | none => false
    match (List.range tables.length).find? holds with
    | some position => some (position, .expr operand)
    | none => none

/-- Whether an expression is an integer from -1 to 1, maybe with a sign; a numeral may have
leading zeros or be hexadecimal. -/
def isSmallInteger : Expr → Bool
  | .integer text =>
    let chars := text.toList
    let digits := if chars.take 2 == ['0', 'x'] || chars.take 2 == ['0', 'X'] then chars.drop 2
      else chars
    let significant := digits.dropWhile (· == '0')
    significant.isEmpty || significant == ['1']
  | .unary .plus operand | .unary .negate operand => isSmallInteger operand
  | _ => false

/-- How often a term wrapped in `likelihood`, `likely` or `unlikely` is expected to hold, and the
term inside; a positive truth for a term without one. -/
def unwrapLikelihood (e : Expr) : Expr × Estimate :=
  match e with
  | .call name _ [inner, probability] =>
    if lowerName name == "likelihood" then
      let scaled := match probability with
        | .real text =>
          match (readReal text.toList).value with
          | .finite negative significand exponent =>
            (Binary64.finite negative significand (exponent + 27)).truncate?
          | _ => none
        | _ => none
      match scaled with
      | some n => (inner, Estimate.ofNat n.toNat - 270)
      | none => (inner, 1)
    else (e, 1)
  | .call name _ [inner] =>
    if lowerName name == "unlikely" then (inner, Estimate.ofNat 8388608 - 270)
    else if lowerName name == "likely" then (inner, Estimate.ofNat 125829120 - 270)
    else (e, 1)
  | _ => (e, 1)

/-- The relation of a comparison operator, for an operand on the left. -/
def relationOf : BinaryOp → Relation
  | .eq => .equal
  | .is => .same
  | .lt => .less
  | .le => .atMost
  | .gt => .greater
  | .ge => .atLeast
  | _ => .none

/-- The terms one comparison gives: the term itself, read with the indexed operand on the left,
and a turned term when both operands may be indexed. `base` is the template of the term itself. -/
def comparisonTerms (tables : SourceTables) (base : Term) (op : BinaryOp) (left right : Expr)
    (self : Nat) : List Term :=
  let leftSources := Expr.usage 10000 0 left
  let rightSources := Expr.usage 10000 0 right
  let relation := relationOf op
  let usable := leftSources &&& rightSources == 0
  let collation := usedCollation (comparisonCollation left right)
  let affinity := comparisonAffinity left right
  let common : Term := { base with collation := collation, affinity := affinity }
  match indexedOperand tables left, indexedOperand tables right with
  | some target, other =>
    let first : Term := { common with
      target := some target,
      targetAffinity := left.affinity?,
      relation := if usable then relation else .none,
      valueSources := rightSources ||| base.valueSources,
      smallValue := isSmallInteger right }
    match other with
    | some otherTarget =>
      if usable then
        [first, { common with
          target := some otherTarget, relation := relation.turned,
          targetAffinity := right.affinity?,
          valueSources := leftSources ||| base.valueSources, parent := some self, added := true,
          smallValue := isSmallInteger left }]
      else [first]
    | none => [first]
  | none, some target =>
    [{ common with
      target := some target,
      targetAffinity := right.affinity?,
      relation := if usable then relation.turned else .none,
      valueSources := leftSources ||| base.valueSources,
      smallValue := isSmallInteger left }]
  | none, none => [common]

/-- The disjuncts of an `OR`. -/
def Expr.disjuncts : Expr → List Expr
  | .binary .or left right => Expr.disjuncts left ++ Expr.disjuncts right
  | e => [e]

/-- The `IN` term an `OR` of equalities gives when every disjunct compares the same column of one
source with a value that does not read that source and has its affinity or none: the column and
the values. -/
def orAsMembership (tables : SourceTables) (e : Expr) : Option (Expr × List Expr) :=
  let parts := Expr.disjuncts e
  let sidesOf (part : Expr) : List (Expr × Expr) :=
    match part with
    | .binary .eq left right => [(left, right), (right, left)]
    | _ => []
  let candidates : List Expr := match parts.head? with
    | some first => (sidesOf first).map Prod.fst
    | none => []
  let sameColumn (a b : Expr) : Bool :=
    match a.skipCollate, b.skipCollate with
    | .column x slot _ _, .column y slot' _ _ => x == y && slot == slot'
    | _, _ => false
  let valueFor (column : Expr) (part : Expr) : Option Expr :=
    (sidesOf part).findSome? fun (side, value) =>
      match indexedOperand tables column with
      | some (position, _) =>
        if sameColumn side column && !(Expr.usage 10000 0 value).testBit position &&
            (value.affinity?.isNone || value.affinity? == side.affinity?) then some value
        else none
      | none => none
  if parts.length < 2 then none
  else
    candidates.findSome? fun (column : Expr) =>
      match column.skipCollate with
      | .column .. =>
        let values := parts.filterMap (valueFor column)
        if values.length == parts.length then some (column, values) else none
      | _ => none

/-- The terms of one conjunct at position `self`, the conjunct itself first: its own term, then
the terms added for it. -/
def conjunctTerms (tables : SourceTables) (self : Nat) (written : Expr) (origin : Origin) :
    Term × List Term :=
  let (e, truth) := unwrapLikelihood written
  let joinSources := match origin with
    | .joining position true => Sources.single position
    | _ => 0
  let joinBefore := match origin with
    | .joining position true => Sources.before position
    | _ => 0
  let base : Term :=
    { expr := e, target := none, relation := .none, collation := .binary, affinity := none,
      targetAffinity := none, valueSources := joinBefore, allSources := Expr.usage 10000 0 e ||| joinSources,
      parent := none, added := false, truth := truth, smallValue := false, origin := origin,
      columns := Expr.directColumns 10000 e }
  let addedTerm (term : Term) : Term :=
    { term with
      parent := some self
      added := true
      truth := 1
      allSources := base.allSources
      columns := base.columns }
  match e with
  | .binary .is operand .null | .isNull operand =>
    match indexedOperand tables operand with
    | some target =>
      ({ base with
         target := some target
         relation := .isNull
         targetAffinity := operand.affinity? }, [])
    | none => (base, [])
  | .binary op left right =>
    if relationOf op == .none then
      match orAsMembership tables e with
      | some (column, values) =>
        let valueSources := values.foldl (fun set v => set ||| Expr.usage 10000 0 v) 0
        let membership : Term := addedTerm { base with
          target := indexedOperand tables column, relation := .member (some values.length),
          targetAffinity := column.affinity?,
          collation := usedCollation column.collation?,
          affinity := some (column.affinity?.getD .blob),
          valueSources := valueSources ||| joinBefore }
        (base, [membership])
      | none => (base, [])
    else
      match comparisonTerms tables base op left right self with
      | first :: rest => (first, rest)
      | [] => (base, [])
  | .inList operand items =>
    if items.isEmpty then (base, [])
    else
      match indexedOperand tables operand with
      | some target =>
        let valueSources := items.foldl (fun set v => set ||| Expr.usage 10000 0 v) 0
        ({ base with
           target := some target
           relation := .member (some items.length)
           targetAffinity := operand.affinity?
           collation := usedCollation operand.collation?
           affinity := some (operand.affinity?.getD .blob)
           valueSources := valueSources ||| joinBefore }, [])
      | none => (base, [])
  | .inQuery operand query =>
    match indexedOperand tables operand with
    | some target =>
      ({ base with
         target := some target
         relation := .member none
         targetAffinity := operand.affinity?
         collation := usedCollation operand.collation?
         affinity := comparisonAffinity operand (.subquery query)
         valueSources := Query.usage 10000 1 query ||| joinBefore }, [])
    | none => (base, [])
  | .between operand low high =>
    let bound (op : BinaryOp) (limit : Expr) : List Term :=
      (comparisonTerms tables base op operand limit self).map addedTerm
    (base, bound .ge low ++ bound .le high)
  | _ => (base, [])

/-- The terms of a condition given as conjuncts with their origins: the conjuncts in order, then
the added terms, those of the last conjunct first. -/
def analyze (tables : SourceTables) (conjuncts : List (Expr × Origin)) : List Term :=
  let each := conjuncts.zipIdx.map fun ((e, origin), self) => conjunctTerms tables self e origin
  let added := each.reverse.flatMap (·.2)
  each.map (·.1) ++ added

/-- Whether a term's value side is ready once the sources of a set are read. -/
def Term.readyWith (term : Term) (read : Sources) : Bool := Sources.within term.valueSources read

end SheetExport.Store.Sql.Access
