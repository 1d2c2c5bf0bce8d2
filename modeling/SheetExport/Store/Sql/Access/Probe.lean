import SheetExport.Store.Sql.Access.Loop

/-!
# The loops of one source

For each source of a query the store lists the loops that could read it, and keeps the better
ones (`LoopSet.insert`). For a table these are, in order:

* for each equality term on a column whose value comes from other sources, an index built for
  the query on that column: building it costs about `N log N` plus a margin, and each lookup is
  taken to find twenty rows;
* the row id, then each index of the table, in the order they are tried: reading all of it
  (every row of the table costs three units; an index that holds every column read, and is
  narrower than the table, costs less than one per row) and then the loops that fix its key
  parts one after another by `=`, `IS`, `IS NULL` or `IN`, and bound the next one by `<`, `<=`,
  `>` or `>=`.

An index is left out when the source names another by `INDEXED BY`, or none by `NOT INDEXED`,
and a partial index unless a term of the condition implies its condition. A term on the source
of a left join drives an index only when it comes from that join's own `ON` condition.
-/

namespace SheetExport.Store.Sql.Access

/-- What the choice of reading knows of one source of a query. -/
structure SourceFacts where
  position : Nat
  /-- The table, when the source is one. -/
  table : Option TableShape
  /-- The estimated rows and row width of a source that is a query or a view. -/
  rows : Estimate
  /-- Whether the source is the right side of a left join. -/
  outer : Bool
  indexedBy : Option String
  notIndexed : Bool
  /-- The columns of the source the query reads. -/
  columnsUsed : List Nat
  /-- The sources that must be read before this one, by the kinds of join. -/
  prerequisites : Sources
  /-- Whether an index may be built on the source for the query. -/
  mayBuildIndex : Bool
  deriving Repr

/-- What the choice of reading knows of the query besides its sources: the terms of its
condition, how many of them were written (the rest being added for them), and the expressions
of the order it asks for. -/
structure QueryFacts where
  terms : List Term
  baseCount : Nat
  orderExprs : List Expr
  deriving Repr

/-- Whether a comparison of an affinity may use an index of a key part of an affinity: one with
no affinity or none that converts may; one that converts to text needs a text key, and one that
converts to a number a numeric key. -/
def affinityFits (comparison key : Option Affinity) : Bool :=
  match comparison with
  | none | some .blob => true
  | some .text => key == some .text
  | some _ => (key.map Affinity.isNumeric).getD false

/-- The affinity of a key part of an index of a table. -/
def keyAffinity (spec : TableSpec) (key : IndexKey) : Option Affinity :=
  match key.target with
  | .column index => (spec.columns[index]?).map (·.affinity)
  | .rowId => some .integer
  | .expr e => e.affinity?

/-- Whether a term's key is a given key part of an index on the source at `source`. -/
def Key.sameAs (source : Nat) : Key → Key → Bool
  | .column a, .column b => a == b
  | .rowId, .rowId => true
  | .expr e, .expr indexed => Expr.matchesIndexed 10000 source e indexed
  | _, _ => false

/-- Whether a term's value side is the very column it constrains. -/
def Term.selfCompared (term : Term) : Bool :=
  match term.expr, term.target with
  | .binary _ (.column a x _ _) (.column b y _ _), some _ => a == b && x == y
  | _, _ => false

/-- The terms that may constrain key part `part` of an index of a table (`none` for the row id of
the table, read as its own index), among the relations allowed: the term must constrain that key
part of the source, and unless it is `IS NULL` or on the row id, use the collation of the key part
and an affinity that fits it. -/
def partTerms (facts : QueryFacts) (source : SourceFacts) (spec : TableSpec)
    (key : IndexKey) (allowed : Relation → Bool) : List (Term × Nat) :=
  (facts.terms.zipIdx).filter fun (term, _) =>
    match term.target with
    | some (position, target) =>
      position == source.position && allowed term.relation && Key.sameAs position target key.target &&
        (term.relation == .isNull ||
          match key.target with
          | .rowId => true
          | _ => term.collation == key.collation &&
              affinityFits term.affinity (keyAffinity spec key)) &&
        !(term.relation.isEquality && term.selfCompared)
    | none => false

/-- Whether a term may constrain the right side of an outer join: only a term of that join's own
`ON` condition may. -/
def fitsOuterJoin (source : SourceFacts) (term : Term) : Bool :=
  !source.outer || term.origin == .joining source.position true

/-- Whether an expression that holds (is true) shows that `operand`, an expression of an index's
condition, is not NULL: it is `operand` itself, or reads it where a NULL would make it NULL;
`anyValue` when it must hold for any value that is not NULL. -/
def impliesNotNull (source : Nat) (fuel : Nat) (e operand : Expr) (anyValue : Bool) : Bool :=
  match fuel with
  | 0 => false
  | fuel + 1 =>
    let go := impliesNotNull source fuel
    if Expr.matchesIndexed 10000 source e operand then
      match operand with
      | .null => false
      | _ => true
    else
      match e with
      | .inList left _ => go left operand true
      | .inQuery left _ => !anyValue && go left operand true
      | .between left low high =>
        !anyValue && (go low operand true || go high operand true || go left operand true)
      | .binary op left right =>
        match op with
        | .eq | .ne | .lt | .le | .gt | .ge | .add | .sub | .bitOr | .shiftLeft | .shiftRight
        | .concat => go right operand true || go left operand true
        | .mul | .rem | .bitAnd | .div => go right operand anyValue || go left operand anyValue
        | _ => false
      | .collate inner _ => go inner operand anyValue
      | .unary .plus inner | .unary .negate inner => go inner operand anyValue
      | .unary .bitNot inner | .unary .not inner => go inner operand true
      | _ => false

/-- Whether every term an index's condition is made of (split at `AND`) is implied by a term of
the query's condition: the same expression, one of the sides of an `OR`, or `IS NOT NULL` of
something the term shows is not NULL. -/
def partialIndexUsable (facts : QueryFacts) (source : SourceFacts) (condition : Expr) : Bool :=
  let implied (part : Expr) : Bool :=
    let rec implies (fuel : Nat) (e target : Expr) : Bool :=
      match fuel with
      | 0 => false
      | fuel + 1 =>
        Expr.matchesIndexed 10000 source.position e target ||
          match target with
          | .binary .or left right => implies fuel e left || implies fuel e right
          | .notNull operand => impliesNotNull source.position 64 e operand false
          | _ => false
    facts.terms.any fun term =>
      (!source.outer || term.origin == .joining source.position true) &&
        (match term.origin with
          | .joining position true => position == source.position
          | _ => true) &&
        implies 64 term.expr part
  condition.conjuncts.all implied

/-- Whether an order term may be helped by an index on the source at `source`: it reads the row
id, a column of the index's key, or an expression of it. -/
def mightHelpOrder (source : Nat) (keys : List IndexKey) (tableSpec : Option TableSpec)
    (e : Expr) : Bool :=
  match e.skipCollate with
  | .column address slot _ _ =>
    if address.level != 0 || address.source != source then false
    else
      let key := match tableSpec with
        | some spec => keyOfSlot [some spec] 0 slot
        | none => match slot with
          | .rowId => Key.rowId
          | .column index => .column index
      match key with
      | .rowId => true
      | .column index => keys.any fun k => match k.target with
        | .column c => c == index
        | _ => false
      | .expr _ => false
  | other => keys.any fun k => match k.target with
    | .expr indexed => Expr.matchesIndexed 10000 source other indexed
    | _ => false

/-- The state of a loop being extended one key part at a time. -/
structure Growth where
  loop : Loop
  /-- The lower bound of the range, when the loop has one. -/
  lower : Option Term
  deriving Repr

/-- The key parts of an index to be fixed or bounded, in order: its keys, then for an index of a
table with row id the row id. For the row id of a table read as an index, only the row id. -/
def probeParts (shape : Option IndexShape) (withoutRowId : Bool) : List IndexKey :=
  match shape with
  | none => [⟨.rowId, .binary, false⟩]
  | some shape =>
    if withoutRowId then shape.keys else shape.keys ++ [⟨.rowId, .binary, false⟩]

/-- Extends a loop on an index by one more term on key part `part`, and each such loop further,
inserting every loop made. `shape` is none for the row id read as an index; `tableWidth` is the
width of a table row; `inFactor` the rows the `IN` terms already used multiply by. -/
def growLoops (facts : QueryFacts) (source : SourceFacts) (spec : TableSpec)
    (shape : Option IndexShape) (tableWidth : Estimate) :
    Nat → Growth → Estimate → LoopSet → LoopSet
  | 0, _, _, kept => kept
  | fuel + 1, growth, inFactor, kept =>
    let loop := growth.loop
    let parts := probeParts shape spec.withoutRowId
    let part := loop.equalities
    let keyCount := match shape with
      | some shape => shape.keys.length
      | none => 1
    let estimates := match shape with
      | some shape => shape.rows
      | none => [source.rows, 0]
    let size := estimates.headD 0
    let logSize := Estimate.logOf size
    let unordered := (shape.map (·.unordered)).getD false
    let measured := (shape.map (·.measured)).getD false
    let allowed (relation : Relation) : Bool :=
      if loop.bounded.1 then relation == .less || relation == .atMost
      else if unordered then !relation.isRange
      else relation != .none
    match parts[part]? with
    | none => kept
    | some key =>
      let candidates := partTerms facts source spec key allowed
      candidates.foldl (fun kept (term, position) =>
        let skipped := term.relation == .isNull && keyNotNull spec key ||
          term.valueSources &&& Sources.single source.position != 0 ||
          !fitsOuterJoin source term
        if skipped then kept
        else
          let used := loop.used ++ [position]
          let prerequisites :=
            Sources.without (loop.prerequisites ||| term.valueSources) source.position
          let inCount : Estimate := match term.relation with
            | .member (some count) => Estimate.ofNat count
            | .member none => 46
            | _ => 0
          let plainColumn := match key.target with
            | .column _ => true
            | _ => false
          let inRejected :=
            match term.relation with
            | .member _ =>
              measured && logSize ≥ 10 &&
                estimates.getD part 0 + Estimate.logOf inCount + 10 - (inCount + logSize) < 0 &&
                inFactor ≥ 2
            | _ => false
          if inRejected then kept
          else
            let isRowId := match key.target with
              | .rowId => true
              | _ => false
            let oneRow := term.relation.isEquality &&
              (isRowId || plainColumn && inFactor == 0 && part == keyCount - 1) &&
              (isRowId || (shape.map (·.uniqueNotNull)).getD false ||
                keyCount == 1 && (shape.map (·.unique)).getD false && term.relation == .equal)
            let (rows, lower, upper) :=
              if term.relation.isRange then
                let (lower, upper) :=
                  if term.relation == .greater || term.relation == .atLeast then (some term, none)
                  else (growth.lower, some term)
                (rangeRows loop.rows lower upper, lower, upper)
              else
                let narrowing := estimates.getD (part + 1) 0 - estimates.getD part 0
                let rows := if term.truth ≤ 0 && plainColumn then loop.rows + term.truth - inCount
                  else loop.rows + narrowing + (if term.relation == .isNull then 10 else 0)
                (rows, none, none)
            let costOfIndex := match shape with
              | none => rows + 16
              | some shape => rows + 1 + (15 * shape.width) / tableWidth
            let run := Estimate.add logSize costOfIndex
            let run := if loop.covering || shape.isNone then run else Estimate.add run (rows + 16)
            let made : Loop :=
              { loop with
                prerequisites := prerequisites
                used := used
                equalities := if term.relation.isRange then loop.equalities
                  else loop.equalities + 1
                oneRow := loop.oneRow || oneRow
                fixedToList := loop.fixedToList || (match term.relation with
                  | .member _ => true
                  | _ => false)
                fixedToValue := loop.fixedToValue || term.relation.isEquality
                bounded := (loop.bounded.1 || lower.isSome, loop.bounded.2 || upper.isSome)
                run := run + inFactor + inCount
                rows := rows + inFactor + inCount }
            let adjusted := made.adjustRows facts.terms facts.baseCount size
            let kept := LoopSet.insert kept adjusted
            let further := { made with rows := if term.relation.isRange then loop.rows else rows }
            let canGrow := !further.bounded.2 && further.equalities < parts.length &&
              (further.equalities < keyCount || !(shape.map (·.primary)).getD false)
            if canGrow then
              growLoops facts source spec shape tableWidth fuel ⟨further, lower⟩ (inFactor + inCount)
                kept
            else kept) kept

/-- The term a built index may be looked up by: an `=` or `IS` on a plain column of the source,
with an affinity that fits the column's, from the source's own join condition when the source is
the right side of a left join. -/
def drivesBuiltIndex (source : SourceFacts) (term : Term) : Bool :=
  match term.target with
  | some (position, .column _) =>
    position == source.position && term.relation.isEquality &&
      (!source.outer || (match term.origin with
        | .joining _ true => true
        | _ => false)) &&
      affinityFits term.affinity term.targetAffinity
  | _ => false

/-- A loop reading a source with no terms yet. -/
def Loop.start (source : SourceFacts) (reach : Reach) : Loop :=
  { source := source.position, reach := reach, prerequisites := source.prerequisites,
    setup := 0, run := 0, rows := source.rows, used := [], equalities := 0, oneRow := false,
    covering := false, sortIndex := 0, fixedToList := false, fixedToValue := false,
    bounded := (false, false), viewScan := false }

/-- The loops of a source that is a query or a view: indexes built for the query, then reading
every row. -/
def viewLoops (facts : QueryFacts) (source : SourceFacts) (kept : LoopSet) : LoopSet :=
  let size := source.rows
  let logSize := Estimate.logOf size
  let kept := if !source.mayBuildIndex then kept
    else (facts.terms.zipIdx).foldl (fun kept (term, position) =>
      if term.valueSources &&& Sources.single source.position != 0 ||
        !drivesBuiltIndex source term then kept
      else
        let built : Loop :=
          { Loop.start source .automatic with
            prerequisites := source.prerequisites ||| term.valueSources
            used := [position]
            equalities := 1
            setup := max 0 (logSize + size - 10)
            rows := 43
            run := Estimate.add logSize 43 }
        LoopSet.insert kept built) kept
  let scan : Loop :=
    { Loop.start source .rows with
      run := size + 16
      viewScan := true }
  LoopSet.insert kept (scan.adjustRows facts.terms facts.baseCount size)

/-- Whether every column of the source the query reads is held by an index. -/
def coversUsed (source : SourceFacts) (shape : IndexShape) : Bool :=
  source.columnsUsed.all (shape.holds.contains ·)

/-- Whether every column of the source a term reads outside the queries in it is held by an
index (the row id always is). -/
def termCovered (source : SourceFacts) (spec : TableSpec) (shape : IndexShape) (term : Term) :
    Bool :=
  term.columns.all fun (position, slot) =>
    position != source.position ||
      match keyOfSlot [some spec] 0 slot with
      | .column index => shape.holds.contains index
      | _ => true

/-- The loops of a source that is a table, inserted in order. -/
def tableLoops (facts : QueryFacts) (source : SourceFacts) (table : TableShape)
    (kept : LoopSet) : LoopSet :=
  let spec := table.spec
  let size := table.rows
  let logSize := Estimate.logOf size
  let self := Sources.single source.position
  let facts' := facts
  let source := { source with rows := size }
  let kept :=
    if !source.mayBuildIndex || source.indexedBy.isSome || source.notIndexed || spec.withoutRowId
    then kept
    else (facts.terms.zipIdx).foldl (fun kept (term, position) =>
      if term.valueSources &&& self != 0 || !drivesBuiltIndex source term then kept
      else
        let built : Loop :=
          { Loop.start source .automatic with
            prerequisites := source.prerequisites ||| term.valueSources
            used := [position]
            equalities := 1
            setup := max 0 (logSize + size + 28)
            rows := 43
            run := Estimate.add logSize 43 }
        LoopSet.insert kept built) kept
  let chosen : List IndexShape := match source.indexedBy with
    | some name => table.indexes.filter fun shape => sameName shape.name name
    | none => if source.notIndexed then [] else table.indexes
  let probes : List (Option IndexShape) :=
    if source.indexedBy.isSome || spec.withoutRowId then chosen.map some
    else none :: chosen.map some
  let step (state : LoopSet × Nat) (probe : Option IndexShape) : LoopSet × Nat :=
    let (kept, sortNumber) := state
    let next := sortNumber + 1
    match probe with
    | none =>
      let helps := facts'.orderExprs.any (mightHelpOrder source.position [] (some spec))
      let scan : Loop :=
        { Loop.start source .rows with
          run := size + 16
          sortIndex := if helps then sortNumber else 0 }
      let kept := LoopSet.insert kept (scan.adjustRows facts.terms facts.baseCount size)
      let start := { Loop.start source .rows with sortIndex := scan.sortIndex }
      let kept := growLoops facts source spec none table.width 16 ⟨start, none⟩ 0 kept
      (kept, next)
    | some shape =>
      let usable := match shape.condition with
        | some condition => partialIndexUsable facts source condition
        | none => true
      if !usable then (kept, next)
      else
        let rows := shape.rows.headD size
        let covering := shape.primary || coversUsed source shape
        let helps := !shape.unordered &&
          facts.orderExprs.any (mightHelpOrder source.position shape.keys (some spec))
        let base : Loop :=
          { Loop.start source (.index shape) with
            rows := rows
            covering := covering
            sortIndex := if helps then sortNumber else 0 }
        let scanned :=
          if helps || spec.withoutRowId || shape.condition.isSome || source.indexedBy.isSome ||
              covering && !shape.unordered && shape.width < table.width then
            let run := rows + 1 + (15 * shape.width) / table.width
            let run := if covering then run
              else
                let lookups := ((facts.terms.takeWhile (termCovered source spec shape)).foldl
                  (fun lookups term =>
                    if term.truth ≤ 0 then lookups + term.truth
                    else lookups - 1 - (if term.relation.isEquality then 19 else 0))
                  (rows + 16))
                Estimate.add run lookups
            let scan : Loop :=
              { base with
                run := run
                sortIndex := if helps then sortNumber else 0 }
            LoopSet.insert kept (scan.adjustRows facts.terms facts.baseCount rows)
          else kept
        let kept := growLoops facts source spec (some shape) table.width
          (shape.keys.length + 2) ⟨base, none⟩ 0 scanned
        (kept, next)
  (probes.foldl step (kept, 1)).1

/-- The loops of a source, inserted after those already kept. -/
def sourceLoops (facts : QueryFacts) (source : SourceFacts) (kept : LoopSet) : LoopSet :=
  match source.table with
  | some table => tableLoops facts source table kept
  | none => viewLoops facts source kept

end SheetExport.Store.Sql.Access
