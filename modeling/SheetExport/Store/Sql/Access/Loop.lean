import SheetExport.Store.Sql.Access.Shape

/-!
# Ways of reading one source

A loop is one way to read the rows of one source of a query: every row in the order the source
keeps them, the rows a row id names or bounds, the rows of an index (all of them, or those its
terms find), or the rows found through an index built for the query. A loop records what it
costs to start and to run, how many rows it gives, which sources must be read before it, and which
terms of the condition it uses.

The loops of a query are kept in a list, and a new loop is inserted by `LoopSet.insert`: it is
dropped when a loop of the same source and order already costs no more, needs no more sources
and gives no more rows; otherwise it replaces the first loop it beats in all three, and removes
the others it beats, or it is added at the end.
-/

namespace SheetExport.Store.Sql.Access

/-- How a loop reaches the rows of its source. -/
inductive Reach where
  /-- Every row, or the rows a row id names or bounds, in row-id order. -/
  | rows
  /-- The rows of an index, in the order of its key. -/
  | index (shape : IndexShape)
  /-- The rows found through an index built for the query. -/
  | automatic
  deriving Repr

/-- One way to read one source. -/
structure Loop where
  source : Nat
  reach : Reach
  /-- The sources that must be read before this loop. -/
  prerequisites : Sources
  /-- What starting the loop costs, what one run of it costs, and the rows it gives. -/
  setup : Estimate
  run : Estimate
  rows : Estimate
  /-- The positions of the terms the loop uses, in the order it uses them. -/
  used : List Nat
  /-- How many key parts the loop's terms fix to one value each (or to each of a list). -/
  equalities : Nat
  /-- Whether the loop gives at most one row. -/
  oneRow : Bool
  /-- Whether the index holds every column of the source the query reads. -/
  covering : Bool
  /-- A number that tells loops apart that may help with the order the query asks for. -/
  sortIndex : Nat
  /-- Whether a key part is fixed to each value of a list. -/
  fixedToList : Bool
  /-- Whether a key part is fixed to one value. -/
  fixedToValue : Bool
  /-- Whether the loop has a lower and an upper bound on the key part after the fixed ones. -/
  bounded : Bool × Bool
  /-- Whether the loop reads every row of a query in `FROM` or of a view. -/
  viewScan : Bool
  deriving Repr

namespace Loop

/-- Whether the loop reads a table by row id, in full or by terms on the row id. -/
def byRowId (loop : Loop) : Bool :=
  match loop.reach with
  | .rows => true
  | _ => false

/-- Whether the loop reads an index the table has. -/
def indexed (loop : Loop) : Bool :=
  match loop.reach with
  | .index _ => true
  | _ => false

/-- Whether the loop reads through an index built for the query. -/
def automatic (loop : Loop) : Bool :=
  match loop.reach with
  | .automatic => true
  | _ => false

/-- Whether every term loop `x` uses is used by loop `y` too, `x` using fewer, and `x` costs less
or gives fewer rows; an index that holds every column read does not count as the lesser of one
that does not. -/
def cheaperSubset (x y : Loop) : Bool :=
  x.used.length < y.used.length &&
    !(x.run > y.run && x.rows > y.rows) &&
    x.used.all (y.used.contains ·) &&
    !(x.covering && !y.covering)

/-- Adjusts the estimates of a new loop on an index against the loops of the same source already
kept: a loop using a subset of its terms makes it no dearer, one using a superset no cheaper. -/
def adjustAgainst (kept : List Loop) (template : Loop) : Loop :=
  if !template.indexed then template
  else
    kept.foldl (fun template other =>
      if other.source != template.source || !other.indexed then template
      else if cheaperSubset other template then
        { template with
          run := min other.run template.run
          rows := min (other.rows - 1) template.rows }
      else if cheaperSubset template other then
        { template with
          run := max other.run template.run
          rows := max (other.rows + 1) template.rows }
      else template) template

/-- How a kept loop compares with a new one of the same source: the kept one makes the new one
useless, the new one makes the kept one useless, or neither. -/
inductive Verdict where
  | keepOld
  | takeNew
  | neither
  deriving DecidableEq, Repr

/-- Compares a kept loop with a new one. Loops of different sources or sort numbers never
compete. A built index gives way to an index the table has that fixes a key part; otherwise the
kept loop wins when it needs no more sources and costs and gives no more, and the new one wins
when it needs no more sources and runs and gives no more. -/
def judge (old template : Loop) : Verdict :=
  if old.source != template.source || old.sortIndex != template.sortIndex then .neither
  else if old.automatic && template.indexed && template.fixedToValue &&
      old.prerequisites &&& template.prerequisites == template.prerequisites then .takeNew
  else if old.prerequisites &&& template.prerequisites == old.prerequisites &&
      old.setup ≤ template.setup && old.run ≤ template.run && old.rows ≤ template.rows then .keepOld
  else if old.prerequisites &&& template.prerequisites == template.prerequisites &&
      old.run ≥ template.run && old.rows ≥ template.rows then .takeNew
  else .neither

end Loop

/-- The loops kept for a query, in the order they were first kept. -/
abbrev LoopSet := List Loop

namespace LoopSet

/-- Removes, after the loop a new one replaced, the other loops the new one beats, until a loop
that beats it. -/
def dropBeaten (template : Loop) : List Loop → List Loop
  | [] => []
  | old :: rest =>
    match Loop.judge old template with
    | .takeNew => dropBeaten template rest
    | .keepOld => old :: rest
    | .neither => old :: dropBeaten template rest

/-- Puts a new loop in place of the first kept loop it beats, or at the end, unless a kept loop
comes first that beats it. -/
def place (template : Loop) : List Loop → Option (List Loop)
  | [] => some [template]
  | old :: rest =>
    match Loop.judge old template with
    | .keepOld => none
    | .takeNew => some (template :: dropBeaten template rest)
    | .neither => (place template rest).map (old :: ·)

/-- Inserts a new loop: its estimates adjusted against the kept loops, then placed. -/
def insert (kept : LoopSet) (template : Loop) : LoopSet :=
  (place (Loop.adjustAgainst kept template) kept).getD kept

end LoopSet

/-- The estimated rows a range of an index gives, of `rows` before it, with a lower and an upper
bound, either of which may be missing: each bound keeps a quarter, or as often as its likelihood
says; two bounds with no likelihood keep another sixteenth; never fewer than two rows, nor more
than the rows less one for each bound. -/
def rangeRows (rows : Estimate) (lower upper : Option Term) : Estimate :=
  let narrow (bound : Option Term) (n : Estimate) : Estimate :=
    match bound with
    | some term => if term.truth ≤ 0 then n + term.truth else n - 20
    | none => n
  let estimate := narrow upper (narrow lower rows)
  let estimate := match lower, upper with
    | some low, some high => if low.truth > 0 && high.truth > 0 then estimate - 20 else estimate
    | _, _ => estimate
  let ceiling := rows - (if lower.isSome then 1 else 0) - (if upper.isSome then 1 else 0)
  min (max estimate 10) ceiling

/-- Lowers the rows a loop gives by the terms of the condition it does not use, among the first
`baseCount` terms: each term that reads the loop's source and only sources read before it keeps
as often as its likelihood says, or a little less than all; and an equality keeps at most a half
of the table for a small integer, a quarter otherwise. -/
def Loop.adjustRows (terms : List Term) (baseCount : Nat) (tableRows : Estimate) (loop : Loop) :
    Loop :=
  let self := Sources.single loop.source
  let allowed := loop.prerequisites ||| self
  let step (state : Estimate × Estimate) (entry : Term × Nat) : Estimate × Estimate :=
    let (rows, reduce) := state
    let (term, position) := entry
    if !Sources.within term.allSources allowed || term.allSources &&& self == 0 then state
    else if loop.used.any fun used =>
        used == position || (terms[used]?.bind (·.parent)) == some position then state
    else if term.truth ≤ 0 then (rows + term.truth, reduce)
    else
      let reduce := if term.relation.isEquality then max reduce (if term.smallValue then 10 else 20)
        else reduce
      (rows - 1, reduce)
  let (rows, reduce) := ((terms.zipIdx).take baseCount).foldl step (loop.rows, 0)
  { loop with rows := min rows (tableRows - reduce) }

theorem rangeRows_one_bound (term : Term) (h : term.truth = 1) :
    rangeRows 200 (some term) none = 180 := by
  simp only [rangeRows, h, Option.isSome_some, Option.isSome_none]
  decide

end SheetExport.Store.Sql.Access
