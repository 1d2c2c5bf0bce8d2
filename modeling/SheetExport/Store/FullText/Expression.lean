import SheetExport.Store.FullText.Match

/-!
# Queries of the third and fourth versions

Full-text tables of the third and fourth versions read their queries with a grammar of their own.
The text is read from the left, one node at a time, after any blanks:

* the keywords `OR`, `AND`, `NOT` and `NEAR`, in capitals, `NEAR/n` giving the distance (10 when
  not given); a keyword must be followed by a blank, a quote, a parenthesis or the end;
* a quoted phrase, cut into terms by the table's tokenizer, up to the next quote (there is no
  way to write a quote inside one);
* `(`, which reads a query up to its `)`;
* otherwise a term, after `column:` when the text begins with the name of a column and a colon:
  the first token the tokenizer finds before the next parenthesis or quote, `*` right after it
  making it match any term it begins, and (fourth version) `^` right before it asking that it
  open its column.

Phrases side by side are joined by `AND`. `NEAR` binds tightest, then `NOT`, `AND` and `OR`, each
grouping from the left; both sides of `NEAR` must be phrases. An operator with no phrase after
it, an unmatched parenthesis or a quote that does not close makes the query malformed. A term
after `column:` that is a quote or a parenthesis ends the reading there, and so does a `)` at
the top.

The tree is then balanced: the operands of a run of `AND` (or of `OR`) are joined in pairs. No
node may stand deeper than twelve.
-/

namespace SheetExport.Store.FullText

/-- An operator of the query language. -/
inductive Joiner where
  | near (distance : Nat)
  | except
  | both
  | either
  deriving DecidableEq, Repr, Inhabited

/-- How loosely an operator binds: `NEAR` tightest, then `NOT`, `AND` and `OR`. -/
def Joiner.rank : Joiner → Nat
  | .near _ => 1
  | .except => 2
  | .both => 3
  | .either => 4

/-- A query as read: phrases, each with the column it looks in (none for every column), joined by
operators. -/
inductive Expression where
  | phrase (terms : List Term) (column : Option Nat)
  | join (joiner : Joiner) (left right : Expression)
  deriving DecidableEq, Repr, Inhabited

/-- What is wrong with a query that cannot be used. -/
inductive ExpressionFault where
  | malformed
  | tooDeep
  deriving DecidableEq, Repr

/-- Whether a byte is a blank between nodes. -/
def isNodeSpace (b : UInt8) : Bool :=
  b == 0x20 || b == 0x09 || b == 0x0A || b == 0x0D || b == 0x0B || b == 0x0C

/-- The digits at the front of a text: how many, and their value; none when the value passes
`2^31 - 1`. -/
def leadingInt (text : List UInt8) : Option (Nat × Nat) :=
  let digits := text.takeWhile fun b => 0x30 ≤ b && b ≤ 0x39
  digits.foldl (fun (acc : Option (Nat × Nat)) b =>
    acc.bind fun (count, value) =>
      let value := value * 10 + (b.toNat - 0x30)
      if 0x7FFFFFFF < value then none else some (count + 1, value)) (some (0, 0))

/-- The operator a keyword at the front of a text stands for, and the bytes the keyword takes. -/
def keywordAt (text : List UInt8) : Option (Joiner × Nat) :=
  let ends (length : Nat) : Bool :=
    match text[length]? with
    | none => true
    | some b => isNodeSpace b || b == 0x22 || b == 0x28 || b == 0x29 || b == 0
  let plain (word : String) (joiner : Joiner) : Option (Joiner × Nat) :=
    let bytes := asciiBytes word
    if bytes.isPrefixOf text && ends bytes.length then some (joiner, bytes.length) else none
  let near : Option (Joiner × Nat) :=
    if (asciiBytes "NEAR").isPrefixOf text then
      let (length, distance) : Nat × Nat := match (text[4]? : Option UInt8), (text[5]? : Option UInt8) with
        | some slash, some digit =>
          if slash == 0x2F && 0x30 ≤ digit && digit ≤ 0x39 then
            match leadingInt (text.drop 5) with
            | some (count, value) => (5 + count, value)
            | none => (4, 10)
          else (4, 10)
        | _, _ => (4, 10)
      if ends length then some (.near distance, length) else none
    else none
  (plain "OR" .either).orElse fun _ => (plain "AND" .both).orElse fun _ =>
    (plain "NOT" .except).orElse fun _ => near

/-- Whether a text begins with a name, in any ASCII case, followed by a colon. -/
def beginsColumn (text : List UInt8) (name : List UInt8) : Bool :=
  name.length < text.length && text[name.length]? == some 0x3A &&
    (text.take name.length).map (fun b => lowerAscii b.toNat) == name.map (fun b => lowerAscii b.toNat)

/-- The setting a query of the third or fourth version is read in: the names of the columns, the
tokenizer, whether the table is of the fourth version, and the column a phrase looks in when it
names none. -/
structure ExpressionSetting where
  columns : List String
  tokenizer : Tokenizer
  fourth : Bool
  column : Option Nat

/-- The phrase of a quoted text: its tokens, each matching any term it begins when `*` follows
it and asking to open its column when `^` stands before it. -/
def quotedPhrase (setting : ExpressionSetting) (text : List UInt8) : Expression :=
  let terms := (setting.tokenizer.tokens text).map fun token =>
    (⟨token.term, text[token.stop]? == some 0x2A,
      0 < token.start && text[token.start - 1]? == some 0x5E⟩ : Term)
  .phrase terms setting.column

/-- What reading one node found. -/
inductive NodeRead where
  /-- An operator, with the bytes it took. -/
  | joiner (joiner : Joiner) (taken : Nat)
  /-- A phrase or a query in parentheses (none when it holds nothing), with the bytes taken and
  the depth of parentheses after it. -/
  | operand (expression : Option Expression) (taken : Nat) (depth : Int)
  /-- The end of the text, or of a query in parentheses; with the bytes taken and the depth of
  parentheses after it. -/
  | finish (taken : Nat) (depth : Int)
  | fault
  deriving Repr, Inhabited

/-- Reads one term, looking in a column, from a text: the first token before a parenthesis or a
quote. -/
def termNode (setting : ExpressionSetting) (column : Option Nat) (text : List UInt8)
    (skipped : Nat) (depth : Int) : NodeRead :=
  let region := text.takeWhile fun b => b != 0x28 && b != 0x29 && b != 0x22
  match setting.tokenizer.tokens region with
  | token :: _ =>
    let prefix_ := text[token.stop]? == some 0x2A
    let stop := if prefix_ then token.stop + 1 else token.stop
    let carets := ((text.take token.start).reverse.takeWhile (· == 0x5E)).length
    let initial := setting.fourth && 0 < carets
    .operand (some (.phrase [⟨token.term, prefix_, initial⟩] column)) (skipped + stop) depth
  | [] =>
    if region.isEmpty then .finish skipped depth else .operand none (skipped + region.length) depth

/-- The items a query in parentheses reads: operands and the operators between them. -/
inductive Item where
  | operand (expression : Expression)
  | joiner (joiner : Joiner)
  deriving Repr, Inhabited

/-- Whether an expression is a phrase. -/
def Expression.isPhrase : Expression → Bool
  | .phrase _ _ => true
  | .join _ _ _ => false

/-- Joins operands and the operators between them: the loosest operator, its last instance when
several bind as loosely, joins what stands on each side of it. -/
def assemble (first : Expression) (rest : List (Joiner × Expression)) (fuel : Nat) : Expression :=
  match fuel with
  | 0 => first
  | fuel + 1 =>
    match rest with
    | [] => first
    | _ =>
      let loosest := (rest.map (·.1.rank)).foldl max 0
      let split := (rest.zipIdx.filter (·.1.1.rank == loosest)).getLast?.map (·.2) |>.getD 0
      match rest[split]? with
      | some (joiner, right) =>
        .join joiner (assemble first (rest.take split) fuel)
          (assemble right (rest.drop (split + 1)) fuel)
      | none => first

/-- The expression of the items read, none for no items. -/
def assembleItems (items : List Item) : Option Expression :=
  match items with
  | .operand first :: rest =>
    let rec pairs : List Item → List (Joiner × Expression)
      | .joiner joiner :: .operand operand :: more => (joiner, operand) :: pairs more
      | _ => []
    let rest := pairs rest
    some (assemble first rest (rest.length + 1))
  | _ => none

/-- The state of reading a query in parentheses: the items so far, whether an operand must come
next, and whether the last item is a `NEAR` or an operand that is no phrase. -/
structure Reading where
  items : List Item
  needsOperand : Bool
  afterNear : Bool
  afterGroup : Bool

/-- Takes one node into a reading, or none when the node cannot stand there. -/
def Reading.take (reading : Reading) (node : Item) : Option Reading :=
  match node with
  | .joiner joiner =>
    let near := match joiner with
      | .near _ => true
      | _ => false
    if reading.needsOperand || (near && reading.afterGroup) then none
    else some ⟨reading.items ++ [node], true, near, false⟩
  | .operand operand =>
    let items := if reading.needsOperand then reading.items
      else reading.items ++ [.joiner .both]
    let afterNear := reading.needsOperand && reading.afterNear
    if !operand.isPhrase && afterNear then none
    else some ⟨items ++ [node], false, false, !operand.isPhrase⟩

mutual

/-- Reads one node of a text, at a depth of parentheses. -/
def readNode (setting : ExpressionSetting) (fuel : Nat) (text : List UInt8) (depth : Int) :
    NodeRead :=
  match fuel with
  | 0 => .fault
  | fuel + 1 =>
    let input := text.dropWhile isNodeSpace
    let skipped := text.length - input.length
    match input with
    | [] => .finish 0 depth
    | first :: rest =>
      match keywordAt input with
      | some (joiner, length) => .joiner joiner (skipped + length)
      | none =>
        if first == 0x22 then
          let inner := rest.takeWhile (· != 0x22)
          if inner.length == rest.length then .fault
          else .operand (some (quotedPhrase setting inner)) (skipped + inner.length + 2) depth
        else if first == 0x28 then
          if 1000 < depth + 1 then .fault
          else
            match readGroup setting fuel ⟨[], true, false, false⟩ rest 0 (depth + 1) with
            | some (expression, taken, depth) => .operand expression (skipped + 1 + taken) depth
            | none => .fault
        else if first == 0x29 then .finish (skipped + 1) (depth - 1)
        else
          let named := setting.columns.zipIdx.find? fun (name, _) =>
            beginsColumn input name.toUTF8.toList
          match named with
          | some (name, index) =>
            let length := skipped + name.toUTF8.size + 1
            termNode setting (some index) (text.drop length) length depth
          | none => termNode setting setting.column text 0 depth

/-- Reads the rest of a query up to its end or its `)`, after the items of `reading` and the
bytes `taken`: the expression read (none when empty), the bytes taken and the depth of
parentheses after it; none when it is malformed. -/
def readGroup (setting : ExpressionSetting) (fuel : Nat) (reading : Reading) (rest : List UInt8)
    (taken : Nat) (depth : Int) : Option (Option Expression × Nat × Int) :=
  match fuel with
  | 0 => none
  | fuel + 1 =>
    match readNode setting fuel rest depth with
    | .fault => none
    | .finish length depth =>
      if reading.needsOperand && !reading.items.isEmpty then none
      else some (assembleItems reading.items, taken + length, depth)
    | .joiner joiner length =>
      (reading.take (.joiner joiner)).bind fun reading =>
        readGroup setting fuel reading (rest.drop length) (taken + length) depth
    | .operand none length depth =>
      readGroup setting fuel reading (rest.drop length) (taken + length) depth
    | .operand (some operand) length depth =>
      (reading.take (.operand operand)).bind fun reading =>
        readGroup setting fuel reading (rest.drop length) (taken + length) depth

end

/-- The operands of a run of one operator, in order. -/
def Expression.operandsOf (joiner : Joiner) : Expression → List Expression
  | .join own left right =>
    if own == joiner then left.operandsOf joiner ++ right.operandsOf joiner
    else [.join own left right]
  | other => [other]

/-- Adds an operand to the pairs being built, one slot a level: an operand meeting one in its
slot joins it and moves up. None when it would move past the last slot. -/
def carryOperand (joiner : Joiner) : List (Option Expression) → Expression →
    Option (List (Option Expression))
  | [], _ => none
  | none :: rest, operand => some (some operand :: rest)
  | some held :: rest, operand =>
    (carryOperand joiner rest (.join joiner held operand)).map (none :: ·)

/-- Joins the operands held in the slots, the lowest level rightmost. -/
def gatherOperands (joiner : Joiner) (slots : List (Option Expression)) : Option Expression :=
  slots.foldl (fun (built : Option Expression) slot =>
    match slot, built with
    | some held, some built => some (.join joiner held built)
    | some held, none => some held
    | none, built => built) none

/-- Balances an expression within a depth: runs of `AND` and of `OR` are joined in pairs; the
sides of `NOT` are balanced in turn. -/
def Expression.balance : Nat → Expression → Except ExpressionFault Expression
  | 0, _ => throw .malformed
  | depth + 1, .join joiner left right =>
    if joiner == .both || joiner == .either then do
      let operands := (Expression.join joiner left right).operandsOf joiner
      let slots ← operands.foldlM (fun slots operand => do
          let operand ← Expression.balance depth operand
          match carryOperand joiner slots operand with
          | some slots => pure slots
          | none => throw .tooDeep) (List.replicate (depth + 1) none)
      pure ((gatherOperands joiner slots).getD (.join joiner left right))
    else if joiner == .except then do
      let left ← Expression.balance depth left
      let right ← Expression.balance depth right
      pure (.join .except left right)
    else pure (.join joiner left right)
  | _ + 1, other => pure other

/-- The number of levels below the top of an expression. -/
def Expression.height : Expression → Nat
  | .phrase _ _ => 0
  | .join _ left right => max left.height right.height + 1

/-- The phrases of a run of `NEAR`, each with its columns, and the distances between them. -/
def Expression.chainOf : Expression → List (List Term × Option (List Nat)) × List Nat
  | .phrase terms column => ([(terms, column.map ([·]))], [])
  | .join (.near distance) left right =>
    let (leftPhrases, leftDistances) := left.chainOf
    let (rightPhrases, rightDistances) := right.chainOf
    (leftPhrases ++ rightPhrases, leftDistances ++ [distance] ++ rightDistances)
  | .join _ _ _ => ([], [])

/-- The query an expression stands for. -/
def Expression.query : Expression → Query
  | .phrase terms column => .near [terms] 10 (column.map ([·]))
  | .join (.near distance) left right =>
    let (phrases, distances) := (Expression.join (.near distance) left right).chainOf
    .chain phrases distances
  | .join .except left right => .except left.query right.query
  | .join .both left right => .both left.query right.query
  | .join .either left right => .either left.query right.query

/-- The deepest a balanced query may be. -/
def deepestExpression : Nat := 12

/-- Reads a query of the third or fourth version: none when it holds no phrase. -/
def Expression.read (setting : ExpressionSetting) (text : List UInt8) :
    Except ExpressionFault (Option Expression) := do
  let text := text.takeWhile (· != 0)
  match readGroup setting (4 * text.length + 8) ⟨[], true, false, false⟩ text 0 0 with
  | some (none, _, 0) => pure none
  | some (some expression, _, 0) =>
    let balanced ← expression.balance deepestExpression
    if deepestExpression < balanced.height then throw .tooDeep
    pure (some balanced)
  | _ => throw .malformed

/-- Reads a query of the third or fourth version into a query; a text that holds no phrase
matches nothing. A query that cannot be used fails with the message the table gives. -/
def Query.readClassic (setting : ExpressionSetting) (text : List UInt8) : Except String Query :=
  match Expression.read setting text with
  | .ok (some expression) => .ok expression.query
  | .ok none => .ok .never
  | .error .malformed =>
    .error ("malformed MATCH expression: [" ++ Text.decodeUtf8Lossy (text.takeWhile (· != 0)) ++ "]")
  | .error .tooDeep =>
    .error ("FTS expression tree is too large (maximum depth " ++ toString deepestExpression ++ ")")

theorem Joiner.rank_pos (joiner : Joiner) : 0 < joiner.rank := by
  cases joiner <;> simp [Joiner.rank]

end SheetExport.Store.FullText
