import SheetExport.Store.Sql.Token
import SheetExport.Store.Error
import SheetExport.Store.Sql.Tree

/-!
# Reading expressions

Expressions are read by precedence climbing. The binding strength of each operator, from the
loosest:

1. `OR`
2. `AND`
3. prefix `NOT`, and the `NOT` that starts `NOT LIKE`, `NOT IN`, `NOT BETWEEN`, `NOT NULL`
4. `IS`, `LIKE`, `GLOB`, `REGEXP`, `MATCH`, `BETWEEN`, `IN`, `ISNULL`, `NOTNULL`, `=`, `==`, `!=`,
   `<>`
5. `<`, `<=`, `>`, `>=`
6. `ESCAPE`
7. `&`, `|`, `<<`, `>>`
8. `+`, `-`
9. `*`, `/`, `%`
10. `||`, `->`, `->>`
11. `COLLATE`
12. prefix `-`, `+`, `~`

Binary operators group to the left: the right operand of an operator of strength `n` holds only
operators of strength above `n`. A prefix `NOT` takes operators of strength 3 and above, so
`NOT a NOT LIKE b` is `NOT (a NOT LIKE b)` while `NOT a AND b` is `(NOT a) AND b`; the other
prefix operators take a single operand. The lower bound of `BETWEEN` ends at the first `AND`
that is not inside one of its operands, and its upper bound is read at strength 5.

A keyword that the grammar has no use for where it stands reads as a name, which lets columns be
called `key` or `replace`.
-/

namespace SheetExport.Store.Sql

/-- What is left of a statement while it is read: the tokens, and the parameters seen so far. -/
structure Reader where
  tokens : List Token
  /-- The greatest parameter index so far. -/
  parameterCount : Nat
  /-- The named parameters seen so far, with their indexes. -/
  named : List (String × Nat)
  deriving Inhabited

/-- Reading part of a statement. -/
abbrev Parser := StateT Reader (Except StoreError)

namespace Parser

/-- The token that stands for the end of the text. -/
def finish : Token := ⟨.symbol, "", ""⟩

/-- The failure of reading at a token: a syntax error near it, or at the end an incomplete
statement. -/
def failAt (token : Token) : StoreError :=
  if token.text.isEmpty then .incomplete else .near token.text

/-- The next token, not taken. An illegal token fails as soon as it is looked at. -/
def peek : Parser Token := do
  match (← get).tokens with
  | [] => pure finish
  | token :: _ =>
    if token.kind == .illegal then throw (.unrecognized token.text) else pure token

/-- Drops the next token. -/
def advance : Parser Unit := modify fun reader => { reader with tokens := reader.tokens.drop 1 }

/-- Takes the next token. -/
def take : Parser Token := do
  let token ← peek
  advance
  pure token

/-- Takes the next token if it is a given operator or punctuation. -/
def acceptSymbol (symbol : String) : Parser Bool := do
  if (← peek).isSymbol symbol then
    advance
    pure true
  else pure false

/-- Takes the next token if it is a given keyword. -/
def acceptKeyword (word : String) : Parser Bool := do
  if (← peek).isKeyword word then
    advance
    pure true
  else pure false

/-- Takes a given operator or punctuation, or fails at the next token. -/
def expectSymbol (symbol : String) : Parser Unit := do
  let token ← peek
  if token.isSymbol symbol then advance else throw (failAt token)

/-- Takes a given keyword, or fails at the next token. -/
def expectKeyword (word : String) : Parser Unit := do
  let token ← peek
  if token.isKeyword word then advance else throw (failAt token)

/-- Whether a token reads as a plain name: a quoted name, a word that is no keyword, or a keyword
that stands for a name. -/
def isPlainName (token : Token) : Bool :=
  token.kind == .quoted ||
    (token.kind == .name &&
      match token.keyword? with
      | none => true
      | some word => nameKeywords.contains word)

/-- Whether a token reads as an identifier: a plain name or `INDEXED`. -/
def isIdentifier (token : Token) : Bool := isPlainName token || token.isKeyword "INDEXED"

/-- Whether a token is a keyword that joins tables. -/
def isJoinKeyword (token : Token) : Bool :=
  match token.keyword? with
  | some word => joinKeywords.contains word
  | none => false

/-- Whether a token names a table or column: an identifier, a string, or a join keyword. -/
def isNameToken (token : Token) : Bool :=
  isIdentifier token || token.kind == .string || isJoinKeyword token

/-- Takes a name of a table or column. -/
def name : Parser String := do
  let token ← peek
  if isNameToken token then
    advance
    pure token.nameText
  else throw (failAt token)

/-- Takes a plain name or a string, as a collation or a word of a type is written. -/
def word : Parser Token := do
  let token ← peek
  if isPlainName token || token.kind == .string then
    advance
    pure token
  else throw (failAt token)

/-- The index of a parameter token, assigning the next free index to `?` and to a name seen for
the first time. -/
def parameter (token : Token) : Parser Nat := do
  let reader ← get
  let text := token.text
  if text == "?" then
    set { reader with parameterCount := reader.parameterCount + 1 }
    pure (reader.parameterCount + 1)
  else if text.startsWith "?" then
    let digits := (text.drop 1).toString
    let index := digits.toNat?
    match index with
    | some n =>
      if 1 ≤ n && n ≤ 250000 then
        let known := reader.named.any (·.1 == text)
        set { reader with
          parameterCount := max reader.parameterCount n
          named := if known then reader.named else reader.named ++ [(text, n)] }
        pure n
      else throw .parameterNumber
    | none => throw .parameterNumber
  else
    match reader.named.find? (·.1 == text) with
    | some (_, n) => pure n
    | none =>
      let n := reader.parameterCount + 1
      set { reader with parameterCount := n, named := reader.named ++ [(text, n)] }
      pure n

/-- The bytes of a blob literal `x'…'`. -/
def blobBytes (text : String) : List UInt8 :=
  let digits := ((text.toList.drop 2).dropLast).map fun c =>
    if c.isDigit then c.toNat - 48
    else if 'a' ≤ c && c ≤ 'f' then c.toNat - 87
    else c.toNat - 55
  let rec pairs : List Nat → List UInt8
    | high :: low :: rest => (high * 16 + low).toUInt8 :: pairs rest
    | _ => []
  pairs digits

/-- The strength of the operator a token starts, when it starts one. -/
def strength (token : Token) : Option Nat :=
  if token.kind == .symbol then
    match token.text with
    | "=" | "==" | "!=" | "<>" => some 4
    | "<" | "<=" | ">" | ">=" => some 5
    | "&" | "|" | "<<" | ">>" => some 7
    | "+" | "-" => some 8
    | "*" | "/" | "%" => some 9
    | "||" | "->" | "->>" => some 10
    | _ => none
  else
    match token.keyword? with
    | some "OR" => some 1
    | some "AND" => some 2
    | some "NOT" => some 3
    | some "IS" | some "LIKE" | some "GLOB" | some "REGEXP" | some "MATCH" | some "BETWEEN"
    | some "IN" | some "ISNULL" | some "NOTNULL" => some 4
    | some "COLLATE" => some 11
    | _ => none

/-- The binary operator of a symbol or of `AND` and `OR`. -/
def binaryOf (token : Token) : Option BinaryOp :=
  if token.kind == .symbol then
    match token.text with
    | "=" | "==" => some .eq
    | "!=" | "<>" => some .ne
    | "<" => some .lt
    | "<=" => some .le
    | ">" => some .gt
    | ">=" => some .ge
    | "&" => some .bitAnd
    | "|" => some .bitOr
    | "<<" => some .shiftLeft
    | ">>" => some .shiftRight
    | "+" => some .add
    | "-" => some .sub
    | "*" => some .mul
    | "/" => some .div
    | "%" => some .rem
    | "||" => some .concat
    | _ => none
  else if token.isKeyword "OR" then some .or
  else if token.isKeyword "AND" then some .and
  else none

/-- Whether a token is one of the pattern operators. -/
def isPatternKeyword (token : Token) : Bool :=
  token.isKeyword "LIKE" || token.isKeyword "GLOB" || token.isKeyword "REGEXP" ||
    token.isKeyword "MATCH"

/-- Whether a token starts a query. -/
def startsQuery (token : Token) : Bool :=
  token.isKeyword "SELECT" || token.isKeyword "VALUES" || token.isKeyword "WITH"

/-- The condition `operand = value` of a `CASE` branch, or the branch's own condition. -/
def branchCondition (operand : Option Expr) (value : Expr) : Expr :=
  match operand with
  | some operand => .binary .eq operand value
  | none => value

/-- A chain of choices from `CASE` branches and its `ELSE`. -/
def choices (operand : Option Expr) : List (Expr × Expr) → Expr → Expr
  | [], otherwise => otherwise
  | (condition, result) :: rest, otherwise =>
    .choose (branchCondition operand condition) result (choices operand rest otherwise)

/-- Reads the words of a type, with an optional size in parentheses, as its text. -/
def typeName : Parser String := do
  let first ← word
  let rec more (fuel : Nat) (words : List String) : Parser (List String) := do
    match fuel with
    | 0 => pure words
    | fuel + 1 =>
      let token ← peek
      if isPlainName token || token.kind == .string then
        advance
        more fuel (words ++ [token.text])
      else pure words
  let words ← more ((← get).tokens.length + 1) [first.text]
  let signed : Parser String := do
    let sign ← (do
      if ← acceptSymbol "+" then pure "+"
      else if ← acceptSymbol "-" then pure "-"
      else pure "")
    let number ← peek
    if number.kind == .integer || number.kind == .float then
      advance
      pure (sign ++ number.text)
    else throw (failAt number)
  if ← acceptSymbol "(" then
    let low ← signed
    let high ← (do
      if ← acceptSymbol "," then pure (some (← signed)) else pure none)
    expectSymbol ")"
    let size := match high with
      | some high => "(" ++ low ++ "," ++ high ++ ")"
      | none => "(" ++ low ++ ")"
    pure (" ".intercalate words ++ size)
  else pure (" ".intercalate words)

/-- The name token of a table or column. -/
def nameToken : Parser Token := do
  let token ← peek
  if isNameToken token then
    advance
    pure token
  else throw (failAt token)

/-- An optional `ASC` or `DESC`; true for `DESC`. -/
def descending : Parser Bool := do
  if ← acceptKeyword "DESC" then pure true
  else
    let _ ← acceptKeyword "ASC"
    pure false

/-- An optional `NULLS FIRST` or `NULLS LAST`: `some true` for first. -/
def nullsPlace : Parser (Option Bool) := do
  if ← acceptKeyword "NULLS" then
    let token ← peek
    if token.isKeyword "FIRST" then
      advance
      pure (some true)
    else if token.isKeyword "LAST" then
      advance
      pure (some false)
    else throw (failAt token)
  else pure none

/-- The names of a parenthesized list after its `(`, up to and with its `)`. -/
def nameList : Parser (List String) := do
  let rec more (fuel : Nat) (names : List String) : Parser (List String) := do
    match fuel with
    | 0 => pure names
    | fuel + 1 =>
      let token ← nameToken
      if ← acceptSymbol "," then more fuel (names ++ [token.nameText])
      else pure (names ++ [token.nameText])
  let names ← more ((← get).tokens.length + 1) []
  expectSymbol ")"
  pure names

/-- The text of the tokens read since the reader held `before`, as the statement wrote it. -/
def textSince (before : List Token) : Parser String := do
  let after := (← get).tokens
  pure (writtenText (before.take (before.length - after.length)))

/-- The text a definition keeps of itself: the tokens read since the reader held `before`, from
the name of what it defines on (past the database that qualifies the name), as the statement
wrote them. -/
def definitionText (before : List Token) : Parser String := do
  let after := (← get).tokens
  let read := before.take (before.length - after.length)
  let read := match read with
    | _ :: dot :: rest => if dot.isSymbol "." then rest else read
    | _ => read
  pure (writtenText read)

/-- The blanks and comments before the `;` that ends a statement, if it is next. -/
def closingGap : Parser String := do
  let token ← peek
  pure (if token.isSymbol ";" then token.gap else "")

/-- The words of a join operator between `JOIN_KW` words, checked: the kind of join and whether
it is natural. -/
def joinKind (words : List Token) : Except StoreError (JoinKind × Bool) :=
  let codes := words.map fun word =>
    match word.upper with
    | "NATURAL" => some (true, false, false, false, false)
    | "LEFT" => some (false, true, false, true, false)
    | "OUTER" => some (false, false, false, true, false)
    | "RIGHT" => some (false, false, true, true, false)
    | "FULL" => some (false, true, true, true, false)
    | "INNER" => some (false, false, false, false, true)
    | "CROSS" => some (false, false, false, false, true)
    | _ => none
  let valid := codes.all Option.isSome
  let natural := codes.any fun code => code.any (·.1)
  let left := codes.any fun code => code.any (·.2.1)
  let right := codes.any fun code => code.any (·.2.2.1)
  let outer := codes.any fun code => code.any (·.2.2.2.1)
  let inner := codes.any fun code => code.any (·.2.2.2.2)
  if !valid || (inner && outer) || (outer && !left && !right) then
    .error (.refused ("unknown join type: " ++ " ".intercalate (words.map (·.text))))
  else
    let cross := words.any (·.upper == "CROSS")
    let kind := if left && right then JoinKind.full else if left then .left
      else if right then .right else if cross then .cross else .inner
    .ok (kind, natural)

/-- Whether a token starts the statement a `WITH` goes before. -/
def startsWithBody (token : Token) : Bool :=
  ["SELECT", "VALUES", "INSERT", "REPLACE", "UPDATE", "DELETE"].any token.isKeyword

/-- The compound operator at the next tokens, taken, if there is one. -/
def compoundOperator : Parser (Option CompoundOp) := do
  let token ← peek
  if token.isKeyword "UNION" then
    advance
    if ← acceptKeyword "ALL" then pure (some .unionAll) else pure (some .union)
  else if token.isKeyword "INTERSECT" then
    advance
    pure (some .intersect)
  else if token.isKeyword "EXCEPT" then
    advance
    pure (some .except)
  else pure none

/-- The window the `WINDOW` clause defines under a name: the last one so named. -/
def findWindow (definitions : List (String × Window)) (name : String) : Option Window :=
  (definitions.reverse.find? fun (defined, _) => sameName defined name).map (·.2)

/-- A window with the window it names or builds on filled in from the definitions of the
`WINDOW` clause. A window that builds on another takes its partition, and its ordering when it
has one; it may not give a partition of its own, nor an ordering when the other has one, and the
other may not have a frame. -/
def Window.settle (definitions : List (String × Window)) : Window → Window
  | .named name =>
    match findWindow definitions name with
    | some found => found
    | none => .faulty ("no such window: " ++ name)
  | .mk (some base) partition orderBy frame =>
    match findWindow definitions base with
    | some (.mk _ basePartition baseOrder baseFrame) =>
      if !partition.isEmpty then .faulty ("cannot override PARTITION clause of window: " ++ base)
      else if !baseOrder.isEmpty && !orderBy.isEmpty then
        .faulty ("cannot override ORDER BY clause of window: " ++ base)
      else if baseFrame.isSome then
        .faulty ("cannot override frame specification of window: " ++ base)
      else .mk none basePartition (if baseOrder.isEmpty then orderBy else baseOrder) frame
    | some other => other
    | none => .faulty ("no such window: " ++ base)
  | windowClause => windowClause

/-- An expression with the windows of its calls settled against the definitions of the
`WINDOW` clause of the query it stands in; the queries within it have their own. -/
def Expr.settleWindows (definitions : List (String × Window)) (fuel : Nat) (e : Expr) : Expr :=
  match fuel with
  | 0 => e
  | fuel + 1 =>
    let go := Expr.settleWindows definitions fuel
    match e with
    | .extended called filter windowClause =>
      .extended (go called) (filter.map go) (windowClause.map (Window.settle definitions))
    | .unary op operand => .unary op (go operand)
    | .binary op left right => .binary op (go left) (go right)
    | .isNull operand => .isNull (go operand)
    | .notNull operand => .notNull (go operand)
    | .between operand low high => .between (go operand) (go low) (go high)
    | .inList operand items => .inList (go operand) (items.map go)
    | .cast operand typeName => .cast (go operand) typeName
    | .collate operand collation => .collate (go operand) collation
    | .call name distinct arguments => .call name distinct (arguments.map go)
    | .choose condition yes no => .choose (go condition) (go yes) (go no)
    | .vector items => .vector (items.map go)
    | .inQuery operand query => .inQuery (go operand) query
    | other => other

/-- An ordering with the windows of its terms settled. -/
def OrderTerm.settleWindows (definitions : List (String × Window)) : OrderTerm → OrderTerm
  | .mk e descending nullsFirst =>
    .mk (Expr.settleWindows definitions 10000 e) descending nullsFirst

mutual

/-- An expression whose operators are of at least strength `level`; with `andEnds`, an `AND`
at this level ends it. -/
def expression (fuel level : Nat) (andEnds : Bool) : Parser Expr :=
  match fuel with
  | 0 => do throw (failAt (← peek))
  | fuel + 1 => do
    let left ← prefixed fuel
    operators fuel level andEnds left

/-- Applies the operators that follow an operand while they are strong enough. -/
def operators (fuel level : Nat) (andEnds : Bool) (left : Expr) : Parser Expr :=
  match fuel with
  | 0 => pure left
  | fuel + 1 => do
    let token ← peek
    match strength token with
    | none => pure left
    | some bound =>
      if bound < level || (andEnds && token.isKeyword "AND") then pure left
      else
        let combined ← infixed fuel token left
        operators fuel level andEnds combined

/-- The operator at the next token applied to `left` and the operands that follow it. -/
def infixed (fuel : Nat) (token : Token) (left : Expr) : Parser Expr :=
  match fuel with
  | 0 => do throw (failAt token)
  | fuel + 1 => do
    advance
    if token.isKeyword "NOT" then
      let next ← peek
      if next.isKeyword "NULL" then
        advance
        pure (.notNull left)
      else if isPatternKeyword next then
        advance
        pure (.unary .not (← pattern fuel next left))
      else if next.isKeyword "BETWEEN" then
        advance
        pure (.unary .not (← between fuel left))
      else if next.isKeyword "IN" then
        advance
        membership fuel true left
      else throw (failAt next)
    else if token.isKeyword "IS" then
      let negated ← acceptKeyword "NOT"
      let distinct ← acceptKeyword "DISTINCT"
      if distinct then expectKeyword "FROM"
      let right ← expression fuel 5 false
      pure (.binary (if negated != distinct then .isNot else .is) left right)
    else if token.isKeyword "ISNULL" then pure (.isNull left)
    else if token.isKeyword "NOTNULL" then pure (.notNull left)
    else if isPatternKeyword token then pattern fuel token left
    else if token.isKeyword "BETWEEN" then between fuel left
    else if token.isKeyword "IN" then membership fuel false left
    else if token.isKeyword "COLLATE" then
      let collation ← word
      pure (.collate left collation.nameText)
    else if token.isSymbol "->" || token.isSymbol "->>" then
      let right ← expression fuel 11 false
      pure (.call token.text false [left, right])
    else
      match binaryOf token, strength token with
      | some op, some bound =>
        let right ← expression fuel (bound + 1) false
        if op == .and then pure (Expr.conjoin left right) else pure (.binary op left right)
      | _, _ => throw (failAt token)

/-- The rest of `left LIKE pattern [ESCAPE escape]`, a call of the operator's function with the
pattern first. -/
def pattern (fuel : Nat) (operator : Token) (left : Expr) : Parser Expr :=
  match fuel with
  | 0 => do throw (failAt (← peek))
  | fuel + 1 => do
    let patternExpr ← expression fuel 5 false
    if ← acceptKeyword "ESCAPE" then
      let escape ← expression fuel 5 false
      pure (.call operator.text false [patternExpr, left, escape])
    else pure (.call operator.text false [patternExpr, left])

/-- The rest of `left BETWEEN low AND high`. -/
def between (fuel : Nat) (left : Expr) : Parser Expr :=
  match fuel with
  | 0 => do throw (failAt (← peek))
  | fuel + 1 => do
    let low ← expression fuel 1 true
    expectKeyword "AND"
    let high ← expression fuel 5 false
    pure (.between left low high)

/-- The rest of `left IN (items)`, or of `left NOT IN (items)` when `negated`. An empty list is
false (true when negated) whatever `left` is, and a single constant item `c` makes the test
`left = +c`. -/
def membership (fuel : Nat) (negated : Bool) (left : Expr) : Parser Expr :=
  match fuel with
  | 0 => do throw (failAt (← peek))
  | fuel + 1 => do
    expectSymbol "("
    let next ← peek
    if startsQuery next then
      let subquery ← query fuel
      expectSymbol ")"
      let test := Expr.inQuery left subquery
      return (if negated then .unary .not test else test)
    if ← acceptSymbol ")" then pure (.truth negated)
    else
      let items ← list fuel
      expectSymbol ")"
      let test : Expr ← match items, left with
        | _, .vector elements =>
          let termsOf : Expr → List Expr
            | .vector terms => terms
            | other => [other]
          match items.find? fun item => (termsOf item).length != elements.length with
          | some item =>
            let count := (termsOf item).length
            throw (.refused ("IN(...) element has " ++ toString count ++ " term" ++
              (if 1 < count then "s" else "") ++ " - expected " ++ toString elements.length))
          | none =>
            pure (.inQuery left (.mk false [] (.core (.values (items.map termsOf))) [] none none))
        | [single], _ =>
          pure (if single.isConstant then .binary .eq left (.unary .plus single)
            else .inList left items)
        | _, _ => pure (.inList left items)
      pure (if negated then .unary .not test else test)

/-- A comma-separated list of one or more expressions. -/
def list (fuel : Nat) : Parser (List Expr) :=
  match fuel with
  | 0 => do throw (failAt (← peek))
  | fuel + 1 => do
    let first ← expression fuel 1 false
    if ← acceptSymbol "," then
      let rest ← list fuel
      pure (first :: rest)
    else pure [first]

/-- An operand with its prefix operators. -/
def prefixed (fuel : Nat) : Parser Expr :=
  match fuel with
  | 0 => do throw (failAt (← peek))
  | fuel + 1 => do
    let token ← peek
    if token.isKeyword "NOT" then
      advance
      pure (.unary .not (← expression fuel 3 false))
    else if token.isSymbol "-" then
      advance
      pure (.unary .negate (← expression fuel 12 false))
    else if token.isSymbol "+" then
      advance
      pure (.unary .plus (← expression fuel 12 false))
    else if token.isSymbol "~" then
      advance
      pure (.unary .bitNot (← expression fuel 12 false))
    else primary fuel

/-- The branches of a `CASE`: `WHEN condition THEN result`, one or more. -/
def branches (fuel : Nat) : Parser (List (Expr × Expr)) :=
  match fuel with
  | 0 => do throw (failAt (← peek))
  | fuel + 1 => do
    expectKeyword "WHEN"
    let condition ← expression fuel 1 false
    expectKeyword "THEN"
    let result ← expression fuel 1 false
    if (← peek).isKeyword "WHEN" then
      let rest ← branches fuel
      pure ((condition, result) :: rest)
    else pure [(condition, result)]

/-- The rest of a function call after its name and `(`: its arguments, then its `FILTER` and
`OVER` clauses. A window function may not take `DISTINCT`. -/
def arguments (fuel : Nat) (callee : Token) : Parser Expr :=
  match fuel with
  | 0 => do throw (failAt (← peek))
  | fuel + 1 => do
    let (call, distinct) ← (do
      if ← acceptSymbol "*" then
        expectSymbol ")"
        pure (Expr.callStar callee.nameText, false)
      else
        let distinct ← acceptKeyword "DISTINCT"
        if !distinct then
          let _ ← acceptKeyword "ALL"
        if ← acceptSymbol ")" then pure (Expr.call callee.nameText distinct [], distinct)
        else
          let items ← list fuel
          expectSymbol ")"
          pure (Expr.call callee.nameText distinct items, distinct))
    let after := ((← get).tokens.drop 1).head?
    let filter ← (do
      if (← peek).isKeyword "FILTER" && after.any (·.isSymbol "(") then
        advance
        advance
        expectKeyword "WHERE"
        let condition ← expression fuel 1 false
        expectSymbol ")"
        pure (some condition)
      else pure none)
    let after := ((← get).tokens.drop 1).head?
    let windowClause ← (do
      if (← peek).isKeyword "OVER" && after.any (fun next => next.isSymbol "(" || isNameToken next)
      then
        advance
        if ← acceptSymbol "(" then
          let windowClause ← windowSpec fuel
          expectSymbol ")"
          pure (some windowClause)
        else pure (some (Window.named (← name)))
      else pure none)
    if distinct && windowClause.isSome then
      throw (.refused "DISTINCT is not supported for window functions")
    if filter.isNone && windowClause.isNone then pure call else pure (.extended call filter windowClause)

/-- A window as written inside `OVER (…)` or a definition of the `WINDOW` clause: the window it
builds on, its partition, its ordering and its frame. A first name is the window built on, unless
it starts `PARTITION BY` or a frame. -/
def windowSpec (fuel : Nat) : Parser Window :=
  match fuel with
  | 0 => do throw (failAt (← peek))
  | fuel + 1 => do
    let base ← (do
      match (← get).tokens with
      | first :: second :: _ =>
        let startsPartition := first.isKeyword "PARTITION" && second.isKeyword "BY"
        let startsFrame := (first.isKeyword "ROWS" || first.isKeyword "RANGE" ||
          first.isKeyword "GROUPS") && !second.isSymbol ")"
        if isNameToken first && !startsPartition && !startsFrame then
          advance
          pure (some first.nameText)
        else pure none
      | _ => pure none)
    let partition ← (do
      if (← peek).isKeyword "PARTITION" then
        advance
        expectKeyword "BY"
        list fuel
      else pure [])
    let orderBy ← (do
      if (← peek).isKeyword "ORDER" then
        advance
        expectKeyword "BY"
        orderTerms fuel
      else pure [])
    let frame ← frameSpec fuel
    pure (.mk base partition orderBy frame)

/-- The frame of a window, if one is written: its unit, its bounds (a single bound is where it
starts, and it ends at the current row), and what it leaves out. A frame may not start after
where it ends by kind: at the current row and end before it, or after it and end at or before
it. -/
def frameSpec (fuel : Nat) : Parser (Option WindowFrame) :=
  match fuel with
  | 0 => pure none
  | fuel + 1 => do
    let token ← peek
    let unit := if token.isKeyword "ROWS" then some FrameUnit.rows
      else if token.isKeyword "RANGE" then some .range
      else if token.isKeyword "GROUPS" then some .groups
      else none
    match unit with
    | none => pure none
    | some unit =>
      advance
      let (start, finish) ← (do
        if ← acceptKeyword "BETWEEN" then
          let start ← frameBound fuel true
          expectKeyword "AND"
          let finish ← frameBound fuel false
          pure (start, finish)
        else pure (← frameBound fuel true, Bound.currentRow))
      let exclusion ← (do
        if ← acceptKeyword "EXCLUDE" then
          if ← acceptKeyword "NO" then
            expectKeyword "OTHERS"
            pure Exclusion.noOthers
          else if ← acceptKeyword "CURRENT" then
            expectKeyword "ROW"
            pure .currentRow
          else if ← acceptKeyword "GROUP" then pure .group
          else if ← acceptKeyword "TIES" then pure .ties
          else throw (failAt (← peek))
        else pure .noOthers)
      let unsupported := match start, finish with
        | .currentRow, .preceding _ => true
        | .following _, .preceding _ => true
        | .following _, .currentRow => true
        | _, _ => false
      if unsupported then throw (.refused "unsupported frame specification")
      pure (some (.mk unit start finish exclusion))

/-- One bound of a window frame: where it starts (`start`) or where it ends. An offset that is not
constant reads as NULL. -/
def frameBound (fuel : Nat) (start : Bool) : Parser Bound :=
  match fuel with
  | 0 => do throw (failAt (← peek))
  | fuel + 1 => do
    let token ← peek
    if token.isKeyword "UNBOUNDED" then
      advance
      if start then
        expectKeyword "PRECEDING"
        pure .unboundedPreceding
      else
        expectKeyword "FOLLOWING"
        pure .unboundedFollowing
    else if token.isKeyword "CURRENT" then
      advance
      expectKeyword "ROW"
      pure .currentRow
    else
      let offset ← expression fuel 1 false
      let offset := if offset.isConstant then offset else .null
      if ← acceptKeyword "PRECEDING" then pure (.preceding offset)
      else if ← acceptKeyword "FOLLOWING" then pure (.following offset)
      else throw (failAt (← peek))

/-- A name, a qualified name, or a function call, starting with a name token. -/
def named (fuel : Nat) (first : Token) : Parser Expr :=
  match fuel with
  | 0 => do throw (failAt (← peek))
  | fuel + 1 => do
    let nameOf (token : Token) : Name :=
      ⟨token.nameText, token.kind == .quoted, token.text.startsWith "\""⟩
    let next ← peek
    if next.isSymbol "(" && isIdentifier first then
      advance
      arguments fuel first
    else if next.isSymbol "." then
      advance
      let second ← peek
      if !isNameToken second then throw (failAt second)
      advance
      if ← acceptSymbol "." then
        let third ← peek
        if !isNameToken third then throw (failAt third)
        advance
        pure (.name [first.nameText, second.nameText] (nameOf third))
      else pure (.name [first.nameText] (nameOf second))
    else pure (.name [] (nameOf first))

/-- An operand without prefix operators. -/
def primary (fuel : Nat) : Parser Expr :=
  match fuel with
  | 0 => do throw (failAt (← peek))
  | fuel + 1 => do
    let token ← peek
    if token.isSymbol "(" then
      advance
      let next ← peek
      if startsQuery next then
        let subquery ← query fuel
        expectSymbol ")"
        return .subquery subquery
      let items ← list fuel
      expectSymbol ")"
      match items with
      | [single] => pure single
      | _ => pure (.vector items)
    else if token.isKeyword "EXISTS" then
      advance
      expectSymbol "("
      let subquery ← query fuel
      expectSymbol ")"
      pure (.existence subquery)
    else if token.isKeyword "RAISE" && ((← get).tokens.drop 1).head?.any (·.isSymbol "(") then
      advance
      advance
      let action ← peek
      if action.isKeyword "IGNORE" then
        advance
        expectSymbol ")"
        pure (.raise .ignore "")
      else
        let kind ← (do
          if action.isKeyword "ROLLBACK" then pure RaiseAction.rollback
          else if action.isKeyword "ABORT" then pure .abort
          else if action.isKeyword "FAIL" then pure .fail
          else throw (failAt action))
        advance
        expectSymbol ","
        let message ← nameToken
        expectSymbol ")"
        pure (.raise kind message.nameText)
    else if token.isKeyword "NULL" then
      advance
      pure .null
    else if token.kind == .integer then
      advance
      pure (.integer token.text)
    else if token.kind == .float then
      advance
      pure (.real token.text)
    else if token.kind == .blob then
      advance
      pure (.blob (blobBytes token.text))
    else if token.kind == .parameter then
      advance
      pure (.parameter (← parameter token))
    else if token.kind == .string then
      advance
      if (← peek).isSymbol "." then named fuel token
      else pure (.string token.nameText)
    else if token.isKeyword "CURRENT_DATE" || token.isKeyword "CURRENT_TIME" ||
        token.isKeyword "CURRENT_TIMESTAMP" then
      advance
      pure (.clock token.upper)
    else if token.isKeyword "CAST" then
      advance
      expectSymbol "("
      let operand ← expression fuel 1 false
      expectKeyword "AS"
      let typeText ← typeName
      expectSymbol ")"
      pure (.cast operand typeText)
    else if token.isKeyword "CASE" then
      advance
      let operand ← (do
        if (← peek).isKeyword "WHEN" then pure none
        else pure (some (← expression fuel 1 false)))
      let arms ← branches fuel
      let otherwise ← (do
        if ← acceptKeyword "ELSE" then pure (← expression fuel 1 false) else pure .null)
      expectKeyword "END"
      pure (choices operand arms otherwise)
    else if isIdentifier token || isJoinKeyword token then
      advance
      named fuel token
    else throw (failAt token)

/-- A query: an optional `WITH`, its parts joined by compound operators, then the ordering and
the limits of the whole. An ordering or a limit before a compound operator is refused. -/
def query (fuel : Nat) : Parser Query :=
  match fuel with
  | 0 => do throw (failAt (← peek))
  | fuel + 1 => do
    let (recursive, tables) ← (do
      if ← acceptKeyword "WITH" then
        let recursive ← acceptKeyword "RECURSIVE"
        pure (recursive, ← commonTables fuel [])
      else pure (false, []))
    let (first, definitions) ← core fuel
    let (body, definitions) ← compounds fuel (.core first) definitions
    let orderBy ← (do
      if (← peek).isKeyword "ORDER" then
        advance
        expectKeyword "BY"
        orderTerms fuel
      else pure [])
    let orderBy := orderBy.map (OrderTerm.settleWindows definitions)
    let (limit, offset) ← limits fuel
    let reader ← get
    match ← compoundOperator with
    | some op =>
      let clause := if limit.isSome then "LIMIT" else "ORDER BY"
      if orderBy.isEmpty && limit.isNone then
        set reader
        pure (.mk recursive tables body orderBy limit offset)
      else throw (.refused (clause ++ " clause should come after " ++ op.shown ++ " not before"))
    | none => pure (.mk recursive tables body orderBy limit offset)

/-- The common tables of a `WITH`, after the `WITH` and its `RECURSIVE`, none named like one
before it (`seen`). -/
def commonTables (fuel : Nat) (seen : List String) : Parser (List CommonTable) :=
  match fuel with
  | 0 => do throw (failAt (← peek))
  | fuel + 1 => do
    let name ← nameToken
    let columns ← (do if ← acceptSymbol "(" then nameList else pure [])
    expectKeyword "AS"
    if ← acceptKeyword "NOT" then expectKeyword "MATERIALIZED"
    else
      let _ ← acceptKeyword "MATERIALIZED"
    expectSymbol "("
    let body ← query fuel
    expectSymbol ")"
    let table := CommonTable.mk name.nameText columns body
    if seen.any (sameName · name.nameText) then
      let next ← peek
      if next.isSymbol "," || startsWithBody next then
        throw (.refused ("duplicate WITH table name: " ++ name.nameText))
      else throw (failAt next)
    if ← acceptSymbol "," then pure (table :: (← commonTables fuel (name.nameText :: seen)))
    else pure [table]

/-- The parts of a query after its first, each after its compound operator, with the window
definitions of the last part (`definitions` being those of the part before). -/
def compounds (fuel : Nat) (left : Body) (definitions : List (String × Window)) :
    Parser (Body × List (String × Window)) :=
  match fuel with
  | 0 => pure (left, definitions)
  | fuel + 1 => do
    let reader ← get
    match ← compoundOperator with
    | some op =>
      let next ← peek
      if next.isKeyword "SELECT" || next.isKeyword "VALUES" then
        let (right, definitions) ← core fuel
        compounds fuel (.compound left op right) definitions
      else
        set reader
        let _ ← compoundOperator
        throw (failAt next)
    | none => pure (left, definitions)

/-- One `SELECT` or `VALUES`, with the windows the `WINDOW` clause of a `SELECT` defines; the
windows of its results are settled against them. -/
def core (fuel : Nat) : Parser (Core × List (String × Window)) :=
  match fuel with
  | 0 => do throw (failAt (← peek))
  | fuel + 1 => do
    let token ← peek
    if token.isKeyword "VALUES" then
      advance
      let rows ← valueRows fuel
      pure (.values rows, [])
    else if token.isKeyword "SELECT" then
      advance
      let distinct ← acceptKeyword "DISTINCT"
      if !distinct then
        let _ ← acceptKeyword "ALL"
      let result ← resultTerms fuel
      let sources ← (do if ← acceptKeyword "FROM" then fromClause fuel else pure [])
      let condition ← (do
        if ← acceptKeyword "WHERE" then pure (some (← expression fuel 1 false)) else pure none)
      let groupBy ← (do
        if (← peek).isKeyword "GROUP" then
          advance
          expectKeyword "BY"
          list fuel
        else pure [])
      let having ← (do
        if ← acceptKeyword "HAVING" then pure (some (← expression fuel 1 false)) else pure none)
      let definitions ← (do
        match (← get).tokens with
        | first :: second :: third :: _ =>
          if first.isKeyword "WINDOW" && isNameToken second && third.isKeyword "AS" then
            advance
            windowDefinitions fuel []
          else pure []
        | _ => pure [])
      let result := result.map fun
        | .value e asName text => .value (Expr.settleWindows definitions 10000 e) asName text
        | other => other
      pure (.select distinct result sources condition groupBy having [] [], definitions)
    else throw (failAt token)

/-- The definitions of a `WINDOW` clause after `WINDOW`, each settled against those before it
(`earlier`). -/
def windowDefinitions (fuel : Nat) (earlier : List (String × Window)) :
    Parser (List (String × Window)) :=
  match fuel with
  | 0 => pure earlier
  | fuel + 1 => do
    let defined ← name
    expectKeyword "AS"
    expectSymbol "("
    let windowClause ← windowSpec fuel
    expectSymbol ")"
    let windowClause ← match Window.settle earlier windowClause with
      | .faulty message => throw (.refused message)
      | settled => pure settled
    let definitions := earlier ++ [(defined, windowClause)]
    if ← acceptSymbol "," then windowDefinitions fuel definitions else pure definitions

/-- The rows of `VALUES (…), (…)`, after `VALUES`. -/
def valueRows (fuel : Nat) : Parser (List (List Expr)) :=
  match fuel with
  | 0 => do throw (failAt (← peek))
  | fuel + 1 => do
    expectSymbol "("
    let row ← list fuel
    expectSymbol ")"
    if ← acceptSymbol "," then pure (row :: (← valueRows fuel)) else pure [row]

/-- A comma-separated list of result terms. -/
def resultTerms (fuel : Nat) : Parser (List ResultTerm) :=
  match fuel with
  | 0 => do throw (failAt (← peek))
  | fuel + 1 => do
    let term ← resultTerm fuel
    if ← acceptSymbol "," then pure (term :: (← resultTerms fuel)) else pure [term]

/-- A result term: `*`, `table.*`, or an expression with an optional alias, written after `AS`
or as a bare name or string. -/
def resultTerm (fuel : Nat) : Parser ResultTerm :=
  match fuel with
  | 0 => do throw (failAt (← peek))
  | fuel + 1 => do
    if ← acceptSymbol "*" then return .all
    let tokens := (← get).tokens
    match tokens with
    | first :: dot :: star :: _ =>
      if isNameToken first && dot.isSymbol "." && star.isSymbol "*" then
        advance
        advance
        advance
        return .allOf first.nameText
    | _ => pure ()
    let e ← expression fuel 1 false
    let text ← textSince tokens
    if ← acceptKeyword "AS" then
      pure (.value e (some (← nameToken).nameText) text)
    else
      let token ← peek
      if isIdentifier token || token.kind == .string then
        advance
        pure (.value e (some token.nameText) text)
      else pure (.value e none text)

/-- The sources of a `FROM`, each with how it joins those before it. -/
def fromClause (fuel : Nat) : Parser (List Joined) :=
  match fuel with
  | 0 => do throw (failAt (← peek))
  | fuel + 1 => do
    let first ← source fuel
    let (condition, usingColumns) ← joinConstraint fuel
    if condition.isSome then throw (.refused "a JOIN clause is required before ON")
    if !usingColumns.isEmpty then throw (.refused "a JOIN clause is required before USING")
    joins fuel [.mk .inner false first none []]

/-- The sources after the first of a `FROM`, each after its join operator. -/
def joins (fuel : Nat) (read : List Joined) : Parser (List Joined) :=
  match fuel with
  | 0 => pure read
  | fuel + 1 => do
    let token ← peek
    let kind ← (do
      if token.isSymbol "," then
        advance
        pure (some (JoinKind.inner, false))
      else if token.isKeyword "JOIN" then
        advance
        pure (some (JoinKind.inner, false))
      else if isJoinKeyword token then
        advance
        let second ← peek
        if second.isKeyword "JOIN" then
          advance
          match joinKind [token] with
          | .ok kind => pure (some kind)
          | .error error => throw error
        else
          let second ← nameToken
          let third ← peek
          if third.isKeyword "JOIN" then
            advance
            match joinKind [token, second] with
            | .ok kind => pure (some kind)
            | .error error => throw error
          else
            let third ← nameToken
            expectKeyword "JOIN"
            match joinKind [token, second, third] with
            | .ok kind => pure (some kind)
            | .error error => throw error
      else pure none)
    match kind with
    | none => pure read
    | some (kind, natural) =>
      let next ← source fuel
      let (condition, usingColumns) ← joinConstraint fuel
      joins fuel (read ++ [.mk kind natural next condition usingColumns])

/-- An optional `ON condition` or `USING (columns)` of a join. -/
def joinConstraint (fuel : Nat) : Parser (Option Expr × List String) :=
  match fuel with
  | 0 => pure (none, [])
  | fuel + 1 => do
    if ← acceptKeyword "ON" then pure (some (← expression fuel 1 false), [])
    else if ← acceptKeyword "USING" then
      expectSymbol "("
      pure (none, ← nameList)
    else pure (none, [])

/-- One source of a `FROM`: a table with an optional alias and index hint, a function of rows
with its arguments and an optional alias, or a query in parentheses with an optional alias. -/
def source (fuel : Nat) : Parser Source :=
  match fuel with
  | 0 => do throw (failAt (← peek))
  | fuel + 1 => do
    let asName : Parser (Option String) := do
      if ← acceptKeyword "AS" then pure (some (← nameToken).nameText)
      else
        let token ← peek
        if isPlainName token || token.kind == .string then
          advance
          pure (some token.nameText)
        else pure none
    let token ← peek
    if token.isSymbol "(" then
      advance
      let next ← peek
      if !startsQuery next then throw (failAt next)
      let body ← query fuel
      expectSymbol ")"
      pure (.query body (← asName))
    else
      let first ← nameToken
      let (schema, name) ← (do
        if ← acceptSymbol "." then pure (some first.nameText, (← nameToken).nameText)
        else pure (none, first.nameText))
      if ← acceptSymbol "(" then
        let arguments ← if (← peek).isSymbol ")" then pure [] else list fuel
        expectSymbol ")"
        let written ← asName
        return .function ⟨schema, name, written, none, false⟩ arguments
      let written ← asName
      let (hint, notIndexed) ← (do
        let token ← peek
        if token.isKeyword "INDEXED" then
          advance
          expectKeyword "BY"
          pure (some (← nameToken).nameText, false)
        else if token.isKeyword "NOT" then
          advance
          expectKeyword "INDEXED"
          pure (none, true)
        else pure (none, false))
      pure (.table ⟨schema, name, written, hint, notIndexed⟩)

/-- A comma-separated list of ordering terms, each with an optional `ASC` or `DESC` and
`NULLS FIRST` or `NULLS LAST`. -/
def orderTerms (fuel : Nat) : Parser (List OrderTerm) :=
  match fuel with
  | 0 => do throw (failAt (← peek))
  | fuel + 1 => do
    let e ← expression fuel 1 false
    let down ← descending
    let nulls ← nullsPlace
    let term := OrderTerm.mk e down nulls
    if ← acceptSymbol "," then pure (term :: (← orderTerms fuel)) else pure [term]

/-- An optional `LIMIT count [OFFSET skip]` or `LIMIT skip, count`: the count and the skip. -/
def limits (fuel : Nat) : Parser (Option Expr × Option Expr) :=
  match fuel with
  | 0 => pure (none, none)
  | fuel + 1 => do
    if ← acceptKeyword "LIMIT" then
      let first ← expression fuel 1 false
      if ← acceptKeyword "OFFSET" then pure (some first, some (← expression fuel 1 false))
      else if ← acceptSymbol "," then pure (some (← expression fuel 1 false), some first)
      else pure (some first, none)
    else pure (none, none)

end

/-- Reads one expression. -/
def fullExpression : Parser Expr := do
  let fuel := 8 * ((← get).tokens.length + 2)
  expression fuel 1 false

/-- Reads a comma-separated list of expressions. -/
def expressionList : Parser (List Expr) := do
  let fuel := 8 * ((← get).tokens.length + 2)
  list fuel

/-- Reads one query. -/
def fullQuery : Parser Query := do
  let fuel := 8 * ((← get).tokens.length + 2)
  query fuel

/-- Reads the sources of a `FROM`, after the `FROM`. -/
def fullFromClause : Parser (List Joined) := do
  let fuel := 8 * ((← get).tokens.length + 2)
  fromClause fuel

/-- Reads an optional `ORDER BY` and an optional `LIMIT`: the ordering terms, the count and the
skip. -/
def fullOrderAndLimit : Parser (List OrderTerm × Option Expr × Option Expr) := do
  let fuel := 8 * ((← get).tokens.length + 2)
  let orderBy ← (do
    if (← peek).isKeyword "ORDER" then
      advance
      expectKeyword "BY"
      orderTerms fuel
    else pure [])
  let (limit, offset) ← limits fuel
  pure (orderBy, limit, offset)

/-- Reads the common tables of a `WITH`, after the `WITH` and its `RECURSIVE`. -/
def fullCommonTables : Parser (List CommonTable) := do
  let fuel := 8 * ((← get).tokens.length + 2)
  commonTables fuel []

end Parser

end SheetExport.Store.Sql
