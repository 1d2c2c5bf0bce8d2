import SheetExport.Store.Value

/-!
# Expressions and queries as trees

An expression or a query read from the text of a statement, before its names are looked up in the
database, and the same trees once they are.

An expression keeps its literals as written (a number's text is read when the expression is
evaluated, so that `-9223372036854775808` can be read as one integer) and its names as written.
A name that a statement quotes with double quotes may turn out to be a string. Looking the
names up (`Sql.Resolve`) replaces each name by a column of a source of some query: the address
of a column counts the queries outward from the one the expression stands in, then the sources
of that query from the first.

An infix `LIKE`, `GLOB`, `REGEXP` or `MATCH` is a call of the function of that name with the
pattern first, then the text, then the escape character. `NOT LIKE`, `NOT IN`, `NOT BETWEEN` and
`IS NOT` are the negations of the plain forms, and a `CASE` is a chain of two-way choices, each
testing its condition (with an operand, whether the operand equals the branch's value).

A query is a chain of `SELECT` and `VALUES` parts joined by compound operators, with the common
tables of its `WITH`, its ordering and its limits. A query may stand in an expression: as a value
(its first row's first column), under `EXISTS`, or on the right of `IN`.
-/

namespace SheetExport.Store

/-- Whether two names are the same, ignoring ASCII case. -/
def sameName (a b : String) : Bool :=
  a.toList.map Char.toLower == b.toList.map Char.toLower

/-- Whether a name is one of the names of the row id: `rowid`, `oid` or `_rowid_`. -/
def isRowIdName (name : String) : Bool :=
  sameName name "rowid" || sameName name "oid" || sameName name "_rowid_"

end SheetExport.Store

namespace SheetExport.Store.Sql

/-- A name as a statement writes it. -/
structure Name where
  /-- The name without its quotes. -/
  text : String
  /-- Whether it was written in any quotes. -/
  quoted : Bool
  /-- Whether it was written in double quotes. -/
  doubleQuoted : Bool
  deriving DecidableEq, Repr, Inhabited

/-- The operators of one operand. -/
inductive UnaryOp where
  | negate
  | plus
  | bitNot
  | not
  deriving DecidableEq, Repr

/-- The operators of two operands. -/
inductive BinaryOp where
  | or
  | and
  | eq
  | ne
  | lt
  | le
  | gt
  | ge
  /-- Equality in which NULL equals NULL. -/
  | is
  | isNot
  | bitAnd
  | bitOr
  | shiftLeft
  | shiftRight
  | add
  | sub
  | mul
  | div
  | rem
  | concat
  deriving DecidableEq, Repr

namespace BinaryOp

/-- Whether the operator compares its operands. -/
def isComparison : BinaryOp → Bool
  | .eq | .ne | .lt | .le | .gt | .ge | .is | .isNot => true
  | _ => false

end BinaryOp

/-- Where a column of a row lives: a column of the source, or the row id. -/
inductive Slot where
  | column (index : Nat)
  | rowId
  deriving DecidableEq, Repr

/-- The source a column is read from: the query, counted outward from the one the expression
stands in, and the position of the source among that query's sources. -/
structure Address where
  level : Nat
  source : Nat
  deriving DecidableEq, Repr, Inhabited

/-- How a source of a query joins the sources before it. -/
inductive JoinKind where
  | inner
  | left
  | right
  | full
  | cross
  deriving DecidableEq, Repr, Inhabited

/-- The operators that join the parts of a compound query. -/
inductive CompoundOp where
  | unionAll
  | union
  | intersect
  | except
  deriving DecidableEq, Repr

/-- The name of a compound operator as messages show it. -/
def CompoundOp.shown : CompoundOp → String
  | .unionAll => "UNION ALL"
  | .union => "UNION"
  | .intersect => "INTERSECT"
  | .except => "EXCEPT"

/-- What `RAISE` does in a trigger: leave the row alone, or fail the statement in one of three
ways. -/
inductive RaiseAction where
  | ignore
  | rollback
  | abort
  | fail
  deriving DecidableEq, Repr

/-- A table as a statement names it. -/
structure TableName where
  /-- The database it is qualified with, if any. -/
  schema : Option String
  name : String
  asName : Option String
  /-- The index the statement asks to read the table by (`INDEXED BY`). -/
  indexedBy : Option String
  /-- Whether the statement asks to read the table by none of its indexes (`NOT INDEXED`). -/
  notIndexed : Bool
  deriving Repr, Inhabited

namespace TableName

/-- The name as messages show it: with its database when the statement gives one. -/
def shown (table : TableName) : String :=
  match table.schema with
  | some schema => schema ++ "." ++ table.name
  | none => table.name

/-- The name a column reference may qualify with: the alias, or the table's name. -/
def visible (table : TableName) : String := table.asName.getD table.name

end TableName

/-- How the bounds of a window frame count: in rows, in values of the window's ordering, or in
groups of rows with equal values of it. -/
inductive FrameUnit where
  | rows
  | range
  | groups
  deriving DecidableEq, Repr

/-- The rows of its frame a window leaves out: none, the current row, the current row and its
peers, or its peers only. -/
inductive Exclusion where
  | noOthers
  | currentRow
  | group
  | ties
  deriving DecidableEq, Repr

mutual

/-- An expression. -/
inductive Expr where
  | null
  /-- An integer numeral as written, decimal or `0x` hexadecimal. -/
  | integer (text : String)
  /-- A real numeral as written. -/
  | real (text : String)
  | string (text : String)
  | blob (bytes : List UInt8)
  /-- The parameter of a 1-based index. -/
  | parameter (index : Nat)
  /-- A name not yet looked up: its qualifiers (database, table) and the column. -/
  | name (qualifiers : List String) (column : Name)
  /-- A column of a source, with the affinity and the collation the source gives it; a column of
  a query in `FROM` may have no affinity. -/
  | column (address : Address) (slot : Slot) (affinity : Option Affinity)
      (collation : Option Collation)
  /-- A column of the row an insert proposes, as the `DO UPDATE` of an upsert names it with
  `excluded.`: a plain value, with no affinity and no collation. -/
  | proposed (slot : Slot)
  /-- `TRUE` or `FALSE` written as a bare name. -/
  | truth (value : Bool)
  | unary (op : UnaryOp) (operand : Expr)
  | binary (op : BinaryOp) (left right : Expr)
  | isNull (operand : Expr)
  | notNull (operand : Expr)
  | between (operand low high : Expr)
  | inList (operand : Expr) (items : List Expr)
  | cast (operand : Expr) (typeName : String)
  | collate (operand : Expr) (collation : String)
  /-- A function call as written: its name, whether `DISTINCT`, and its arguments. -/
  | call (name : String) (distinct : Bool) (arguments : List Expr)
  /-- A function call on `*`. -/
  | callStar (name : String)
  /-- The first value when the condition holds, otherwise the second. -/
  | choose (condition yes no : Expr)
  /-- A parenthesized list of two or more values. -/
  | vector (items : List Expr)
  /-- A clock value (`CURRENT_DATE`, `CURRENT_TIME` or `CURRENT_TIMESTAMP`). -/
  | clock (word : String)
  /-- A query as a value: the first column of its first row, NULL when it has none. -/
  | subquery (query : Query)
  /-- `EXISTS`: whether a query has a row. -/
  | existence (query : Query)
  /-- `operand IN (query)`. -/
  | inQuery (operand : Expr) (query : Query)
  /-- `RAISE` in a trigger, with its message (empty for `IGNORE`). -/
  | raise (action : RaiseAction) (message : String)
  /-- The value an aggregate function takes over the rows of the current group of a query,
  counted outward from the one the expression stands in: its position among the query's
  aggregates. -/
  | aggregate (level : Nat) (index : Nat)
  /-- The value of a result column of the row being ordered, by its position, as the ordering of
  a compound query names it. -/
  | result (index : Nat)
  /-- A call of a function with a `FILTER` clause, an `OVER` clause, or both: the call, the
  condition a row must meet to be taken in, and the window. -/
  | extended (call : Expr) (filter : Option Expr) (window : Option Window)
  /-- The value a window function of the query the expression stands in takes at the current row:
  its position among the query's window functions. -/
  | window (index : Nat)
  deriving Repr

/-- One end of the frame of a window. -/
inductive Bound where
  | unboundedPreceding
  | preceding (offset : Expr)
  | currentRow
  | following (offset : Expr)
  | unboundedFollowing
  deriving Repr

/-- The frame of a window: its unit, where it starts and ends, and the rows it leaves out. -/
inductive WindowFrame where
  | mk (unit : FrameUnit) (start finish : Bound) (exclusion : Exclusion)
  deriving Repr

/-- A window: the window of the `WINDOW` clause it builds on, its partition, its ordering and
its frame (none when none is written). Once the statement is read, a window builds on none. -/
inductive Window where
  | mk (base : Option String) (partition : List Expr) (orderBy : List OrderTerm)
      (frame : Option WindowFrame)
  /-- `OVER name`: the window the `WINDOW` clause defines under the name. -/
  | named (name : String)
  /-- A window that names a window the query does not define, or builds on one in a way it may
  not: the failure to report when its call is looked up. -/
  | faulty (message : String)
  deriving Repr

/-- A term of a list of results: an expression with its alias and its text as written, `*`, or
`table.*`. -/
inductive ResultTerm where
  | value (e : Expr) (asName : Option String) (text : String)
  | all
  | allOf (table : String)
  deriving Repr

/-- A source of rows in a query. -/
inductive Source where
  /-- A table or view by its name, or a common table of a `WITH`. -/
  | table (name : TableName)
  /-- A query in parentheses, with its alias. -/
  | query (query : Query) (asName : Option String)
  /-- The row a recursive common table is given while it computes its next rows. -/
  | recursion (asName : Option String)
  /-- A function that gives rows, by its name (with its alias), with its arguments, which may
  read the sources before it. -/
  | function (name : TableName) (arguments : List Expr)
  deriving Repr

/-- A source with how it joins the sources before it: the kind of join, whether `NATURAL`, the
`ON` condition and the `USING` columns. -/
inductive Joined where
  | mk (kind : JoinKind) (natural : Bool) (source : Source) (condition : Option Expr)
      (usingColumns : List String)
  deriving Repr

/-- A query with no compound operator: `SELECT` or `VALUES`. Once its names are looked up, a
`SELECT` also lists the calls of the aggregate functions it computes over each group, which its
expressions and those of the queries within read as `aggregate`, and the calls of the window
functions it computes for each row, which its results and ordering read as `window`. -/
inductive Core where
  | select (distinct : Bool) (result : List ResultTerm) (sources : List Joined)
      (condition : Option Expr) (groupBy : List Expr) (having : Option Expr)
      (aggregates : List Expr) (windows : List Expr)
  | values (rows : List (List Expr))
  deriving Repr

/-- The parts of a query joined by compound operators, from the left. -/
inductive Body where
  | core (core : Core)
  | compound (left : Body) (op : CompoundOp) (right : Core)
  deriving Repr

/-- A term of an ordering: the expression, whether descending, and where NULLs go when it says
(`some true` for first). -/
inductive OrderTerm where
  | mk (e : Expr) (descending : Bool) (nullsFirst : Option Bool)
  deriving Repr

/-- A common table of a `WITH`: its name, the names of its columns if given, and its query. -/
inductive CommonTable where
  | mk (name : String) (columns : List String) (query : Query)
  deriving Repr

/-- A query: whether its `WITH` is recursive, the common tables of the `WITH`, the parts, the
ordering, the limit and the offset. -/
inductive Query where
  | mk (recursive : Bool) (tables : List CommonTable) (body : Body) (orderBy : List OrderTerm)
      (limit : Option Expr) (offset : Option Expr)
  deriving Repr

end

instance : Inhabited Expr := ⟨.null⟩

instance : Inhabited Query := ⟨.mk false [] (.core (.values [])) [] none none⟩

namespace Query

/-- A query of one `SELECT` or `VALUES`, with no `WITH`, ordering or limit. -/
def ofCore (core : Core) : Query := .mk false [] (.core core) [] none none

/-- The ordering of a query. -/
def orderBy : Query → List OrderTerm
  | .mk _ _ _ orderBy _ _ => orderBy

/-- The parts of a query. -/
def body : Query → Body
  | .mk _ _ body _ _ _ => body

end Query

/-- A bound with a function applied to its offset. -/
def Bound.mapExpr (f : Expr → Expr) : Bound → Bound
  | .preceding offset => .preceding (f offset)
  | .following offset => .following (f offset)
  | other => other

/-- The offset of a bound, if it has one. -/
def Bound.offset? : Bound → Option Expr
  | .preceding offset | .following offset => some offset
  | _ => none

/-- A window with a function applied to each expression it holds. -/
def Window.mapExprs (f : Expr → Expr) : Window → Window
  | .mk base partition orderBy frame =>
    .mk base (partition.map f) (orderBy.map fun | .mk e down nulls => .mk (f e) down nulls)
      (frame.map fun
        | .mk unit start finish exclusion =>
          .mk unit (start.mapExpr f) (finish.mapExpr f) exclusion)
  | other => other

/-- The expressions a window holds: its partition, its ordering, and the offsets of its frame. -/
def Window.exprs : Window → List Expr
  | .mk _ partition orderBy frame =>
    partition ++ orderBy.map (fun | .mk e _ _ => e) ++ match frame with
      | some (.mk _ start finish _) => start.offset?.toList ++ finish.offset?.toList
      | none => []
  | _ => []

namespace Expr

/-- Whether an expression is constant as a statement is read: no name, no function call, no
query. -/
def isConstant : Expr → Bool
  | .name qualifiers written =>
    qualifiers.isEmpty && !written.quoted &&
      (sameName written.text "true" || sameName written.text "false")
  | .column .. | .proposed _ | .call .. | .callStar _ | .clock _ | .subquery _ | .existence _
  | .inQuery .. | .raise .. | .aggregate .. | .result _ | .extended .. | .window _ => false
  | .unary _ operand | .isNull operand | .notNull operand | .cast operand _
  | .collate operand _ => operand.isConstant
  | .binary _ left right => left.isConstant && right.isConstant
  | .between operand low high => operand.isConstant && low.isConstant && high.isConstant
  | .inList operand items => operand.isConstant && items.attach.all fun ⟨item, _⟩ => item.isConstant
  | .choose condition yes no => condition.isConstant && yes.isConstant && no.isConstant
  | .vector items => items.attach.all fun ⟨item, _⟩ => item.isConstant
  | _ => true
termination_by e => sizeOf e

/-- Whether an expression is a literal false as it is read: an integer numeral of value zero, or
the false that `IN ()` reads as. -/
def isFalseLiteral : Expr → Bool
  | .integer text =>
    match text.toList with
    | '0' :: x :: digits =>
      if x == 'x' || x == 'X' then !digits.isEmpty && digits.all (· == '0')
      else (x :: digits).all (· == '0')
    | digits => !digits.isEmpty && digits.all (· == '0')
  | .truth false => true
  | _ => false

/-- The conjunction of two expressions as it is read: false when either is a literal false. -/
def conjoin (left right : Expr) : Expr :=
  if left.isFalseLiteral || right.isFalseLiteral then .integer "0" else .binary .and left right

/-- The terms of a condition joined by `AND`, in order. -/
def conjuncts : Expr → List Expr
  | .binary .and left right => left.conjuncts ++ right.conjuncts
  | e => [e]

end Expr

end SheetExport.Store.Sql
