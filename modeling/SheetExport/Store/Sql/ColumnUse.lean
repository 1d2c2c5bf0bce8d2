import SheetExport.Store.Sql.Tree

/-!
# The columns a query reads

A column is read from a source of some query, counted outward from where the expression stands.
These functions list the columns that an expression, or a query held inside it, reads from the
sources of the query `depth` levels out. A query inside is one level deeper, and so are the
expressions of its parts.
-/

namespace SheetExport.Store.Sql

mutual

/-- The columns of the sources of the query `depth` levels out that an expression reads, also
within the queries it holds. -/
def Expr.references (fuel depth : Nat) (e : Expr) : List (Nat × Slot) :=
  match fuel with
  | 0 => []
  | fuel + 1 =>
    let go := Expr.references fuel depth
    match e with
    | .column address slot _ _ => if address.level == depth then [(address.source, slot)] else []
    | .unary _ operand | .isNull operand | .notNull operand | .cast operand _
    | .collate operand _ => go operand
    | .binary _ left right => go left ++ go right
    | .between operand low high => go operand ++ go low ++ go high
    | .inList operand items => go operand ++ items.flatMap go
    | .call _ _ arguments | .vector arguments => arguments.flatMap go
    | .extended called filter windowClause =>
      (called :: filter.toList ++ ((windowClause.map Window.exprs).getD [])).flatMap go
    | .choose condition yes no => go condition ++ go yes ++ go no
    | .subquery query | .existence query => Query.references fuel (depth + 1) query
    | .inQuery operand query => go operand ++ Query.references fuel (depth + 1) query
    | _ => []

/-- The columns of the sources of the query `depth` levels out that a query reads. -/
def Query.references (fuel depth : Nat) (query : Query) : List (Nat × Slot) :=
  match fuel with
  | 0 => []
  | fuel + 1 =>
    match query with
    | .mk _ tables body orderBy limit offset =>
      let exprs := (orderBy.map fun | .mk e _ _ => e) ++ limit.toList ++ offset.toList
      let inTables := tables.flatMap fun table => match table with
        | .mk _ _ inner => Query.references fuel depth inner
      inTables ++ Body.references fuel depth body ++
        exprs.flatMap (Expr.references fuel depth)

/-- The columns of the sources of the query `depth` levels out that the parts of a query read. -/
def Body.references (fuel depth : Nat) (body : Body) : List (Nat × Slot) :=
  match fuel with
  | 0 => []
  | fuel + 1 =>
    match body with
    | .core core => Core.references fuel depth core
    | .compound left _ right => Body.references fuel depth left ++ Core.references fuel depth right

/-- The columns of the sources of the query `depth` levels out that one part of a query reads. -/
def Core.references (fuel depth : Nat) (core : Core) : List (Nat × Slot) :=
  match fuel with
  | 0 => []
  | fuel + 1 =>
    match core with
    | .select _ result sources condition groupBy having calls windows =>
      let exprs := (result.filterMap fun
          | .value e _ _ => some e
          | _ => none) ++ condition.toList ++ groupBy ++ having.toList ++ calls ++ windows
      let fromSources := sources.flatMap fun joined => match joined with
        | .mk _ _ source on _ =>
          let inSource := match source with
            | .query inner _ => Query.references fuel (depth + 1) inner
            | .function _ arguments => arguments.flatMap (Expr.references fuel (depth + 1))
            | _ => []
          inSource ++ (on.map (Expr.references fuel (depth + 1))).getD []
      fromSources ++ exprs.flatMap (Expr.references fuel (depth + 1))
    | .values rows => rows.flatMap fun row => row.flatMap (Expr.references fuel (depth + 1))

end

end SheetExport.Store.Sql
