import SheetExport.Store.FullText.Query

/-!
# Virtual tables

A virtual table keeps its rows as any table does, but its module decides its columns, what a
write does with the values it is given, and how a query finds its rows. Two modules are known:

* A full-text table keeps text in its columns and finds rows by the terms of a query (`MATCH`).
  After its own columns it has hidden ones that `*` leaves out: a column named as the table,
  through which a query names the table, and then `rank` in the fifth version, or `docid` and
  `__langid` in the third and fourth.
* A spatial table keeps boxes: an integer id that is the row id, the least and greatest
  coordinate along each of one to five dimensions, held as single-precision reals (or as 32-bit
  integers), and then auxiliary columns holding any value.

Each module keeps some ordinary tables of its own beside the virtual one, named after it with a
suffix; they go when it is dropped and take its new name when it is renamed.
-/

namespace SheetExport.Store

/-- The versions of full-text tables. -/
inductive TextVersion where
  | three
  | four
  | five
  deriving DecidableEq, Repr, Inhabited

/-- A full-text table. -/
structure TextTable where
  version : TextVersion
  /-- The names of the columns that hold text. -/
  columns : List String
  /-- The positions of the columns whose text is kept but not indexed. -/
  unindexed : List Nat
  tokenizer : FullText.Tokenizer
  detail : FullText.Detail
  /-- Whether the table keeps no copy of its text, its columns then reading as NULL. -/
  contentless : Bool
  /-- Whether the table keeps the number of tokens of each row. -/
  sized : Bool
  /-- The table whose rows hold the text, when another table holds it. -/
  external : Option String := none
  /-- The column of that table that holds the row id. -/
  externalKey : String := "rowid"
  /-- The function that ranks the rows a query finds, with its arguments, as written; empty for
  the default. -/
  rank : String := ""
  deriving DecidableEq, Repr, Inhabited

/-- A spatial table: whether its coordinates are integers, its number of dimensions, and its
number of auxiliary columns. -/
structure BoxTable where
  integer : Bool
  dimensions : Nat
  auxiliary : Nat
  deriving DecidableEq, Repr, Inhabited

/-- What kind of virtual table a table is. -/
inductive VirtualKind where
  | text (table : TextTable)
  | boxes (table : BoxTable)
  deriving DecidableEq, Repr, Inhabited

namespace VirtualKind

/-- The number of hidden columns after the table's own. -/
def hidden : VirtualKind → Nat
  | .text table => if table.version == .five then 2 else 3
  | .boxes _ => 0

/-- The suffixes of the names of the tables the module keeps beside the virtual table. -/
def shadowSuffixes : VirtualKind → List String
  | .text table =>
    match table.version with
    | .five =>
      ["data", "idx"] ++ (if table.contentless || table.external.isSome then [] else ["content"]) ++
        (if table.sized then ["docsize"] else []) ++ ["config"]
    | .four =>
      (if table.contentless || table.external.isSome then [] else ["content"]) ++
        ["segments", "segdir"] ++ (if table.sized then ["docsize"] else []) ++ ["stat"]
    | .three =>
      (if table.contentless || table.external.isSome then [] else ["content"]) ++
        ["segments", "segdir"]
  | .boxes _ => ["rowid", "node", "parent"]

/-- The names of the tables the module keeps for a virtual table of a name. -/
def shadowNames (kind : VirtualKind) (name : String) : List String :=
  kind.shadowSuffixes.map fun suffix => name ++ "_" ++ suffix

end VirtualKind

end SheetExport.Store
