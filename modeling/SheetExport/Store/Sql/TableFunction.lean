import SheetExport.Store.Sql.JsonTable
import SheetExport.Store.Catalog

/-!
# Functions that give rows

A few functions stand in `FROM` as tables whose rows their arguments choose: `json_each` and
`json_tree` list a JSON document, and the `pragma_` functions list what the catalog knows of a
table or an index. Each has columns that `*` shows, and after them hidden columns that hold its
arguments as given; it takes at most as many arguments as it has hidden columns.

The catalog functions take the name of a table or index and optionally its database:

* `pragma_table_info` lists a table's columns but its generated and hidden ones, numbered as
  listed, with the declared type, whether NULL is refused, the default as written, and the
  column's place in the primary key (one for the integer primary key); `pragma_table_xinfo`
  lists all, saying of each whether it is hidden (1) or generated (2 when computed on reading, 3
  when stored).
* `pragma_index_info` lists the terms of an index, each with its column (-1 for the row id, -2
  for an expression); `pragma_index_xinfo` adds the order, the collation and whether the term is
  a key, and then the row id (or the rest of the primary key) that each entry also holds.
* `pragma_index_list` lists a table's indexes, the latest first: its own constraints' indexes
  in the order declared came before the indexes statements created.
* `pragma_foreign_key_list` lists a table's references, the last declared first, a row for each
  column.

A name that no table or index has lists nothing, as does a call without a name.
-/

namespace SheetExport.Store.Sql

/-- A function that gives rows. -/
inductive TableFunction where
  | jsonEach
  | jsonTree
  | tableInfo
  | tableExtendedInfo
  | indexInfo
  | indexExtendedInfo
  | indexList
  | foreignKeyList
  deriving DecidableEq, Repr

namespace TableFunction

/-- The name a query calls a function by. -/
def name : TableFunction → String
  | .jsonEach => "json_each"
  | .jsonTree => "json_tree"
  | .tableInfo => "pragma_table_info"
  | .tableExtendedInfo => "pragma_table_xinfo"
  | .indexInfo => "pragma_index_info"
  | .indexExtendedInfo => "pragma_index_xinfo"
  | .indexList => "pragma_index_list"
  | .foreignKeyList => "pragma_foreign_key_list"

/-- Every function that gives rows. -/
def all : List TableFunction :=
  [.jsonEach, .jsonTree, .tableInfo, .tableExtendedInfo, .indexInfo, .indexExtendedInfo,
    .indexList, .foreignKeyList]

/-- The function of a name, in any ASCII case. -/
def ofName? (written : String) : Option TableFunction :=
  all.find? fun function => sameName function.name written

/-- The columns `*` shows. -/
def shownColumns : TableFunction → List String
  | .jsonEach | .jsonTree => ["key", "value", "type", "atom", "id", "parent", "fullkey", "path"]
  | .tableInfo => ["cid", "name", "type", "notnull", "dflt_value", "pk"]
  | .tableExtendedInfo => ["cid", "name", "type", "notnull", "dflt_value", "pk", "hidden"]
  | .indexInfo => ["seqno", "cid", "name"]
  | .indexExtendedInfo => ["seqno", "cid", "name", "desc", "coll", "key"]
  | .indexList => ["seq", "name", "unique", "origin", "partial"]
  | .foreignKeyList => ["id", "seq", "table", "from", "to", "on_update", "on_delete", "match"]

/-- The hidden columns, which hold the arguments. -/
def hiddenColumns : TableFunction → List String
  | .jsonEach | .jsonTree => ["json", "root"]
  | _ => ["arg", "schema"]

end TableFunction

/-- The name of a collation as the catalog shows it. -/
def collationShown : Collation → String
  | .binary => "BINARY"
  | .nocase => "NOCASE"
  | .rtrim => "RTRIM"

/-- The name of what a reference does as the catalog shows it. -/
def actionShown : ReferenceAction → String
  | .noAction => "NO ACTION"
  | .restrict => "RESTRICT"
  | .setNull => "SET NULL"
  | .setDefault => "SET DEFAULT"
  | .cascade => "CASCADE"

/-- The table a catalog function names, in the database given or in each in turn. -/
def catalogTable? (db : Database) (name : String) (schema : Option String) : Option Table :=
  match schema with
  | some written => (db.schemaNamed? written).bind fun found => db.tableIn? found name
  | none => db.table? name

/-- The place of a column in a table's primary key, counted from one; zero when it is not in it. -/
def primaryKeyPlace (spec : TableSpec) (index : Nat) : Nat :=
  match spec.primaryKey.findIdx? (·.1 == index) with
  | some position => position + 1
  | none => if spec.rowIdColumn == some index then 1 else 0

/-- The rows of `pragma_table_info`, or with `extended` of `pragma_table_xinfo`. -/
def columnRows (spec : TableSpec) (extended : Bool) : List (List Value) :=
  (spec.columns.zipIdx.foldl (fun (acc : Nat × List (List Value)) (column, index) =>
    let (listed, rows) := acc
    let hidden : Int := match column.generated with
      | some generated => if generated.stored then 3 else 2
      | none => if spec.isHidden index then 1 else 0
    if hidden != 0 && !extended then acc
    else
      let defaultText := if hidden != 0 then none else column.defaultText
      let row := [Value.integer listed, Value.ofString column.name, Value.ofString column.declared,
        Value.integer (if column.notNull.isSome then 1 else 0),
        (defaultText.map Value.ofString).getD .null,
        Value.integer (primaryKeyPlace spec index)] ++
        (if extended then [Value.integer hidden] else [])
      (listed + 1, rows ++ [row])) (0, [])).2

/-- A term of an index as the catalog shows it: its column (-1 for the row id, -2 for an
expression), the column's name, and its collation. -/
def indexTerm (spec : TableSpec) (term : Expr) : Int × Value × Collation :=
  let (inner, written) := match term with
    | .collate operand collation => (operand, Collation.ofName? collation)
    | other => (other, none)
  match inner with
  | .column _ (.column index) _ collation =>
    let column := spec.column? index
    (index, ((column.map fun column => Value.ofString column.name).getD .null),
      (written.getD ((collation.orElse fun _ => column.map (·.collation)).getD .binary)))
  | .column _ .rowId _ _ => (-1, .null, written.getD .binary)
  | _ => (-2, .null, written.getD .binary)

/-- The terms of an index of a table: for one a statement created, its terms and their orders;
for a constraint's, its columns. -/
def indexTerms (spec : TableSpec) (index : Option IndexSpec) (name : String) :
    List (Int × Value × Collation × Bool) :=
  match index with
  | some index =>
    (index.terms.zip (index.descending ++ List.replicate index.terms.length false)).map
      fun (term, descending) =>
        let (column, columnName, collation) := indexTerm spec term
        (column, columnName, collation, descending)
  | none =>
    match spec.uniques.find? fun unique =>
        unique.index.isNone && sameName (Database.constraintIndexName spec unique) name with
    | some unique =>
      unique.columns.map fun (index, collation) =>
        ((index : Int), ((spec.column? index).map fun column => Value.ofString column.name).getD .null,
          collation, false)
    | none => []

/-- The rows of `pragma_index_info`, or with `extended` of `pragma_index_xinfo`, which go on
with what each entry holds beyond its terms: the row id, or the rest of the primary key of a
table without row id. -/
def indexRows (spec : TableSpec) (index : Option IndexSpec) (name : String) (extended : Bool) :
    List (List Value) :=
  let terms := indexTerms spec index name
  let keyRows := terms.zipIdx.map fun ((column, columnName, collation, descending), position) =>
    [Value.integer position, Value.integer column, columnName] ++
      (if extended then
        [Value.integer (if descending then 1 else 0), Value.ofString (collationShown collation), .integer 1]
      else [])
  let extra : List (Int × Value × Collation) :=
    if spec.withoutRowId then
      (spec.primaryKey.filter fun (index, _) => !terms.any (·.1 == (index : Int))).map
        fun (index, collation) =>
          ((index : Int), ((spec.column? index).map fun column => Value.ofString column.name).getD
            .null, collation)
    else [(-1, .null, .binary)]
  if !extended then keyRows
  else
    keyRows ++ extra.zipIdx.map fun ((column, columnName, collation), position) =>
      [Value.integer (terms.length + position), Value.integer column, columnName, .integer 0,
        Value.ofString (collationShown collation), .integer 0]

/-- The rows of `pragma_index_list`: the indexes of a table, the latest first. -/
def indexListRows (spec : TableSpec) : List (List Value) :=
  let primary (unique : UniqueSpec) : Bool :=
    spec.rowIdColumn.isNone && !spec.primaryKey.isEmpty &&
      unique.columns.map (·.1) == spec.primaryKey.map (·.1)
  let constraints := ((spec.uniques.filter (·.index.isNone)).mergeSort
      fun a b => a.serial ≤ b.serial).map fun unique =>
    (Database.constraintIndexName spec unique, true, if primary unique then "pk" else "u", false)
  let created := (spec.indexes.mergeSort fun a b => a.entry ≤ b.entry).map fun index =>
    (index.name, index.unique, "c", index.condition.isSome)
  (constraints ++ created).reverse.zipIdx.map fun ((indexName, unique, origin, conditional), seq) =>
    [Value.integer seq, Value.ofString indexName, Value.integer (if unique then 1 else 0),
      Value.ofString origin, Value.integer (if conditional then 1 else 0)]

/-- The rows of `pragma_foreign_key_list`: a table's references, the last declared first, a row
for each of their columns. -/
def referenceRows (spec : TableSpec) : List (List Value) :=
  spec.references.reverse.zipIdx.flatMap fun (reference, id) =>
    reference.columns.zipIdx.map fun (column, seq) =>
      [Value.integer id, Value.integer seq, Value.ofString reference.parent,
        ((spec.column? column).map fun column => Value.ofString column.name).getD .null,
        ((reference.parentColumns[seq]?).map Value.ofString).getD .null,
        Value.ofString (actionShown reference.onUpdate),
        Value.ofString (actionShown reference.onDelete),
        Value.ofString "NONE"]

namespace TableFunction

/-- The text of an argument of a catalog function; none for NULL. -/
def argumentText : Value → Option String
  | .null => none
  | v => some (Text.decodeUtf8Lossy v.textBytes)

/-- The rows of a catalog function for its name and database, without the hidden columns. -/
def catalogRows (db : Database) (function : TableFunction) (name : String)
    (schema : Option String) : List (List Value) :=
  match function with
  | .tableInfo | .tableExtendedInfo =>
    match catalogTable? db name schema with
    | some table => columnRows table.spec (function == .tableExtendedInfo)
    | none => []
  | .indexInfo | .indexExtendedInfo =>
    let found := match schema with
      | some written => (db.schemaNamed? written).bind fun found => db.indexIn? found name
      | none => db.index? name
    match found with
    | some (table, index) => indexRows table.spec index name (function == .indexExtendedInfo)
    | none => []
  | .indexList =>
    match catalogTable? db name schema with
    | some table => indexListRows table.spec
    | none => []
  | .foreignKeyList =>
    match catalogTable? db name schema with
    | some table => referenceRows table.spec
    | none => []
  | .jsonEach | .jsonTree => []

/-- The rows a function gives for its arguments, hidden columns included. -/
def rows (db : Database) (function : TableFunction) (arguments : List Value) :
    Except StoreError (List (List Value)) :=
  match function with
  | .jsonEach | .jsonTree =>
    match arguments with
    | [] => .ok []
    | document :: rest => JsonTable.rows (function == .jsonTree) document rest.head?
  | _ =>
    let given := arguments.map argumentText
    let hidden := (arguments ++ [Value.null, Value.null]).take 2
    match given.head? with
    | some (some name) =>
      match given[1]? with
      | some none => .ok []
      | schema =>
        let schema := schema.bind id
        if schema.any fun written => (db.schemaNamed? written).isNone then
          .error (.unknownDatabase (schema.getD ""))
        else .ok ((catalogRows db function name schema).map (· ++ hidden))
    | _ => .ok []

end TableFunction

theorem TableFunction.ofName_name (function : TableFunction) :
    TableFunction.ofName? function.name = some function := by
  cases function <;> decide

end SheetExport.Store.Sql
