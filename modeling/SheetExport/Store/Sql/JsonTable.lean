import SheetExport.Store.Sql.JsonFunction

/-!
# A JSON document as rows

`json_each` and `json_tree` read a document as a table. Every node of a document has a number:
the whole document is 0 and the nodes follow in the order they are written, the label of an
object member taking the number just before its value. `json_each` lists the members of the
array or object that a path picks, or that node alone when it is neither; `json_tree` lists the
node and everything below it, in the order written.

A row gives the node's key in its container (its position in an array, its label in an object),
the node as a value, its type, the value again when the node is no array or object, its number,
the number of its container (`json_tree` only, and not for the node it starts from), its full
path and the path of its container, and then the document and the path it was given. `json_each`
writes paths from the path it was given; `json_tree` writes them from the top of the document,
where an array above the node it starts from stands as its first element (`[0]`), and where a
label is written as in the document without its quotes.

A NULL document or path gives no rows, and so does a path that finds nothing; a document that is
not JSON and a path of the wrong form are refused.
-/

namespace SheetExport.Store.Sql

namespace JsonTable

open JsonDocument JsonFunction

mutual

/-- How many numbers a node takes: one, and those of what it holds, an object member's label
taking one of its own. -/
def nodeSize : Node → Nat
  | .array items => itemsSize items + 1
  | .object members => membersSize members + 1
  | _ => 1

/-- How many numbers the items of an array take. -/
def itemsSize : List Node → Nat
  | [] => 0
  | item :: rest => nodeSize item + itemsSize rest

/-- How many numbers the members of an object take, labels included. -/
def membersSize : List (Label × Node) → Nat
  | [] => 0
  | (_, node) :: rest => nodeSize node + 1 + membersSize rest

end

/-- The step of a path to an element of an array. -/
def indexStep (index : Nat) : List UInt8 := bytes ("[" ++ toString index ++ "]")

/-- The step of a path to a member of an object: its label as written, without the quotes. -/
def labelStep : Label → List UInt8
  | .written raw => byte '.' :: (raw.drop 1).dropLast
  | .given key => byte '.' :: key

/-- A label as the key of a row: its text, escapes undone. -/
def labelKey : Label → Value
  | .written raw => .text (unescape raw.length ((raw.drop 1).dropLast))
  | .given key => .text key

/-- A node as a row lists it: its key, the node, its number, the number of its container, its
full path and the path of its container. -/
structure Entry where
  key : Value
  node : Node
  id : Nat
  parent : Option Nat
  fullKey : List UInt8
  path : List UInt8

mutual

/-- The rows of a node numbered `id` and of everything below it, in the order written. -/
def treeRows (node : Node) (id : Nat) (key : Value) (parent : Option Nat)
    (fullKey path : List UInt8) : List Entry :=
  ⟨key, node, id, parent, fullKey, path⟩ ::
    match node with
    | .array items => itemRows items (id + 1) id 0 fullKey
    | .object members => memberRows members (id + 1) id fullKey
    | _ => []

/-- The rows of the items of an array numbered `container`, from the item at `index`, which is
numbered `next`. -/
def itemRows (items : List Node) (next container index : Nat) (path : List UInt8) : List Entry :=
  match items with
  | [] => []
  | item :: rest =>
    treeRows item next (.integer index) (some container) (path ++ indexStep index) path ++
      itemRows rest (next + nodeSize item) container (index + 1) path

/-- The rows of the members of an object numbered `container`, from the member whose label is
numbered `next`. -/
def memberRows (members : List (Label × Node)) (next container : Nat) (path : List UInt8) :
    List Entry :=
  match members with
  | [] => []
  | (label, node) :: rest =>
    treeRows node (next + 1) (labelKey label) (some container) (path ++ labelStep label) path ++
      memberRows rest (next + 1 + nodeSize node) container path

end

/-- The rows `json_each` lists for the node numbered `id` that its path picks, paths written
from the path `root`: the members of an array or object, or the node itself. -/
def eachRows (node : Node) (id : Nat) (root : List UInt8) : List Entry :=
  match node with
  | .array items =>
    (items.foldl (fun (acc : Nat × Nat × List Entry) item =>
      let (next, index, entries) := acc
      (next + nodeSize item, index + 1,
        entries ++ [⟨.integer index, item, next, none, root ++ indexStep index, root⟩]))
      (id + 1, 0, [])).2.2
  | .object members =>
    (members.foldl (fun (acc : Nat × List Entry) (label, member) =>
      let (next, entries) := acc
      (next + 1 + nodeSize member,
        entries ++ [⟨labelKey label, member, next + 1, none, root ++ labelStep label, root⟩]))
      (id + 1, [])).2
  | _ => [⟨.null, node, id, none, root, root⟩]

/-- The node that stands for the one a path picked while the document is searched for it; a
document read from text holds none like it. -/
def marker : Node := .value .null true

/-- Whether a node is the marker. -/
def isMarker : Node → Bool
  | .value .null true => true
  | _ => false

mutual

/-- Finds the marker in a node numbered `id`: the row `json_tree` starts from there. -/
def findMarker (node : Node) (id : Nat) (key : Value) (parent : Option Nat)
    (fullKey path : List UInt8) : Option Entry :=
  if isMarker node then some ⟨key, node, id, parent, fullKey, path⟩
  else
    match node with
    | .array items => markerInItems items (id + 1) id fullKey
    | .object members => markerInMembers members (id + 1) id fullKey
    | _ => none

/-- Finds the marker among the items of an array; each stands as the first element. -/
def markerInItems (items : List Node) (next container : Nat) (path : List UInt8) :
    Option Entry :=
  match items with
  | [] => none
  | item :: rest =>
    match findMarker item next .null (some container) (path ++ indexStep 0) path with
    | some found => some found
    | none => markerInItems rest (next + nodeSize item) container path

/-- Finds the marker among the members of an object. -/
def markerInMembers (members : List (Label × Node)) (next container : Nat) (path : List UInt8) :
    Option Entry :=
  match members with
  | [] => none
  | (label, node) :: rest =>
    match findMarker node (next + 1) (labelKey label) (some container) (path ++ labelStep label)
        path with
    | some found => some found
    | none => markerInMembers rest (next + 1 + nodeSize node) container path

end

/-- A row as values: key, value, type, atom, id, parent, full key, path, and the document and
path given. -/
def Entry.values (entry : Entry) (document root : Value) : Except StoreError (List Value) := do
  let value ← toValue entry.node
  let atom ← match entry.node with
    | .array _ | .object _ => pure Value.null
    | node => toValue node
  pure [entry.key, value, Value.ofString (typeName entry.node), atom, .integer entry.id,
    (entry.parent.map fun parent => Value.integer parent).getD .null, .text entry.fullKey,
    .text entry.path, document, root]

/-- The rows of `json_each` (`tree` false) or `json_tree` for a document and a path, `$` when
none is given. -/
def rows (tree : Bool) (document : Value) (path : Option Value) :
    Except StoreError (List (List Value)) := do
  let some text := textArgument document | return []
  let some whole := read text | throw (.function "malformed JSON")
  let rootText ← match path with
    | none => pure (some (bytes "$"))
    | some given => pure (textArgument given)
  let some root := rootText | return []
  match walkPath none whole root with
  | .fault at_ => throw (pathError at_)
  | .found node rebuild =>
    let marked := (rebuild (some marker)).getD marker
    let some start := findMarker marked 0 .null none (bytes "$") (bytes "$") | return []
    let entries := if tree then
        treeRows node start.id start.key none start.fullKey start.path
      else eachRows node start.id root
    entries.mapM fun (entry : Entry) => entry.values (.text text) (.text root)
  | _ => return []

theorem nodeSize_pos (node : Node) : 0 < nodeSize node := by
  cases node <;> simp [nodeSize]

end JsonTable

end SheetExport.Store.Sql
