import SheetExport.Store.Sql.JsonDocument

/-!
# The JSON functions

Each function takes values that may be JSON text: a value made by a JSON function (or by `->`)
carries that mark, and a function that writes such a value into a document writes it as it is,
where other text is written as a string. A result is a value with that mark.

* `json(J)` is `J` written again without its blanks; `json_remove(J, P, …)` also takes out the node
  at each path. A NULL path makes the result NULL, and so does taking out the whole document.
* `json_set`, `json_insert` and `json_replace` (`J, P, V, …`) put each `V` at its `P`: `set`
  replaces or adds, `insert` only adds and `replace` only replaces. A NULL path is passed over;
  replacing the whole document gives the value `V` itself.
* `json_extract(J, P)` gives the node at `P` as a value of the store; with several paths, a JSON
  array of the nodes, `null` for a node not found. `J -> P` gives the node as JSON text and
  `J ->> P` as a value; their path may be abbreviated: `N` for `$[N]`, `[N]` for `$[N]`, and
  anything else (not starting with `$`) for `$.` followed by it.
* `json_type(J[, P])`, `json_array_length(J[, P])` and `json_valid(J)` describe a document;
  `json_array`, `json_object` and `json_quote` write values as JSON; `json_patch(T, P)` merges.

A NULL document makes the result NULL (`json_valid` gives 0), and JSON that is not well formed
is refused with `malformed JSON`.
-/

namespace SheetExport.Store.Sql

namespace JsonFunction

open JsonDocument

/-- A value, and whether it is JSON text. -/
abbrev Typed := Value × Bool

/-- A plain result. -/
def plain (v : Value) : Except StoreError Typed := .ok (v, false)

/-- The text of a document or path argument, up to its first NUL; none for NULL. -/
def textArgument : Value → Option (List UInt8)
  | .null => none
  | v => some (v.textBytes.takeWhile (· != 0))

/-- Reads the document of an argument: none for NULL, and a failure when it is not JSON. -/
def documentOf (v : Value) : Except StoreError (Option Node) :=
  match textArgument v with
  | none => .ok none
  | some text =>
    match read text with
    | some node => .ok (some node)
    | none => .error (.function "malformed JSON")

/-- A node written out as JSON text. -/
def jsonResult (node : Node) : Except StoreError Typed := do
  pure (.text (← render node), true)

/-- A node as a result of `json_extract`: arrays and objects as JSON text, the rest as values. -/
def nodeResult (node : Node) : Except StoreError Typed :=
  match node with
  | .array _ | .object _ => jsonResult node
  | _ => do pure (← toValue node, false)

/-- Takes out the node at each path in turn. -/
def removeAll (document : Node) (rootRemoved : Bool) : List Typed → Except StoreError Typed
  | [] => if rootRemoved then plain .null else jsonResult document
  | (pathValue, _) :: rest =>
    match textArgument pathValue with
    | none => plain .null
    | some path =>
      match walkPath none document path with
      | .fault at_ => .error (pathError at_)
      | .found _ rebuild =>
        match rebuild none with
        | some edited => removeAll edited rootRemoved rest
        | none => removeAll document true rest
      | _ => removeAll document rootRemoved rest

/-- `json(J)` and `json_remove(J, P, …)`. -/
def remove (arguments : List Typed) : Except StoreError Typed :=
  match arguments with
  | [] => plain .null
  | (first, _) :: paths => do
    match ← documentOf first with
    | none => plain .null
    | some document => removeAll document false paths

/-- Which of the three edits a call makes. -/
inductive Edit where
  | set
  | insert
  | replace
  deriving DecidableEq, Repr

/-- The name of an edit's function after `json_`. -/
def Edit.name : Edit → String
  | .set => "set"
  | .insert => "insert"
  | .replace => "replace"

/-- Makes each edit of path and value pairs in turn. -/
def editAll (edit : Edit) (document : Node) : List Typed → Except StoreError Typed
  | (pathValue, _) :: (v, json) :: rest =>
    match textArgument pathValue with
    | none => editAll edit document rest
    | some path =>
      let leaf := Node.value v json
      match walkPath (if edit == .replace then none else some leaf) document path with
      | .fault at_ => .error (pathError at_)
      | .found _ rebuild =>
        if edit == .insert then editAll edit document rest
        else editAll edit ((rebuild (some leaf)).getD document) rest
      | .added edited => editAll edit edited rest
      | .nothing => editAll edit document rest
  | _ =>
    match document with
    | .value v json => .ok (v, json)
    | _ => jsonResult document

/-- `json_set`, `json_insert` and `json_replace`. -/
def editCall (edit : Edit) (arguments : List Typed) : Except StoreError Typed :=
  match arguments with
  | [] => plain .null
  | (first, _) :: pairs =>
    if pairs.length % 2 == 1 then
      .error (.function ("json_" ++ edit.name ++ "() needs an odd number of arguments"))
    else do
      match ← documentOf first with
      | none => plain .null
      | some document => editAll edit document pairs

/-- The nodes at several paths, as the items of a JSON array. -/
def extractEach (document : Node) : List Typed → Except StoreError (List (List UInt8))
  | [] => .ok []
  | (pathValue, _) :: rest => do
    let item ← match textArgument pathValue with
      | none => pure (bytes "null")
      | some path =>
        match walkPath none document path with
        | .fault at_ => throw (pathError at_)
        | .found node _ => render node
        | _ => pure (bytes "null")
    pure (item :: (← extractEach document rest))

/-- `json_extract(J, P, …)`. -/
def extract (arguments : List Typed) : Except StoreError Typed :=
  match arguments with
  | [] | [_] => plain .null
  | (first, _) :: paths => do
    match ← documentOf first with
    | none => plain .null
    | some document =>
      match paths with
      | [(pathValue, _)] =>
        match textArgument pathValue with
        | none => plain .null
        | some path =>
          match walkPath none document path with
          | .fault at_ => throw (pathError at_)
          | .found node _ => nodeResult node
          | _ => plain .null
      | _ => do
        let items ← extractEach document paths
        pure (.text ([byte '['] ++ List.intercalate [byte ','] items ++ [byte ']']), true)

/-- The full path an abbreviated path of `->` and `->>` stands for. -/
def fullPath (path : List UInt8) : List UInt8 :=
  match path with
  | b :: _ =>
    if b == byte '$' then path
    else if isDigit b then bytes "$[" ++ path ++ bytes "]"
    else if b == byte '[' then byte '$' :: path
    else bytes "$." ++ path
  | [] => bytes "$."

/-- `J -> P` (`asJson`) and `J ->> P`. -/
def arrow (asJson : Bool) (documentValue pathValue : Value) : Except StoreError Typed := do
  match ← documentOf documentValue with
  | none => plain .null
  | some document =>
    match textArgument pathValue with
    | none => plain .null
    | some path =>
      match walkPath none document (fullPath path) with
      | .fault at_ => throw (pathError at_)
      | .found node _ => if asJson then jsonResult node else do pure (← toValue node, false)
      | _ => plain .null

/-- The node a describing function looks at: the document, or the node at a path. -/
def describedNode (arguments : List Typed) : Except StoreError (Option Node) :=
  match arguments with
  | [(first, _)] => documentOf first
  | [(first, _), (pathValue, _)] => do
    match ← documentOf first with
    | none => pure none
    | some document =>
      match textArgument pathValue with
      | none => pure none
      | some path =>
        match walkPath none document path with
        | .fault at_ => throw (pathError at_)
        | .found node _ => pure (some node)
        | _ => pure none
  | _ => .ok none

/-- `json_type(J[, P])`. -/
def typeCall (arguments : List Typed) : Except StoreError Typed := do
  match ← describedNode arguments with
  | some node => plain (Value.ofString (typeName node))
  | none => plain .null

/-- `json_array_length(J[, P])`: the number of items of an array, 0 for any other node. -/
def arrayLength (arguments : List Typed) : Except StoreError Typed := do
  match ← describedNode arguments with
  | some (.array items) => plain (.integer items.length)
  | some _ => plain (.integer 0)
  | none => plain .null

/-- `json_valid(J)`: 1 when `J` is well-formed JSON, 0 otherwise, NULL included. -/
def valid (argument : Value) : Value :=
  match textArgument argument with
  | some text => if (read text).isSome then .integer 1 else .integer 0
  | none => .integer 0

/-- Writes values as JSON, in order; a blob is refused. -/
def writeEach : List Typed → Except StoreError (List (List UInt8))
  | [] => .ok []
  | (v, json) :: rest => do
    let first ← valueText v json
    pure (first :: (← writeEach rest))

/-- `json_array(V, …)`. -/
def array (arguments : List Typed) : Except StoreError Typed := do
  let items ← writeEach arguments
  pure (.text ([byte '['] ++ List.intercalate [byte ','] items ++ [byte ']']), true)

/-- Writes label and value pairs as members of an object. A label that is not text is refused
at once; a blob value is refused unless a later label is not text. -/
def writeMembers : List Typed → Except StoreError (List (List UInt8))
  | (label, _) :: (v, json) :: rest =>
    match label with
    | .text key =>
      match writeMembers rest with
      | .error e => .error e
      | .ok members => do
        let value ← valueText v json
        pure ((quoteText key ++ [byte ':'] ++ value) :: members)
    | _ => .error (.function "json_object() labels must be TEXT")
  | _ => .ok []

/-- `json_object(L, V, …)`. -/
def object (arguments : List Typed) : Except StoreError Typed :=
  if arguments.length % 2 == 1 then
    .error (.function "json_object() requires an even number of arguments")
  else do
    let members ← writeMembers arguments
    pure (.text ([byte '{'] ++ List.intercalate [byte ','] members ++ [byte '}']), true)

/-- `json_quote(V)`. -/
def quote (argument : Typed) : Except StoreError Typed := do
  pure (.text (← valueText argument.1 argument.2), true)

/-- Takes out the `null` members of an object, and of the objects among its members, deeply. -/
def removeNulls : Nat → Node → Node
  | 0, node => node
  | fuel + 1, .object members =>
    .object ((members.filter fun (_, node) => !(node matches .null)).map
      fun (label, node) => (label, removeNulls fuel node))
  | _, node => node

/-- A document while a patch is merged into it: a node as it is, or an object being merged, with
the state of each of its first members (whether a merge may still change it) and the members a
merge added after them. -/
inductive Merging where
  | plain (node : Node)
  | object (members : List (Label × Merging × Bool)) (added : List (Label × Node))

/-- The node a merge made. -/
def Merging.toNode : Merging → Node
  | .plain n => n
  | .object members added =>
    .object (members.attach.map (fun ⟨(label, m, _), _⟩ => (label, m.toNode)) ++ added)
termination_by m => sizeOf m
decreasing_by
  have := List.sizeOf_lt_of_mem ‹_›
  simp_all
  omega

/-- The members of a patch object. -/
def patchMembers : Node → List (Label × Node)
  | .object members => members
  | _ => []

/-- The state of an object while the members of a patch are merged into it, one by one: its first
members, the members an earlier merge added, and those this merge has added so far. -/
structure MemberMerge where
  members : List (Label × Merging × Bool)
  added : List (Label × Node)
  addedNow : List (Label × Node)

/-- Merges one member of a patch object into an object, with `mergeChild` merging a value into a
member. A member whose key no first member has is added at the end, unless it is `null`; a first
member already taken out or replaced is left as it is. -/
def mergeMember (fuel : Nat) (mergeChild : Merging → Node → Merging × Bool) (state : MemberMerge)
    (member : Label × Node) : MemberMerge :=
  let (label, value) := member
  match state.members.findIdx? (·.1 == label) with
  | some index =>
    match state.members[index]? with
    | some (_, current, fixed) =>
      if fixed then state
      else
        match value with
        | .null =>
          { state with
            members := state.members.set index (label, .plain (.hidden current.toNode), true) }
        | _ =>
          let (merged, inPlace) := mergeChild current value
          { state with members := state.members.set index (label, merged, !inPlace) }
    | none => state
  | none =>
    match value with
    | .null => state
    | _ => { state with addedNow := state.addedNow ++ [(label, removeNulls fuel value)] }

/-- Merges a patch into a document. A patch that is not an object replaces the document, and so
does a patch object when the document is not an object (without its `null` members). Otherwise
the members of the patch are merged in turn into the first members of the document, and the
members this merge adds take the place of those an earlier merge added. The result says whether
the document was merged into as an object, rather than replaced. -/
def merge : Nat → Merging → Node → Merging × Bool
  | 0, target, _ => (target, true)
  | fuel + 1, target, patch =>
    match patch with
    | .object patchItems =>
      let start : Option MemberMerge :=
        match target with
        | .plain (.object members) =>
          some ⟨members.map fun (label, node) => (label, .plain node, false), [], []⟩
        | .object members added => some ⟨members, added, []⟩
        | _ => none
      match start with
      | some state =>
        let final := patchItems.foldl (mergeMember fuel (merge fuel)) state
        (.object final.members (if final.addedNow.isEmpty then final.added else final.addedNow),
          true)
      | none => (.plain (removeNulls fuel patch), false)
    | _ => (.plain patch, false)

/-- `json_patch(T, P)`. -/
def patch (targetValue patchValue : Value) : Except StoreError Typed := do
  match ← documentOf targetValue with
  | none => plain .null
  | some target =>
    match ← documentOf patchValue with
    | none => plain .null
    | some patchNode =>
      jsonResult (merge (4 * (patchValue.textBytes.length + 2)) (.plain target) patchNode).1.toNode

/-- The JSON function of a name in lower case on its arguments; none when the name is not one. -/
def call (name : String) (arguments : List Typed) : Option (Except StoreError Typed) :=
  match name, arguments with
  | "json", _ | "json_remove", _ => some (remove arguments)
  | "json_set", _ => some (editCall .set arguments)
  | "json_insert", _ => some (editCall .insert arguments)
  | "json_replace", _ => some (editCall .replace arguments)
  | "json_extract", _ => some (extract arguments)
  | "->", [(documentValue, _), (pathValue, _)] => some (arrow true documentValue pathValue)
  | "->>", [(documentValue, _), (pathValue, _)] => some (arrow false documentValue pathValue)
  | "json_type", _ => some (typeCall arguments)
  | "json_array_length", _ => some (arrayLength arguments)
  | "json_valid", [(v, _)] => some (plain (valid v))
  | "json_array", _ => some (array arguments)
  | "json_object", _ => some (object arguments)
  | "json_quote", [argument] => some (quote argument)
  | "json_patch", [(targetValue, _), (patchValue, _)] => some (patch targetValue patchValue)
  | _, _ => none

end JsonFunction

end SheetExport.Store.Sql
