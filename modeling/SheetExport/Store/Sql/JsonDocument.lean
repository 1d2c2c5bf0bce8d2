import SheetExport.Store.Value
import SheetExport.Store.Error

/-!
# JSON documents

The JSON functions read their first argument as JSON text and answer with JSON text or with a
value of the store. A document is read strictly: objects, arrays, strings with the escapes
`\" \\ \/ \b \f \n \r \t \uXXXX` and no control characters, numbers with no leading zero and
digits on both sides of a point, and `null`, `true` and `false`, with blanks (space, tab, line
feed, carriage return) between tokens and nothing after the value; nesting deeper than 2000
levels is refused. A document keeps its numbers and strings as written, so writing it back out
only drops the blanks.

**Paths.** A path starts with `$` and then has steps: `.key` (up to the next `.` or `[`),
`."key"`, `[N]`, `[#]` (one past the last element) and `[#-N]`. Keys are compared with labels as
written, escapes and all. Steps are read as the document is walked: a step is only checked for
its form when the walk reaches it, so a path that leaves the document early reports nothing.

**Edits.** `json_set`, `json_insert` and `json_replace` put values at paths, and `json_remove`
takes nodes out, each path seeing the edits made before it. A path that ends one step past the
document (a missing key of an object, or the element just past the end of an array) adds the
node, making the objects (for `.key`) and arrays (for `[0]`) that the rest of the path needs. A
node put in by an edit holds the value of the store: a path cannot walk into it, and it is written
as JSON when the document is written, text as a string unless it is itself JSON, and a blob being
refused. `json_patch` merges a patch into a document as RFC 7396 describes.

**Values.** A JSON value given back as a value of the store is NULL for `null`, 1 and 0 for
`true` and `false`, an integer when an integer numeral fits in 64 bits and a real otherwise, and
the text of a string with its escapes undone (`\u0000` ending it); arrays and objects are given
as JSON text.
-/

namespace SheetExport.Store.Sql

namespace JsonDocument

/-- The label of an object member: as written in the document, quotes and escapes included, or as
a path gave it, to be written as a string. -/
inductive Label where
  | written (raw : List UInt8)
  | given (key : List UInt8)
  deriving DecidableEq, Repr

/-- A node of a document. -/
inductive Node where
  | null
  | boolean (b : Bool)
  /-- A number as written; `real` when it has a point or an exponent. -/
  | number (raw : List UInt8) (real : Bool)
  /-- A string as written, quotes and escapes included. -/
  | string (raw : List UInt8)
  | array (items : List Node)
  | object (members : List (Label × Node))
  /-- A node an edit put in: a value of the store, and whether that value is JSON text. -/
  | value (v : Value) (json : Bool)
  /-- The value of an object member that an edit took out: a key still finds it, but it is not
  written. -/
  | hidden (node : Node)
  deriving Repr, Inhabited

/-- The byte of an ASCII character. -/
def byte (c : Char) : UInt8 := c.toNat.toUInt8

/-- The bytes of an ASCII text. -/
def bytes (s : String) : List UInt8 := s.toList.map byte

/-- Whether a byte is a blank between tokens. -/
def isBlank (b : UInt8) : Bool := b == 32 || b == 9 || b == 10 || b == 13

/-- Whether a byte is an ASCII digit. -/
def isDigit (b : UInt8) : Bool := 48 ≤ b && b ≤ 57

/-- Whether a byte is an ASCII hexadecimal digit. -/
def isHexDigit (b : UInt8) : Bool :=
  isDigit b || (65 ≤ b && b ≤ 70) || (97 ≤ b && b ≤ 102)

/-- Whether a byte is an ASCII letter or digit. -/
def isAlphanumeric (b : UInt8) : Bool := isDigit b || (65 ≤ b && b ≤ 90) || (97 ≤ b && b ≤ 122)

/-- The greatest depth of nesting a document may have. -/
def maxDepth : Nat := 2000

/-- What reading a value at some point of a text found. -/
inductive Step where
  | value (node : Node) (rest : List UInt8)
  /-- A `}` where a value was expected. -/
  | closeObject (rest : List UInt8)
  /-- A `]` where a value was expected. -/
  | closeArray (rest : List UInt8)
  /-- The end of the text. -/
  | ended
  | malformed

/-- Reads the body of a string after its opening quote: the bytes up to and including the
closing quote, and the rest; none when a control character or a bad escape comes first. -/
def stringBody : List UInt8 → Option (List UInt8 × List UInt8)
  | [] => none
  | b :: rest =>
    if b < 32 then none
    else if b == byte '"' then some ([b], rest)
    else if b == byte '\\' then
      match rest with
      | c :: more =>
        let simple := [byte '"', byte '\\', byte '/', byte 'b', byte 'f', byte 'n', byte 'r', byte 't']
        if simple.contains c then
          (stringBody more).map fun (body, after) => (b :: c :: body, after)
        else if c == byte 'u' && (more.take 4).length == 4 && (more.take 4).all isHexDigit then
          (stringBody more).map fun (body, after) => (b :: c :: body, after)
        else none
      | [] => none
    else (stringBody rest).map fun (body, after) => (b :: body, after)

/-- Reads the digits and marks of a number after its first byte: the bytes taken, whether a point
or exponent was seen, and the rest; none when the marks are out of place. `previous` is the byte
before. -/
def numberTail (previous : UInt8) (seenPoint seenExponent : Bool) :
    List UInt8 → Option (List UInt8 × Bool × List UInt8)
  | [] => if previous < byte '0' then none else some ([], seenPoint, [])
  | b :: rest =>
    if isDigit b then
      (numberTail b seenPoint seenExponent rest).map fun (taken, real, after) =>
        (b :: taken, real, after)
    else if b == byte '.' then
      if previous == byte '-' || seenPoint then none
      else
        (numberTail b true seenExponent rest).map fun (taken, real, after) =>
          (b :: taken, real, after)
    else if b == byte 'e' || b == byte 'E' then
      if previous < byte '0' || seenExponent then none
      else
        match rest with
        | s :: d :: more =>
          if (s == byte '+' || s == byte '-') then
            if isDigit d then
              (numberTail d true true more).map fun (taken, _, after) =>
                (b :: s :: d :: taken, true, after)
            else none
          else if isDigit s then
            (numberTail s true true (d :: more)).map fun (taken, _, after) =>
              (b :: s :: taken, true, after)
          else none
        | [s] =>
          if isDigit s then some ([b, s], true, []) else none
        | [] => none
    else if previous < byte '0' then none
    else some ([], seenPoint, b :: rest)

/-- Whether a literal word starts a text and is not followed by a letter or digit. -/
def startsWord (word : String) (text : List UInt8) : Bool :=
  (bytes word).isPrefixOf text &&
    !((text.drop word.length).head?.any isAlphanumeric)

mutual

/-- Reads one value, after any blanks. -/
def readValue (fuel depth : Nat) (text : List UInt8) : Step :=
  match fuel with
  | 0 => .malformed
  | fuel + 1 =>
    let text := text.dropWhile isBlank
    match text with
    | [] => .ended
    | c :: rest =>
      if c == byte '{' then readMembers fuel depth [] rest
      else if c == byte '[' then readItems fuel depth [] rest
      else if c == byte '"' then
        match stringBody rest with
        | some (body, after) => .value (.string (c :: body)) after
        | none => .malformed
      else if startsWord "null" text then .value .null (text.drop 4)
      else if startsWord "true" text then .value (.boolean true) (text.drop 4)
      else if startsWord "false" text then .value (.boolean false) (text.drop 5)
      else if c == byte '-' || isDigit c then
        let start := if c == byte '-' then rest else text
        match start with
        | z :: d :: _ =>
          if z == byte '0' && isDigit d then .malformed
          else
            match numberTail c false false rest with
            | some (taken, real, after) => .value (.number (c :: taken) real) after
            | none => .malformed
        | _ =>
          match numberTail c false false rest with
          | some (taken, real, after) => .value (.number (c :: taken) real) after
          | none => .malformed
      else if c == byte '}' then .closeObject rest
      else if c == byte ']' then .closeArray rest
      else .malformed

/-- Reads the members of an object after its `{` or a `,`, given the members read so far. -/
def readMembers (fuel depth : Nat) (members : List (Label × Node)) (text : List UInt8) : Step :=
  match fuel with
  | 0 => .malformed
  | fuel + 1 =>
    if maxDepth < depth + 1 then .malformed
    else
      match readValue fuel (depth + 1) text with
      | .closeObject rest => if members.isEmpty then .value (.object []) rest else .malformed
      | .value (.string label) rest =>
        match rest.dropWhile isBlank with
        | c :: more =>
          if c == byte ':' then
            match readValue fuel (depth + 1) more with
            | .value node after =>
              let members := members ++ [(.written label, node)]
              match after.dropWhile isBlank with
              | d :: tail =>
                if d == byte ',' then readMembers fuel depth members tail
                else if d == byte '}' then .value (.object members) tail
                else .malformed
              | [] => .malformed
            | _ => .malformed
          else .malformed
        | [] => .malformed
      | _ => .malformed

/-- Reads the items of an array after its `[` or a `,`, given the items read so far. -/
def readItems (fuel depth : Nat) (items : List Node) (text : List UInt8) : Step :=
  match fuel with
  | 0 => .malformed
  | fuel + 1 =>
    if maxDepth < depth + 1 then .malformed
    else
      match readValue fuel (depth + 1) text with
      | .closeArray rest => if items.isEmpty then .value (.array []) rest else .malformed
      | .value node after =>
        let items := items ++ [node]
        match after.dropWhile isBlank with
        | d :: tail =>
          if d == byte ',' then readItems fuel depth items tail
          else if d == byte ']' then .value (.array items) tail
          else .malformed
        | [] => .malformed
      | _ => .malformed

end

/-- Reads a document from text, up to its first NUL; none when it is not JSON. -/
def read (text : List UInt8) : Option Node :=
  let text := text.takeWhile (· != 0)
  match readValue (4 * text.length + 8) 0 text with
  | .value node rest => if (rest.dropWhile isBlank).isEmpty then some node else none
  | _ => none

/-- The digits of a byte below 32 as a `\u00XX` escape writes them. -/
def controlEscape (b : UInt8) : List UInt8 :=
  let hex := bytes "0123456789abcdef"
  [byte '\\', byte 'u', byte '0', byte '0', byte '0' + b / 16, hex.getD (b % 16).toNat 0]

/-- One byte of text as a JSON string writes it. -/
def escapeByte (b : UInt8) : List UInt8 :=
  if b == byte '"' || b == byte '\\' then [byte '\\', b]
  else if b == 8 then [byte '\\', byte 'b']
  else if b == 9 then [byte '\\', byte 't']
  else if b == 10 then [byte '\\', byte 'n']
  else if b == 12 then [byte '\\', byte 'f']
  else if b == 13 then [byte '\\', byte 'r']
  else if b < 32 then controlEscape b
  else [b]

/-- Text as a JSON string: quoted, with quotes, backslashes and control bytes escaped. -/
def quoteText (text : List UInt8) : List UInt8 :=
  [byte '"'] ++ text.flatMap escapeByte ++ [byte '"']

/-- A value of the store as JSON text: NULL as `null`, a number as its text, text as a string
unless it is JSON text already; a blob has none. -/
def valueText (v : Value) (json : Bool) : Except StoreError (List UInt8) :=
  match v with
  | .null => .ok (bytes "null")
  | .integer _ | .real _ => .ok v.textBytes
  | .text text => .ok (if json then text else quoteText text)
  | .blob _ => .error (.function "JSON cannot hold BLOB values")

mutual

/-- Writes a node as JSON text. -/
def render : Node → Except StoreError (List UInt8)
  | .null => .ok (bytes "null")
  | .boolean true => .ok (bytes "true")
  | .boolean false => .ok (bytes "false")
  | .number raw _ => .ok raw
  | .string raw => .ok raw
  | .value v json => valueText v json
  | .hidden node => render node
  | .array items => do
    let parts ← renderItems items
    pure ([byte '['] ++ List.intercalate [byte ','] parts ++ [byte ']'])
  | .object members => do
    let parts ← renderMembers members
    pure ([byte '{'] ++ List.intercalate [byte ','] parts ++ [byte '}'])

/-- Writes the items of an array. -/
def renderItems : List Node → Except StoreError (List (List UInt8))
  | [] => .ok []
  | node :: rest => do
    let first ← render node
    pure (first :: (← renderItems rest))

/-- Writes the members of an object, each as `label:value`. -/
def renderMembers : List (Label × Node) → Except StoreError (List (List UInt8))
  | [] => .ok []
  | (_, .hidden _) :: rest => renderMembers rest
  | (label, node) :: rest => do
    let labelText := match label with
      | .written raw => raw
      | .given key => quoteText key
    let first ← render node
    pure ((labelText ++ [byte ':'] ++ first) :: (← renderMembers rest))

end

/-- The value of four hexadecimal digits. -/
def hexValue (digits : List UInt8) : Nat :=
  digits.foldl (fun n d =>
    n * 16 + (if isDigit d then d.toNat - 48 else if d ≤ 70 then d.toNat - 55 else d.toNat - 87)) 0

/-- The UTF-8 bytes of a code point below `2^21`, as the unescaping of `\u` writes them. -/
def pointBytes (v : Nat) : List UInt8 :=
  if v ≤ 0x7F then [v.toUInt8]
  else if v ≤ 0x7FF then [(0xC0 + v / 64).toUInt8, (0x80 + v % 64).toUInt8]
  else if v < 0x10000 then
    [(0xE0 + v / 4096).toUInt8, (0x80 + v / 64 % 64).toUInt8, (0x80 + v % 64).toUInt8]
  else
    [(0xF0 + v / 262144).toUInt8, (0x80 + v / 4096 % 64).toUInt8, (0x80 + v / 64 % 64).toUInt8,
      (0x80 + v % 64).toUInt8]

/-- Undoes the escapes of a string's body (without its quotes); `\u0000` ends the text. -/
def unescape : Nat → List UInt8 → List UInt8
  | 0, _ => []
  | _, [] => []
  | fuel + 1, b :: rest =>
    if b != byte '\\' then b :: unescape fuel rest
    else
      match rest with
      | [] => []
      | c :: more =>
        if c == byte 'u' then
          let v := hexValue (more.take 4)
          let more := more.drop 4
          if v == 0 then []
          else if v < 0x800 then pointBytes v ++ unescape fuel more
          else
            match more with
            | s :: u :: low =>
              let vlo := hexValue (low.take 4)
              if v / 1024 == 0xD800 / 1024 && s == byte '\\' && u == byte 'u' &&
                  (low.take 4).length == 4 && vlo / 1024 == 0xDC00 / 1024 then
                pointBytes ((v % 1024) * 1024 + vlo % 1024 + 0x10000) ++
                  unescape fuel (low.drop 4)
              else pointBytes v ++ unescape fuel more
            | _ => pointBytes v ++ unescape fuel more
        else
          let plain :=
            if c == byte 'b' then 8 else if c == byte 'f' then 12 else if c == byte 'n' then 10
            else if c == byte 'r' then 13 else if c == byte 't' then 9 else c
          plain :: unescape fuel more

/-- The value of an integer numeral: an integer when it fits in 64 bits, else none. -/
def integerOf (raw : List UInt8) : Option Int :=
  let (negative, digits) := match raw with
    | b :: rest => if b == byte '-' then (true, rest) else (false, raw)
    | [] => (false, raw)
  let magnitude : Nat := digits.foldl (fun n d => n * 10 + (d.toNat - 48)) 0
  if negative then (if magnitude ≤ Nat.pow 2 63 then some (-(magnitude : Int)) else none)
  else if magnitude < Nat.pow 2 63 then some magnitude else none

/-- A node as a value of the store; arrays and objects as JSON text. -/
def toValue (node : Node) : Except StoreError Value :=
  match node with
  | .null => .ok .null
  | .boolean b => .ok (.integer (if b then 1 else 0))
  | .number raw real =>
    match (if real then none else integerOf raw) with
    | some n => .ok (.integer n)
    | none => .ok (.real (readReal (Value.byteChars raw)).value)
  | .string raw =>
    let body := (raw.drop 1).dropLast
    .ok (.text (unescape (body.length + 1) body))
  | .value v _ => .ok v
  | _ => do .ok (.text (← render node))

/-- The type of a node as `json_type` names it. -/
def typeName : Node → String
  | .null => "null"
  | .boolean true => "true"
  | .boolean false => "false"
  | .number _ false => "integer"
  | .number _ true => "real"
  | .string _ => "text"
  | .array _ => "array"
  | .object _ => "object"
  | .value v _ =>
    match v with
    | .null => "null"
    | .integer _ => "integer"
    | .real _ => "real"
    | _ => "text"
  | .hidden node => typeName node

/-- Whether a label is a key that a path step names. -/
def Label.names (label : Label) (key : List UInt8) : Bool :=
  match label with
  | .written raw => raw.length == key.length + 2 && (raw.drop 1).take key.length == key
  | .given name => name == key

/-- Splits the key of a `.` step: for a quoted key the bytes between the quotes and the rest after
the closing quote; otherwise the bytes up to the next `.` or `[`. None when a quoted key does not
close, or an unquoted key is empty. -/
def keyStep (path : List UInt8) : Option (List UInt8 × List UInt8) :=
  match path with
  | q :: rest =>
    if q == byte '"' then
      let key := rest.takeWhile (· != byte '"')
      match rest.drop key.length with
      | _ :: after => some (key, after)
      | [] => none
    else
      let key := path.takeWhile fun b => b != byte '.' && b != byte '['
      if key.isEmpty then none else some (key, path.drop key.length)
  | [] => none

/-- Reads an index step after its `[`: the decimal digits (kept to 32 bits) and the rest after
the `]`, or none when it is not of that form. -/
def digitsStep (path : List UInt8) : Option (Nat × List UInt8) :=
  let digits := path.takeWhile isDigit
  match path.drop digits.length with
  | b :: after =>
    if !digits.isEmpty && b == byte ']' then
      some (digits.foldl (fun n d => (n * 10 + (d.toNat - 48)) % Nat.pow 2 32) 0, after)
    else none
  | [] => none

/-- The new node a path asks for below a place one step past the document: the empty path asks
for the value itself, a `.key` step for an object holding it, a `[0]` step for an array holding
it; none for anything else, and a fault where a key's form is wrong. -/
def newNode (fuel : Nat) (leaf : Node) (path : List UInt8) : Except (List UInt8) (Option Node) :=
  match fuel with
  | 0 => .ok none
  | fuel + 1 =>
    match path with
    | [] => .ok (some leaf)
    | b :: rest =>
      if b == byte '.' then
        match keyStep rest with
        | some (key, after) => do
          match ← newNode fuel leaf after with
          | some node => pure (some (.object [(.given key, node)]))
          | none => pure none
        | none => .error rest
      else if (bytes "[0]").isPrefixOf path then do
        match ← newNode fuel leaf (path.drop 3) with
        | some node => pure (some (.array [node]))
        | none => pure none
      else .ok none

/-- The outcome of a walk: a node found and the document rebuilt around its place, a node added
(the document with it), nothing, or a fault at a point of the path. -/
inductive Outcome where
  /-- A node found, and the document rebuilt with a new node in its place (none to take it out);
  none when the place is the whole document and it is taken out. -/
  | found (node : Node) (rebuild : Option Node → Option Node)
  | added (document : Node)
  | nothing
  | fault (at_ : List UInt8)

/-- Walks a document along the steps of a path (after its `$`). When `leaf` is given, a path that
leaves the document one step past its end adds `leaf` there, with what the rest of the path needs.
A node put in by an edit cannot be walked into. -/
def walk (fuel : Nat) (leaf : Option Node) (node : Node) (path : List UInt8) : Outcome :=
  match fuel with
  | 0 => .nothing
  | fuel + 1 =>
    match path with
    | [] => .found node id
    | b :: rest =>
      match node with
      | .value .. => .nothing
      | .hidden inner =>
        match walk fuel leaf inner path with
        | .found found rebuild => .found found fun new => (rebuild new).map .hidden
        | .added document => .added (.hidden document)
        | other => other
      | _ =>
        if b == byte '.' then
          match node with
          | .object members =>
            match keyStep rest with
            | none => .fault rest
            | some (key, after) =>
              match members.findIdx? (·.1.names key) with
              | some index =>
                match members[index]? with
                | some (label, child) =>
                  match walk fuel leaf child after with
                  | .found found rebuild =>
                    .found found fun new =>
                      some (.object (members.set index (label, (rebuild new).getD (.hidden child))))
                  | .added child => .added (.object (members.set index (label, child)))
                  | other => other
                | none => .nothing
              | none =>
                match leaf with
                | some leaf =>
                  match newNode fuel leaf after with
                  | .ok (some child) => .added (.object (members ++ [(.given key, child)]))
                  | .ok none => .nothing
                  | .error at_ => .fault at_
                | none => .nothing
          | _ => .nothing
        else if b == byte '[' then
          let index : Option (Nat × List UInt8) :=
            match digitsStep rest with
            | some found => some found
            | none => none
          let hashed : Option (Option (Nat × List UInt8)) :=
            match index, rest with
            | none, h :: more =>
              if h == byte '#' then
                match node with
                | .array items =>
                  let count := items.length
                  match more with
                  | m :: d :: tail =>
                    if m == byte '-' && isDigit d then
                      let digits := (d :: tail).takeWhile isDigit
                      let x := digits.foldl (fun n c => (n * 10 + (c.toNat - 48)) % Nat.pow 2 32) 0
                      match tail.drop (digits.length - 1) with
                      | e :: after =>
                        if x > count then some none
                        else if e == byte ']' then some (some (count - x, after))
                        else none
                      | [] => if x > count then some none else none
                    else if m == byte ']' then some (some (count, d :: tail))
                    else none
                  | [m] => if m == byte ']' then some (some (count, [])) else none
                  | [] => none
                | _ => some none
              else none
            | _, _ => none
          let step : Option (Option (Nat × List UInt8)) :=
            match index with
            | some found => some (some found)
            | none => hashed
          match step with
          | none => .fault path
          | some none => .nothing
          | some (some (position, after)) =>
            match node with
            | .array items =>
              match items[position]? with
              | some child =>
                match walk fuel leaf child after with
                | .found found rebuild =>
                  .found found fun new =>
                    some (.array (match rebuild new with
                      | some child => items.set position child
                      | none => items.eraseIdx position))
                | .added child => .added (.array (items.set position child))
                | other => other
              | none =>
                match leaf with
                | some leaf =>
                  if position == items.length then
                    match newNode fuel leaf after with
                    | .ok (some child) => .added (.array (items ++ [child]))
                    | .ok none => .nothing
                    | .error at_ => .fault at_
                  else .nothing
                | none => .nothing
            | _ => .nothing
        else .fault path

/-- A walk along a whole path, which must start with `$`. -/
def walkPath (leaf : Option Node) (document : Node) (path : List UInt8) : Outcome :=
  match path with
  | b :: rest =>
    if b == byte '$' then walk (4 * path.length + 8) leaf document rest else .fault path
  | [] => .fault path

/-- The failure of a path's form at a point of it. -/
def pathError (at_ : List UInt8) : StoreError :=
  .function ("JSON path error near '" ++ Text.decodeUtf8Lossy (at_.takeWhile (· != 0)) ++ "'")

end JsonDocument

end SheetExport.Store.Sql
