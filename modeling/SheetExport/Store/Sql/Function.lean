import SheetExport.Store.Characters
import SheetExport.Store.Error
import SheetExport.Store.Sql.Format

/-!
# Built-in functions

The functions a statement may call, by name in any ASCII case, with the numbers of arguments
each takes. Aggregate functions (`count`, `sum`, `total`, `avg`, `group_concat`, and `min` and
`max` of one argument) are known but have no place in the statements the store runs, so a call
of one is refused where it is read; `min` and `max` of two or more arguments are plain functions.
The store loads no extension, so `load_extension` is refused when it runs, and `sqlite_log`
writes nowhere and gives NULL.

A function sees its arguments' values: text functions read a number as its text and a blob as the
text its bytes spell, and almost every function gives NULL for a NULL argument. Text is measured
and cut in characters, read leniently from its bytes (see `Characters`), and most functions read
it only up to its first NUL byte; blobs are measured and cut in bytes. Case changes only touch
ASCII letters, and searching and replacing compare bytes.
-/

namespace SheetExport.Store.Sql

/-- What a name with a number of arguments calls. -/
inductive Callee where
  | scalar
  | aggregate
  /-- A function that only a window computes, such as `row_number`. -/
  | window
  /-- No function has the name. -/
  | missing
  /-- A function has the name, but not with this number of arguments. -/
  | wrongCount
  deriving DecidableEq, Repr

/-- The number of arguments a function takes. -/
inductive Arity where
  | exactly (counts : List Nat)
  | atLeast (count : Nat)
  deriving Repr

namespace Arity

/-- Whether an arity admits a number of arguments. -/
def admits : Arity → Nat → Bool
  | .exactly counts, n => counts.contains n
  | .atLeast count, n => count ≤ n

end Arity

/-- The functions of full-text searches: they only work when a search of a full-text table
takes their call, and otherwise fail when called. -/
def searchFunctions : List (String × Arity) :=
  [("match", .exactly [2]), ("bm25", .atLeast 0), ("highlight", .atLeast 0),
   ("snippet", .atLeast 0), ("offsets", .exactly [1]), ("matchinfo", .exactly [1, 2]),
   ("optimize", .exactly [1]), ("\x00bm25", .atLeast 0), ("\x00highlight", .atLeast 0),
   ("\x00snippet", .atLeast 0), ("\x00cursor", .atLeast 0), ("\x00offsets", .atLeast 0),
   ("\x00matchinfo", .atLeast 0), ("\x00illegal", .atLeast 0)]

/-- The plain functions and their arities. -/
def scalarFunctions : List (String × Arity) :=
  [("->", .exactly [2]), ("->>", .exactly [2]), ("abs", .exactly [1]), ("acos", .exactly [1]), ("acosh", .exactly [1]), ("asin", .exactly [1]),
   ("asinh", .exactly [1]), ("atan", .exactly [1]), ("atan2", .exactly [2]),
   ("atanh", .exactly [1]), ("ceil", .exactly [1]), ("ceiling", .exactly [1]),
   ("changes", .exactly [0]), ("char", .atLeast 0), ("coalesce", .atLeast 2),
   ("cos", .exactly [1]), ("cosh", .exactly [1]), ("date", .atLeast 0), ("datetime", .atLeast 0),
   ("degrees", .exactly [1]), ("exp", .exactly [1]), ("floor", .exactly [1]),
   ("format", .atLeast 1), ("glob", .exactly [2]), ("hex", .exactly [1]), ("ifnull", .exactly [2]),
   ("iif", .exactly [3]), ("instr", .exactly [2]), ("json", .exactly [1]),
   ("json_array", .atLeast 0), ("json_array_length", .exactly [1, 2]),
   ("json_extract", .atLeast 0), ("json_insert", .atLeast 0), ("json_object", .atLeast 0),
   ("json_patch", .exactly [2]), ("json_quote", .exactly [1]), ("json_remove", .atLeast 0),
   ("json_replace", .atLeast 0), ("json_set", .atLeast 0), ("json_type", .exactly [1, 2]),
   ("json_valid", .exactly [1]), ("julianday", .atLeast 0),
   ("last_insert_rowid", .exactly [0]), ("length", .exactly [1]), ("like", .exactly [2, 3]),
   ("likelihood", .exactly [2]), ("likely", .exactly [1]), ("ln", .exactly [1]),
   ("load_extension", .exactly [1, 2]),
   ("log", .exactly [1, 2]), ("log10", .exactly [1]), ("log2", .exactly [1]),
   ("lower", .exactly [1]), ("ltrim", .exactly [1, 2]), ("mod", .exactly [2]),
   ("nullif", .exactly [2]), ("pi", .exactly [0]), ("pow", .exactly [2]), ("power", .exactly [2]),
   ("printf", .atLeast 1), ("quote", .exactly [1]), ("radians", .exactly [1]),
   ("random", .exactly [0]), ("randomblob", .exactly [1]), ("replace", .exactly [3]),
   ("round", .exactly [1, 2]), ("rtrim", .exactly [1, 2]), ("sign", .exactly [1]),
   ("sin", .exactly [1]), ("sinh", .exactly [1]), ("soundex", .exactly [1]),
   ("sqlite_compileoption_get", .exactly [1]), ("sqlite_compileoption_used", .exactly [1]),
   ("sqlite_log", .exactly [2]),
   ("sqlite_source_id", .exactly [0]), ("sqlite_version", .exactly [0]), ("sqrt", .exactly [1]),
   ("strftime", .atLeast 1), ("substr", .exactly [2, 3]), ("substring", .exactly [2, 3]),
   ("subtype", .exactly [1]), ("tan", .exactly [1]), ("tanh", .exactly [1]), ("time", .atLeast 0),
   ("total_changes", .exactly [0]), ("trim", .exactly [1, 2]), ("trunc", .exactly [1]),
   ("typeof", .exactly [1]), ("unicode", .exactly [1]), ("unixepoch", .atLeast 0),
   ("unlikely", .exactly [1]), ("upper", .exactly [1]), ("zeroblob", .exactly [1])] ++
  searchFunctions


/-- The aggregate functions and their arities. -/
def aggregateFunctions : List (String × Arity) :=
  [("avg", .exactly [1]), ("count", .exactly [0, 1]), ("group_concat", .exactly [1, 2]),
   ("json_group_array", .exactly [1]), ("json_group_object", .exactly [2]), ("sum", .exactly [1]),
   ("total", .exactly [1])]

/-- The functions that only a window computes, and their arities. -/
def windowFunctions : List (String × Arity) :=
  [("row_number", .exactly [0]), ("rank", .exactly [0]), ("dense_rank", .exactly [0]),
   ("percent_rank", .exactly [0]), ("cume_dist", .exactly [0]), ("ntile", .exactly [1]),
   ("lag", .exactly [1, 2, 3]), ("lead", .exactly [1, 2, 3]), ("first_value", .exactly [1]),
   ("last_value", .exactly [1]), ("nth_value", .exactly [2])]

/-- A name in ASCII lower case. -/
def lowerName (name : String) : String := String.ofList (name.toList.map Char.toLower)

/-- Whether a function gives the same result for the same arguments within a statement. -/
def isDeterministic (name : String) : Bool :=
  let key := lowerName name
  ! ["random", "randomblob", "changes", "total_changes", "last_insert_rowid",
    "load_extension"].contains key && !(searchFunctions.map (·.1)).contains key

/-- What a call of a name with a number of arguments calls. -/
def callee (name : String) (count : Nat) : Callee :=
  let key := lowerName name
  if key == "min" || key == "max" then
    if count == 0 then .wrongCount else if count == 1 then .aggregate else .scalar
  else
    match scalarFunctions.lookup key, aggregateFunctions.lookup key,
        windowFunctions.lookup key with
    | some arity, _, _ => if arity.admits count then .scalar else .wrongCount
    | none, some arity, _ => if arity.admits count then .aggregate else .wrongCount
    | none, none, some arity => if arity.admits count then .window else .wrongCount
    | none, none, none => .missing

namespace Builtin

/-- The bytes of a value's text; none for NULL. -/
def textOf : Value → Option (List UInt8)
  | .null => none
  | value => some value.textBytes

/-- The value read as a 32-bit integer, as the position arguments are. -/
def int32Of (value : Value) : Int :=
  let n := value.integerValue
  let wrapped := n % 4294967296
  if 2147483648 ≤ wrapped then wrapped - 4294967296 else wrapped

/-- The digits of a byte in upper-case hexadecimal. -/
def hexDigits (byte : UInt8) : List UInt8 :=
  let digit (n : Nat) : UInt8 := if n < 10 then (48 + n).toUInt8 else (55 + n).toUInt8
  [digit (byte.toNat / 16), digit (byte.toNat % 16)]

/-- Whether a value is a blob. -/
def isBlob : Value → Bool
  | .blob _ => true
  | _ => false

/-- `abs`: the magnitude; the least integer has none. -/
def abs : Value → Except StoreError Value
  | .null => .ok .null
  | .integer n =>
    if n == Value.leastInteger then .error .integerOverflow else .ok (.integer n.natAbs)
  | value =>
    let x := value.realValue
    .ok (.real (if x.isNegative && !x.isZero then x.neg else x))

/-- `length`: characters of text before its first NUL, bytes of a blob or of a number's text. -/
def length : Value → Value
  | .null => .null
  | .text bytes => .integer (Characters.count bytes)
  | value => .integer value.textBytes.length

/-- `upper` and `lower`: ASCII letters changed in every byte, everything else kept. -/
def mapCase (upper : Bool) : Value → Value
  | .null => .null
  | value => .text (value.textBytes.map fun b =>
      if upper then (if 97 ≤ b && b ≤ 122 then b - 32 else b) else Value.foldByte b)

/-- `hex`: the bytes in upper-case hexadecimal. -/
def hex (value : Value) : Value := .text (value.textBytes.flatMap hexDigits)

/-- `typeof`: the storage class. -/
def typeName : Value → Value
  | .null => Value.ofString "null"
  | .integer _ => Value.ofString "integer"
  | .real _ => Value.ofString "real"
  | .text _ => Value.ofString "text"
  | .blob _ => Value.ofString "blob"

/-- A real as `quote` writes it: fifteen significant digits when they read back as the same
number, otherwise the exponent form with twenty digits after the point; either way with a point
or an exponent. -/
def quotedReal (x : Binary64) : List UInt8 :=
  let flags := { Format.Flags.none with characters := true }
  let short := Format.realBody flags 0 (some 15) .general false x
  if (readReal (Value.byteChars short)).value.equals x then short
  else Format.realBody flags 0 (some 20) .scientific false x

/-- `quote`: the value as a literal of the statement language; text up to its first NUL. -/
def quote : Value → Value
  | .null => Value.ofString "NULL"
  | .integer n => Value.ofString (toString n)
  | .real x => .text (quotedReal x)
  | .text bytes =>
    let body := (Characters.beforeNul bytes).flatMap fun b => if b == 39 then [39, 39] else [b]
    .text ([39] ++ body ++ [39])
  | .blob bytes => .text ([88, 39] ++ bytes.flatMap hexDigits ++ [39])

/-- `unicode`: the code point of the first character; NULL for text that starts with NUL. -/
def unicode (value : Value) : Value :=
  match (textOf value).map (Characters.split ∘ Characters.beforeNul) with
  | some (first :: _) => .integer (Characters.pointOf first)
  | _ => .null

/-- `char`: the characters of code points, a point outside `0..0x10FFFF` being the replacement
character; surrogates are written as they are. -/
def chars (values : List Value) : Value :=
  .text (values.flatMap fun value =>
    let n := value.integerValue
    Characters.encode (if n < 0 || 0x10FFFF < n then 0xFFFD else n.toNat))

/-- Removes from the start of some bytes, as long as one does, the first character of a set that
starts them. -/
def trimStart (set : List (List UInt8)) : Nat → List UInt8 → List UInt8
  | 0, bytes => bytes
  | fuel + 1, bytes =>
    match set.find? fun c => !c.isEmpty && c.isPrefixOf bytes with
    | some c => trimStart set fuel (bytes.drop c.length)
    | none => bytes

/-- `trim`, `ltrim` and `rtrim`: characters of the set (a space by default, otherwise the
characters of the second argument up to its first NUL) removed from the chosen ends of the whole
text. -/
def trim (left right : Bool) (values : List Value) : Value :=
  match values with
  | [value] | [value, _] =>
    let set := match values with
      | [_, setValue] => (textOf setValue).map (Characters.split ∘ Characters.beforeNul)
      | _ => some [[32]]
    match textOf value, set with
    | some bytes, some set =>
      let bytes := if left then trimStart set bytes.length bytes else bytes
      let bytes :=
        if right then (trimStart (set.map List.reverse) bytes.length bytes.reverse).reverse
        else bytes
      .text bytes
    | _, _ => .null
  | _ => .null

/-- `substr`: part of text by characters (up to its first NUL) or of a blob by bytes. A positive
start counts from 1, a negative one from the end; a negative length takes the characters before
the start. An empty blob gives NULL. -/
def substr (values : List Value) : Value :=
  match values with
  | value :: startValue :: rest =>
    if startValue == .null || rest.any (· == .null) || value == .null then .null
    else
      let units : List (List UInt8) := match value with
        | .blob bytes => bytes.map fun b => [b]
        | _ => Characters.split (Characters.beforeNul value.textBytes)
      let length : Int := units.length
      let start := int32Of startValue
      let (count, negative) : Int × Bool := match rest with
        | [countValue] =>
          let c := int32Of countValue
          if c < 0 then (-c, true) else (c, false)
        | _ => (1000000000, false)
      let (p1, p2) : Int × Int :=
        if start < 0 then
          let p1 := start + length
          if p1 < 0 then (0, max 0 (count + p1)) else (p1, count)
        else if 0 < start then (start - 1, count)
        else if 0 < count then (start, count - 1)
        else (start, count)
      let (p1, p2) : Int × Int :=
        if negative then
          let p1' := p1 - p2
          if p1' < 0 then (0, p2 + p1') else (p1', p2)
        else (p1, p2)
      let taken := ((units.drop p1.toNat).take p2.toNat).flatten
      match value with
      | .blob [] => .null
      | .blob _ => .blob taken
      | _ => .text taken
  | _ => .null

/-- Replaces every occurrence of a pattern in some bytes, left to right. -/
def replaceAll (pattern replacement : List UInt8) : Nat → List UInt8 → List UInt8
  | _, [] => []
  | 0, bytes => bytes
  | fuel + 1, b :: rest =>
    if pattern.isPrefixOf (b :: rest) then
      replacement ++ replaceAll pattern replacement fuel ((b :: rest).drop pattern.length)
    else b :: replaceAll pattern replacement fuel rest

/-- `replace`: every occurrence of the pattern replaced; a pattern that is empty or starts with
NUL leaves the value as it is. -/
def replace (values : List Value) : Value :=
  match values with
  | [value, patternValue, replacementValue] =>
    match textOf value, textOf patternValue with
    | some text, some pattern =>
      if pattern.head?.getD 0 == 0 then value
      else
        match textOf replacementValue with
        | some replacement => .text (replaceAll pattern replacement (text.length + 1) text)
        | none => .null
    | _, _ => .null
  | _ => .null

/-- The position, counted from `n`, of the first occurrence of a needle in a haystack, 0 when
there is none; a step moves past one byte and, in text, the continuation bytes after it. -/
def findFrom (inText : Bool) (needle : List UInt8) : Nat → List UInt8 → Nat → Nat
  | 0, _, _ => 0
  | fuel + 1, haystack, n =>
    if haystack.length < needle.length then 0
    else if needle.isPrefixOf haystack then n
    else
      let rest := haystack.drop 1
      findFrom inText needle fuel
        (if inText then rest.dropWhile Characters.isContinuation else rest) (n + 1)

/-- `instr`: where the second value first occurs in the first, counting characters unless both
are blobs; 1 for an empty needle. -/
def instr (haystack needle : Value) : Value :=
  match haystack, needle with
  | .null, _ | _, .null => .null
  | _, _ =>
    let needleBytes := needle.textBytes
    let haystackBytes := haystack.textBytes
    if needleBytes.isEmpty then .integer 1
    else
      .integer (findFrom (!(isBlob haystack && isBlob needle)) needleBytes
        (haystackBytes.length + 1) haystackBytes 1)

/-- `round`: to a number of decimal places (0 by default, at most 30). A magnitude above `2^52`
has no fraction and is kept; to no places, a half is added away from zero and the result
truncated; otherwise the number is written with that many places and read back. -/
def round (values : List Value) : Value :=
  match values with
  | value :: rest =>
    let places? : Option Int := match rest with
      | [placesValue] => if placesValue == .null then none else some (int32Of placesValue)
      | _ => some 0
    match places?, value with
    | none, _ | _, .null => .null
    | some places, _ =>
      let places := (max 0 (min 30 places)).toNat
      let x := value.realValue
      match x with
      | .finite negative _ _ =>
        if x.compareInt 4503599627370496 == some .gt ||
            x.compareInt (-4503599627370496) == some .lt then .real x
        else if places == 0 then
          let half : Binary64 := .finite negative 1 (-1)
          .real (Binary64.ofInt ((Binary64.add x half).truncate?.getD 0))
        else
          let written := Format.realBody Format.Flags.none 0 (some places) .fixed false x
          .real (readReal (Value.byteChars written)).value
      | other => .real other
  | [] => .null

/-- `nullif`: the first value unless it equals the second. -/
def nullif (collation : Collation) (a b : Value) : Value :=
  if Value.compareWith collation a b == .eq then .null else a

/-- `min` and `max` of two or more values: NULL if any is NULL; among equals, `min` keeps the
last and `max` the first. -/
def extreme (greatest : Bool) (collation : Collation) (values : List Value) : Value :=
  if values.any (· == .null) then .null
  else
    match values with
    | [] => .null
    | first :: rest =>
      rest.foldl (fun best value =>
        let order := Value.compareWith collation best value
        if greatest then (if order == .lt then value else best)
        else (if order == .lt then best else value)) first

/-- The greatest length of a text or blob. -/
def greatestLength : Int := 1000000000

/-- `zeroblob`: a blob of zero bytes, none for a negative count. -/
def zeroblob (value : Value) : Except StoreError Value :=
  let n := max 0 value.integerValue
  if greatestLength < n then .error .tooBig else .ok (.blob (List.replicate n.toNat 0))

/-- The bytes of `randomblob`, which stand for the store's random bytes: a fixed sequence, each
byte nonzero. -/
def randomBytes (count : Nat) : List UInt8 :=
  (List.range count).map fun k => (1 + (k * 151 + 89) % 255).toUInt8

/-- `randomblob`: a blob of random bytes, at least one. -/
def randomblob (value : Value) : Except StoreError Value :=
  let n := max 1 value.integerValue
  if greatestLength < n then .error .tooBig else .ok (.blob (randomBytes n.toNat))

/-- The code of an ASCII letter in a Soundex key, 0 for vowels, `H`, `W`, `Y` and anything else,
read from the low seven bits of a byte. -/
def soundexCode (b : UInt8) : Nat :=
  let c := b.toNat % 128
  let c := if 97 ≤ c && c ≤ 122 then c - 32 else c
  match Char.ofNat c with
  | 'B' | 'F' | 'P' | 'V' => 1
  | 'C' | 'G' | 'J' | 'K' | 'Q' | 'S' | 'X' | 'Z' => 2
  | 'D' | 'T' => 3
  | 'L' => 4
  | 'M' | 'N' => 5
  | 'R' => 6
  | _ => 0

/-- Whether a byte is an ASCII letter. -/
def isLetter (b : UInt8) : Bool := (65 ≤ b && b ≤ 90) || (97 ≤ b && b ≤ 122)

/-- The digits of a Soundex key after its letter: a code is written when it differs from the one
before, uncoded bytes separating equal codes, until three are written. -/
def soundexDigits (previous : Nat) : List UInt8 → List UInt8
  | [] => []
  | b :: rest =>
    let code := soundexCode b
    if code == 0 then soundexDigits 0 rest
    else if code == previous then soundexDigits previous rest
    else (48 + code).toUInt8 :: soundexDigits code rest

/-- `soundex`: the Soundex key of the text from its first ASCII letter, `?000` when it has none. -/
def soundex (value : Value) : Value :=
  let bytes := Characters.beforeNul ((textOf value).getD [])
  match bytes.dropWhile (!isLetter ·) with
  | [] => Value.ofString "?000"
  | first :: rest =>
    let upper := if 97 ≤ first then first - 32 else first
    let digits := (soundexDigits (soundexCode first) rest).take 3
    .text (upper :: digits ++ List.replicate (3 - digits.length) 48)

/-- The options the store was built with, as it names them. -/
def compileOptions : List String :=
  ["ATOMIC_INTRINSICS=1", "COMPILER=gcc-12.2.0", "DEFAULT_AUTOVACUUM",
   "DEFAULT_CACHE_SIZE=-2000", "DEFAULT_FILE_FORMAT=4", "DEFAULT_JOURNAL_SIZE_LIMIT=-1",
   "DEFAULT_MMAP_SIZE=0", "DEFAULT_PAGE_SIZE=4096", "DEFAULT_PCACHE_INITSZ=20",
   "DEFAULT_RECURSIVE_TRIGGERS", "DEFAULT_SECTOR_SIZE=4096", "DEFAULT_SYNCHRONOUS=2",
   "DEFAULT_WAL_AUTOCHECKPOINT=1000", "DEFAULT_WAL_SYNCHRONOUS=2", "DEFAULT_WORKER_THREADS=0",
   "ENABLE_COLUMN_METADATA", "ENABLE_DBSTAT_VTAB", "ENABLE_FTS3", "ENABLE_FTS3_PARENTHESIS",
   "ENABLE_FTS3_TOKENIZER", "ENABLE_FTS4", "ENABLE_FTS5", "ENABLE_LOAD_EXTENSION",
   "ENABLE_MATH_FUNCTIONS", "ENABLE_PREUPDATE_HOOK", "ENABLE_RTREE", "ENABLE_SESSION",
   "ENABLE_STMTVTAB", "ENABLE_UNLOCK_NOTIFY", "ENABLE_UPDATE_DELETE_LIMIT", "HAVE_ISNAN",
   "LIKE_DOESNT_MATCH_BLOBS", "MALLOC_SOFT_LIMIT=1024", "MAX_ATTACHED=10", "MAX_COLUMN=2000",
   "MAX_COMPOUND_SELECT=500", "MAX_DEFAULT_PAGE_SIZE=8192", "MAX_EXPR_DEPTH=1000",
   "MAX_FUNCTION_ARG=127", "MAX_LENGTH=1000000000", "MAX_LIKE_PATTERN_LENGTH=50000",
   "MAX_MMAP_SIZE=0x7fff0000", "MAX_PAGE_COUNT=1073741823", "MAX_PAGE_SIZE=65536",
   "MAX_SCHEMA_RETRY=25", "MAX_SQL_LENGTH=1000000000", "MAX_TRIGGER_DEPTH=1000",
   "MAX_VARIABLE_NUMBER=250000", "MAX_VDBE_OP=250000000", "MAX_WORKER_THREADS=8",
   "MUTEX_PTHREADS", "OMIT_LOOKASIDE", "SECURE_DELETE", "SOUNDEX", "SYSTEM_MALLOC",
   "TEMP_STORE=1", "THREADSAFE=1", "USE_URI"]

/-- Whether a byte may continue a name: an ASCII letter or digit, `_`, `$`, or any byte from
`0x80`. -/
def isNameByte (b : UInt8) : Bool := isLetter b || (48 ≤ b && b ≤ 57) || b == 95 || b == 36 || 0x80 ≤ b

/-- `sqlite_compileoption_used`: whether an option, with or without the `SQLITE_` prefix and in
any ASCII case, is one the store was built with, either whole or as the name before its value. -/
def compileOptionUsed (value : Value) : Value :=
  match textOf value with
  | none => .null
  | some bytes =>
    let name := (Characters.beforeNul bytes).map Value.foldByte
    let prefixed := (Text.encodeUtf8 "sqlite_")
    let name := if prefixed.isPrefixOf name then name.drop 7 else name
    Value.ofBool (compileOptions.any fun option =>
      let option := (Text.encodeUtf8 option).map Value.foldByte
      name.isPrefixOf option && !((option.drop name.length).head?.any isNameByte))

/-- `sqlite_compileoption_get`: the option at a position, NULL past the last. -/
def compileOptionGet (value : Value) : Value :=
  let n := int32Of value
  if n < 0 then .null else (compileOptions[n.toNat]?.map Value.ofString).getD .null

end Builtin

end SheetExport.Store.Sql
