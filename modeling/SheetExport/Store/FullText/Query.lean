import SheetExport.Store.FullText.Tokenizer
import SheetExport.Store.Sql.Tree

/-!
# Full-text queries

A query names the rows whose text holds its phrases. Its grammar, loosest first:

* `a OR b`, `a AND b` and `a NOT b` (the keywords in capitals), `NOT` binding tightest and each
  grouping from the left;
* phrases side by side, which all must match;
* `( query )`, and `columns : ( query )`, which looks only in those columns;
* a phrase: strings joined by `+`, each a bare word or a `"quoted string"` (`""` for a quote) cut
  into terms by the table's tokenizer, `*` after a string making its last term match any term it
  begins, `^` before a phrase asking that it open its column;
* `columns : phrase`, where the columns are a name, `{ names }`, or either after `-` for the
  other columns;
* `NEAR(phrases [, n])`: the phrases within `n` terms of each other (10 when not given).

A bare word is a run of ASCII letters, digits and `_`, byte 26, and bytes above ASCII. A phrase
with no terms matches nothing; among phrases side by side it is left out, unless all are like it.
The first fault found, reading from the left, is the one reported.
-/

namespace SheetExport.Store.FullText

/-- A term of a phrase: its text, whether it matches any term it begins, and whether it must be
the first term of its column. -/
structure Term where
  text : List UInt8
  wildcard : Bool
  initial : Bool
  deriving DecidableEq, Repr, Inhabited

/-- How much of the places of its terms a full-text table keeps: all, only their columns, or
none. -/
inductive Detail where
  | full
  | column
  | none
  deriving DecidableEq, Repr, Inhabited

/-- A query. -/
inductive Query where
  /-- Matches no row: a phrase with no terms, or columns left empty. -/
  | never
  /-- Phrases in the columns listed (all when none), each within `distance` terms of the
  others. -/
  | near (phrases : List (List Term)) (distance : Nat) (columns : Option (List Nat))
  /-- Phrases, each in its own columns (all when none), each standing near the next: with at
  most the distance between them of terms between the two, in either order. -/
  | chain (phrases : List (List Term × Option (List Nat))) (distances : List Nat)
  | both (left right : Query)
  | either (left right : Query)
  | except (left right : Query)
  deriving DecidableEq, Repr, Inhabited

namespace Query

/-- The query with its phrases looking only in some columns: intersected with the columns a
phrase already looks in, a phrase left with none matching nothing. -/
def restrict (columns : List Nat) : Query → Query
  | .never => .never
  | .near phrases distance none => .near phrases distance (some columns)
  | .near phrases distance (some own) =>
    let kept := own.filter columns.contains
    if kept.isEmpty then .never else .near phrases distance (some kept)
  | .chain phrases distances =>
    .chain (phrases.map fun (terms, own) =>
      (terms, some ((own.map fun own => own.filter columns.contains).getD columns))) distances
  | .both left right => .both (restrict columns left) (restrict columns right)
  | .either left right => .either (restrict columns left) (restrict columns right)
  | .except left right => .except (restrict columns left) (restrict columns right)

/-- The phrases of a query in order, each with the columns it looks in. -/
def phrases : Query → List (List Term × Option (List Nat))
  | .never => []
  | .near phrases _ columns => phrases.map (·, columns)
  | .chain phrases _ => phrases
  | .both left right | .either left right | .except left right => left.phrases ++ right.phrases

end Query

/-- The kinds of the pieces of a query's text. -/
inductive Symbol where
  | word
  | and
  | or
  | not
  | opening
  | closing
  | openSet
  | closeSet
  | colon
  | comma
  | plus
  | star
  | minus
  | caret
  | finish
  /-- A piece that cannot be read, with the failure it reports. -/
  | fault (message : String)
  deriving DecidableEq, Repr, Inhabited

/-- A piece of a query's text: its kind and its bytes as written. -/
structure Lexeme where
  symbol : Symbol
  raw : List UInt8
  deriving DecidableEq, Repr, Inhabited

/-- Whether a byte may stand in a bare word. -/
def isBareByte (b : UInt8) : Bool :=
  0x80 ≤ b || b == 0x1A || b == 0x5F || isAsciiWord b.toNat

/-- Whether a byte is space between pieces. -/
def isQuerySpace (b : UInt8) : Bool := b == 0x20 || b == 0x09 || b == 0x0A || b == 0x0D

/-- The symbol of a single byte, if it is one. -/
def singleSymbol (b : UInt8) : Option Symbol :=
  if b == 0x28 then some .opening else if b == 0x29 then some .closing
  else if b == 0x7B then some .openSet else if b == 0x7D then some .closeSet
  else if b == 0x3A then some .colon else if b == 0x2C then some .comma
  else if b == 0x2B then some .plus else if b == 0x2A then some .star
  else if b == 0x2D then some .minus else if b == 0x5E then some .caret
  else none

/-- The rest of a quoted string after its opening quote: the bytes up to and including its closing
quote, a doubled quote standing for one; none when it does not close. -/
def quotedRest : List UInt8 → Option (List UInt8 × List UInt8)
  | [] => none
  | 0x22 :: 0x22 :: rest => (quotedRest rest).map fun (inner, left) => (0x22 :: 0x22 :: inner, left)
  | 0x22 :: rest => some ([0x22], rest)
  | b :: rest => (quotedRest rest).map fun (inner, left) => (b :: inner, left)

/-- The pieces of a query's text (up to its first NUL), ending with `finish`, or with a fault
where a piece cannot be read. -/
def lexemes (bytes : List UInt8) : List Lexeme :=
  let rec go (fuel : Nat) (rest : List UInt8) : List Lexeme :=
    match fuel with
    | 0 => [⟨.finish, []⟩]
    | fuel + 1 =>
      match rest.dropWhile isQuerySpace with
      | [] => [⟨.finish, []⟩]
      | b :: more =>
        if b == 0 then [⟨.finish, []⟩]
        else match singleSymbol b with
        | some symbol => ⟨symbol, [b]⟩ :: go fuel more
        | none =>
          if b == 0x22 then
            match quotedRest (more.takeWhile (· != 0)) with
            | some (inner, left) => ⟨.word, b :: inner⟩ :: go fuel left
            | none => [⟨.fault "unterminated string", []⟩]
          else if isBareByte b then
            let word := b :: more.takeWhile isBareByte
            let symbol :=
              if word == asciiBytes "OR" then Symbol.or
              else if word == asciiBytes "NOT" then .not
              else if word == asciiBytes "AND" then .and
              else .word
            ⟨symbol, word⟩ :: go fuel (more.dropWhile isBareByte)
          else
            [⟨.fault ("fts5: syntax error near \"" ++ Text.decodeUtf8Lossy [b] ++ "\""), []⟩]
  go (bytes.length + 1) bytes

/-- The text a string stands for: inside its quotes, a doubled quote read as one. -/
def unquote (raw : List UInt8) : List UInt8 :=
  match raw with
  | 0x22 :: inner =>
    let rec undouble : List UInt8 → List UInt8
      | 0x22 :: 0x22 :: rest => 0x22 :: undouble rest
      | [0x22] => []
      | b :: rest => b :: undouble rest
      | [] => []
    undouble inner
  | other => other

/-- What a query is read against: the names of the table's columns, its tokenizer and how much
it keeps of the places of terms. -/
structure QuerySetting where
  columns : List String
  tokenizer : Tokenizer
  detail : Detail

/-- Reading a query: the pieces left, or the failure reported. -/
abbrev QueryReader := StateT (List Lexeme) (Except String)

namespace QueryReader

/-- The next piece; a fault is reported when reached. -/
def peek : QueryReader Lexeme := do
  match (← get) with
  | lexeme :: _ =>
    match lexeme.symbol with
    | .fault message => throw message
    | _ => pure lexeme
  | [] => pure ⟨.finish, []⟩

/-- The piece after the next one. -/
def peekSecond : QueryReader Symbol := do
  match (← get) with
  | _ :: second :: _ => pure second.symbol
  | _ => pure .finish

/-- Takes the next piece. -/
def advance : QueryReader Unit := modify List.tail

/-- The failure at an unexpected piece. -/
def unexpected {α : Type} (lexeme : Lexeme) : QueryReader α :=
  throw ("fts5: syntax error near \"" ++ Text.decodeUtf8Lossy lexeme.raw ++ "\"")

/-- Takes a piece of a kind, failing at any other. -/
def expect (symbol : Symbol) : QueryReader Lexeme := do
  let lexeme ← peek
  if lexeme.symbol == symbol then
    advance
    pure lexeme
  else unexpected lexeme

/-- The position of a column named by a piece, in any ASCII case. -/
def columnOf (setting : QuerySetting) (lexeme : Lexeme) : QueryReader Nat := do
  let name := Text.decodeUtf8Lossy (unquote lexeme.raw)
  match setting.columns.findIdx? (sameName · name) with
  | some index => pure index
  | none => throw ("no such column: " ++ name)

/-- Reads the names of `{ names }` after its brace. -/
def columnNames (setting : QuerySetting) : Nat → List Nat → QueryReader (List Nat)
  | 0, found => pure found
  | fuel + 1, found => do
    let lexeme ← peek
    if lexeme.symbol == .closeSet && !found.isEmpty then
      advance
      pure found
    else
      let _ ← expect .word
      let index ← columnOf setting lexeme
      columnNames setting fuel (if found.contains index then found else found ++ [index])

/-- Reads a set of columns: a name or `{ names }`, after `-` for the other columns. -/
def columnSet (setting : QuerySetting) (fuel : Nat) : QueryReader (List Nat) := do
  let others := (← peek).symbol == .minus
  if others then advance
  let lexeme ← peek
  let named ← if lexeme.symbol == .openSet then do
      advance
      columnNames setting fuel []
    else do
      let _ ← expect .word
      pure [← columnOf setting lexeme]
  if setting.detail == .none then
    throw "fts5: column queries are not supported (detail=none)"
  if others then
    pure ((List.range setting.columns.length).filter fun index => !named.contains index)
  else pure named

/-- Reads a phrase: strings joined by `+`, each perhaps followed by `*`. -/
def phrase (setting : QuerySetting) : Nat → List Term → QueryReader (List Term)
  | 0, terms => pure terms
  | fuel + 1, terms => do
    let lexeme ← expect .word
    let star ← do
      if (← peek).symbol == .star then
        advance
        pure true
      else pure false
    let added := (setting.tokenizer.terms (unquote lexeme.raw)).map fun text =>
      (⟨text, false, false⟩ : Term)
    let terms := terms ++ added
    let terms := match terms.getLast? with
      | some last => terms.dropLast ++ [{ last with wildcard := star }]
      | none => terms
    if (← peek).symbol == .plus then
      advance
      phrase setting fuel terms
    else pure terms

/-- The phrases of a `NEAR` group after its parenthesis, up to its distance or its end. -/
def nearPhrases (setting : QuerySetting) : Nat → List (List Term) → QueryReader (List (List Term))
  | 0, found => pure found
  | fuel + 1, found => do
    let found := found ++ [← phrase setting fuel []]
    if (← peek).symbol == .word then nearPhrases setting fuel found else pure found

/-- The query of some phrases within a distance: nothing when one has no terms. The detail a
table keeps may refuse phrases of more than one term and groups. -/
def nearQuery (setting : QuerySetting) (phrases : List (List Term)) (distance : Nat) :
    QueryReader Query := do
  if setting.detail != .full then
    let several := phrases.length != 1
    let refused := several || phrases.any fun terms =>
      1 < terms.length || (terms.head?.any (·.initial))
    if refused then
      throw ("fts5: " ++ (if several then "NEAR" else "phrase") ++
        " queries are not supported (detail!=full)")
  if phrases.any List.isEmpty then pure .never else pure (.near phrases distance none)

/-- Reads a phrase, a phrase after `^`, or a `NEAR` group. -/
def nearset (setting : QuerySetting) (fuel : Nat) : QueryReader Query := do
  let lexeme ← peek
  if lexeme.symbol == .caret then
    advance
    let terms ← phrase setting fuel []
    let terms := match terms with
      | first :: rest => { first with initial := true } :: rest
      | [] => []
    nearQuery setting [terms] 10
  else if lexeme.symbol == .word && (← peekSecond) == .opening then
    advance
    advance
    let phrases ← nearPhrases setting fuel []
    let distance ← do
      if (← peek).symbol == .comma then
        advance
        pure (some (← expect .word))
      else pure none
    let _ ← expect .closing
    if lexeme.raw != asciiBytes "NEAR" then unexpected lexeme
    let distance ← match distance with
      | none => pure 10
      | some given =>
        if given.raw.all fun b => 0x30 ≤ b && b ≤ 0x39 then
          pure (given.raw.foldl (fun n b => n * 10 + (b.toNat - 0x30)) 0)
        else throw ("expected integer, got \"" ++ Text.decodeUtf8Lossy given.raw ++ "\"")
    nearQuery setting phrases distance
  else
    let terms ← phrase setting fuel []
    nearQuery setting [terms] 10

/-- Whether the next pieces open a set of columns. -/
def opensColumns : QueryReader Bool := do
  let symbol := (← peek).symbol
  pure (symbol == .minus || symbol == .openSet || (symbol == .word && (← peekSecond) == .colon))

/-- Reads one part of phrases side by side: a phrase or group, perhaps after columns. -/
def sidePart (setting : QuerySetting) (fuel : Nat) : QueryReader Query := do
  if ← opensColumns then
    let columns ← columnSet setting fuel
    let _ ← expect .colon
    pure ((← nearset setting fuel).restrict columns)
  else nearset setting fuel

/-- Phrases side by side: those with no terms are left out, unless all are. -/
def sideBySide (parts : List Query) : Query :=
  match parts.filter (· != .never) with
  | [] => .never
  | first :: rest => rest.foldl .both first

/-- Whether the next piece may begin a part of phrases side by side. -/
def beginsPart : QueryReader Bool := do
  let symbol := (← peek).symbol
  pure (symbol == .word || symbol == .caret || symbol == .minus || symbol == .openSet)

/-- Reads more parts of phrases side by side. -/
def moreParts (setting : QuerySetting) : Nat → List Query → QueryReader (List Query)
  | 0, parts => pure parts
  | fuel + 1, parts => do
    if ← beginsPart then moreParts setting fuel (parts ++ [← sidePart setting fuel])
    else pure parts

mutual

/-- Reads queries joined by `OR`. -/
def anyOf (setting : QuerySetting) : Nat → QueryReader Query
  | 0 => throw "fts5: parser stack overflow"
  | fuel + 1 => do orMore setting fuel (← allOf setting fuel)

/-- Reads more queries joined by `OR`. -/
def orMore (setting : QuerySetting) : Nat → Query → QueryReader Query
  | 0, left => pure left
  | fuel + 1, left => do
    if (← peek).symbol == .or then
      advance
      orMore setting fuel (.either left (← allOf setting fuel))
    else pure left

/-- Reads queries joined by `AND`. -/
def allOf (setting : QuerySetting) : Nat → QueryReader Query
  | 0 => throw "fts5: parser stack overflow"
  | fuel + 1 => do andMore setting fuel (← butNot setting fuel)

/-- Reads more queries joined by `AND`. -/
def andMore (setting : QuerySetting) : Nat → Query → QueryReader Query
  | 0, left => pure left
  | fuel + 1, left => do
    if (← peek).symbol == .and then
      advance
      andMore setting fuel (.both left (← butNot setting fuel))
    else pure left

/-- Reads queries joined by `NOT`. -/
def butNot (setting : QuerySetting) : Nat → QueryReader Query
  | 0 => throw "fts5: parser stack overflow"
  | fuel + 1 => do notMore setting fuel (← unit setting fuel)

/-- Reads more queries joined by `NOT`. -/
def notMore (setting : QuerySetting) : Nat → Query → QueryReader Query
  | 0, left => pure left
  | fuel + 1, left => do
    if (← peek).symbol == .not then
      advance
      notMore setting fuel (.except left (← unit setting fuel))
    else pure left

/-- Reads a query in parentheses, after columns or not, or phrases side by side. -/
def unit (setting : QuerySetting) : Nat → QueryReader Query
  | 0 => throw "fts5: parser stack overflow"
  | fuel + 1 => do
    let lexeme ← peek
    if lexeme.symbol == .opening then
      advance
      let inner ← anyOf setting fuel
      let _ ← expect .closing
      pure inner
    else if ← opensColumns then
      let columns ← columnSet setting fuel
      let _ ← expect .colon
      if (← peek).symbol == .opening then
        advance
        let inner ← anyOf setting fuel
        let _ ← expect .closing
        pure (inner.restrict columns)
      else
        let first := (← nearset setting fuel).restrict columns
        pure (sideBySide (← moreParts setting fuel [first]))
    else if ← beginsPart then
      let first ← nearset setting fuel
      pure (sideBySide (← moreParts setting fuel [first]))
    else unexpected lexeme

end

end QueryReader

/-- Reads a query; with a column, its phrases look only in that column. -/
def Query.read (setting : QuerySetting) (column : Option Nat) (text : List UInt8) :
    Except String Query := do
  let pieces := lexemes text
  let reading : QueryReader Query := do
    let query ← QueryReader.anyOf setting (8 * pieces.length + 8)
    let _ ← QueryReader.expect .finish
    pure query
  let (query, _) ← reading.run pieces
  match column with
  | some index => pure (query.restrict [index])
  | none => pure query

end SheetExport.Store.FullText
