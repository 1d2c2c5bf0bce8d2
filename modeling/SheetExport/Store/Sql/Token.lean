/-!
# Tokens of a statement

A statement is read one token at a time, each token the longest run of characters that forms one
kind of token from where the last one ended:

* blanks and comments (`--` to the end of the line, `/* … */` to its close or to the end of the
  text) separate tokens; a byte-order mark is a blank;
* a name is a run of letters, digits, `_`, `$` and characters beyond ASCII that does not start
  with a digit or `$`; a keyword is a name that is one of the statement language's words, in any
  ASCII case;
* text in `'…'` is a string, and text in `"…"`, `` `…` `` or `[…]` is a quoted name, a doubled
  quote standing for one;
* a number is decimal digits with an optional fraction and exponent, a fraction alone starting
  with `.`, or `0x` and hexadecimal digits; letters or digits right after a number make it no
  token at all;
* `x'…'` is a blob of an even number of hexadecimal digits;
* `?`, `?N`, `:name`, `@name`, `$name` and `#name` are parameters;
* the rest are operators and punctuation, the longest that fits.

A quote without its close, a blob that is not an even run of hexadecimal digits, a lone `!`, and
characters that start no token are an *illegal* token that runs as far as the rule for it reads.
-/

namespace SheetExport.Store.Sql

/-- The kind of a token. -/
inductive TokenKind where
  | space
  | name
  | quoted
  | string
  | integer
  | float
  | blob
  | parameter
  | symbol
  | illegal
  deriving DecidableEq, Repr, Inhabited

/-- A token: its kind, the characters it was read from, and the blanks and comments just before
it, so that a run of tokens can be written back as the statement wrote it. -/
structure Token where
  kind : TokenKind
  text : String
  gap : String
  deriving DecidableEq, Repr, Inhabited

namespace Lexer

/-- The character at a position, NUL past the end. -/
def charAt (source : Array Char) (index : Nat) : Char := source.getD index '\x00'

/-- Whether a character continues a name. -/
def isNameChar (c : Char) : Bool :=
  c.isAlphanum || c == '_' || c == '$' || 0x80 ≤ c.toNat

/-- Whether a character may be part of a keyword: an ASCII letter or `_`. -/
def isWordChar (c : Char) : Bool := c.isAlpha || c == '_'

/-- Whether a character is a blank inside a run of blanks. -/
def isBlank (c : Char) : Bool :=
  c == ' ' || c == '\t' || c == '\n' || c == '\x0b' || c == '\x0c' || c == '\r'

/-- Whether a character is a hexadecimal digit. -/
def isHexDigit (c : Char) : Bool :=
  c.isDigit || ('a' ≤ c && c ≤ 'f') || ('A' ≤ c && c ≤ 'F')

/-- The first position from `index` whose character fails a test. -/
def skipWhile (source : Array Char) (test : Char → Bool) (index : Nat) : Nat :=
  if h : index < source.size then
    if test source[index] then skipWhile source test (index + 1) else index
  else index
termination_by source.size - index

/-- The end of a block comment whose body starts at `index`: just past the first `*/` whose
star is at `index - 1` or later, or the end of the text. -/
def commentEnd (source : Array Char) (index : Nat) : Nat :=
  if h : index < source.size then
    if charAt source (index - 1) == '*' && source[index] == '/' then index + 1
    else commentEnd source (index + 1)
  else index
termination_by source.size - index

/-- The end of a quoted token whose body starts at `index`, and the character that stopped it:
the closing quote, or NUL at the end of the text. A doubled quote stands for one. -/
def quoteEnd (source : Array Char) (quote : Char) (index : Nat) : Nat × Char :=
  if h : index < source.size then
    if source[index] == quote then
      if charAt source (index + 1) == quote then quoteEnd source quote (index + 2)
      else (index, quote)
    else quoteEnd source quote (index + 1)
  else (index, '\x00')
termination_by source.size - index

/-- The end of a parameter name whose characters start at `index`, with the number of name
characters seen and whether the parameter is a token: a `(…)` suffix must close. -/
def parameterEnd (source : Array Char) (index seen : Nat) : Nat × Nat × Bool :=
  if h : index < source.size then
    let c := source[index]
    if isNameChar c then parameterEnd source (index + 1) (seen + 1)
    else if c == '(' && 0 < seen then
      let stop := skipWhile source (fun d => !isBlank d && d != ')') (index + 1)
      if charAt source stop == ')' then (stop + 1, seen, true) else (stop, seen, false)
    else if c == ':' && charAt source (index + 1) == ':' then parameterEnd source (index + 2) seen
    else (index, seen, true)
  else (index, seen, true)
termination_by source.size - index

/-- The end of a number starting at `start`, and whether it is a real number. -/
def numberEnd (source : Array Char) (start : Nat) : Nat × Bool :=
  let whole := skipWhile source Char.isDigit start
  let (afterFraction, isReal) :=
    if charAt source whole == '.' then (skipWhile source Char.isDigit (whole + 1), true)
    else (whole, false)
  let e := charAt source afterFraction
  let sign := charAt source (afterFraction + 1)
  if (e == 'e' || e == 'E') &&
      (sign.isDigit || ((sign == '+' || sign == '-') && (charAt source (afterFraction + 2)).isDigit)) then
    (skipWhile source Char.isDigit (afterFraction + 2), true)
  else (afterFraction, isReal)

/-- The operator or punctuation at a position, with its length; `none` when none starts there. -/
def symbolAt (source : Array Char) (index : Nat) : Option (TokenKind × Nat) :=
  let c := charAt source index
  let d := charAt source (index + 1)
  if c == '-' then
    if d == '>' then some (.symbol, if charAt source (index + 2) == '>' then 3 else 2)
    else some (.symbol, 1)
  else if c == '(' || c == ')' || c == ';' || c == '+' || c == '*' || c == '%' || c == ',' ||
      c == '&' || c == '~' then some (.symbol, 1)
  else if c == '=' then some (.symbol, if d == '=' then 2 else 1)
  else if c == '<' then some (.symbol, if d == '=' || d == '>' || d == '<' then 2 else 1)
  else if c == '>' then some (.symbol, if d == '=' || d == '>' then 2 else 1)
  else if c == '!' then some (if d == '=' then (.symbol, 2) else (.illegal, 1))
  else if c == '|' then some (.symbol, if d == '|' then 2 else 1)
  else none

/-- The kind and the end of the token that starts at `index`, which is inside the text. -/
def scan (source : Array Char) (index : Nat) : TokenKind × Nat :=
  let c := charAt source index
  let d := charAt source (index + 1)
  let nameFrom (next : Nat) : TokenKind × Nat := (.name, skipWhile source isNameChar next)
  if isBlank c && c != '\x0b' then (.space, skipWhile source isBlank (index + 1))
  else if c == '\uFEFF' then (.space, index + 1)
  else if c == '-' && d == '-' then (.space, skipWhile source (· != '\n') (index + 2))
  else if c == '/' then
    if d == '*' && index + 2 < source.size then (.space, commentEnd source (index + 3))
    else (.symbol, index + 1)
  else if c == '\'' || c == '"' || c == '`' then
    match quoteEnd source c (index + 1) with
    | (stop, '\x00') => (.illegal, stop)
    | (stop, _) => (if c == '\'' then .string else .quoted, stop + 1)
  else if c == '[' then
    let stop := skipWhile source (· != ']') (index + 1)
    if stop < source.size then (.quoted, stop + 1) else (.illegal, stop)
  else if c == '.' && !d.isDigit then (.symbol, index + 1)
  else if c.isDigit || c == '.' then
    let (stop, isReal) :=
      if c == '0' && (d == 'x' || d == 'X') && isHexDigit (charAt source (index + 2)) then
        (skipWhile source isHexDigit (index + 3), false)
      else numberEnd source index
    let tail := skipWhile source isNameChar stop
    if tail == stop then (if isReal then .float else .integer, stop) else (.illegal, tail)
  else if c == '?' then (.parameter, skipWhile source Char.isDigit (index + 1))
  else if c == '$' || c == '@' || c == ':' || c == '#' then
    match parameterEnd source (index + 1) 0 with
    | (stop, seen, closed) => (if seen == 0 || !closed then .illegal else .parameter, stop)
  else if (c == 'x' || c == 'X') && d == '\'' then
    let digitsEnd := skipWhile source isHexDigit (index + 2)
    if charAt source digitsEnd == '\'' && (digitsEnd - index) % 2 == 0 then (.blob, digitsEnd + 1)
    else
      let stop := skipWhile source (· != '\'') digitsEnd
      (.illegal, if stop < source.size then stop + 1 else stop)
  else if c.isAlpha || c == '_' || 0x80 ≤ c.toNat then nameFrom (index + 1)
  else
    match symbolAt source index with
    | some (kind, length) => (kind, index + length)
    | none => (.illegal, index + 1)

/-- The token at a position inside the text and the position after it. -/
def tokenAt (source : Array Char) (index : Nat) : Token × Nat :=
  let (kind, stop) := scan source index
  let stop := max stop (index + 1)
  (⟨kind, String.ofList (source.extract index stop).toList, ""⟩, stop)

theorem tokenAt_advances (source : Array Char) (index : Nat) :
    index < (tokenAt source index).2 := by
  simp only [tokenAt]
  omega

end Lexer

/-- The words of the statement language. -/
def keywords : List String :=
  ["ABORT", "ACTION", "ADD", "AFTER", "ALL", "ALTER", "ALWAYS", "ANALYZE", "AND", "AS", "ASC",
   "ATTACH", "AUTOINCREMENT", "BEFORE", "BEGIN", "BETWEEN", "BY", "CASCADE", "CASE", "CAST",
   "CHECK", "COLLATE", "COLUMN", "COMMIT", "CONFLICT", "CONSTRAINT", "CREATE", "CROSS",
   "CURRENT", "CURRENT_DATE", "CURRENT_TIME", "CURRENT_TIMESTAMP", "DATABASE", "DEFAULT",
   "DEFERRABLE", "DEFERRED", "DELETE", "DESC", "DETACH", "DISTINCT", "DO", "DROP", "EACH", "ELSE",
   "END", "ESCAPE", "EXCEPT", "EXCLUDE", "EXCLUSIVE", "EXISTS", "EXPLAIN", "FAIL", "FILTER",
   "FIRST", "FOLLOWING", "FOR", "FOREIGN", "FROM", "FULL", "GENERATED", "GLOB", "GROUP", "GROUPS",
   "HAVING", "IF", "IGNORE", "IMMEDIATE", "IN", "INDEX", "INDEXED", "INITIALLY", "INNER", "INSERT",
   "INSTEAD", "INTERSECT", "INTO", "IS", "ISNULL", "JOIN", "KEY", "LAST", "LEFT", "LIKE", "LIMIT",
   "MATCH", "MATERIALIZED", "NATURAL", "NO", "NOT", "NOTHING", "NOTNULL", "NULL", "NULLS", "OF",
   "OFFSET", "ON", "OR", "ORDER", "OTHERS", "OUTER", "OVER", "PARTITION", "PLAN", "PRAGMA",
   "PRECEDING", "PRIMARY", "QUERY", "RAISE", "RANGE", "RECURSIVE", "REFERENCES", "REGEXP",
   "REINDEX", "RELEASE", "RENAME", "REPLACE", "RESTRICT", "RETURNING", "RIGHT", "ROLLBACK", "ROW",
   "ROWS", "SAVEPOINT", "SELECT", "SET", "TABLE", "TEMP", "TEMPORARY", "THEN", "TIES", "TO",
   "TRANSACTION", "TRIGGER", "UNBOUNDED", "UNION", "UNIQUE", "UPDATE", "USING", "VACUUM",
   "VALUES", "VIEW", "VIRTUAL", "WHEN", "WHERE", "WINDOW", "WITH", "WITHOUT"]

/-- The keywords that stand for a name where the grammar has no use for the keyword itself. -/
def nameKeywords : List String :=
  ["ABORT", "ACTION", "AFTER", "ANALYZE", "ASC", "ATTACH", "BEFORE", "BEGIN", "BY", "CASCADE",
   "CAST", "COLUMN", "CONFLICT", "DATABASE", "DEFERRED", "DESC", "DETACH", "DO", "EACH", "END",
   "EXCLUSIVE", "EXPLAIN", "FAIL", "FOR", "IGNORE", "IMMEDIATE", "INITIALLY", "INSTEAD", "LIKE",
   "GLOB", "REGEXP", "MATCH", "NO", "PLAN", "QUERY", "KEY", "OF", "OFFSET", "PRAGMA", "RAISE",
   "RECURSIVE", "RELEASE", "REPLACE", "RESTRICT", "ROW", "ROWS", "ROLLBACK", "SAVEPOINT", "TEMP",
   "TEMPORARY", "TRIGGER", "VACUUM", "VIEW", "VIRTUAL", "WITH", "WITHOUT", "NULLS", "FIRST",
   "LAST", "CURRENT", "FOLLOWING", "PARTITION", "PRECEDING", "RANGE", "UNBOUNDED", "EXCLUDE",
   "GROUPS", "OTHERS", "TIES", "GENERATED", "ALWAYS", "MATERIALIZED", "REINDEX", "RENAME",
   "CURRENT_DATE", "CURRENT_TIME", "CURRENT_TIMESTAMP", "IF", "WINDOW", "OVER", "FILTER"]

/-- The keywords that join tables; they also stand for names. -/
def joinKeywords : List String := ["CROSS", "FULL", "INNER", "LEFT", "NATURAL", "OUTER", "RIGHT"]

namespace Token

/-- The text in ASCII upper case. -/
def upper (token : Token) : String := String.ofList (token.text.toList.map Char.toUpper)

/-- The keyword a token is, if it is one. -/
def keyword? (token : Token) : Option String :=
  if token.kind == .name && keywords.contains token.upper then some token.upper else none

/-- Whether a token is a given keyword. -/
def isKeyword (token : Token) (word : String) : Bool := token.keyword? == some word

/-- Whether a token is a given operator or punctuation. -/
def isSymbol (token : Token) (symbol : String) : Bool :=
  token.kind == .symbol && token.text == symbol

/-- The text of a quoted token without its quotes, a doubled quote read as one. -/
def unquote (text : String) : String :=
  match text.toList with
  | '[' :: rest => String.ofList (rest.take (rest.length - 1))
  | quote :: rest =>
    let body := rest.take (rest.length - 1)
    let rec go : List Char → List Char
      | c :: d :: more => if c == quote && d == quote then c :: go more else c :: go (d :: more)
      | chars => chars
    String.ofList (go body)
  | [] => ""

/-- The name a token stands for: a quoted name or string without quotes, a word as written. -/
def nameText (token : Token) : String :=
  match token.kind with
  | .quoted | .string => unquote token.text
  | _ => token.text

end Token

/-- Whether the first tokens of a statement open a trigger: `CREATE [TEMP] TRIGGER`, perhaps
after `EXPLAIN [QUERY PLAN]`. -/
def opensTrigger (head : List Token) : Bool :=
  let afterExplain := match head with
    | first :: second :: third :: rest =>
      if first.isKeyword "EXPLAIN" then
        if second.isKeyword "QUERY" && third.isKeyword "PLAN" then rest else second :: third :: rest
      else head
    | first :: rest => if first.isKeyword "EXPLAIN" then rest else head
    | [] => []
  match afterExplain with
  | create :: second :: third :: _ =>
    create.isKeyword "CREATE" &&
      (second.isKeyword "TRIGGER" ||
        ((second.isKeyword "TEMP" || second.isKeyword "TEMPORARY") && third.isKeyword "TRIGGER"))
  | create :: second :: _ => create.isKeyword "CREATE" && second.isKeyword "TRIGGER"
  | _ => false

/-- The tokens of the first statement of a text, blanks left out, up to and with its closing
`;`, or up to the end, or up to and with the first illegal token; `;` before the statement are
skipped. Within a trigger, whose statements end with `;`, only a `;` after `END` closes the
statement. With the tokens comes the text after the statement. -/
def firstStatement (text : String) : List Token × String :=
  let source := text.toList.toArray
  let rec go (index : Nat) (head : List Token) (afterEnd : Bool) (gap : String) (fuel : Nat) :
      List Token × Nat :=
    match fuel with
    | 0 => ([], index)
    | fuel + 1 =>
      if index < source.size then
        let (token, next) := Lexer.tokenAt source index
        let token := { token with gap := gap }
        match token.kind with
        | .space => go next head afterEnd (gap ++ token.text) fuel
        | .illegal => ([token], next)
        | _ =>
          if token.isSymbol ";" then
            if head.isEmpty then go next [] false "" fuel
            else if !opensTrigger head || afterEnd then ([token], next)
            else
              let (rest, stop) := go next head false "" fuel
              (token :: rest, stop)
          else
            let head := if head.length < 5 then head ++ [token] else head
            let (rest, stop) := go next head (token.isKeyword "END") "" fuel
            (token :: rest, stop)
      else ([], index)
  let (tokens, stop) := go 0 [] false "" (source.size + 1)
  (tokens, String.ofList (source.extract stop source.size).toList)

/-- Writes a run of tokens back as the statement wrote them, from the first token's own text. -/
def writtenText : List Token → String
  | [] => ""
  | first :: rest => first.text ++ String.join (rest.map fun token => token.gap ++ token.text)

/-- The text after the first `*/`, or nothing when the comment does not close. -/
def afterComment : List Char → List Char
  | [] => []
  | '*' :: '/' :: rest => rest
  | _ :: rest => afterComment rest

theorem afterComment_length (chars : List Char) : (afterComment chars).length ≤ chars.length := by
  induction chars using afterComment.induct <;> simp_all [afterComment] <;> omega

/-- The text left after skipping blanks (space, tab, form feed, line feed, carriage return) and
comments; a comment that does not close ends the text. -/
def afterBlanks (chars : List Char) : List Char :=
  match chars with
  | [] => []
  | c :: rest =>
    if c == ' ' || c == '\t' || c == '\x0c' || c == '\n' || c == '\r' then afterBlanks rest
    else
      match rest with
      | d :: more =>
        if c == '-' && d == '-' then afterBlanks (more.dropWhile (· != '\n'))
        else if c == '/' && d == '*' then afterBlanks (afterComment more)
        else chars
      | [] => chars
termination_by chars.length
decreasing_by
  all_goals simp_wf
  all_goals first
    | omega
    | have := afterComment_length more; omega
    | (have : (more.dropWhile (· != '\n')).length ≤ more.length :=
          (List.dropWhile_suffix _).length_le
       omega)

end SheetExport.Store.Sql
