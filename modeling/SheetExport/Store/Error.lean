import SheetExport.Text.Surrogate
import SheetExport.Text.Quoted
/-!
# Failures of the store

Every way a statement on the store fails, with its message and the class of failure a caller
sees. Reading a statement fails on a character sequence that is no token, on a token where the
grammar has no place for it, or at the end of a statement that is not complete. Naming fails on a
table, column, function or collation that does not exist. Writing fails on a constraint of the
table, on a row id that is not an integer, or when no row id is left.

The classes follow the kind of fault: constraint and type faults are integrity errors; faults of
the caller's use of the interface (more than one statement, wrong number of parameters, a NUL
character in the text) are programming errors; text without a UTF-8 encoding fails before the
store sees it; everything else the store reports is an operational error.
-/

namespace SheetExport.Store

/-- Why a statement on the store fails. -/
inductive StoreError where
  /-- Characters that form no token. -/
  | unrecognized (token : String)
  /-- A token where the grammar has no place for it. -/
  | near (token : String)
  /-- The statement ends before it is complete. -/
  | incomplete
  /-- The statement text holds a NUL character. -/
  | nulCharacter
  /-- Text other than blanks and comments follows the first statement. -/
  | multiple
  /-- The statement uses a number of parameters other than the number supplied. -/
  | bindings (used supplied : Nat)
  | noSuchTable (name : String)
  /-- A column that no table in scope has; the name is written as the statement qualifies it. -/
  | noSuchColumn (name : String)
  /-- A column list names a column the table does not have. -/
  | noColumnNamed (table column : String)
  | noSuchFunction (name : String)
  | wrongArgumentCount (name : String)
  | noSuchCollation (name : String)
  | unknownDatabase (name : String)
  | tableExists (name : String)
  /-- A table name that starts with `sqlite_`. -/
  | reservedName (name : String)
  | mayNotBeDropped (name : String)
  /-- A table named like an existing index. -/
  | indexNamed (name : String)
  /-- An index named like an existing table. -/
  | tableNamed (name : String)
  | indexExists (name : String)
  | noSuchIndex (name : String)
  /-- The index of a table's own unique constraint, which only goes with the table. -/
  | constraintIndex
  | mayNotBeIndexed (name : String)
  /-- A temporary index asked for on a table of the main database. -/
  | temporaryIndex (table : String)
  /-- `NULLS FIRST` or `NULLS LAST` where no ordering of NULLs applies, with the word written. -/
  | nullsOrdering (word : String)
  /-- A list of columns assigned a list of values of another length. -/
  | vectorAssignment (columns values : Nat)
  /-- An `ON CONFLICT` clause whose key is no unique key of the table; `which` is empty for a
  lone clause, otherwise the clause's ordinal and a blank. -/
  | upsertUnmatched (which : String)
  /-- A second argument of `likelihood` that is not a real numeral between 0 and 1. -/
  | probability (functionName : String)
  /-- A `table.*` in a `RETURNING` list. -/
  | returningWildcard
  /-- A `*` in a query with no table. -/
  | noTables
  /-- A text or blob longer than the store holds. -/
  | tooBig
  /-- `BEGIN` while a transaction is in progress. -/
  | nestedTransaction
  /-- Ending a transaction when none is in progress; `ending` says how: `commit` or
  `rollback`. -/
  | noTransaction (ending : String)
  | noSuchSavepoint (name : String)
  | vacuumInTransaction
  /-- `VACUUM INTO` a file named by a value that is no text. -/
  | nonTextFilename
  /-- `REINDEX` of a name that is no table, index or collation. -/
  | unknownReindexTarget
  /-- A part of an expression that may not stand where it is, and the place. -/
  | prohibited (part place : String)
  | duplicateColumn (name : String)
  /-- Values without a column list, in a number other than the table's columns. -/
  | columnCount (table : String) (columns values : Nat)
  /-- Values with a column list, in a number other than the listed columns. -/
  | valuesForColumns (values columns : Nat)
  /-- Rows of values of different lengths. -/
  | unevenValues
  | moreThanOnePrimaryKey (table : String)
  | autoincrementNotInteger
  /-- A table definition that cannot stand, with the reason. -/
  | definition (reason : String)
  /-- A parenthesized list of values where one value is needed. -/
  | rowValueMisused
  | misuseAggregate (name : String)
  | hexTooBig (text : String)
  | escapeNotSingle
  | patternTooComplex
  | integerOverflow
  /-- A parameter `?N` whose number is out of range. -/
  | parameterNumber
  /-- A default that is not a constant. -/
  | defaultNotConstant (column : String)
  | notNull (table column : String)
  /-- The columns of a unique constraint, each as `table.column`, joined by commas. -/
  | unique (columns : String)
  | check (name : String)
  | mismatch
  | full
  /-- An integer given to the store that does not fit in 64 bits. -/
  | tooLarge
  /-- A value of a kind the store cannot hold, given at a 1-based position. -/
  | unsupported (position : Nat) (kind : String)
  /-- Text read from a column that is not UTF-8, shown as far as its first NUL with each
  ill-formed part replaced. -/
  | undecodable (column text : String)
  /-- A column asked of a row by a number that names none. -/
  | outOfRange
  /-- The store ran out of the room a function asked for. -/
  | outOfMemory
  /-- A function refused its arguments, with its own message. -/
  | function (message : String)
  /-- A statement the store refuses, with the store's message. -/
  | refused (message : String)
  /-- A row refused by a rule of its table other than the keys, with the store's message. -/
  | constraint (message : String)
  /-- `RAISE` with a message, in a trigger. -/
  | raised (message : String)
  /-- `RAISE(IGNORE)` in a trigger: the rest of the trigger and the change of its row are left
  undone, and the statement goes on. -/
  | raiseIgnore
  /-- Text given to the store that has no UTF-8 encoding: the positions of the first run of
  unpaired surrogates, from `start` up to `stop`, and the first of them. -/
  | unencodable (start stop code : Nat)
  deriving DecidableEq, Repr

namespace StoreError

/-- The failure of encoding a text as UTF-8, at its first run of carried surrogates. -/
def encoding? (text : String) : Option StoreError :=
  match Text.firstSurrogate? text with
  | none => none
  | some (start, code) =>
    let run := ((text.toList.drop start).takeWhile fun c => (Text.carriedSurrogate? c).isSome).length
    some (.unencodable start (start + run) code)

/-- The message of a failure. -/
def message : StoreError → String
  | .unrecognized token => "unrecognized token: \"" ++ token ++ "\""
  | .near token => "near \"" ++ token ++ "\": syntax error"
  | .incomplete => "incomplete input"
  | .nulCharacter => "the query contains a null character"
  | .multiple => "You can only execute one statement at a time."
  | .bindings used supplied =>
    "Incorrect number of bindings supplied. The current statement uses " ++ toString used ++
      ", and there are " ++ toString supplied ++ " supplied."
  | .noSuchTable name => "no such table: " ++ name
  | .noSuchColumn name => "no such column: " ++ name
  | .noColumnNamed table column => "table " ++ table ++ " has no column named " ++ column
  | .noSuchFunction name => "no such function: " ++ name
  | .wrongArgumentCount name => "wrong number of arguments to function " ++ name ++ "()"
  | .noSuchCollation name => "no such collation sequence: " ++ name
  | .unknownDatabase name => "unknown database " ++ name
  | .tableExists name => "table " ++ name ++ " already exists"
  | .reservedName name => "object name reserved for internal use: " ++ name
  | .mayNotBeDropped name => "table " ++ name ++ " may not be dropped"
  | .indexNamed name => "there is already an index named " ++ name
  | .tableNamed name => "there is already a table named " ++ name
  | .indexExists name => "index " ++ name ++ " already exists"
  | .noSuchIndex name => "no such index: " ++ name
  | .constraintIndex => "index associated with UNIQUE or PRIMARY KEY constraint cannot be dropped"
  | .mayNotBeIndexed name => "table " ++ name ++ " may not be indexed"
  | .temporaryIndex table => "cannot create a TEMP index on non-TEMP table \"" ++ table ++ "\""
  | .nullsOrdering word => "unsupported use of NULLS " ++ word
  | .vectorAssignment columns values =>
    toString columns ++ " columns assigned " ++ toString values ++ " values"
  | .upsertUnmatched which =>
    which ++ "ON CONFLICT clause does not match any PRIMARY KEY or UNIQUE constraint"
  | .probability name =>
    "second argument to " ++ name ++ "() must be a constant between 0.0 and 1.0"
  | .returningWildcard => "RETURNING may not use \"TABLE.*\" wildcards"
  | .noTables => "no tables specified"
  | .tooBig => "string or blob too big"
  | .nestedTransaction => "cannot start a transaction within a transaction"
  | .noTransaction ending => "cannot " ++ ending ++ " - no transaction is active"
  | .noSuchSavepoint name => "no such savepoint: " ++ name
  | .vacuumInTransaction => "cannot VACUUM from within a transaction"
  | .nonTextFilename => "non-text filename"
  | .unknownReindexTarget => "unable to identify the object to be reindexed"
  | .prohibited part place => part ++ " prohibited in " ++ place
  | .duplicateColumn name => "duplicate column name: " ++ name
  | .columnCount table columns values =>
    "table " ++ table ++ " has " ++ toString columns ++ " columns but " ++ toString values ++
      " values were supplied"
  | .valuesForColumns values columns =>
    toString values ++ " values for " ++ toString columns ++ " columns"
  | .unevenValues => "all VALUES must have the same number of terms"
  | .moreThanOnePrimaryKey table => "table \"" ++ table ++ "\" has more than one primary key"
  | .autoincrementNotInteger => "AUTOINCREMENT is only allowed on an INTEGER PRIMARY KEY"
  | .definition reason => reason
  | .rowValueMisused => "row value misused"
  | .misuseAggregate name => "misuse of aggregate function " ++ name ++ "()"
  | .hexTooBig text => "hex literal too big: " ++ text
  | .escapeNotSingle => "ESCAPE expression must be a single character"
  | .patternTooComplex => "LIKE or GLOB pattern too complex"
  | .parameterNumber => "variable number must be between ?1 and ?250000"
  | .integerOverflow => "integer overflow"
  | .defaultNotConstant column => "default value of column [" ++ column ++ "] is not constant"
  | .notNull table column => "NOT NULL constraint failed: " ++ table ++ "." ++ column
  | .unique columns => "UNIQUE constraint failed: " ++ columns
  | .check name => "CHECK constraint failed: " ++ name
  | .mismatch => "datatype mismatch"
  | .full => "database or disk is full"
  | .tooLarge => "Python int too large to convert to SQLite INTEGER"
  | .unsupported position kind =>
    "Error binding parameter " ++ toString position ++ ": type '" ++ kind ++ "' is not supported"
  | .outOfRange => "column index out of range"
  | .outOfMemory => ""
  | .function message => message
  | .refused message => message
  | .constraint message => message
  | .raised message => message
  | .raiseIgnore => "RAISE(IGNORE)"
  | .undecodable column text =>
    "Could not decode to UTF-8 column '" ++ column ++ "' with text '" ++ text ++ "'"
  | .unencodable start stop code =>
    "'utf-8' codec can't encode " ++
      (if stop ≤ start + 1 then
        "character '\\u" ++ Text.hexDigits 4 code ++ "' in position " ++ toString start
      else "characters in position " ++ toString start ++ "-" ++ toString (stop - 1)) ++
      ": surrogates not allowed"

/-- The class of a failure. -/
def className : StoreError → String
  | .notNull .. | .unique _ | .check _ | .mismatch | .constraint _ | .raised _ => "IntegrityError"
  | .tooLarge => "OverflowError"
  | .tooBig => "DataError"
  | .unsupported .. | .nulCharacter | .multiple | .bindings .. => "ProgrammingError"
  | .unencodable .. => "UnicodeEncodeError"
  | .outOfRange => "InterfaceError"
  | .outOfMemory => "MemoryError"
  | _ => "OperationalError"

end StoreError

end SheetExport.Store
