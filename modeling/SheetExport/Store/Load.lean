import SheetExport.Store.Schema
import SheetExport.Store.Sql.Run
import SheetExport.Cell.Text

/-!
# Loading records

Records are written to the store by statements: each record of a table becomes
`INSERT INTO <table> (<field>, …) VALUES (?, …)`, its field names written into the statement as
they are and its values given as arguments. A boolean is stored as 0 or 1, an integer must fit in
64 bits, a real NaN is stored as NULL, and lists and objects cannot be stored.

Tables are loaded in the order of their names, each table's records in the order given, and what
was loaded is committed. A failed statement is reported with its table; an integer too large for
the store, or text without a UTF-8 encoding, is reported as it is.
-/

namespace SheetExport.Store

/-- The stored value of a JSON value given at a 1-based position. -/
def Value.ofJson (position : Nat) : Json → Except StoreError Value
  | .null => .ok .null
  | .bool b => .ok (.integer (if b then 1 else 0))
  | .int n => if Value.fits n then .ok (.integer n) else .error .tooLarge
  | .float x => .ok (if x.isNaN then .null else .real x)
  | .str s => match StoreError.encoding? s with
    | some e => .error e
    | none => .ok (Value.ofString s)
  | value => .error (.unsupported position value.kindName)

/-- Why loading records fails. -/
inductive LoadError where
  /-- The statement inserting a record into a table failed. -/
  | insert (table : String) (error : StoreError)
  /-- A record that cannot be given to the store at all: an integer too large for it, or text
  without a UTF-8 encoding. -/
  | unusable (error : StoreError)
  deriving DecidableEq, Repr

namespace LoadError

/-- The class of a failure. -/
def className : LoadError → String
  | .insert .. => "Setup"
  | .unusable error => error.className

/-- The message of a failure. -/
def message : LoadError → String
  | .insert table error => "insert into " ++ table ++ " failed: " ++ error.message
  | .unusable error => error.message

end LoadError

/-- The statement that inserts a record with the given fields into a table. -/
def insertText (table : String) (fields : List String) : String :=
  "INSERT INTO " ++ table ++ " (" ++ ", ".intercalate fields ++ ") VALUES (" ++
    ", ".intercalate (fields.map fun _ => "?") ++ ")"

namespace Database

/-- Inserts one record into a table: each field names a column. -/
def insertRecord (db : Database) (table : String) (record : List (String × Json)) :
    Except LoadError Database :=
  let arguments := (record.zip (List.range record.length)).map fun ((_, value), index) =>
    Value.ofJson (index + 1) value
  match db.execute (insertText table (record.map (·.1))) arguments with
  | .ok db => .ok db
  | .error .tooLarge => .error (.unusable .tooLarge)
  | .error (.unencodable start stop code) => .error (.unusable (.unencodable start stop code))
  | .error error => .error (.insert table error)

/-- Inserts the records of each table, tables in the order of their names, and commits them: no
transaction is in progress afterwards. -/
def load (db : Database) (tables : List (String × List (List (String × Json)))) :
    Except LoadError Database := do
  let sorted := tables.mergeSort fun a b => Value.compareChars a.1.toList b.1.toList != .gt
  let db ← sorted.foldlM (fun db (name, records) =>
    records.foldlM (fun db record => db.insertRecord name record) db) db
  pure { db with journal := none }

end Database

end SheetExport.Store
