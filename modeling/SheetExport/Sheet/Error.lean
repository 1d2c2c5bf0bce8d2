import SheetExport.Number.Integer

/-!
# Addressing errors

The faults met while addressing a sheet row: a column or row number below one, an argument of a
kind that has no order with the integers, a binary64 number where a whole number is needed, a
key that cannot be counted, and a row number that does not read as an integer or is too long
to write. Each has one
message and one class, the class being the kind of fault a caller can tell apart.
-/

namespace SheetExport

/-- A fault met while addressing a sheet row. -/
inductive SheetError where
  /-- A column number below one. -/
  | columnBelowOne
  /-- A row number below one. -/
  | rowBelowOne
  /-- A binary64 number where a whole number is needed. -/
  | notWhole (kind : String)
  /-- Two values of kinds without an order between them, compared with `operator`. -/
  | unordered (operator : String) (leftKind rightKind : String)
  /-- A key of a kind that cannot be counted. -/
  | uncountable (kind : String)
  /-- A row number that does not read as an integer numeral, or is too long to write. -/
  | numeral (error : NumeralError)
  deriving DecidableEq, Repr

namespace SheetError

/-- The message of a fault. -/
def message : SheetError → String
  | .columnBelowOne => "Column index must be >= 1"
  | .rowBelowOne => "Row number must be >= 1"
  | .notWhole kind => "'" ++ kind ++ "' object cannot be interpreted as an integer"
  | .unordered operator left right =>
    "'" ++ operator ++ "' not supported between instances of '" ++ left ++ "' and '" ++ right ++ "'"
  | .uncountable kind => "unhashable type: '" ++ kind ++ "'"
  | .numeral error => error.message

/-- The class of a fault: a value out of range, or a value of the wrong kind. -/
def className : SheetError → String
  | .columnBelowOne => "ValueError"
  | .rowBelowOne => "ValueError"
  | .notWhole _ => "TypeError"
  | .unordered .. => "TypeError"
  | .uncountable _ => "TypeError"
  | .numeral _ => "ValueError"

end SheetError

end SheetExport
