import SheetExport.Cell.Text
import SheetExport.Number.Integer

/-!
# Whole numbers of cells

A cell is read as a whole number the way a configuration value is: a boolean is 0 or 1, an integer
is itself, a binary64 number is cut toward zero, and text is read as an integer numeral. Null,
lists and objects have no whole number, an infinity is too large for one, and NaN is not a number.
-/

namespace SheetExport

/-- Why a cell has no whole number. -/
inductive WholeError where
  /-- The kind of cell cannot be read as a number. -/
  | notNumber (kind : String)
  /-- Text that is not an integer numeral. -/
  | numeral (error : NumeralError)
  | infinite
  | notANumber
  deriving DecidableEq, Repr

namespace WholeError

/-- The class name of a refusal. -/
def className : WholeError → String
  | .notNumber _ => "TypeError"
  | .infinite => "OverflowError"
  | _ => "ValueError"

/-- The message of a refusal. -/
def message : WholeError → String
  | .notNumber kind =>
    "int() argument must be a string, a bytes-like object or a real number, not '" ++ kind ++ "'"
  | .numeral error => error.message
  | .infinite => "cannot convert float infinity to integer"
  | .notANumber => "cannot convert float NaN to integer"

end WholeError

/-- The whole number of a cell. -/
def Json.whole : Json → Except WholeError Int
  | .bool b => .ok (if b then 1 else 0)
  | .int n => .ok n
  | .float x =>
    match x with
    | .infinity _ => .error .infinite
    | .nan => .error .notANumber
    | finite => .ok (finite.truncate?.getD 0)
  | .str text => (readInteger text).mapError .numeral
  | other => .error (.notNumber other.kindName)

theorem Json.whole_int (n : Int) : Json.whole (.int n) = .ok n := rfl

end SheetExport
