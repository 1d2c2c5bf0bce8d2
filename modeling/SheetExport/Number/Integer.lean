import SheetExport.Text.Blank
import SheetExport.Text.Digits
import SheetExport.Text.Quoted

/-!
# Reading integer numerals

An integer numeral is read as a general integer conversion reads decimal text. Blanks may
surround the numeral (the blanks of `Text.isBlank` except the four information separators, which
count as other characters), a sign may lead it, its digits may come from any script and count
with their decimal values, and a single underscore may stand between two digits. The digits are
counted as soon as their run ends: a run of more than 4300 digits is refused as too long before
anything after it is looked at, while a misplaced underscore inside the run is refused first.

Writing an integer in decimal has the same limit: one of more than 4300 digits has no text.
-/

namespace SheetExport

/-- Why an integer and its decimal text cannot be converted one into the other. -/
inductive NumeralError where
  /-- The text breaks the grammar of a numeral. -/
  | invalid (text : String)
  /-- The numeral has more digits than a conversion accepts. -/
  | tooLong (digitCount : Nat)
  /-- The integer has more digits than a conversion writes. -/
  | tooLongToWrite
  deriving DecidableEq, Repr

namespace NumeralError

/-- The most digits a numeral may have. -/
def digitLimit : Nat := 4300

/-- The message of a refusal; the quoted text is cut after 200 characters. -/
def message : NumeralError → String
  | .invalid text =>
    "invalid literal for int() with base 10: " ++ String.ofList ((Text.quote text).toList.take 200)
  | .tooLong count =>
    "Exceeds the limit (" ++ Nat.repr digitLimit ++
      " digits) for integer string conversion: value has " ++ Nat.repr count ++
      " digits; use sys.set_int_max_str_digits() to increase the limit"
  | .tooLongToWrite =>
    "Exceeds the limit (" ++ Nat.repr digitLimit ++
      " digits) for integer string conversion; use sys.set_int_max_str_digits() to increase the limit"

end NumeralError

namespace Numeral

/-- A blank around a numeral: a blank that is not one of the information separators. -/
def isSurrounding (c : Char) : Bool :=
  Text.isBlank c && !(0x1C ≤ c.toNat && c.toNat ≤ 0x1F)

/-- The run of digits that starts a numeral body, with single underscores between them: its
digits, most significant first, and the text after the run. `none` when an underscore leads the
body, follows another underscore, or ends the run. -/
def digitRun (chars : List Char) : Option (List Nat × List Char) :=
  match chars with
  | '_' :: _ => none
  | _ => go chars false
where
  go : List Char → Bool → Option (List Nat × List Char)
    | [], afterUnderscore => if afterUnderscore then none else some ([], [])
    | c :: rest, afterUnderscore =>
      if c == '_' then (if afterUnderscore then none else go rest true)
      else
        match Text.digitValue? c with
        | some d => (go rest false).map fun (digits, after) => (d :: digits, after)
        | none => if afterUnderscore then none else some ([], c :: rest)

/-- The value of a list of decimal digits, most significant first. -/
def digitsValue (digits : List Nat) : Nat := digits.foldl (fun acc d => acc * 10 + d) 0

/-- The body of a numeral after its sign. -/
def signed (chars : List Char) : Bool × List Char :=
  match chars with
  | '-' :: rest => (true, rest)
  | '+' :: rest => (false, rest)
  | _ => (false, chars)

end Numeral

open Numeral in
/-- Reads an integer numeral. -/
def readInteger (text : String) : Except NumeralError Int :=
  let (negative, body) := signed (text.toList.dropWhile isSurrounding)
  match digitRun body with
  | none => .error (.invalid text)
  | some (digits, after) =>
    if NumeralError.digitLimit < digits.length then .error (.tooLong digits.length)
    else if digits.isEmpty || !after.all isSurrounding then .error (.invalid text)
    else
      let magnitude : Int := digitsValue digits
      .ok (if negative then -magnitude else magnitude)

/-- The decimal text of an integer; one of more than 4300 digits is refused. -/
def writeInteger (value : Int) : Except NumeralError String :=
  if NumeralError.digitLimit < (Nat.repr value.natAbs).length then .error .tooLongToWrite
  else .ok (toString value)

end SheetExport
