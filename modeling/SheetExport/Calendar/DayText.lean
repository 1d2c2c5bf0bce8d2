import SheetExport.Calendar.Date
import SheetExport.Text.Digits

/-!
# Days written `YYYY-MM-DD`

A day is read from text in three fields joined by `-`. The year is four decimal digits of any
script. The month is `10` to `12`, `01` to `09`, or one digit `1` to `9`. The day is `30` or `31`,
`1` or `2` followed by any decimal digit, `01` to `09`, one digit `1` to `9`, or a space and one
digit `1` to `9`. Each field takes the first of its forms that fits, and the month only one that a
`-` follows; the day's form must end the text. The fields must name a day of years 1 to 9999.
-/

namespace SheetExport.Calendar

namespace DayText

/-- Whether a character is an ASCII digit between two bounds. -/
def isDigitIn (low high : Char) (c : Char) : Bool := low ≤ c && c ≤ high

/-- The value of an ASCII digit. -/
def asciiValue (c : Char) : Nat := c.toNat - '0'.toNat

/-- The year: four decimal digits of any script, and the text after them. -/
def year : List Char → Option (Nat × List Char)
  | a :: b :: c :: d :: rest => do
    let va ← Text.digitValue? a
    let vb ← Text.digitValue? b
    let vc ← Text.digitValue? c
    let vd ← Text.digitValue? d
    pure (((va * 10 + vb) * 10 + vc) * 10 + vd, rest)
  | _ => none

/-- The month, followed by `-`, and the text after the `-`. -/
def month : List Char → Option (Nat × List Char)
  | '1' :: c :: '-' :: rest => if isDigitIn '0' '2' c then some (10 + asciiValue c, rest) else none
  | '0' :: c :: '-' :: rest => if isDigitIn '1' '9' c then some (asciiValue c, rest) else none
  | c :: '-' :: rest => if isDigitIn '1' '9' c then some (asciiValue c, rest) else none
  | _ => none

/-- The day by the first of its forms that fits, and the text after it. -/
def day : List Char → Option (Nat × List Char)
  | '3' :: c :: rest =>
    if isDigitIn '0' '1' c then some (30 + asciiValue c, rest) else some (3, c :: rest)
  | '1' :: c :: rest =>
    match Text.digitValue? c with
    | some v => some (10 + v, rest)
    | none => some (1, c :: rest)
  | '2' :: c :: rest =>
    match Text.digitValue? c with
    | some v => some (20 + v, rest)
    | none => some (2, c :: rest)
  | '0' :: c :: rest => if isDigitIn '1' '9' c then some (asciiValue c, rest) else none
  | ' ' :: c :: rest => if isDigitIn '1' '9' c then some (asciiValue c, rest) else none
  | c :: rest => if isDigitIn '1' '9' c then some (asciiValue c, rest) else none
  | [] => none

end DayText

/-- The day a text names in the form `YYYY-MM-DD`, when it names one. -/
def Date.ofDayText (text : String) : Option Date := do
  let (year, rest) ← DayText.year text.toList
  let rest ← match rest with
    | '-' :: rest => some rest
    | _ => none
  let (month, rest) ← DayText.month rest
  let (day, rest) ← DayText.day rest
  if rest.isEmpty then
    let date : Date := ⟨year, month, day⟩
    if date.isValid then some date else none
  else none

end SheetExport.Calendar
