import SheetExport.Text.Printable
import SheetExport.Text.Surrogate

/-!
# Quoted text

The quoted form of a text, as error messages and the text of a list show a string. The text is
enclosed in single quotes, or in double quotes when it holds a single quote and no double quote.
A backslash and the enclosing quote are escaped, tab, newline and carriage return take their
short escapes, and a character that is not printable, a carried surrogate among them, is written
by its code point in hex: `\xhh` up to 0xFF, `\uhhhh` up to 0xFFFF, `\Uhhhhhhhh` beyond.
-/

namespace SheetExport.Text

/-- The lower-case hexadecimal digits of a number, padded with zeros to `width`. -/
def hexDigits (width value : Nat) : String :=
  let digits := Nat.toDigits 16 value
  String.ofList (List.replicate (width - digits.length) '0' ++ digits)

/-- How one character is written inside a quoted text enclosed by `quote`. -/
def escapeChar (quote c : Char) : String :=
  if c == quote || c == '\\' then String.ofList ['\\', c]
  else if c == '\t' then "\\t"
  else if c == '\n' then "\\n"
  else if c == '\r' then "\\r"
  else if let some code := carriedSurrogate? c then "\\u" ++ hexDigits 4 code
  else if isPrintable c then String.singleton c
  else if c.toNat ≤ 0xFF then "\\x" ++ hexDigits 2 c.toNat
  else if c.toNat ≤ 0xFFFF then "\\u" ++ hexDigits 4 c.toNat
  else "\\U" ++ hexDigits 8 c.toNat

/-- The quote that encloses a text: a double quote when the text holds a single quote and no
double quote, a single quote otherwise. -/
def enclosingQuote (text : String) : Char :=
  if text.toList.contains '\'' && !text.toList.contains '"' then '"' else '\''

/-- The quoted form of a text. -/
def quote (text : String) : String :=
  let mark := enclosingQuote text
  String.singleton mark ++ String.join (text.toList.map (escapeChar mark)) ++
    String.singleton mark

end SheetExport.Text
