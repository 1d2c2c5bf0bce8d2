import SheetExport.Cell.Equality
import SheetExport.Cell.Text
import SheetExport.Text.Blank

/-!
# Cells of exported rows

An exported row is text. A missing value is the empty text and any other value is written as its
plain text. A flag column is written `true` or `false`: text is a set flag when, without the blanks
around it and in lower case, it is one of `1`, `true`, `t` and `yes`; any other value is a set flag
when it counts as true.
-/

namespace SheetExport

namespace Flag

/-- The words that read as a set flag. -/
def yesWords : List String := ["1", "true", "t", "yes"]

/-- Whether a text reads as a set flag. Lower case is taken on ASCII letters only: no other
letter has a lower case among the letters of the words. -/
def isYes (text : String) : Bool :=
  yesWords.contains (String.ofList ((Text.trimChars text.toList).map Char.toLower))

/-- The text of a flag. -/
def text (set : Bool) : String := if set then "true" else "false"

end Flag

namespace Json

/-- The text of a value in an exported row: empty for null. -/
def cellText : Json → String
  | .null => ""
  | value => value.text

/-- Whether a value reads as a set flag. -/
def flag : Json → Bool
  | .str text => Flag.isYes text
  | value => value.truthy

end Json

end SheetExport
