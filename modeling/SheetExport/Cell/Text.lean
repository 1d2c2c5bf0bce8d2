import SheetExport.Json.Value
import SheetExport.Number.Decimal
import SheetExport.Text.Quoted

/-!
# The text of a cell

A cell is any JSON value. Its text is how it appears when written into a sheet column, a log line
or a message: a string as itself, `None`, `True` and `False` for null and the booleans, an integer
in decimal, a binary64 number in its shortest decimal form (`inf` and `nan` for the specials),
and a list or object with its items in their quoted forms: `[1, 'a']`, `{'k': None}`.
-/

namespace SheetExport

namespace Json

/-- How a binary64 number is written as cell text: positionally for a decimal point position from
-3 to 16, with an exponent of at least two digits otherwise. -/
def cellNumberLayout : DecimalLayout := ⟨-3, 16, 2, false, "inf", "nan"⟩

/-- The text of a binary64 number in a cell. -/
def floatText (x : Binary64) : String := cellNumberLayout.render Binary64.shortestDecimal x

mutual

/-- The quoted form of a value, as it appears inside the text of a list or object. -/
def literal : Json → String
  | .null => "None"
  | .bool value => if value then "True" else "False"
  | .int value => toString value
  | .float value => floatText value
  | .str value => Text.quote value
  | .arr items => "[" ++ String.intercalate ", " (literalItems items) ++ "]"
  | .obj members => "\x7b" ++ String.intercalate ", " (literalMembers members) ++ "\x7d"

/-- The quoted forms of the items of a list. -/
def literalItems : List Json → List String
  | [] => []
  | item :: rest => literal item :: literalItems rest

/-- The quoted forms of the members of an object. -/
def literalMembers : List (String × Json) → List String
  | [] => []
  | (name, value) :: rest => (Text.quote name ++ ": " ++ literal value) :: literalMembers rest

end

/-- The text of a value: a string is itself, anything else its quoted form. -/
def text : Json → String
  | .str value => value
  | other => literal other

/-- The name of the kind of a value, as messages about a value of the wrong kind name it. -/
def kindName : Json → String
  | .null => "NoneType"
  | .bool _ => "bool"
  | .int _ => "int"
  | .float _ => "float"
  | .str _ => "str"
  | .arr _ => "list"
  | .obj _ => "dict"

theorem text_str (value : String) : text (.str value) = value := rfl

end Json

end SheetExport
