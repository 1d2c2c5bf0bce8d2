import SheetExport.Json.Value
import SheetExport.Number.Decimal
import SheetExport.Text.Quoted
import SheetExport.Text.Surrogate

/-!
# Writing JSON text

A document is written with a `JsonStyle`: the separators between items and between a name and its
value, an optional indentation, and whether text outside ASCII is escaped. With an indentation,
every item of a non-empty array or object stands on a line of its own, indented one step deeper
than its container; empty containers stay `[]` and `{}`.

A binary64 number is written in its shortest decimal form: positionally when its decimal point
position is from -3 to 16, with `.0` after a whole number, and with an exponent of at least two
digits otherwise. NaN and the infinities are written `NaN`, `Infinity` and `-Infinity`.
-/

namespace SheetExport

/-- How a document is laid out as text. -/
structure JsonStyle where
  /-- Spaces per nesting level, or `none` to keep the document on one line. -/
  indent : Option Nat
  /-- What stands between two items. -/
  itemSeparator : String
  /-- What stands between a member's name and its value. -/
  nameSeparator : String
  /-- Whether every character outside ASCII is written as an escape. -/
  asciiOnly : Bool

namespace JsonStyle

/-- One line, with a space after each separator. -/
def spaced : JsonStyle := ⟨none, ", ", ": ", true⟩

/-- One line, no spaces, text kept as it is. -/
def compact : JsonStyle := ⟨none, ",", ":", false⟩

/-- Two spaces per level, ASCII only: the layout of a small settings file. -/
def indented : JsonStyle := ⟨some 2, ",", ": ", true⟩

end JsonStyle

namespace Json

/-- The text of a binary64 number inside JSON. -/
def numberLayout : DecimalLayout := ⟨-3, 16, 2, false, "Infinity", "NaN"⟩

/-- The text of a binary64 number inside JSON. -/
def numberText (x : Binary64) : String := numberLayout.render Binary64.shortestDecimal x

/-- A UTF-16 unit as a `\u` escape. -/
def unitEscape (unit : Nat) : String := "\\u" ++ Text.hexDigits 4 unit

/-- How one character of a string is written. -/
def escapeChar (asciiOnly : Bool) (c : Char) : String :=
  if c == '"' then "\\\""
  else if c == '\\' then "\\\\"
  else if c == '\n' then "\\n"
  else if c == '\r' then "\\r"
  else if c == '\t' then "\\t"
  else if c == '\x08' then "\\b"
  else if c == '\x0c' then "\\f"
  else if c.toNat < 0x20 then unitEscape c.toNat
  else if let some code := Text.carriedSurrogate? c then unitEscape code
  else if asciiOnly && 0x7F < c.toNat then
    if c.toNat < 0x10000 then unitEscape c.toNat
    else
      let offset := c.toNat - 0x10000
      unitEscape (0xD800 + offset / 0x400) ++ unitEscape (0xDC00 + offset % 0x400)
  else String.singleton c

/-- A string as a JSON string literal. -/
def stringLiteral (asciiOnly : Bool) (text : String) : String :=
  "\"" ++ String.join (text.toList.map (escapeChar asciiOnly)) ++ "\""

/-- The spaces before an item at a nesting level. -/
def indentation (style : JsonStyle) (level : Nat) : String :=
  match style.indent with
  | some width => "\n" ++ String.ofList (List.replicate (width * level) ' ')
  | none => ""

/-- The items of a container between its brackets. -/
def enclose (style : JsonStyle) (level : Nat) (opening closing : String)
    (parts : List String) : String :=
  if parts.isEmpty then opening ++ closing
  else
    let inner := indentation style (level + 1)
    opening ++ inner ++ String.intercalate (style.itemSeparator ++ inner) parts ++
      indentation style level ++ closing

mutual

/-- The text of a document at a nesting level. -/
def renderAt (style : JsonStyle) (level : Nat) : Json → String
  | .null => "null"
  | .bool value => if value then "true" else "false"
  | .int value => toString value
  | .float value => numberText value
  | .str value => stringLiteral style.asciiOnly value
  | .arr items => enclose style level "[" "]" (renderItems style level items)
  | .obj members => enclose style level "\x7b" "\x7d" (renderMembers style level members)

/-- The texts of the items of an array. -/
def renderItems (style : JsonStyle) (level : Nat) : List Json → List String
  | [] => []
  | item :: rest => renderAt style (level + 1) item :: renderItems style level rest

/-- The texts of the members of an object. -/
def renderMembers (style : JsonStyle) (level : Nat) : List (String × Json) → List String
  | [] => []
  | (name, value) :: rest =>
    (stringLiteral style.asciiOnly name ++ style.nameSeparator ++ renderAt style (level + 1) value)
      :: renderMembers style level rest

end

/-- The text of a document. -/
def render (style : JsonStyle) (document : Json) : String := renderAt style 0 document

end Json

end SheetExport
