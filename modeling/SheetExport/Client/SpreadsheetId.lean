import SheetExport.Text.Blank

/-!
# Spreadsheet ids

A spreadsheet is named by its id or by a link to it. The id is the text without the blanks around
it; when it holds `/spreadsheets/d/`, the id is the path segment after the first occurrence; and a
query (`?…`) or a fragment (`#…`) is cut off. Reading an id twice gives the same id.
-/

namespace SheetExport

namespace SpreadsheetId

/-- The marker that starts the id inside a link. -/
def linkMarker : List Char := "/spreadsheets/d/".toList

/-- The text after the first occurrence of a pattern, when it occurs. -/
def afterPattern (pattern : List Char) : List Char → Option (List Char)
  | [] => if pattern.isEmpty then some [] else none
  | c :: rest =>
    if pattern.isPrefixOf (c :: rest) then some ((c :: rest).drop pattern.length)
    else afterPattern pattern rest

/-- The id named by a text. -/
def parse (value : String) : String :=
  let chars := Text.trimChars value.toList
  let chars := match afterPattern linkMarker chars with
    | some rest => rest.takeWhile (· != '/')
    | none => chars
  String.ofList ((chars.takeWhile (· != '?')).takeWhile (· != '#'))

end SpreadsheetId

end SheetExport
