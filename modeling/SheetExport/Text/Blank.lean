/-!
# Blank characters

The characters that count as blank when text is trimmed or a numeral is read: the Unicode white
space characters together with the four information separators U+001C to U+001F. Trimming removes
them from both ends and keeps everything between.
-/

namespace SheetExport.Text

/-- A blank: tab to carriage return, the separators U+001C to U+001F, space, next line, no-break
space, the Ogham space mark, the spaces U+2000 to U+200A, the line and paragraph separators, the
narrow no-break space, the medium mathematical space and the ideographic space. -/
def isBlank (c : Char) : Bool :=
  let code := c.toNat
  (0x09 ≤ code && code ≤ 0x0D) || (0x1C ≤ code && code ≤ 0x20) || code == 0x85 ||
    code == 0xA0 || code == 0x1680 || (0x2000 ≤ code && code ≤ 0x200A) || code == 0x2028 ||
    code == 0x2029 || code == 0x202F || code == 0x205F || code == 0x3000

/-- The characters of a text without the blanks at its start. -/
def dropBlanks (chars : List Char) : List Char := chars.dropWhile isBlank

/-- The characters of a text without the blanks at either end. -/
def trimChars (chars : List Char) : List Char :=
  (dropBlanks (dropBlanks chars).reverse).reverse

/-- A text without the blanks at either end. -/
def trim (text : String) : String := String.ofList (trimChars text.toList)

/-- A text is blank when nothing is left of it once trimmed. -/
def isBlankText (text : String) : Bool := (trimChars text.toList).isEmpty

end SheetExport.Text
