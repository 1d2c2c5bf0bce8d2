/-!
# Unpaired surrogates

JSON text may escape a UTF-16 surrogate that has no partner (`\ud800`), and a text read from it
then holds a code point that no Unicode scalar value stands for. Such a code point is carried in a
`String` by one of the last 2048 code points, U+10F800 to U+10FFFF, in order: the surrogate
0xD800 + k is carried by U+10F800 + k. A carried surrogate counts as one character and equals only
itself; it is written back as its escape, and a text that holds one has no UTF-8 encoding.
-/

namespace SheetExport.Text

/-- The first code point that carries a surrogate. -/
def surrogateCarrierBase : Nat := 0x10F800

/-- The first surrogate. -/
def surrogateBase : Nat := 0xD800

/-- Whether a code point is a UTF-16 surrogate. -/
def isSurrogate (code : Nat) : Bool := surrogateBase ≤ code && code < surrogateBase + 0x800

/-- The character that carries a surrogate. -/
def carrySurrogate (code : Nat) : Char :=
  Char.ofNat (surrogateCarrierBase + (code - surrogateBase) % 0x800)

/-- The surrogate a character carries, if it carries one. -/
def carriedSurrogate? (c : Char) : Option Nat :=
  if surrogateCarrierBase ≤ c.toNat then some (c.toNat - surrogateCarrierBase + surrogateBase)
  else none

/-- The position and the code of the first surrogate a text carries. -/
def firstSurrogate? (text : String) : Option (Nat × Nat) :=
  let rec go : List Char → Nat → Option (Nat × Nat)
    | [], _ => none
    | c :: rest, position =>
      match carriedSurrogate? c with
      | some code => some (position, code)
      | none => go rest (position + 1)
  go text.toList 0

end SheetExport.Text
