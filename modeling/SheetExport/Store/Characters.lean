import SheetExport.Store.Value

/-!
# Characters of stored text

Stored text is a list of bytes meant as UTF-8, and the store reads characters out of it leniently,
never refusing a byte:

* *Skipping* a character takes one byte and, when that byte is `0xC0` or above, every continuation
  byte (`10xxxxxx`) after it. Lengths and positions count characters this way.
* *Reading* a character does the same and also computes its code point: the payload bits of the
  first byte by its pattern, then six bits from each continuation byte. A byte below `0xC0` is its
  own code point. A result below `0x80` from a longer sequence, a surrogate, or `U+FFFE` and
  `U+FFFF` read as `U+FFFD`.
* Most functions read text as C strings do, up to the first NUL byte.

Writing a code point uses the one- to four-byte forms by its size, surrogates included.
-/

namespace SheetExport.Store

namespace Characters

/-- Whether a byte continues a UTF-8 sequence. -/
def isContinuation (b : UInt8) : Bool := b &&& 0xC0 == 0x80

/-- The bytes of a text before its first NUL. -/
def beforeNul (bytes : List UInt8) : List UInt8 := bytes.takeWhile (· != 0)

/-- The bytes of one character after a first byte: the continuation bytes that follow a byte of
`0xC0` or above, none after any other byte. -/
def tailOf (first : UInt8) (rest : List UInt8) : List UInt8 :=
  if 0xC0 ≤ first then rest.takeWhile isContinuation else []

/-- Splits bytes into characters, each a first byte with its continuation bytes. -/
def splitAux : Nat → List UInt8 → List (List UInt8)
  | 0, _ => []
  | _, [] => []
  | fuel + 1, b :: rest =>
    let tail := tailOf b rest
    (b :: tail) :: splitAux fuel (rest.drop tail.length)

/-- The characters of some bytes. -/
def split (bytes : List UInt8) : List (List UInt8) := splitAux bytes.length bytes

/-- The number of characters of a text before its first NUL. -/
def count (bytes : List UInt8) : Nat := (split (beforeNul bytes)).length

/-- The payload bits that a first byte of `0xC0` or above gives a code point. -/
def leadBits (b : UInt8) : Nat :=
  if b < 0xE0 then b.toNat - 0xC0
  else if b < 0xF0 then b.toNat - 0xE0
  else if b < 0xF8 then b.toNat - 0xF0
  else if b < 0xFC then b.toNat - 0xF8
  else if b < 0xFE then b.toNat - 0xFC
  else 0

/-- The code point of one character's bytes. -/
def pointOf : List UInt8 → Nat
  | [] => 0
  | b :: tail =>
    if b < 0xC0 then b.toNat
    else
      let c := tail.foldl (fun c byte => (c * 64 + byte.toNat % 64) % Nat.pow 2 32) (leadBits b)
      if c < 0x80 || c / 2048 == 0xD800 / 2048 || c / 2 == 0xFFFE / 2 then 0xFFFD else c

/-- The code points of a text before its first NUL. -/
def points (bytes : List UInt8) : List Nat := (split (beforeNul bytes)).map pointOf

/-- The bytes that write a code point below `2^21`. -/
def encode (c : Nat) : List UInt8 :=
  if c < 0x80 then [c.toUInt8]
  else if c < 0x800 then [(0xC0 + c / 64 % 32).toUInt8, (0x80 + c % 64).toUInt8]
  else if c < 0x10000 then
    [(0xE0 + c / 4096 % 16).toUInt8, (0x80 + c / 64 % 64).toUInt8, (0x80 + c % 64).toUInt8]
  else
    [(0xF0 + c / 262144 % 8).toUInt8, (0x80 + c / 4096 % 64).toUInt8,
      (0x80 + c / 64 % 64).toUInt8, (0x80 + c % 64).toUInt8]

end Characters

end SheetExport.Store
