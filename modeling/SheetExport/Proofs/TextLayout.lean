import Mathlib
import SheetExport.Text.Utf8

/-!
# Text at positions and as bytes

Readers walk an array of characters by position. What stands from a position on is told by
dropping that many characters, so a reader's step is stated with `chars.toList.drop position`
and moves on by the length of what it read (`drop_of_drop_append`).

A text of ASCII characters is written in UTF-8 one byte a character, each byte the character's
code, and reading those bytes back gives the text again (`decodeUtf8_encodeUtf8`). Text without a
carriage return keeps its line ends when they are made uniform (`uniformLineEnds_of_not_mem`).
-/

namespace SheetExport.Text

/-! ## Characters at positions -/

theorem getElem?_of_drop {chars : Array Char} {position : Nat} {c : Char} {rest : List Char}
    (found : chars.toList.drop position = c :: rest) : chars[position]? = some c := by
  have first := congrArg List.head? found
  simpa using first

theorem drop_of_drop_append {chars : Array Char} {position : Nat} {front rest : List Char}
    (found : chars.toList.drop position = front ++ rest) :
    chars.toList.drop (position + front.length) = rest := by
  rw [← List.drop_drop, found, List.drop_left]

theorem drop_succ_of_drop {chars : Array Char} {position : Nat} {c : Char} {rest : List Char}
    (found : chars.toList.drop position = c :: rest) : chars.toList.drop (position + 1) = rest :=
  @drop_of_drop_append chars position [c] rest found

theorem getElem?_of_drop_nil {chars : Array Char} {position : Nat}
    (ended : chars.toList.drop position = []) : chars[position]? = none := by
  have first := congrArg List.head? ended
  simpa using first

theorem lt_size_of_drop {chars : Array Char} {position : Nat} {c : Char} {rest : List Char}
    (found : chars.toList.drop position = c :: rest) : position < chars.size := by
  have inside := getElem?_of_drop found
  by_contra outside
  rw [Array.getElem?_eq_none (Nat.le_of_not_lt outside)] at inside
  cases inside

/-! ## ASCII bytes -/

/-- A text all of whose characters are ASCII. -/
def IsAscii (chars : List Char) : Prop := ∀ c ∈ chars, c.toNat < 0x80

/-- The bytes of a byte array, in order, from a position on. -/
theorem toList_loop (bytes : ByteArray) (position : Nat) (read : List UInt8) :
    ByteArray.toList.loop bytes position read = read.reverse ++ bytes.data.toList.drop position := by
  fun_induction ByteArray.toList.loop bytes position read with
  | case1 position read inside ih =>
      have length : position < bytes.data.toList.length := by simpa using inside
      have byte : bytes.get! position = bytes.data[position]! := by cases bytes; rfl
      rw [ih, List.drop_eq_getElem_cons length, byte, getElem!_pos bytes.data position inside]
      simp
  | case2 position read outside =>
      rw [List.drop_eq_nil_of_le (by simpa using Nat.le_of_not_lt outside)]
      simp

/-- The UTF-8 bytes of a text are the encodings of its characters, one after another. -/
theorem encodeUtf8_eq_flatMap (text : String) :
    encodeUtf8 text = text.toList.flatMap String.utf8EncodeChar := by
  rw [encodeUtf8, String.toUTF8_eq_toByteArray, ← String.utf8Encode_toList, List.utf8Encode,
    ByteArray.toList, toList_loop]
  simp

/-- An ASCII character is written as the one byte of its code. -/
theorem utf8EncodeChar_of_lt {c : Char} (small : c.toNat < 0x80) :
    String.utf8EncodeChar c = [c.toUInt8] := by
  have single : c.utf8Size = 1 := by
    rw [Char.utf8Size_eq_one_iff, UInt32.le_iff_toNat_le]
    have code : c.toNat = c.val.toNat := rfl
    have bound : (127 : UInt32).toNat = 127 := rfl
    omega
  rw [String.utf8EncodeChar_eq_singleton single, Char.toUInt8_val]

theorem flatMap_utf8EncodeChar_of_isAscii :
    ∀ {chars : List Char}, IsAscii chars → chars.flatMap String.utf8EncodeChar = chars.map Char.toUInt8
  | [], _ => rfl
  | c :: rest, ascii => by
      have restAscii : IsAscii rest := fun d inside => ascii d (List.mem_cons_of_mem c inside)
      rw [List.flatMap_cons, utf8EncodeChar_of_lt (ascii c List.mem_cons_self),
        flatMap_utf8EncodeChar_of_isAscii restAscii, List.map_cons, List.singleton_append]

/-- The byte of an ASCII character is its code. -/
theorem toNat_toUInt8_of_lt {c : Char} (small : c.toNat < 0x80) : c.toUInt8.toNat = c.toNat := by
  rw [← Char.toUInt8_val]
  show c.val.toNat % 256 = c.val.toNat
  exact Nat.mod_eq_of_lt (by have code : c.toNat = c.val.toNat := rfl; omega)

/-- Bytes below 0x80 each decode to the character of their code. -/
theorem decodeAt_ascii (total : Nat) :
    ∀ {chars : List Char} (position : Nat), IsAscii chars →
      Utf8.decodeAt total position (chars.map Char.toUInt8) = .ok chars
  | [], _, _ => rfl
  | c :: rest, position, ascii => by
      have small : c.toNat < 0x80 := ascii c List.mem_cons_self
      have byte := toNat_toUInt8_of_lt small
      have below : c.toUInt8 < 0x80 := by
        rw [UInt8.lt_iff_toNat_lt, byte]
        exact small
      have restAscii : IsAscii rest := fun d inside => ascii d (List.mem_cons_of_mem c inside)
      rw [List.map_cons]
      unfold Utf8.decodeAt
      rw [if_pos below, decodeAt_ascii total (position + 1) restAscii]
      simp [Utf8.cons, Except.map, byte, Char.ofNat_toNat]

/-- Reading the UTF-8 bytes of an ASCII text gives the text back. -/
theorem decodeUtf8_encodeUtf8 {text : String} (ascii : IsAscii text.toList) :
    decodeUtf8 (encodeUtf8 text) = .ok text := by
  rw [decodeUtf8, encodeUtf8_eq_flatMap, flatMap_utf8EncodeChar_of_isAscii ascii,
    decodeAt_ascii _ _ ascii]
  simp [Except.map]

/-- Line ends are already uniform in a text without a carriage return. -/
theorem uniformLineEnds_of_not_mem : ∀ {chars : List Char}, '\r' ∉ chars → uniformLineEnds chars = chars
  | [], _ => rfl
  | c :: rest, absent => by
      have notReturn : c ≠ '\r' := fun same => absent (same ▸ List.mem_cons_self)
      have restAbsent : '\r' ∉ rest := fun inside => absent (List.mem_cons_of_mem c inside)
      rw [uniformLineEnds.eq_3 c rest (fun _ same _ => notReturn same) notReturn,
        uniformLineEnds_of_not_mem restAbsent]

end SheetExport.Text
