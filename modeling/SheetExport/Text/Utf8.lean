import SheetExport.Text.Quoted

/-!
# Reading UTF-8 text

Bytes are read as UTF-8 one sequence at a time. The first byte of a sequence gives its length;
each following byte must be a continuation byte, and the second byte is further limited so that
no sequence spells a code point the short way, a surrogate, or a point above `U+10FFFF`. A
refusal names the first offending sequence by its byte positions: a byte that cannot start a
sequence, a sequence cut short by a bad continuation (up to the last good byte), or a sequence the
text ends inside (up to the end).

A text file read as text also has its line ends made uniform: `\r\n` and a lone `\r` become `\n`.
-/

namespace SheetExport.Text

/-- Why bytes are not UTF-8. -/
inductive DecodeReason where
  | invalidStart
  | invalidContinuation
  | unexpectedEnd
  deriving DecidableEq, Repr

/-- The description of a reason. -/
def DecodeReason.text : DecodeReason → String
  | .invalidStart => "invalid start byte"
  | .invalidContinuation => "invalid continuation byte"
  | .unexpectedEnd => "unexpected end of data"

/-- A refusal: the reason, the first byte of the offending sequence, and the positions of its
first byte and of the byte after it. -/
structure DecodeError where
  reason : DecodeReason
  byte : UInt8
  start : Nat
  stop : Nat
  deriving DecidableEq, Repr

/-- The message of a refusal. -/
def DecodeError.message (e : DecodeError) : String :=
  "'utf-8' codec can't decode " ++
    (if e.stop == e.start + 1 then
      "byte 0x" ++ hexDigits 2 e.byte.toNat ++ " in position " ++ toString e.start
    else "bytes in position " ++ toString e.start ++ "-" ++ toString (e.stop - 1)) ++
    ": " ++ e.reason.text

namespace Utf8

/-- Whether a byte continues a sequence. -/
def isContinuation (b : UInt8) : Bool := 0x80 ≤ b && b ≤ 0xBF

/-- The payload bits of a continuation byte. -/
def payload (b : UInt8) : Nat := b.toNat % 64

/-- Prepends a character to a decoded rest. -/
def cons (c : Nat) (rest : Except DecodeError (List Char)) : Except DecodeError (List Char) :=
  rest.map (Char.ofNat c :: ·)

/-- Whether the second byte of a three-byte sequence is allowed after its first. -/
def secondOfThree (first second : UInt8) : Bool :=
  isContinuation second && !(first == 0xE0 && second < 0xA0) && !(first == 0xED && 0xA0 ≤ second)

/-- Whether the second byte of a four-byte sequence is allowed after its first. -/
def secondOfFour (first second : UInt8) : Bool :=
  isContinuation second && !(first == 0xF0 && second < 0x90) && !(first == 0xF4 && 0x90 ≤ second)

/-- Decodes bytes that start at `position` of a text of `total` bytes. -/
def decodeAt (total position : Nat) : List UInt8 → Except DecodeError (List Char)
  | [] => .ok []
  | b :: rest =>
    let refuse (reason : DecodeReason) (length : Nat) : Except DecodeError (List Char) :=
      .error ⟨reason, b, position, position + length⟩
    let cutShort : Except DecodeError (List Char) := .error ⟨.unexpectedEnd, b, position, total⟩
    if b < 0x80 then cons b.toNat (decodeAt total (position + 1) rest)
    else if b < 0xC2 then refuse .invalidStart 1
    else if b < 0xE0 then
      match rest with
      | [] => cutShort
      | c1 :: more =>
        if isContinuation c1 then
          cons ((b.toNat % 32) * 64 + payload c1) (decodeAt total (position + 2) more)
        else refuse .invalidContinuation 1
    else if b < 0xF0 then
      match rest with
      | [] => cutShort
      | [c1] => if secondOfThree b c1 then cutShort else refuse .invalidContinuation 1
      | c1 :: c2 :: more =>
        if !secondOfThree b c1 then refuse .invalidContinuation 1
        else if !isContinuation c2 then refuse .invalidContinuation 2
        else
          cons ((b.toNat % 16) * 4096 + payload c1 * 64 + payload c2)
            (decodeAt total (position + 3) more)
    else if b < 0xF5 then
      match rest with
      | [] => cutShort
      | [c1] => if secondOfFour b c1 then cutShort else refuse .invalidContinuation 1
      | [c1, c2] =>
        if !secondOfFour b c1 then refuse .invalidContinuation 1
        else if !isContinuation c2 then refuse .invalidContinuation 2
        else cutShort
      | c1 :: c2 :: c3 :: more =>
        if !secondOfFour b c1 then refuse .invalidContinuation 1
        else if !isContinuation c2 then refuse .invalidContinuation 2
        else if !isContinuation c3 then refuse .invalidContinuation 3
        else
          cons ((b.toNat % 8) * 262144 + payload c1 * 4096 + payload c2 * 64 + payload c3)
            (decodeAt total (position + 4) more)
    else refuse .invalidStart 1

/-- The first sequence of some bytes, the first being `b`: its character and length when it is
well formed, otherwise none and the length of the part of it that could begin a sequence, which a
lenient reading replaces as a whole. -/
def firstSequence (b : UInt8) (rest : List UInt8) : Option Char × Nat :=
  if b < 0x80 then (some (Char.ofNat b.toNat), 1)
  else if b < 0xC2 then (none, 1)
  else if b < 0xE0 then
    match rest with
    | c1 :: _ =>
      if isContinuation c1 then (some (Char.ofNat ((b.toNat % 32) * 64 + payload c1)), 2)
      else (none, 1)
    | [] => (none, 1)
  else if b < 0xF0 then
    match rest with
    | [] => (none, 1)
    | [c1] => (none, if secondOfThree b c1 then 2 else 1)
    | c1 :: c2 :: _ =>
      if !secondOfThree b c1 then (none, 1)
      else if !isContinuation c2 then (none, 2)
      else (some (Char.ofNat ((b.toNat % 16) * 4096 + payload c1 * 64 + payload c2)), 3)
  else if b < 0xF5 then
    match rest with
    | [] => (none, 1)
    | [c1] => (none, if secondOfFour b c1 then 2 else 1)
    | [c1, c2] =>
      (none, if !secondOfFour b c1 then 1 else if !isContinuation c2 then 2 else 3)
    | c1 :: c2 :: c3 :: _ =>
      if !secondOfFour b c1 then (none, 1)
      else if !isContinuation c2 then (none, 2)
      else if !isContinuation c3 then (none, 3)
      else
        (some (Char.ofNat
          ((b.toNat % 8) * 262144 + payload c1 * 4096 + payload c2 * 64 + payload c3)), 4)
  else (none, 1)

/-- Reads bytes leniently, each ill-formed part becoming one replacement character. -/
def decodeLossyAux : Nat → List UInt8 → List Char
  | 0, _ => []
  | _, [] => []
  | fuel + 1, b :: rest =>
    let (c, length) := firstSequence b rest
    c.getD '\uFFFD' :: decodeLossyAux fuel ((b :: rest).drop length)

end Utf8

/-- Decodes UTF-8 bytes leniently: each ill-formed part (a byte that cannot start a sequence, or
the start of a sequence cut short) becomes one replacement character. -/
def decodeUtf8Lossy (bytes : List UInt8) : String :=
  String.ofList (Utf8.decodeLossyAux bytes.length bytes)

/-- Decodes UTF-8 bytes. -/
def decodeUtf8 (bytes : List UInt8) : Except DecodeError String :=
  (Utf8.decodeAt bytes.length 0 bytes).map String.ofList

/-- The byte order mark as UTF-8 bytes. -/
def byteOrderMark : List UInt8 := [0xEF, 0xBB, 0xBF]

/-- Decodes UTF-8 bytes after dropping one leading byte order mark; positions count from after
it. -/
def decodeUtf8Signed (bytes : List UInt8) : Except DecodeError String :=
  decodeUtf8 (if byteOrderMark.isPrefixOf bytes then bytes.drop 3 else bytes)

/-- Makes line ends uniform: `\r\n` and a lone `\r` become `\n`. -/
def uniformLineEnds : List Char → List Char
  | '\r' :: '\n' :: rest => '\n' :: uniformLineEnds rest
  | '\r' :: rest => '\n' :: uniformLineEnds rest
  | c :: rest => c :: uniformLineEnds rest
  | [] => []

/-- The UTF-8 bytes of a text. -/
def encodeUtf8 (text : String) : List UInt8 := text.toUTF8.toList

end SheetExport.Text
