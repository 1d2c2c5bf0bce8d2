import SheetExport.Json.Value
import SheetExport.Number.Integer
import SheetExport.Text.Surrogate

/-!
# Reading JSON text

The reader takes the JSON grammar with three named constants besides it: `NaN`, `Infinity` and
`-Infinity`. A number with a fraction or an exponent is a binary64 number, any other number an
integer. Blanks between tokens are space, tab, newline and carriage return.

A refusal names what was expected and the character position where reading stopped; its message
adds the line and column of that position. An integer of more than 4300 digits is refused as it
is met, as a conversion of its digits refuses it. The first fault met wins: an object reports a missing
member name, colon or comma at the character that should have been one, and a value that is
missing is reported where it should have started.

Each array and object is read by a call of its own, so how deep they may nest is bounded by the
interpreter's recursion: the reader is given the number of containers that may still be opened,
its recursion limit less the calls under way, and a container met beyond it fails with a
recursion error as it opens.
-/

namespace SheetExport

/-- The values that hold others. -/
inductive Container where
  | array
  | object
  deriving DecidableEq, Repr

/-- The name of a kind of container. -/
def Container.name : Container → String
  | .array => "array"
  | .object => "object"

/-- Why a text is not a JSON document. -/
inductive JsonError where
  /-- The text breaks the grammar: what reading expected or found, the position where it
  stopped, counted in characters from zero, and the text that was read. -/
  | malformed (reason : String) (position : Nat) (text : String)
  /-- An integer has more digits than a conversion accepts. -/
  | tooLong (digitCount : Nat)
  /-- A container opens where no more may: the interpreter's recursion is used up. -/
  | tooDeep (container : Container)
  deriving Repr

namespace JsonError

/-- The line of a position in a text, counted from one. -/
def lineOf (text : String) (position : Nat) : Nat :=
  ((text.toList.take position).filter (· == '\n')).length + 1

/-- The column of a position in a text, counted from one. -/
def columnOf (text : String) (position : Nat) : Nat :=
  let before := text.toList.take position
  match (before.reverse.findIdx? (· == '\n')) with
  | some distance => distance + 1
  | none => position + 1

/-- The message of a refusal: for a text that breaks the grammar, the reason, then where reading
stopped. -/
def message : JsonError → String
  | .malformed reason position text =>
    reason ++ ": line " ++ Nat.repr (lineOf text position) ++ " column " ++
      Nat.repr (columnOf text position) ++ " (char " ++ Nat.repr position ++ ")"
  | .tooLong count => (NumeralError.tooLong count).message
  | .tooDeep container =>
    "maximum recursion depth exceeded while decoding a JSON " ++ container.name ++
      " from a unicode string"

/-- What a refusal expected or found; for a number too long, its whole message. -/
def reason : JsonError → String
  | .malformed reason _ _ => reason
  | other => other.message

end JsonError

namespace JsonReader

/-- A failure while reading: a refusal with its reason, no value where one should start, which
the caller reports as a missing value, an integer too long to convert, or a container opened
where no more may be. -/
inductive Failure where
  | refused (reason : String) (position : Nat)
  | noValue (position : Nat)
  /-- An integer of this many digits, more than a conversion accepts. -/
  | tooLong (digitCount : Nat)
  | tooDeep (container : Container)

/-- The result of reading from a position: a value and the position after it. -/
abbrev Step (α : Type) := Except Failure (α × Nat)

/-- Whether a character is a blank between tokens. -/
def isGap (c : Char) : Bool := c == ' ' || c == '\t' || c == '\n' || c == '\r'

/-- Whether a character is an ASCII digit. -/
def isDigit (c : Char) : Bool := '0' ≤ c && c ≤ '9'

/-- The first position at or after `position` that holds no blank. -/
def skipGaps (chars : Array Char) (position : Nat) : Nat :=
  go (chars.size - position) position
where
  go : Nat → Nat → Nat
    | 0, position => position
    | fuel + 1, position =>
      match chars[position]? with
      | some c => if isGap c then go fuel (position + 1) else position
      | none => position

/-- Whether the characters from `position` spell `word`. -/
def spells (chars : Array Char) (position : Nat) (word : String) : Bool :=
  (word.toList.zipIdx).all fun (c, offset) => chars[position + offset]? == some c

/-- The first position at or after `position` that holds no ASCII digit. -/
def skipDigits (chars : Array Char) (position : Nat) : Nat :=
  go (chars.size - position) position
where
  go : Nat → Nat → Nat
    | 0, position => position
    | fuel + 1, position =>
      match chars[position]? with
      | some c => if isDigit c then go fuel (position + 1) else position
      | none => position

/-- The value of a run of ASCII digits. -/
def digitsValue (digits : List Char) : Nat :=
  digits.foldl (fun acc c => acc * 10 + (c.toNat - '0'.toNat)) 0

/-- The characters from `start` up to `stop`. -/
def slice (chars : Array Char) (start stop : Nat) : List Char :=
  ((chars.toList.drop start).take (stop - start))

/-- A number starting at `start`: an optional minus, an integer part without leading zeros, an
optional fraction with at least one digit and an optional exponent with at least one digit. An
exponent or a point that is not followed by digits is left unread. -/
def readNumber (chars : Array Char) (start : Nat) : Step Json :=
  let last := chars.size - 1
  let afterSign := if chars[start]? == some '-' then start + 1 else start
  let negative := afterSign != start
  match chars[afterSign]? with
  | none => .error (.noValue start)
  | some first =>
    if !isDigit first then .error (.noValue start)
    else
      let afterInteger := if first == '0' then afterSign + 1 else skipDigits chars (afterSign + 1)
      let hasFraction := afterInteger < last && chars[afterInteger]? == some '.' &&
        (chars[afterInteger + 1]?.map isDigit).getD false
      let afterFraction := if hasFraction then skipDigits chars (afterInteger + 2) else afterInteger
      let exponentStart := afterFraction
      let hasMark := exponentStart < last &&
        (chars[exponentStart]? == some 'e' || chars[exponentStart]? == some 'E')
      let afterMark := exponentStart + 1
      let afterExpSign :=
        if hasMark && afterMark < last &&
            (chars[afterMark]? == some '-' || chars[afterMark]? == some '+')
        then afterMark + 1 else afterMark
      let afterExpDigits := skipDigits chars afterExpSign
      let hasExponent := hasMark && afterExpSign < afterExpDigits
      let stop := if hasExponent then afterExpDigits else afterFraction
      let integerDigits := slice chars afterSign afterInteger
      if hasFraction || hasExponent then
        let fractionDigits := if hasFraction then slice chars (afterInteger + 1) afterFraction else []
        let exponentNegative := chars[afterMark]? == some '-'
        let exponentMagnitude : Int := digitsValue (slice chars afterExpSign afterExpDigits)
        let exponent : Int :=
          if hasExponent then (if exponentNegative then -exponentMagnitude else exponentMagnitude)
          else 0
        let digits := digitsValue (integerDigits ++ fractionDigits)
        .ok (.float (Binary64.ofDecimal negative digits (exponent - fractionDigits.length)), stop)
      else if NumeralError.digitLimit < integerDigits.length then
        .error (.tooLong integerDigits.length)
      else
        let magnitude : Int := digitsValue integerDigits
        .ok (.int (if negative then -magnitude else magnitude), stop)

/-- The value of a hexadecimal digit. -/
def hexValue? (c : Char) : Option Nat :=
  if '0' ≤ c && c ≤ '9' then some (c.toNat - '0'.toNat)
  else if 'a' ≤ c && c ≤ 'f' then some (c.toNat - 'a'.toNat + 10)
  else if 'A' ≤ c && c ≤ 'F' then some (c.toNat - 'A'.toNat + 10)
  else none

/-- The value of four hexadecimal digits from `position`. -/
def hexQuad? (chars : Array Char) (position : Nat) : Option Nat :=
  [0, 1, 2, 3].foldlM (fun acc offset => do
    let c ← chars[position + offset]?
    let d ← hexValue? c
    pure (acc * 16 + d)) 0

/-- The character of a code point; a lone surrogate is carried as `Text.carrySurrogate` says. -/
def codeChar (code : Nat) : Char :=
  if code.isValidChar then Char.ofNat code else Text.carrySurrogate code

/-- The rest of a string whose opening quote stands at `begin`, read from `position`. A control
character below U+0020 is refused, as is an unknown escape; `\u` takes four hexadecimal digits,
and a high surrogate followed by an escaped low surrogate makes one character. -/
def readString (chars : Array Char) (begin : Nat) : Nat → Nat → List Char → Step String
  | 0, position, _ => .error (.refused "Unterminated string starting at" position)
  | fuel + 1, position, acc =>
    match chars[position]? with
    | none => .error (.refused "Unterminated string starting at" begin)
    | some '"' => .ok (String.ofList acc.reverse, position + 1)
    | some '\\' =>
      match chars[position + 1]? with
      | none => .error (.refused "Unterminated string starting at" begin)
      | some 'u' =>
        let digitsStart := position + 2
        if chars.size ≤ digitsStart + 4 then
          .error (.refused "Invalid \\uXXXX escape" (position + 1))
        else
          match hexQuad? chars digitsStart with
          | none => .error (.refused "Invalid \\uXXXX escape" (position + 1))
          | some code =>
            let afterFirst := digitsStart + 4
            let isHigh := 0xD800 ≤ code && code ≤ 0xDBFF
            if isHigh && afterFirst + 6 < chars.size && chars[afterFirst]? == some '\\' &&
                chars[afterFirst + 1]? == some 'u' then
              match hexQuad? chars (afterFirst + 2) with
              | none => .error (.refused "Invalid \\uXXXX escape" (afterFirst + 1))
              | some low =>
                if 0xDC00 ≤ low && low ≤ 0xDFFF then
                  let joined := 0x10000 + (code - 0xD800) * 0x400 + (low - 0xDC00)
                  readString chars begin fuel (afterFirst + 6) (codeChar joined :: acc)
                else readString chars begin fuel afterFirst (codeChar code :: acc)
            else readString chars begin fuel afterFirst (codeChar code :: acc)
      | some c =>
        let simple : Option Char :=
          match c with
          | '"' => some '"' | '\\' => some '\\' | '/' => some '/'
          | 'b' => some '\x08' | 'f' => some '\x0c' | 'n' => some '\n'
          | 'r' => some '\r' | 't' => some '\t'
          | _ => none
        match simple with
        | some decoded => readString chars begin fuel (position + 2) (decoded :: acc)
        | none => .error (.refused "Invalid \\escape" position)
    | some c =>
      if c.toNat ≤ 0x1F then .error (.refused "Invalid control character at" position)
      else readString chars begin fuel (position + 1) (c :: acc)

/-- Opens a container with room for `nesting` containers: what is inside has room for one less,
and with no room left the container fails as it opens. -/
def enter (container : Container) (nesting : Nat) (inside : Nat → Step Json) : Step Json :=
  match nesting with
  | 0 => .error (.tooDeep container)
  | nesting + 1 => inside nesting

mutual

/-- A value starting at `position`, with room for `nesting` more containers. -/
def readValue (chars : Array Char) : Nat → Nat → Nat → Step Json
  | 0, _, position => .error (.noValue position)
  | fuel + 1, nesting, position =>
    match chars[position]? with
    | none => .error (.noValue position)
    | some '"' =>
      match readString chars position (chars.size + 1) (position + 1) [] with
      | .ok (text, next) => .ok (.str text, next)
      | .error e => .error e
    | some '{' =>
      enter .object nesting fun inner =>
        readMembers chars fuel inner (skipGaps chars (position + 1)) [] true
    | some '[' =>
      enter .array nesting fun inner =>
        readItems chars fuel inner (skipGaps chars (position + 1)) [] true
    | some c =>
      if c == 'n' && spells chars position "null" then .ok (.null, position + 4)
      else if c == 't' && spells chars position "true" then .ok (.bool true, position + 4)
      else if c == 'f' && spells chars position "false" then .ok (.bool false, position + 5)
      else if c == 'N' && spells chars position "NaN" then .ok (.float .nan, position + 3)
      else if c == 'I' && spells chars position "Infinity" then
        .ok (.float (.infinity false), position + 8)
      else if c == '-' && spells chars position "-Infinity" then
        .ok (.float (.infinity true), position + 9)
      else readNumber chars position
termination_by structural fuel => fuel

/-- The items of an array from `position`, after its opening bracket and blanks, each with room
for `nesting` more containers. -/
def readItems (chars : Array Char) : Nat → Nat → Nat → List Json → Bool → Step Json
  | 0, _, position, _, _ => .error (.noValue position)
  | fuel + 1, nesting, position, acc, first =>
    if first && chars[position]? == some ']' then .ok (.arr [], position + 1)
    else
      match readValue chars fuel nesting position with
      | .error e => .error e
      | .ok (item, next) =>
        let after := skipGaps chars next
        match chars[after]? with
        | some ']' => .ok (.arr (item :: acc).reverse, after + 1)
        | some ',' => readItems chars fuel nesting (skipGaps chars (after + 1)) (item :: acc) false
        | _ => .error (.refused "Expecting ',' delimiter" after)
termination_by structural fuel => fuel

/-- The members of an object from `position`, after its opening brace and blanks, each value with
room for `nesting` more containers. -/
def readMembers (chars : Array Char) : Nat → Nat → Nat → List (String × Json) → Bool → Step Json
  | 0, _, position, _, _ => .error (.noValue position)
  | fuel + 1, nesting, position, acc, first =>
    if first && chars[position]? == some '}' then .ok (.obj [], position + 1)
    else if chars[position]? != some '"' then
      .error (.refused "Expecting property name enclosed in double quotes" position)
    else
      match readString chars position (chars.size + 1) (position + 1) [] with
      | .error e => .error e
      | .ok (key, afterKey) =>
        let colon := skipGaps chars afterKey
        if chars[colon]? != some ':' then .error (.refused "Expecting ':' delimiter" colon)
        else
          match readValue chars fuel nesting (skipGaps chars (colon + 1)) with
          | .error e => .error e
          | .ok (value, next) =>
            let members := Json.setMember key value acc
            let after := skipGaps chars next
            match chars[after]? with
            | some '}' => .ok (.obj members, after + 1)
            | some ',' => readMembers chars fuel nesting (skipGaps chars (after + 1)) members false
            | _ => .error (.refused "Expecting ',' delimiter" after)
termination_by structural fuel => fuel

end

end JsonReader

namespace Json

open JsonReader in
/-- Reads a whole text as one JSON document, with blanks allowed around it and room for `nesting`
containers, one inside the other. A text that starts with a byte order mark is refused. -/
def parse (nesting : Nat) (text : String) : Except JsonError Json :=
  let chars := text.toList.toArray
  let refuse (reason : String) (position : Nat) : Except JsonError Json :=
    .error (.malformed reason position text)
  if chars[0]? == some '﻿' then refuse "Unexpected UTF-8 BOM (decode using utf-8-sig)" 0
  else
    let start := skipGaps chars 0
    match readValue chars (2 * chars.size + 4) nesting start with
    | .error (.refused reason position) => refuse reason position
    | .error (.noValue position) => refuse "Expecting value" position
    | .error (.tooLong count) => .error (.tooLong count)
    | .error (.tooDeep container) => .error (.tooDeep container)
    | .ok (value, next) =>
      let stop := skipGaps chars next
      if stop == chars.size then .ok value else refuse "Extra data" stop

end Json

end SheetExport
