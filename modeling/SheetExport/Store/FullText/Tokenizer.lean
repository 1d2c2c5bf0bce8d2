import SheetExport.Store.Characters
import SheetExport.Text.Category
import SheetExport.Text.CaseFold
import SheetExport.Store.FullText.Stemmer

/-!
# Cutting text into terms

A full-text table finds rows by the terms of their text. A tokenizer cuts the bytes of a text into
tokens: the term each stands for, with the range of bytes it was read from. A token's position is
its place in the list.

* The Unicode tokenizer reads runs of word characters: those of the general categories it is
  given (letters, numbers and private-use characters unless told otherwise), and inside a run
  also the combining accents. Each character is lowered, and unless
  `accents` is 0 a small Latin letter loses its accents (with 1 only a letter carrying one mark)
  and the accents themselves vanish. Token characters and separators given to it move characters
  between the two classes: an ASCII character takes the last class given for it, any other the
  class given when that differs from its own.
* The ASCII tokenizer reads runs of ASCII letters and digits and of bytes above ASCII, lowering
  ASCII capitals only.
* The Porter tokenizer cuts the tokens another tokenizer reads to their English stems, by the
  Porter algorithm, leaving those shorter than three bytes or longer than 64 as they are.
* The stemming tokenizer of the third and fourth versions reads runs of ASCII letters, digits,
  underscores and bytes above ASCII, and cuts each to its term by its own stemmer.
* The trigram tokenizer gives every three characters in a row, lowered unless it keeps the case;
  a NUL character ends the text.
-/

namespace SheetExport.Store.FullText

/-- How a full-text table cuts text into terms. -/
inductive Tokenizer where
  /-- Words of the characters of some general categories; the level of accent removal, the
  categories, and the characters moved between the classes, each with whether it is now a token
  character. -/
  | unicode (accents : Nat) (categories : List Nat) (overrides : List (Nat × Bool))
  /-- Runs of ASCII letters, digits and bytes above ASCII. -/
  | ascii (overrides : List (Nat × Bool))
  /-- The stems of the tokens another tokenizer reads. -/
  | porter (base : Tokenizer)
  /-- Every three characters in a row. -/
  | trigram (caseSensitive : Bool)
  /-- Runs of ASCII letters, digits, underscores and bytes above ASCII, each cut to its stem. -/
  | wordStems
  deriving DecidableEq, Repr, Inhabited

/-- A token: its term, and the byte offsets of its first byte and just past its last. -/
structure Token where
  term : List UInt8
  start : Nat
  stop : Nat
  deriving DecidableEq, Repr, Inhabited

/-- The bytes of an ASCII text. -/
def asciiBytes (text : String) : List UInt8 := text.toList.map fun c => c.toNat.toUInt8

/-- The characters of some bytes, each with the offset of its first byte. -/
def charactersAt (bytes : List UInt8) : List (List UInt8 × Nat) :=
  ((Characters.split bytes).foldl (fun (acc : List (List UInt8 × Nat) × Nat) char =>
    ((char, acc.2) :: acc.1, acc.2 + char.length)) ([], 0)).1.reverse

/-- Whether an ASCII code is a letter or a digit. -/
def isAsciiWord (code : Nat) : Bool :=
  (0x30 ≤ code && code ≤ 0x39) || (0x41 ≤ code && code ≤ 0x5A) || (0x61 ≤ code && code ≤ 0x7A)

/-- An ASCII code lowered. -/
def lowerAscii (code : Nat) : Nat := if 0x41 ≤ code && code ≤ 0x5A then code + 32 else code

/-- Whether a code point is one of the combining accents that may go on inside a word. -/
def isAccent (code : Nat) : Bool :=
  (768 ≤ code && code ≤ 772) || (774 ≤ code && code ≤ 780) || code == 783 || code == 785 ||
    code == 795 || (803 ≤ code && code ≤ 808) || code == 813 || code == 814 || code == 816 ||
    code == 817

/-- The bytes a character of a word becomes: lowered, and in the Basic Multilingual Plane stripped
of its accents when `accents` is not 0, an accent mark then vanishing. -/
def foldedBytes (accents : Nat) (code : Nat) : List UInt8 :=
  if code < 0x80 then [(lowerAscii code).toUInt8]
  else if code < 0x10000 then
    let lower := Text.lowerPoint code
    if accents == 0 then Characters.encode lower
    else if isAccent lower then []
    else Characters.encode (Text.withoutAccent (accents == 2) lower)
  else Characters.encode (Text.lowerPoint code)

/-- Whether the Unicode tokenizer takes a code point as a word character. -/
def unicodeWordChar (categories : List Nat) (overrides : List (Nat × Bool)) (code : Nat) : Bool :=
  let own := code != 0 && categories.contains (Text.category code)
  if code < 0x80 then ((overrides.filter (·.1 == code)).getLast?.map (·.2)).getD own
  else if isAccent code then own
  else if overrides.any fun (other, token) => other == code && token != own then !own
  else own

/-- The tokens of the Unicode tokenizer. -/
def unicodeTokens (accents : Nat) (categories : List Nat) (overrides : List (Nat × Bool))
    (bytes : List UInt8) : List Token :=
  let isWord := unicodeWordChar categories overrides
  let step (state : Option Token × List Token) (entry : List UInt8 × Nat) :
      Option Token × List Token :=
    let (current, done) := state
    let (char, offset) := entry
    let code := Characters.pointOf char
    let stop := offset + char.length
    match current with
    | none =>
      if isWord code then (some ⟨foldedBytes accents code, offset, stop⟩, done) else (none, done)
    | some token =>
      if isWord code || (0x80 ≤ code && isAccent code) then
        (some { token with term := token.term ++ foldedBytes accents code, stop := stop }, done)
      else (none, token :: done)
  let (last, done) := (charactersAt bytes).foldl step (none, [])
  (match last with
    | some token => token :: done
    | none => done).reverse

/-- The tokens of the ASCII tokenizer: runs of word bytes, each byte above ASCII one of them. -/
def asciiTokens (overrides : List (Nat × Bool)) (bytes : List UInt8) : List Token :=
  let isWord (byte : UInt8) : Bool :=
    0x80 ≤ byte ||
      ((overrides.filter (·.1 == byte.toNat)).getLast?.map (·.2)).getD (isAsciiWord byte.toNat)
  let step (state : Option Token × List Token) (entry : UInt8 × Nat) :
      Option Token × List Token :=
    let (current, done) := state
    let (byte, offset) := entry
    let folded := (lowerAscii byte.toNat).toUInt8
    match current with
    | none => if isWord byte then (some ⟨[folded], offset, offset + 1⟩, done) else (none, done)
    | some token =>
      if isWord byte then
        (some { token with term := token.term ++ [folded], stop := offset + 1 }, done)
      else (none, token :: done)
  let (last, done) := (bytes.zipIdx.foldl step (none, []))
  (match last with
    | some token => token :: done
    | none => done).reverse

/-- The tokens of the stemming tokenizer: runs of word bytes, each with its term. -/
def stemTokens (bytes : List UInt8) : List Token :=
  let step (state : Option (List UInt8 × Nat) × List Token) (entry : UInt8 × Nat) :
      Option (List UInt8 × Nat) × List Token :=
    let (current, done) := state
    let (byte, offset) := entry
    match current, Stemmer.isWordByte byte with
    | none, true => (some ([byte], offset), done)
    | none, false => (none, done)
    | some (word, start), true => (some (word ++ [byte], start), done)
    | some (word, start), false =>
      (none, (⟨Stemmer.term word, start, start + word.length⟩ : Token) :: done)
  let (last, done) := bytes.zipIdx.foldl step (none, [])
  (match last with
    | some (word, start) => (⟨Stemmer.term word, start, start + word.length⟩ : Token) :: done
    | none => done).reverse

/-- The tokens of the trigram tokenizer: each three characters in a row before the first NUL,
lowered unless `caseSensitive`. -/
def trigramTokens (caseSensitive : Bool) (bytes : List UInt8) : List Token :=
  let chars := (charactersAt bytes).takeWhile fun (char, _) => Characters.pointOf char != 0
  let fold (char : List UInt8) : List UInt8 :=
    if caseSensitive then Characters.encode (Characters.pointOf char)
    else Characters.encode (Text.lowerPoint (Characters.pointOf char))
  let rec windows : List (List UInt8 × Nat) → List Token
    | (a, start) :: rest@((b, _) :: (c, last) :: _) =>
      ⟨fold a ++ fold b ++ fold c, start, last + c.length⟩ :: windows rest
    | _ => []
  windows chars

namespace Porter

/-- Whether a letter is a vowel; `y` is one when `yIsVowel`. -/
def isVowel (c : UInt8) (yIsVowel : Bool) : Bool :=
  c == 97 || c == 101 || c == 105 || c == 111 || c == 117 || (yIsVowel && c == 121)

/-- Reads up to the first vowel, a letter being a consonant unless it is a vowel after a
consonant (for `y`); the number of letters read and the rest. -/
def toVowel (afterConsonant : Bool) : List UInt8 → Option (Nat × List UInt8)
  | [] => none
  | c :: rest =>
    if isVowel c afterConsonant then some (1, rest)
    else (toVowel true rest).map fun (n, left) => (n + 1, left)

/-- Reads up to the first consonant after a vowel; the number of letters read. -/
def toConsonant (afterConsonant : Bool) : List UInt8 → Option Nat
  | [] => none
  | c :: rest => if !isVowel c afterConsonant then some 1 else (toConsonant false rest).map (· + 1)

/-- The length of the first vowels-then-consonant stretch of a stem, 0 when it has none. -/
def stretch (stem : List UInt8) (afterConsonant : Bool) : Nat :=
  match toVowel afterConsonant stem with
  | some (n, rest) => ((toConsonant false rest).map (n + ·)).getD 0
  | none => 0

/-- Whether the measure of a stem is above 0. -/
def measureAbove0 (stem : List UInt8) : Bool := stretch stem false != 0

/-- Whether the measure of a stem is above 1. -/
def measureAbove1 (stem : List UInt8) : Bool :=
  let n := stretch stem false
  n != 0 && stretch (stem.drop n) true != 0

/-- Whether the measure of a stem is 1. -/
def measureIs1 (stem : List UInt8) : Bool :=
  let n := stretch stem false
  n != 0 && stretch (stem.drop n) true == 0

/-- Whether a stem ends consonant, vowel, consonant, the last not `w`, `x` or `y`. -/
def endsCvc (stem : List UInt8) : Bool :=
  match stem.getLast? with
  | some last =>
    if last == 119 || last == 120 || last == 121 then false
    else
      let flags := (stem.foldl (fun (acc : List Bool × Bool) c =>
        let consonant := !isVowel c acc.2
        (consonant :: acc.1, consonant)) ([], false)).1
      match flags with
      | true :: false :: true :: _ => true
      | _ => false
  | none => false

/-- Whether a stem holds a vowel, `y` counting after the first letter. -/
def hasVowel (stem : List UInt8) : Bool :=
  stem.zipIdx.any fun (c, i) => isVowel c (0 < i)

/-- What a suffix rule asks of the stem before its suffix. -/
inductive Condition where
  | above0
  | above1
  /-- A measure above 1 and a last letter `s` or `t`. -/
  | above1AfterST
  | always
  deriving DecidableEq, Repr

/-- Whether a stem meets a condition. -/
def Condition.holds (stem : List UInt8) : Condition → Bool
  | .above0 => measureAbove0 stem
  | .above1 => measureAbove1 stem
  | .above1AfterST =>
    (stem.getLast?.any fun c => c == 115 || c == 116) && measureAbove1 stem
  | .always => true

/-- A rule: a suffix, what replaces it, and the condition on the stem. -/
structure Rule where
  suffix : String
  replacement : String
  condition : Condition

/-- Applies the first rule whose suffix ends the word with a letter before it, when its stem
meets its condition; whether a rule was applied. -/
def applyFirst (rules : List Rule) (word : List UInt8) : List UInt8 × Bool :=
  match rules.find? fun rule =>
      let suffix := asciiBytes rule.suffix
      suffix.length < word.length && word.drop (word.length - suffix.length) == suffix with
  | some rule =>
    let stem := word.take (word.length - rule.suffix.length)
    if rule.condition.holds stem then (stem ++ asciiBytes rule.replacement, true) else (word, false)
  | none => (word, false)

/-- Step 1a: plurals. -/
def pluralStep (word : List UInt8) : List UInt8 :=
  let n := word.length
  let at_ (i : Nat) : UInt8 := word.getD i 0
  if 0 < n && at_ (n - 1) == 115 then
    if 2 ≤ n && at_ (n - 2) == 101 then
      if (4 < n && at_ (n - 4) == 115 && at_ (n - 3) == 115) || (3 < n && at_ (n - 3) == 105)
      then word.take (n - 2)
      else word.take (n - 1)
    else if 2 ≤ n && at_ (n - 2) == 115 then word
    else word.take (n - 1)
  else word

/-- Step 1b: `eed`, `ed` and `ing`; whether `ed` or `ing` was taken off. -/
def pastStep (word : List UInt8) : List UInt8 × Bool :=
  let ends (suffix : String) : Bool :=
    let bytes := asciiBytes suffix
    bytes.length < word.length && word.drop (word.length - bytes.length) == bytes
  let stemOf (length : Nat) : List UInt8 := word.take (word.length - length)
  if ends "eed" then
    (if measureAbove0 (stemOf 3) then stemOf 3 ++ asciiBytes "ee" else word, false)
  else if ends "ed" then
    if hasVowel (stemOf 2) then (stemOf 2, true) else (word, false)
  else if ends "ing" then
    if hasVowel (stemOf 3) then (stemOf 3, true) else (word, false)
  else (word, false)

/-- The rest of step 1b after `ed` or `ing` went: `at`, `bl` and `iz` take an `e`; else a double
consonant other than `l`, `s` or `z` loses one letter, and a short stem ending consonant, vowel,
consonant takes an `e`. -/
def pastRepair (word : List UInt8) : List UInt8 :=
  match applyFirst [⟨"at", "ate", .always⟩, ⟨"bl", "ble", .always⟩, ⟨"iz", "ize", .always⟩]
      word with
  | (repaired, true) => repaired
  | _ =>
    match word.reverse with
    | c :: d :: _ =>
      if !isVowel c false && c != 108 && c != 115 && c != 122 && c == d then word.dropLast
      else if measureIs1 word && endsCvc word then word ++ [101]
      else word
    | _ => if measureIs1 word && endsCvc word then word ++ [101] else word

/-- Step 2: double suffixes to single ones. -/
def doubleRules : List Rule :=
  [⟨"ational", "ate", .above0⟩, ⟨"tional", "tion", .above0⟩, ⟨"enci", "ence", .above0⟩,
   ⟨"anci", "ance", .above0⟩, ⟨"izer", "ize", .above0⟩, ⟨"logi", "log", .above0⟩,
   ⟨"bli", "ble", .above0⟩, ⟨"alli", "al", .above0⟩, ⟨"entli", "ent", .above0⟩,
   ⟨"eli", "e", .above0⟩, ⟨"ousli", "ous", .above0⟩, ⟨"ization", "ize", .above0⟩,
   ⟨"ation", "ate", .above0⟩, ⟨"ator", "ate", .above0⟩, ⟨"alism", "al", .above0⟩,
   ⟨"iveness", "ive", .above0⟩, ⟨"fulness", "ful", .above0⟩, ⟨"ousness", "ous", .above0⟩,
   ⟨"aliti", "al", .above0⟩, ⟨"iviti", "ive", .above0⟩, ⟨"biliti", "ble", .above0⟩]

/-- Step 3: `-ic-`, `-full`, `-ness` and the like. -/
def endingRules : List Rule :=
  [⟨"ical", "ic", .above0⟩, ⟨"ness", "", .above0⟩, ⟨"icate", "ic", .above0⟩,
   ⟨"iciti", "ic", .above0⟩, ⟨"ful", "", .above0⟩, ⟨"ative", "", .above0⟩,
   ⟨"alize", "al", .above0⟩]

/-- Step 4: suffixes taken off stems of measure above 1. -/
def stemRules : List Rule :=
  [⟨"al", "", .above1⟩, ⟨"ance", "", .above1⟩, ⟨"ence", "", .above1⟩, ⟨"er", "", .above1⟩,
   ⟨"ic", "", .above1⟩, ⟨"able", "", .above1⟩, ⟨"ible", "", .above1⟩, ⟨"ant", "", .above1⟩,
   ⟨"ement", "", .above1⟩, ⟨"ment", "", .above1⟩, ⟨"ent", "", .above1⟩,
   ⟨"ion", "", .above1AfterST⟩, ⟨"ou", "", .above1⟩, ⟨"ism", "", .above1⟩,
   ⟨"ate", "", .above1⟩, ⟨"iti", "", .above1⟩, ⟨"ous", "", .above1⟩, ⟨"ive", "", .above1⟩,
   ⟨"ize", "", .above1⟩]

/-- The stem of a word of at least one letter. -/
def stem (word : List UInt8) : List UInt8 :=
  let word := pluralStep word
  let word := match pastStep word with
    | (cut, true) => pastRepair cut
    | (kept, false) => kept
  let word := match word.reverse with
    | 121 :: _ => if hasVowel word.dropLast then word.dropLast ++ [105] else word
    | _ => word
  let word := (applyFirst doubleRules word).1
  let word := (applyFirst endingRules word).1
  let word := (applyFirst stemRules word).1
  let word := match word.reverse with
    | 101 :: _ =>
      let before := word.dropLast
      if measureAbove1 before || (measureIs1 before && !endsCvc before) then before else word
    | _ => word
  match word.reverse with
  | 108 :: 108 :: _ => if measureAbove1 word.dropLast then word.dropLast else word
  | _ => word

end Porter

/-- The tokens of a text. -/
def Tokenizer.tokens : Tokenizer → List UInt8 → List Token
  | .unicode accents categories overrides, bytes =>
    unicodeTokens accents categories overrides bytes
  | .ascii overrides, bytes => asciiTokens overrides bytes
  | .porter base, bytes =>
    (base.tokens bytes).map fun token =>
      if 3 ≤ token.term.length && token.term.length ≤ 64 then
        { token with term := Porter.stem token.term }
      else token
  | .trigram caseSensitive, bytes => trigramTokens caseSensitive bytes
  | .wordStems, bytes => stemTokens bytes

/-- The terms of a text, in order. -/
def Tokenizer.terms (tokenizer : Tokenizer) (bytes : List UInt8) : List (List UInt8) :=
  (tokenizer.tokens bytes).map (·.term)

end SheetExport.Store.FullText
