/-!
# The stems of the classic porter tokenizer

The third and fourth versions of the full-text tables have a porter tokenizer of their own. It
reads runs of ASCII letters, digits, underscores and bytes above ASCII, and cuts each to a term:

* a word of three to twenty ASCII letters is lowered and goes through the steps of the Porter
  algorithm;
* any other word is only lowered, and when it is longer than twice a limit keeps its first and
  last letters up to the limit: three when it holds a digit, else ten.

The steps look at a word from its end, so here a word is held backwards, its last letter first:
a suffix is then a prefix of the list, and the letter before a letter is the next one in it.
-/

namespace SheetExport.Store.FullText.Stemmer

/-- Whether a byte is `a`, `e`, `i`, `o` or `u`. -/
def isPlainVowel (c : UInt8) : Bool := c == 97 || c == 101 || c == 105 || c == 111 || c == 117

mutual

/-- Whether the first letter of a backward word is a consonant: any letter but a plain vowel,
`y` only when it starts the word or follows a vowel. -/
def consonantAt : List UInt8 → Bool
  | [] => false
  | c :: rest =>
    if isPlainVowel c then false else if c == 121 then rest.isEmpty || vowelAt rest else true

/-- Whether the first letter of a backward word is a vowel: a plain vowel, or `y` after a
consonant. -/
def vowelAt : List UInt8 → Bool
  | [] => false
  | c :: rest => if isPlainVowel c then true else if c == 121 then consonantAt rest else false

end

/-- A backward word from its first letter that is not a vowel. -/
def skipVowels : List UInt8 → List UInt8
  | [] => []
  | word@(_ :: rest) => if vowelAt word then skipVowels rest else word

/-- A backward word from its first letter that is not a consonant. -/
def skipConsonants : List UInt8 → List UInt8
  | [] => []
  | word@(_ :: rest) => if consonantAt word then skipConsonants rest else word

/-- Whether the measure of a backward stem (its count of vowels-then-consonants stretches) is
above 0. -/
def measureAbove0 (word : List UInt8) : Bool :=
  let vowels := skipVowels word
  !vowels.isEmpty && !(skipConsonants vowels).isEmpty

/-- Whether the measure of a backward stem is exactly 1. -/
def measureIs1 (word : List UInt8) : Bool :=
  let first := skipVowels word
  let second := skipConsonants first
  let third := skipVowels second
  !first.isEmpty && !second.isEmpty && (third.isEmpty || (skipConsonants third).isEmpty)

/-- Whether the measure of a backward stem is above 1. -/
def measureAbove1 (word : List UInt8) : Bool :=
  let first := skipVowels word
  let second := skipConsonants first
  let third := skipVowels second
  !first.isEmpty && !second.isEmpty && !third.isEmpty && !(skipConsonants third).isEmpty

/-- Whether a backward stem holds a vowel. -/
def hasVowel (word : List UInt8) : Bool := !(skipConsonants word).isEmpty

/-- Whether a backward stem ends in a doubled consonant. -/
def doubleConsonant (word : List UInt8) : Bool :=
  consonantAt word &&
    match word with
    | a :: b :: _ => a == b
    | _ => false

/-- Whether a backward stem ends consonant, vowel, consonant, the last not `w`, `x` or `y`. -/
def endsShort (word : List UInt8) : Bool :=
  consonantAt word && !(word.head?.any fun c => c == 119 || c == 120 || c == 121) &&
    vowelAt (word.drop 1) && consonantAt (word.drop 2)

/-- A rule: a suffix, what replaces it, and what the stem before it must meet. -/
structure Rule where
  suffix : String
  replacement : String
  condition : List UInt8 → Bool

/-- The bytes of an ASCII text, last first. -/
def backward (text : String) : List UInt8 := (text.toList.map fun c => c.toNat.toUInt8).reverse

/-- A rule applied to a backward word: none when its suffix does not end the word; else the
word with the suffix replaced when the stem meets the condition, and as it was when not. -/
def Rule.apply (rule : Rule) (word : List UInt8) : Option (List UInt8) :=
  let suffix := backward rule.suffix
  if suffix.isPrefixOf word then
    let stem := word.drop suffix.length
    some (if rule.condition stem then backward rule.replacement ++ stem else word)
  else none

/-- The first rule whose suffix ends a backward word, applied; the word as it was when none
does. -/
def applyFirst (rules : List Rule) (word : List UInt8) : List UInt8 :=
  (rules.findSome? fun rule => rule.apply word).getD word

/-- A condition met by every stem. -/
def always (_ : List UInt8) : Bool := true

/-- Step 1a: plurals. `sses` and `ies` lose their `es`, `ss` stays, and any other `s` goes. -/
def pluralStep (word : List UInt8) : List UInt8 :=
  match word with
  | 115 :: rest =>
    ([⟨"sses", "ss", always⟩, ⟨"ies", "i", always⟩, ⟨"ss", "ss", always⟩] : List Rule).findSome?
      (fun rule => rule.apply word) |>.getD rest
  | _ => word

/-- The rest of step 1b after `ed` or `ing` went: `at`, `bl` and `iz` take an `e`; else a doubled
consonant other than `l`, `s` or `z` loses one letter, and a stem of measure 1 ending consonant,
vowel, consonant takes an `e`. -/
def pastRepair (word : List UInt8) : List UInt8 :=
  let rules : List Rule := [⟨"at", "ate", always⟩, ⟨"bl", "ble", always⟩, ⟨"iz", "ize", always⟩]
  match rules.findSome? fun rule => rule.apply word with
  | some repaired => repaired
  | none =>
    if doubleConsonant word && !(word.head?.any fun c => c == 108 || c == 115 || c == 122) then
      word.drop 1
    else if measureIs1 word && endsShort word then 101 :: word
    else word

/-- Step 1b: `eed` becomes `ee` after a stem of measure above 0; `ing` or else `ed` goes after a
stem holding a vowel, and the stem is then repaired. -/
def pastStep (word : List UInt8) : List UInt8 :=
  match (⟨"eed", "ee", measureAbove0⟩ : Rule).apply word with
  | some kept => kept
  | none =>
    let cut := match (⟨"ing", "", hasVowel⟩ : Rule).apply word with
      | some cut => some cut
      | none => (⟨"ed", "", hasVowel⟩ : Rule).apply word
    match cut with
    | some cut => if cut.length != word.length then pastRepair cut else cut
    | none => word

/-- Step 1c: a final `y` becomes `i` after a stem holding a vowel. -/
def yStep (word : List UInt8) : List UInt8 :=
  match word with
  | 121 :: rest => if hasVowel rest then 105 :: rest else word
  | _ => word

/-- Step 2: double suffixes to single ones, after stems of measure above 0. -/
def doubleRules : List Rule :=
  [⟨"ational", "ate", measureAbove0⟩, ⟨"tional", "tion", measureAbove0⟩,
   ⟨"enci", "ence", measureAbove0⟩, ⟨"anci", "ance", measureAbove0⟩,
   ⟨"izer", "ize", measureAbove0⟩, ⟨"logi", "log", measureAbove0⟩,
   ⟨"bli", "ble", measureAbove0⟩, ⟨"alli", "al", measureAbove0⟩,
   ⟨"entli", "ent", measureAbove0⟩, ⟨"eli", "e", measureAbove0⟩,
   ⟨"ousli", "ous", measureAbove0⟩, ⟨"ization", "ize", measureAbove0⟩,
   ⟨"ation", "ate", measureAbove0⟩, ⟨"ator", "ate", measureAbove0⟩,
   ⟨"alism", "al", measureAbove0⟩, ⟨"iveness", "ive", measureAbove0⟩,
   ⟨"fulness", "ful", measureAbove0⟩, ⟨"ousness", "ous", measureAbove0⟩,
   ⟨"aliti", "al", measureAbove0⟩, ⟨"iviti", "ive", measureAbove0⟩,
   ⟨"biliti", "ble", measureAbove0⟩]

/-- Step 3: `-ic-`, `-ful`, `-ness` and the like, after stems of measure above 0. -/
def endingRules : List Rule :=
  [⟨"icate", "ic", measureAbove0⟩, ⟨"ative", "", measureAbove0⟩, ⟨"alize", "al", measureAbove0⟩,
   ⟨"iciti", "ic", measureAbove0⟩, ⟨"ical", "ic", measureAbove0⟩, ⟨"ful", "", measureAbove0⟩,
   ⟨"ness", "", measureAbove0⟩]

/-- Step 4: suffixes taken off stems of measure above 1, `ion` only after `s` or `t`. -/
def stemRules : List Rule :=
  [⟨"al", "", measureAbove1⟩, ⟨"ance", "", measureAbove1⟩, ⟨"ence", "", measureAbove1⟩,
   ⟨"er", "", measureAbove1⟩, ⟨"ic", "", measureAbove1⟩, ⟨"able", "", measureAbove1⟩,
   ⟨"ible", "", measureAbove1⟩, ⟨"ant", "", measureAbove1⟩, ⟨"ement", "", measureAbove1⟩,
   ⟨"ment", "", measureAbove1⟩, ⟨"ent", "", measureAbove1⟩, ⟨"ou", "", measureAbove1⟩,
   ⟨"ion", "", fun stem => (stem.head?.any fun c => c == 115 || c == 116) && measureAbove1 stem⟩,
   ⟨"ism", "", measureAbove1⟩, ⟨"ate", "", measureAbove1⟩, ⟨"iti", "", measureAbove1⟩,
   ⟨"ous", "", measureAbove1⟩, ⟨"ive", "", measureAbove1⟩, ⟨"ize", "", measureAbove1⟩]

/-- Step 5a: a final `e` goes after a stem of measure above 1, or of measure 1 not ending
consonant, vowel, consonant. -/
def finalEStep (word : List UInt8) : List UInt8 :=
  match word with
  | 101 :: rest =>
    if measureAbove1 rest || (measureIs1 rest && !endsShort rest) then rest else word
  | _ => word

/-- Step 5b: a final `ll` loses an `l` in a word of measure above 1. -/
def doubleLStep (word : List UInt8) : List UInt8 :=
  match word with
  | 108 :: 108 :: rest => if measureAbove1 word then 108 :: rest else word
  | _ => word

/-- The stem of a word of lower-case ASCII letters. -/
def stem (word : List UInt8) : List UInt8 :=
  let word := pastStep (pluralStep word.reverse)
  let word := applyFirst doubleRules (yStep word)
  let word := applyFirst stemRules (applyFirst endingRules word)
  (doubleLStep (finalEStep word)).reverse

/-- An ASCII capital lowered; any other byte as it is. -/
def lowerByte (b : UInt8) : UInt8 := if 65 ≤ b && b ≤ 90 then b + 32 else b

/-- Whether a byte is an ASCII letter. -/
def isLetter (b : UInt8) : Bool := (65 ≤ b && b ≤ 90) || (97 ≤ b && b ≤ 122)

/-- A word that is not stemmed: lowered, and when longer than twice the limit (three with a
digit in it, else ten) only its first and last letters up to the limit. -/
def copied (word : List UInt8) : List UInt8 :=
  let lowered := word.map lowerByte
  let limit := if word.any fun b => 48 ≤ b && b ≤ 57 then 3 else 10
  if 2 * limit < word.length then lowered.take limit ++ lowered.drop (word.length - limit)
  else lowered

/-- The term of a word: its stem when it is three to twenty ASCII letters, else the word
copied. -/
def term (word : List UInt8) : List UInt8 :=
  if 3 ≤ word.length && word.length ≤ 20 && word.all isLetter then stem (word.map lowerByte)
  else copied word

/-- Whether a byte belongs to a word: an ASCII letter or digit, an underscore, or a byte above
ASCII. -/
def isWordByte (b : UInt8) : Bool :=
  0x80 ≤ b || isLetter b || (48 ≤ b && b ≤ 57) || b == 95

end SheetExport.Store.FullText.Stemmer
