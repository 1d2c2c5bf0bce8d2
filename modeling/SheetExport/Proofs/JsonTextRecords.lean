import Mathlib
import SheetExport.Json.Reader
import SheetExport.Json.Writer
import SheetExport.Proofs.TextLayout
import SheetExport.Proofs.JsonObjects

/-!
# Text records in JSON text

A record of text members, such as the access-token cache, is written as an object with two
spaces of indentation and every character outside ASCII escaped. This module shows that reading
that text gives the record back.

Each character of a text is written in one of four ways (`Written`): as itself, as a backslash
and a letter, as the escape of one UTF-16 unit, or as the escapes of a surrogate pair. The reader
takes each way back (`readString_written`), with one exception it cannot see: a carried high
surrogate written right before a carried low one reads back as the single character of the pair.
A text without such a neighbourhood (`Unpaired`) reads back whole (`readString_escaped`), and so
does a record of such texts under distinct names (`parse_render_textRecord`).

Each array that opens takes one unit of the reader's room for nesting, so a run of opening brackets
one longer than the room is refused as too deep (`parse_brackets`).
-/

namespace SheetExport

open Text

/-! ## Reading at a position -/

namespace JsonReader

/-- The digits of a number in `width` places of base 16, the leading places zero. -/
def hexPlaces : Nat → Nat → List Char
  | 0, _ => []
  | width + 1, n => hexPlaces width (n / 16) ++ [Nat.digitChar (n % 16)]

theorem hexPlaces_zero : ∀ width, hexPlaces width 0 = List.replicate width '0'
  | 0 => rfl
  | width + 1 => by
      rw [hexPlaces, hexPlaces_zero width, List.replicate_succ']
      rfl

/-- The hexadecimal digits written for a number below `16 ^ width` fill exactly `width` places. -/
theorem hexDigits_toList : ∀ (width n : Nat), 0 < width → n < 16 ^ width →
    (Text.hexDigits width n).toList = hexPlaces width n
  | 0, _, positive, _ => absurd positive (Nat.lt_irrefl 0)
  | width + 1, n, _, small => by
      rw [Text.hexDigits, String.toList_ofList]
      rcases Nat.lt_or_ge n 16 with digit | wide
      · rw [Nat.toDigits_of_lt_base digit, hexPlaces, Nat.div_eq_of_lt digit, hexPlaces_zero,
          Nat.mod_eq_of_lt digit]
        simp
      · have positive : 0 < width := by
          rcases Nat.eq_zero_or_pos width with rfl | positive
          · simp at small; omega
          · exact positive
        have rest : n / 16 < 16 ^ width := by
          rw [pow_succ] at small
          omega
        have restDigits := hexDigits_toList width (n / 16) positive rest
        rw [Text.hexDigits, String.toList_ofList] at restDigits
        rw [Nat.toDigits_of_base_le (by decide) wide, hexPlaces, ← restDigits, List.length_append,
          List.length_singleton, Nat.add_sub_add_right, List.append_assoc]

theorem hexValue?_digitChar {d : Nat} (small : d < 16) : hexValue? (Nat.digitChar d) = some d := by
  have everyDigit : ∀ d, d < 16 → hexValue? (Nat.digitChar d) = some d := by decide
  exact everyDigit d small

/-- Four hexadecimal digits read as the unit they write. -/
theorem hexQuad?_hexPlaces {chars : Array Char} {position unit : Nat} {rest : List Char}
    (small : unit < 0x10000) (found : chars.toList.drop position = hexPlaces 4 unit ++ rest) :
    hexQuad? chars position = some unit := by
  simp only [hexPlaces, List.nil_append, List.append_assoc, List.singleton_append] at found
  have at1 := drop_succ_of_drop found
  have at2 := drop_succ_of_drop at1
  have at3 := drop_succ_of_drop at2
  simp [hexQuad?, getElem?_of_drop found, getElem?_of_drop at1, getElem?_of_drop at2,
    getElem?_of_drop at3, hexValue?_digitChar, Nat.mod_lt]
  omega

end JsonReader

/-! ## How a character is written -/

namespace Json

open JsonReader

/-- Whether a UTF-16 unit is a high surrogate, the first of a pair. -/
def isHighUnit (unit : Nat) : Bool := 0xD800 ≤ unit && unit ≤ 0xDBFF

/-- Whether a UTF-16 unit is a low surrogate, the second of a pair. -/
def isLowUnit (unit : Nat) : Bool := 0xDC00 ≤ unit && unit ≤ 0xDFFF

/-- Whether a character carries a high surrogate. -/
def carriesHigh (c : Char) : Bool := (Text.carriedSurrogate? c).any isHighUnit

/-- Whether a character carries a low surrogate. -/
def carriesLow (c : Char) : Bool := (Text.carriedSurrogate? c).any isLowUnit

/-- A text in which no character that carries a high surrogate stands right before one that
carries a low surrogate: written out, such a neighbourhood is the escape of a surrogate pair. -/
def Unpaired (chars : List Char) : Prop :=
  chars.IsChain fun c d => ¬(carriesHigh c = true ∧ carriesLow d = true)

/-- The letters after a backslash that stand for a character, each with its character. -/
def shortEscapes : List (Char × Char) :=
  [('"', '"'), ('\\', '\\'), ('n', '\n'), ('r', '\r'), ('t', '\t'), ('b', '\x08'), ('f', '\x0c')]

/-- The ways a character stands in a string literal that escapes everything outside ASCII. -/
inductive Written : Char → List Char → Prop
  /-- As itself: printable ASCII other than a quote or a backslash. -/
  | plain {c : Char} : 0x20 ≤ c.toNat → c.toNat < 0x80 → c ≠ '"' → c ≠ '\\' → Written c [c]
  /-- As a backslash and a letter that stands for it. -/
  | short {c letter : Char} : (letter, c) ∈ shortEscapes → Written c ['\\', letter]
  /-- As the escape of one UTF-16 unit, which is a surrogate only when the character carries it. -/
  | unit {c : Char} {unit : Nat} : unit < 0x10000 → codeChar unit = c →
      (isHighUnit unit = true → carriesHigh c = true) → (isLowUnit unit = true → carriesLow c = true) →
      Written c ('\\' :: 'u' :: hexPlaces 4 unit)
  /-- As the escapes of the surrogate pair of a character beyond the first 65536. -/
  | pair {c : Char} {high low : Nat} : isHighUnit high = true → isLowUnit low = true →
      codeChar (0x10000 + (high - 0xD800) * 0x400 + (low - 0xDC00)) = c →
      Written c ('\\' :: 'u' :: hexPlaces 4 high ++ '\\' :: 'u' :: hexPlaces 4 low)

/-- The code of a character is a scalar value: below 0x110000 and no surrogate. -/
theorem toNat_isValidChar (c : Char) : c.toNat.isValidChar := c.valid

theorem codeChar_toNat (c : Char) : codeChar c.toNat = c := by
  rw [codeChar, if_pos (toNat_isValidChar c), Char.ofNat_toNat]

/-- A character carries a surrogate when it is one of the last 2048 code points, and then carries
the surrogate of its place among them. -/
theorem carriedSurrogate?_eq_some {c : Char} {code : Nat}
    (carried : Text.carriedSurrogate? c = some code) :
    0x10F800 ≤ c.toNat ∧ code = c.toNat - 0x10F800 + 0xD800 := by
  unfold Text.carriedSurrogate? at carried
  split_ifs at carried with above
  cases carried
  exact ⟨above, rfl⟩

theorem carriesHigh_of_lt {c : Char} (small : c.toNat < 0x80) : carriesHigh c = false := by
  cases carried : Text.carriedSurrogate? c with
  | none => rw [carriesHigh, carried]; rfl
  | some code =>
      have above := (carriedSurrogate?_eq_some carried).1
      omega

/-- An ASCII text carries no surrogate, so it has no pair to join. -/
theorem unpaired_of_isAscii : ∀ {chars : List Char}, IsAscii chars → Unpaired chars
  | [], _ => List.isChain_nil
  | [c], _ => List.isChain_singleton c
  | c :: d :: rest, ascii => by
      have high := carriesHigh_of_lt (ascii c List.mem_cons_self)
      refine List.isChain_cons_cons.mpr ⟨fun both => ?_, unpaired_of_isAscii ?_⟩
      · rw [high] at both
        cases both.1
      · exact fun e inside => ascii e (List.mem_cons_of_mem c inside)

theorem codeChar_carried {c : Char} {code : Nat} (carried : Text.carriedSurrogate? c = some code) :
    codeChar code = c := by
  obtain ⟨above, rfl⟩ := carriedSurrogate?_eq_some carried
  have below : c.toNat < 0x110000 := by
    rcases toNat_isValidChar c with small | ⟨-, small⟩ <;> omega
  have surrogate : ¬(c.toNat - 0x10F800 + 0xD800).isValidChar := by
    simp only [Nat.isValidChar]
    omega
  rw [codeChar, if_neg surrogate, Text.carrySurrogate, Text.surrogateCarrierBase, Text.surrogateBase]
  have place : 0x10F800 + (c.toNat - 0x10F800 + 0xD800 - 0xD800) % 0x800 = c.toNat := by omega
  rw [place, Char.ofNat_toNat]

theorem unitEscape_toList {unit : Nat} (small : unit < 0x10000) :
    (unitEscape unit).toList = '\\' :: 'u' :: hexPlaces 4 unit := by
  rw [unitEscape, String.toList_append, hexDigits_toList 4 unit (by decide) small]
  rfl

/-- A character that carries a surrogate is written as the escape of that surrogate. -/
theorem escapeChar_carried {c : Char} {code : Nat} (carried : Text.carriedSurrogate? c = some code) :
    escapeChar true c = unitEscape code := by
  obtain ⟨above, -⟩ := carriedSurrogate?_eq_some carried
  have apart : ∀ d : Char, d.toNat < 0x80 → (c == d) = false := by
    intro d small
    rw [beq_eq_false_iff_ne]
    rintro rfl
    omega
  simp [escapeChar, apart, carried, show ¬c.toNat < 32 by omega]

/-- The seven characters written as a backslash and a letter. -/
theorem escapeChar_short {letter c : Char} (listed : (letter, c) ∈ shortEscapes) :
    (escapeChar true c).toList = ['\\', letter] := by
  simp only [shortEscapes, List.mem_cons, Prod.mk.injEq, List.not_mem_nil, or_false] at listed
  rcases listed with ⟨rfl, rfl⟩ | ⟨rfl, rfl⟩ | ⟨rfl, rfl⟩ | ⟨rfl, rfl⟩ | ⟨rfl, rfl⟩ | ⟨rfl, rfl⟩ |
    ⟨rfl, rfl⟩ <;> decide

/-- How `escapeChar true` writes each character. -/
theorem written_escapeChar (c : Char) : Written c (escapeChar true c).toList := by
  have valid := toNat_isValidChar c
  cases carried : Text.carriedSurrogate? c with
  | some code =>
      obtain ⟨above, rfl⟩ := carriedSurrogate?_eq_some carried
      have small : c.toNat - 0x10F800 + 0xD800 < 0x10000 := by
        simp only [Nat.isValidChar] at valid
        omega
      rw [escapeChar_carried carried, unitEscape_toList small]
      refine .unit small (codeChar_carried carried) (fun high => ?_) (fun low => ?_)
      · rw [carriesHigh, carried, Option.any_some]
        exact high
      · rw [carriesLow, carried, Option.any_some]
        exact low
  | none =>
      by_cases listed : c ∈ shortEscapes.map Prod.snd
      · obtain ⟨⟨letter, d⟩, entry, rfl⟩ := List.mem_map.mp listed
        rw [escapeChar_short entry]
        exact .short entry
      have unlisted : c ∉ ['"', '\\', '\n', '\r', '\t', '\x08', '\x0c'] := listed
      simp only [List.mem_cons, List.not_mem_nil, or_false, not_or] at unlisted
      obtain ⟨quote, backslash, newline, ret, tab, back, feed⟩ := unlisted
      unfold escapeChar
      simp only [beq_iff_eq, quote, backslash, newline, ret, tab, back, feed, carried, if_false]
      by_cases control : c.toNat < 0x20
      · rw [if_pos control, unitEscape_toList (by omega)]
        refine .unit (by omega) (codeChar_toNat c) (fun high => ?_) (fun low => ?_)
        · simp only [isHighUnit, Bool.and_eq_true, decide_eq_true_eq] at high
          omega
        · simp only [isLowUnit, Bool.and_eq_true, decide_eq_true_eq] at low
          omega
      rw [if_neg control]
      simp only [Nat.isValidChar] at valid
      by_cases wide : 0x7F < c.toNat
      · rw [if_pos (by simpa using wide)]
        by_cases narrow : c.toNat < 0x10000
        · rw [if_pos narrow, unitEscape_toList narrow]
          refine .unit narrow (codeChar_toNat c) (fun high => ?_) (fun low => ?_)
          · simp only [isHighUnit, Bool.and_eq_true, decide_eq_true_eq] at high
            omega
          · simp only [isLowUnit, Bool.and_eq_true, decide_eq_true_eq] at low
            omega
        · have highSmall : 55296 + (c.toNat - 65536) / 1024 < 0x10000 := by omega
          have lowSmall : 56320 + (c.toNat - 65536) % 1024 < 0x10000 := by omega
          rw [if_neg narrow, String.toList_append, unitEscape_toList highSmall,
            unitEscape_toList lowSmall]
          refine .pair ?_ ?_ ?_
          · simp only [isHighUnit, Bool.and_eq_true, decide_eq_true_eq]
            omega
          · simp only [isLowUnit, Bool.and_eq_true, decide_eq_true_eq]
            omega
          · have joined : 0x10000 + (55296 + (c.toNat - 65536) / 1024 - 0xD800) * 0x400 +
                (56320 + (c.toNat - 65536) % 1024 - 0xDC00) = c.toNat := by omega
            rw [joined, codeChar_toNat]
      · rw [if_neg (by simpa using wide), String.toList_singleton]
        exact .plain (by omega) (by omega) quote backslash

@[simp] theorem length_hexPlaces (width n : Nat) : (hexPlaces width n).length = width := by
  induction width generalizing n with
  | zero => rfl
  | succ width ih => simp [hexPlaces, ih]

/-- What follows an escape holds no escape of a low surrogate where the reader looks for one. -/
def NoLowAfter (after : List Char) : Prop :=
  ∀ more, after = '\\' :: 'u' :: more →
    ∃ unit rest, more = hexPlaces 4 unit ++ rest ∧ unit < 0x10000 ∧ isLowUnit unit = false

end Json

namespace JsonReader

open Json

/-- One written character read back: the reader takes it whole and moves past it. Only an escape
of a high surrogate makes the reader look further, for the escape of a low one. -/
theorem readString_written {chars : Array Char} {begin fuel position : Nat} {acc : List Char}
    {c : Char} {written after : List Char} (form : Written c written)
    (found : chars.toList.drop position = written ++ after) (closed : after ≠ [])
    (alone : carriesHigh c = true → NoLowAfter after) :
    readString chars begin (fuel + 1) position acc =
      readString chars begin fuel (position + written.length) (c :: acc) := by
  cases form with
  | plain printable ascii notQuote notBackslash =>
      rw [readString, getElem?_of_drop found]
      split
      · rename_i impossible
        cases impossible
      · rename_i same
        cases same
        exact absurd rfl notQuote
      · rename_i same
        cases same
        exact absurd rfl notBackslash
      · rename_i same
        cases same
        rw [if_neg (by omega)]
        rfl
  | short known =>
      have first := getElem?_of_drop found
      have second := getElem?_of_drop (drop_succ_of_drop found)
      simp only [shortEscapes, List.mem_cons, Prod.mk.injEq, List.not_mem_nil, or_false] at known
      rcases known with ⟨rfl, rfl⟩ | ⟨rfl, rfl⟩ | ⟨rfl, rfl⟩ | ⟨rfl, rfl⟩ | ⟨rfl, rfl⟩ | ⟨rfl, rfl⟩ |
          ⟨rfl, rfl⟩ <;>
        · rw [readString, first]
          simp only [second]
          rfl
  | @unit unit small decoded highCarried lowCarried =>
      have first := getElem?_of_drop found
      have second := getElem?_of_drop (drop_succ_of_drop found)
      have digits : chars.toList.drop (position + 2) = hexPlaces 4 unit ++ after :=
        drop_succ_of_drop (drop_succ_of_drop found)
      have rest : chars.toList.drop (position + 2 + 4) = after := by
        simpa using drop_of_drop_append digits
      obtain ⟨next, later, afterNext⟩ := List.exists_cons_of_ne_nil closed
      have fits : ¬chars.size ≤ position + 2 + 4 := by
        have := lt_size_of_drop (afterNext ▸ rest)
        omega
      rw [readString, first]
      simp only [second, if_neg fits, hexQuad?_hexPlaces small digits, decoded, List.length_cons,
        length_hexPlaces]
      rw [show position + (4 + 1 + 1) = position + 2 + 4 by omega]
      split
      · rename_i lookahead
        simp only [Bool.and_eq_true, decide_eq_true_eq, beq_iff_eq] at lookahead
        obtain ⟨⟨⟨⟨atLeast, atMost⟩, -⟩, slash⟩, letter⟩ := lookahead
        have carriesIt : carriesHigh c = true :=
          highCarried (by simp [isHighUnit, atLeast, atMost])
        rw [afterNext] at rest
        obtain rfl : next = '\\' := Option.some.inj ((getElem?_of_drop rest).symm.trans slash)
        cases later with
        | nil =>
            rw [getElem?_of_drop_nil (drop_succ_of_drop rest)] at letter
            cases letter
        | cons u more =>
            have secondRest := drop_succ_of_drop rest
            obtain rfl : u = 'u' := Option.some.inj ((getElem?_of_drop secondRest).symm.trans letter)
            obtain ⟨low, tail, rfl, lowSmall, notLow⟩ := alone carriesIt more afterNext
            have lowDigits := drop_succ_of_drop secondRest
            rw [show position + 2 + 4 + 1 + 1 = position + 2 + 4 + 2 by omega] at lowDigits
            rw [hexQuad?_hexPlaces lowSmall lowDigits]
            simp only [isLowUnit] at notLow
            simp only [notLow, Bool.false_eq_true, if_false]
      · rfl
  | @pair high low isHigh isLow decoded =>
      simp only [isHighUnit, isLowUnit, Bool.and_eq_true, decide_eq_true_eq] at isHigh isLow
      have first := getElem?_of_drop found
      have second := getElem?_of_drop (drop_succ_of_drop found)
      have highDigits : chars.toList.drop (position + 2) =
          hexPlaces 4 high ++ ('\\' :: 'u' :: hexPlaces 4 low ++ after) := by
        simpa using drop_succ_of_drop (drop_succ_of_drop found)
      have secondEscape : chars.toList.drop (position + 2 + 4) =
          '\\' :: 'u' :: hexPlaces 4 low ++ after := by
        simpa using drop_of_drop_append highDigits
      have lowDigits : chars.toList.drop (position + 2 + 4 + 2) = hexPlaces 4 low ++ after :=
        drop_succ_of_drop (drop_succ_of_drop secondEscape)
      have rest : chars.toList.drop (position + 2 + 4 + 2 + 4) = after := by
        simpa using drop_of_drop_append lowDigits
      obtain ⟨next, later, afterNext⟩ := List.exists_cons_of_ne_nil closed
      have beyond := lt_size_of_drop (afterNext ▸ rest)
      have fits : ¬chars.size ≤ position + 2 + 4 := by omega
      rw [readString, first]
      simp only [second, if_neg fits, hexQuad?_hexPlaces (by omega) highDigits]
      rw [if_pos (by simp [isHigh, getElem?_of_drop secondEscape,
        getElem?_of_drop (drop_succ_of_drop secondEscape), show position + 2 + 4 + 6 < chars.size by omega]),
        hexQuad?_hexPlaces (by omega) lowDigits]
      dsimp only
      rw [if_pos (by simp [isLow]), decoded]
      simp only [List.length_cons, List.length_append, length_hexPlaces]

end JsonReader

namespace Json

open JsonReader

/-- The characters written for a text between the quotes of its literal. -/
def escaped (chars : List Char) : List Char := chars.flatMap fun c => (escapeChar true c).toList

theorem noLowAfter_quote (rest : List Char) : NoLowAfter ('"' :: rest) := by
  intro more same
  cases same

/-- A written character that carries no low surrogate starts with no escape of one. -/
theorem noLowAfter_written {d : Char} {written more : List Char} (form : Written d written)
    (notLow : carriesLow d = false) : NoLowAfter (written ++ more) := by
  intro tail same
  cases form with
  | plain _ _ _ notBackslash =>
      obtain ⟨rfl, -⟩ := List.cons.inj same
      exact absurd rfl notBackslash
  | @short letter known =>
      obtain ⟨-, rfl, -⟩ : '\\' = '\\' ∧ letter = 'u' ∧ more = tail := by simpa using same
      simp [shortEscapes] at known
  | @unit unit small _ _ lowCarried =>
      simp only [List.cons_append, List.cons.injEq, true_and] at same
      refine ⟨unit, more, same.symm, small, ?_⟩
      cases lowUnit : isLowUnit unit
      · rfl
      · rw [lowCarried lowUnit] at notLow
        cases notLow
  | @pair high low isHigh _ _ =>
      simp only [List.cons_append, List.cons.injEq, true_and, List.append_assoc] at same
      simp only [isHighUnit, Bool.and_eq_true, decide_eq_true_eq] at isHigh
      refine ⟨high, _, same.symm, by omega, ?_⟩
      simp only [isLowUnit, Bool.and_eq_false_iff, decide_eq_false_iff_not]
      omega

theorem Written.ne_nil {c : Char} {written : List Char} (form : Written c written) :
    written ≠ [] := by
  cases form <;> simp

/-- Each character is written as one character or more. -/
theorem length_le_escaped : ∀ chars : List Char, chars.length ≤ (escaped chars).length
  | [] => le_rfl
  | c :: rest => by
      have first := List.length_pos_iff.mpr (written_escapeChar c).ne_nil
      have later := length_le_escaped rest
      simp only [escaped, List.flatMap_cons, List.length_append, List.length_cons] at later ⊢
      omega

/-- The escapes of a text, then its closing quote, read back as the text. -/
theorem readString_escaped (chars : Array Char) (begin : Nat) :
    ∀ (text : List Char) (fuel position : Nat) (acc rest : List Char), Unpaired text →
      text.length < fuel → chars.toList.drop position = escaped text ++ '"' :: rest →
      readString chars begin fuel position acc =
        .ok (String.ofList (acc.reverse ++ text), position + (escaped text).length + 1)
  | [], 0, _, _, _, _, short, _ => absurd short (Nat.lt_irrefl 0)
  | [], fuel + 1, position, acc, rest, _, _, found => by
      rw [readString, getElem?_of_drop (by simpa [escaped] using found)]
      simp [escaped]
  | _ :: _, 0, _, _, _, _, short, _ => absurd short (Nat.not_lt_zero _)
  | c :: more, fuel + 1, position, acc, rest, unpaired, short, found => by
      have split : chars.toList.drop position =
          (escapeChar true c).toList ++ (escaped more ++ '"' :: rest) := by
        simpa [escaped] using found
      have alone : carriesHigh c = true → NoLowAfter (escaped more ++ '"' :: rest) := by
        intro high
        cases more with
        | nil => exact noLowAfter_quote rest
        | cons d others =>
            have apart := (List.isChain_cons_cons.mp unpaired).1
            have notLow : carriesLow d = false := by
              cases low : carriesLow d
              · rfl
              · exact absurd ⟨high, low⟩ apart
            simpa [escaped] using @noLowAfter_written d _ (escaped others ++ '"' :: rest)
              (written_escapeChar d) notLow
      rw [readString_written (written_escapeChar c) split (by simp) alone,
        readString_escaped chars begin more fuel _ (c :: acc) rest
          (List.isChain_of_isChain_cons unpaired) (by simpa using short) (drop_of_drop_append split)]
      simp [escaped, Nat.add_assoc]

end Json

namespace JsonReader

open Json

/-- Blanks are passed over up to the first character that is none. -/
theorem skipGaps_go {chars : Array Char} {c : Char} {rest : List Char} (stops : isGap c = false) :
    ∀ (gaps : List Char) (fuel position : Nat), (∀ g ∈ gaps, isGap g = true) → gaps.length < fuel →
      chars.toList.drop position = gaps ++ c :: rest →
      skipGaps.go chars fuel position = position + gaps.length
  | _, 0, _, _, short, _ => absurd short (Nat.not_lt_zero _)
  | [], fuel + 1, position, _, _, found => by
      rw [skipGaps.go, getElem?_of_drop found]
      simp [stops]
  | g :: gaps, fuel + 1, position, blank, short, found => by
      rw [skipGaps.go, getElem?_of_drop found]
      simp only [blank g List.mem_cons_self, if_true]
      rw [skipGaps_go stops gaps fuel (position + 1) (fun g' inside => blank g' (List.mem_cons_of_mem g inside))
        (by simpa using short) (drop_succ_of_drop found)]
      simp [Nat.add_assoc, Nat.add_comm 1]

theorem skipGaps_eq {chars : Array Char} {position : Nat} {gaps rest : List Char} {c : Char}
    (blank : ∀ g ∈ gaps, isGap g = true) (stops : isGap c = false)
    (found : chars.toList.drop position = gaps ++ c :: rest) :
    skipGaps chars position = position + gaps.length := by
  have within := lt_size_of_drop (drop_of_drop_append found)
  exact skipGaps_go stops gaps _ position blank (by omega) found

/-- A string literal read from its opening quote, escapes and all. -/
theorem readString_literal {chars : Array Char} {position : Nat} {text : String}
    {rest : List Char} (unpaired : Unpaired text.toList)
    (found : chars.toList.drop position = '"' :: escaped text.toList ++ '"' :: rest) :
    readString chars position (chars.size + 1) (position + 1) [] =
      .ok (text, position + (escaped text.toList).length + 2) := by
  have inside := drop_succ_of_drop found
  have within := lt_size_of_drop (drop_of_drop_append inside)
  have long := length_le_escaped text.toList
  rw [readString_escaped chars position text.toList (chars.size + 1) (position + 1) [] rest unpaired
    (by omega) inside]
  simp only [List.reverse_nil, List.nil_append, String.ofList_toList, Except.ok.injEq, Prod.mk.injEq]
  exact ⟨trivial, by omega⟩

/-- A string literal read as a value. -/
theorem readValue_literal {chars : Array Char} {fuel nesting position : Nat} {text : String}
    {rest : List Char} (unpaired : Unpaired text.toList)
    (found : chars.toList.drop position = '"' :: escaped text.toList ++ '"' :: rest) :
    readValue chars (fuel + 1) nesting position =
      .ok (.str text, position + (escaped text.toList).length + 2) := by
  rw [readValue, getElem?_of_drop found, readString_literal unpaired found]
  rfl

end JsonReader

/-! ## Text records -/

namespace Json

/-- An object whose members are all texts. -/
def textRecord (members : List (String × String)) : Json :=
  .obj (members.map fun member => (member.1, .str member.2))

/-- The characters of a string literal that escapes everything outside ASCII. -/
def literalChars (text : String) : List Char := '"' :: escaped text.toList ++ ['"']

/-- A member of a text record as written: its name, a colon and a space, and its text. -/
def memberChars (member : String × String) : List Char :=
  literalChars member.1 ++ ':' :: ' ' :: literalChars member.2

/-- The members of a text record as written, each after the first on a line of its own. -/
def membersChars : List (String × String) → List Char
  | [] => []
  | [member] => memberChars member
  | member :: more => memberChars member ++ ',' :: '\n' :: ' ' :: ' ' :: membersChars more

@[simp]
theorem length_literalChars (text : String) :
    (literalChars text).length = (escaped text.toList).length + 2 := by
  simp [literalChars]

/-- Every member list as written opens with the quote of its first name. -/
theorem membersChars_cons (member : String × String) (more : List (String × String)) :
    ∃ tail, membersChars (member :: more) = '"' :: tail := by
  cases more <;> simp [membersChars, memberChars, literalChars]

theorem length_le_membersChars :
    ∀ members : List (String × String), members.length ≤ (membersChars members).length
  | [] => le_refl 0
  | [member] => by
      simp [membersChars, memberChars]
      omega
  | member :: next :: more => by
      have shorter := length_le_membersChars (next :: more)
      simp only [membersChars, List.length_append, List.length_cons] at shorter ⊢
      omega

theorem stringLiteral_toList (text : String) : (stringLiteral true text).toList = literalChars text := by
  simp [stringLiteral, literalChars, escaped, String.toList_join, List.flatMap_map]

/-- The text of one member, written one level deep. -/
def memberText (member : String × String) : String :=
  stringLiteral true member.1 ++ ": " ++ stringLiteral true member.2

theorem renderMembers_textRecord (members : List (String × String)) :
    renderMembers JsonStyle.indented 0 (members.map fun member => (member.1, .str member.2)) =
      members.map memberText := by
  induction members with
  | nil => rfl
  | cons member more ih =>
      rw [List.map_cons, renderMembers, ih, List.map_cons]
      rfl

theorem intercalate_memberText : ∀ members : List (String × String),
    (String.intercalate ",\n  " (members.map memberText)).toList = membersChars members
  | [] => rfl
  | [member] => by
      rw [List.map_singleton, String.intercalate_singleton]
      simp [membersChars, memberText, memberChars, stringLiteral_toList]
  | member :: next :: more => by
      rw [List.map_cons, List.map_cons, String.intercalate_cons_cons, ← List.map_cons,
        String.toList_append, String.toList_append, intercalate_memberText (next :: more)]
      simp [membersChars, memberText, memberChars, stringLiteral_toList]

/-- A text record with members, written with two spaces of indentation: one member a line
between the braces. -/
theorem render_textRecord {members : List (String × String)} (nonempty : members ≠ []) :
    (render JsonStyle.indented (textRecord members)).toList =
      '{' :: '\n' :: ' ' :: ' ' :: membersChars members ++ ['\n', '}'] := by
  have parts : (members.map memberText).isEmpty = false := by
    cases members with
    | nil => exact absurd rfl nonempty
    | cons member more => rfl
  have inner : indentation JsonStyle.indented (0 + 1) = "\n  " := by decide
  have outer : indentation JsonStyle.indented 0 = "\n" := by decide
  simp only [render, textRecord, renderAt, renderMembers_textRecord, enclose, parts, inner, outer,
    Bool.false_eq_true, if_false]
  rw [show JsonStyle.indented.itemSeparator ++ "\n  " = ",\n  " by decide]
  simp only [String.toList_append, intercalate_memberText]
  simp

end Json

namespace JsonReader

open Json

theorem readValue_brace {chars : Array Char} {fuel nesting position : Nat}
    (opens : chars[position]? = some '{') :
    readValue chars (fuel + 1) (nesting + 1) position =
      readMembers chars fuel nesting (skipGaps chars (position + 1)) [] true := by
  rw [readValue, opens]
  rfl

theorem skipGaps_size (chars : Array Char) : skipGaps chars chars.size = chars.size := by
  simp [skipGaps, skipGaps.go]

/-- After one member of a text record the reader stands at whatever delimiter follows it. -/
theorem readMembers_member {chars : Array Char} {fuel nesting position : Nat}
    {acc : List (String × Json)}
    {first : Bool} {member : String × String} {after : List Char}
    (unpaired : Unpaired member.1.toList ∧ Unpaired member.2.toList)
    (found : chars.toList.drop position = memberChars member ++ after) :
    readMembers chars (fuel + 2) nesting position acc first =
      let members := setMember member.1 (.str member.2) acc
      let next := skipGaps chars (position + (memberChars member).length)
      match chars[next]? with
      | some '}' => .ok (.obj members, next + 1)
      | some ',' => readMembers chars (fuel + 1) nesting (skipGaps chars (next + 1)) members false
      | _ => .error (.refused "Expecting ',' delimiter" next) := by
  obtain ⟨nameUnpaired, textUnpaired⟩ := unpaired
  have nameFound : chars.toList.drop position =
      '"' :: escaped member.1.toList ++ '"' :: (':' :: ' ' :: literalChars member.2 ++ after) := by
    simpa [memberChars, literalChars] using found
  have colonFound : chars.toList.drop (position + (escaped member.1.toList).length + 2) =
      ':' :: ' ' :: literalChars member.2 ++ after := by
    have past := @drop_of_drop_append chars position (literalChars member.1) _
      (by simpa [memberChars] using found)
    simpa [Nat.add_assoc] using past
  have atColon := @skipGaps_eq chars _ [] _ ':' (by simp) (by decide) colonFound
  have spaceFound : chars.toList.drop (position + (escaped member.1.toList).length + 2 + 1) =
      [' '] ++ '"' :: (escaped member.2.toList ++ '"' :: after) := by
    simpa [literalChars] using drop_succ_of_drop colonFound
  have atValue := @skipGaps_eq chars _ [' '] _ '"' (by simp [isGap]) (by decide) spaceFound
  have valueFound : chars.toList.drop (position + (escaped member.1.toList).length + 2 + 1 + 1) =
      '"' :: escaped member.2.toList ++ '"' :: after := drop_of_drop_append spaceFound
  have value := @readValue_literal chars fuel nesting _ member.2 after textUnpaired valueFound
  have next : position + (escaped member.1.toList).length + 2 + 1 + 1 +
      (escaped member.2.toList).length + 2 = position + (memberChars member).length := by
    simp [memberChars]
    omega
  rw [readMembers, getElem?_of_drop nameFound, readString_literal nameUnpaired nameFound]
  simp only [List.length_nil, Nat.add_zero, List.length_singleton] at atColon atValue
  simp only [atColon, getElem?_of_drop colonFound, atValue, value, next]
  rw [if_neg (by cases first <;> decide), if_neg (by decide)]
  exact if_neg (by decide)

/-- The members of a text record up to its closing brace, each set in turn into the members
read before it. -/
theorem readMembers_textRecord (chars : Array Char) (nesting : Nat) (rest : List Char) :
    ∀ (members : List (String × String)) (fuel position : Nat) (acc : List (String × Json))
      (first : Bool), members ≠ [] →
      (∀ member ∈ members, Unpaired member.1.toList ∧ Unpaired member.2.toList) →
      members.length ≤ fuel →
      chars.toList.drop position = membersChars members ++ '\n' :: '}' :: rest →
      readMembers chars (fuel + 1) nesting position acc first =
        .ok (.obj (members.foldl (fun acc member => setMember member.1 (.str member.2) acc) acc),
          position + (membersChars members).length + 2)
  | [], _, _, _, _, nonempty, _, _, _ => absurd rfl nonempty
  | _ :: _, 0, _, _, _, _, _, enough, _ => absurd enough (by simp)
  | [member], fuel + 1, position, acc, first, _, unpaired, _, found => by
      have closing : chars.toList.drop (position + (memberChars member).length) =
          ['\n'] ++ '}' :: rest := drop_of_drop_append found
      have atClose : skipGaps chars (position + (memberChars member).length) =
          position + (memberChars member).length + 1 :=
        @skipGaps_eq chars _ ['\n'] _ '}' (by simp [isGap]) (by decide) closing
      have atBrace : chars[position + (memberChars member).length + 1]? = some '}' :=
        getElem?_of_drop (drop_of_drop_append closing)
      rw [readMembers_member (unpaired member List.mem_cons_self) found]
      simp only [atClose, atBrace]
      simp [membersChars, Nat.add_assoc]
  | member :: next :: more, fuel + 1, position, acc, first, _, unpaired, enough, found => by
      obtain ⟨tail, opens⟩ := membersChars_cons next more
      have delimiter : chars.toList.drop position = memberChars member ++
          ([] ++ ',' :: (['\n', ' ', ' '] ++ '"' :: (tail ++ '\n' :: '}' :: rest))) := by
        simpa [membersChars, opens] using found
      have comma := drop_of_drop_append delimiter
      have atComma : skipGaps chars (position + (memberChars member).length) =
          position + (memberChars member).length :=
        @skipGaps_eq chars _ [] _ ',' (by simp) (by decide) comma
      have onComma : chars[position + (memberChars member).length]? = some ',' :=
        getElem?_of_drop comma
      have indented : chars.toList.drop (position + (memberChars member).length + 1) =
          ['\n', ' ', ' '] ++ '"' :: (tail ++ '\n' :: '}' :: rest) :=
        drop_succ_of_drop comma
      have atNext : skipGaps chars (position + (memberChars member).length + 1) =
          position + (memberChars member).length + 1 + 3 :=
        @skipGaps_eq chars _ ['\n', ' ', ' '] _ '"' (by simp [isGap]) (by decide) indented
      have nextFound : chars.toList.drop (position + (memberChars member).length + 1 + 3) =
          membersChars (next :: more) ++ '\n' :: '}' :: rest := by
        simpa [opens] using drop_of_drop_append indented
      rw [readMembers_member (unpaired member List.mem_cons_self) delimiter]
      simp only [atComma, onComma, atNext]
      rw [readMembers_textRecord chars nesting rest (next :: more) fuel _ _ false
        (List.cons_ne_nil _ _)
        (fun other inside => unpaired other (List.mem_cons_of_mem member inside))
        (by simpa using enough) nextFound]
      simp [membersChars, Nat.add_assoc]
      omega

end JsonReader

namespace Json

open JsonReader

theorem setMember_of_not_mem (key : String) (value : Json) :
    ∀ {members : List (String × Json)}, key ∉ members.map Prod.fst →
      setMember key value members = members ++ [(key, value)]
  | [], _ => rfl
  | (name, old) :: rest, absent => by
      have apart : name ≠ key := fun same => absent (by simp [same])
      have restAbsent : key ∉ rest.map Prod.fst := fun inside =>
        absent (List.mem_cons_of_mem name inside)
      rw [setMember_cons_of_ne value old rest apart, setMember_of_not_mem key value restAbsent]
      rfl

/-- Members of distinct names, none of them held before, are set one after another at the end. -/
theorem foldl_setMember_of_nodup :
    ∀ (members : List (String × String)) (acc : List (String × Json)),
      (acc.map Prod.fst ++ members.map Prod.fst).Nodup →
      members.foldl (fun acc member => setMember member.1 (.str member.2) acc) acc =
        acc ++ members.map fun member => (member.1, .str member.2)
  | [], acc, _ => by simp
  | member :: more, acc, distinct => by
      have absent : member.1 ∉ acc.map Prod.fst := by
        rw [List.map_cons, List.nodup_middle, List.nodup_cons] at distinct
        exact fun inside => distinct.1 (List.mem_append_left _ inside)
      rw [List.foldl_cons, setMember_of_not_mem _ _ absent,
        foldl_setMember_of_nodup more _ (by simpa using distinct)]
      simp

/-- A record of texts under distinct names, none of whose texts holds a carried high surrogate
right before a carried low one, is read back from its indented text with room for one container
or more. -/
theorem parse_render_textRecord {members : List (String × String)} (nesting : Nat)
    (distinct : (members.map Prod.fst).Nodup)
    (unpaired : ∀ member ∈ members, Unpaired member.1.toList ∧ Unpaired member.2.toList) :
    parse (nesting + 1) (render JsonStyle.indented (textRecord members)) =
      .ok (textRecord members) := by
  cases members with
  | nil => rfl
  | cons member more =>
      obtain ⟨tail, opens⟩ := membersChars_cons member more
      have written := render_textRecord (List.cons_ne_nil member more)
      unfold parse
      simp only
      generalize chosen : (render JsonStyle.indented (textRecord (member :: more))).toList.toArray =
        chars
      have layout : chars.toList =
          '{' :: '\n' :: ' ' :: ' ' :: membersChars (member :: more) ++ ['\n', '}'] := by
        rw [← chosen, List.toList_toArray, written]
      have size : chars.size = (membersChars (member :: more)).length + 6 := by
        rw [← Array.length_toList, layout]
        simp
      have atBrace : chars.toList.drop 0 =
          [] ++ '{' :: ('\n' :: ' ' :: ' ' :: membersChars (member :: more) ++ ['\n', '}']) := by
        simpa using layout
      have indented : chars.toList.drop 1 = ['\n', ' ', ' '] ++ '"' :: (tail ++ ['\n', '}']) := by
        simp [layout, opens]
      have atMembers : chars.toList.drop 4 = membersChars (member :: more) ++ ['\n', '}'] := by
        simp [layout]
      have start : skipGaps chars 0 = 0 := @skipGaps_eq chars 0 [] _ '{' (by simp) (by decide) atBrace
      have inside : skipGaps chars 1 = 4 :=
        @skipGaps_eq chars 1 ['\n', ' ', ' '] _ '"' (by simp [isGap]) (by decide) indented
      have enough : (member :: more).length ≤ 2 * chars.size + 2 := by
        have := length_le_membersChars (member :: more)
        omega
      have readsObject : readValue chars (2 * chars.size + 4) (nesting + 1) 0 =
          .ok (textRecord (member :: more), chars.size) := by
        rw [show 2 * chars.size + 4 = 2 * chars.size + 2 + 1 + 1 by omega,
          readValue_brace (getElem?_of_drop atBrace), inside,
          readMembers_textRecord chars nesting [] (member :: more) _ 4 [] true (List.cons_ne_nil _ _)
            unpaired enough atMembers,
          foldl_setMember_of_nodup _ [] (by simpa using distinct), size]
        simp [textRecord]
        omega
      simp only [getElem?_of_drop atBrace, start, readsObject, skipGaps_size]
      simp

/-! ## Characters of a written record -/

/-- A character that UTF-8 writes as one byte and that making line ends uniform leaves alone. -/
def Untouched (c : Char) : Prop := c.toNat < 0x80 ∧ c ≠ '\r'

instance : DecidablePred Untouched := fun _ => inferInstanceAs (Decidable (_ ∧ _))

theorem untouched_digitChar : ∀ {d : Nat}, d < 16 → Untouched (Nat.digitChar d) := by
  decide

theorem untouched_hexPlaces : ∀ (width n : Nat), ∀ c ∈ hexPlaces width n, Untouched c
  | 0, _ => by simp [hexPlaces]
  | width + 1, n => by
      intro c inside
      rw [hexPlaces, List.mem_append, List.mem_singleton] at inside
      rcases inside with earlier | rfl
      · exact untouched_hexPlaces width (n / 16) c earlier
      · exact untouched_digitChar (Nat.mod_lt n (by decide))

/-- The backslash and the letter of a unit escape, before its digits. -/
theorem untouched_unitEscape {digits : List Char} (plain : ∀ c ∈ digits, Untouched c) :
    ∀ c ∈ '\\' :: 'u' :: digits, Untouched c := by
  intro c inside
  rcases List.mem_cons.mp inside with rfl | inside
  · decide
  rcases List.mem_cons.mp inside with rfl | inside
  · decide
  exact plain c inside

theorem untouched_written {c : Char} {written : List Char} (form : Written c written) :
    ∀ d ∈ written, Untouched d := by
  cases form with
  | plain low high _ _ =>
      intro d inside
      rw [List.mem_singleton] at inside
      subst inside
      exact ⟨high, fun same => by subst same; exact absurd low (by decide)⟩
  | @short letter listed =>
      have letterPlain : Untouched letter := by
        have every : ∀ entry ∈ shortEscapes, Untouched entry.1 := by decide
        exact every _ listed
      intro d inside
      rcases List.mem_cons.mp inside with rfl | inside
      · decide
      · rw [List.mem_singleton.mp inside]
        exact letterPlain
  | @unit unit _ _ _ _ => exact untouched_unitEscape (untouched_hexPlaces 4 unit)
  | @pair high low _ _ _ =>
      intro d inside
      rcases List.mem_append.mp inside with front | back
      · exact untouched_unitEscape (untouched_hexPlaces 4 high) d front
      · exact untouched_unitEscape (untouched_hexPlaces 4 low) d back

theorem untouched_escaped (chars : List Char) : ∀ d ∈ escaped chars, Untouched d := by
  intro d inside
  obtain ⟨c, -, written⟩ := List.mem_flatMap.mp inside
  exact untouched_written (written_escapeChar c) d written

theorem untouched_literalChars (text : String) : ∀ c ∈ literalChars text, Untouched c := by
  intro c inside
  simp only [literalChars, List.mem_cons, List.mem_append, List.not_mem_nil, or_false] at inside
  rcases inside with (rfl | escape) | rfl
  · decide
  · exact untouched_escaped _ c escape
  · decide

theorem untouched_memberChars (member : String × String) :
    ∀ c ∈ memberChars member, Untouched c := by
  intro c inside
  simp only [memberChars, List.mem_append, List.mem_cons] at inside
  rcases inside with name | rfl | rfl | text
  · exact untouched_literalChars _ c name
  · decide
  · decide
  · exact untouched_literalChars _ c text

theorem untouched_membersChars :
    ∀ members : List (String × String), ∀ c ∈ membersChars members, Untouched c
  | [] => by simp [membersChars]
  | [member] => untouched_memberChars member
  | member :: next :: more => by
      intro c inside
      simp only [membersChars, List.mem_append, List.mem_cons] at inside
      rcases inside with first | rfl | rfl | rfl | rfl | later
      · exact untouched_memberChars member c first
      all_goals first
        | decide
        | exact untouched_membersChars (next :: more) c later

/-- Every character of a written text record is ASCII and none is a carriage return. -/
theorem untouched_render_textRecord (members : List (String × String)) :
    ∀ c ∈ (render JsonStyle.indented (textRecord members)).toList, Untouched c := by
  intro c inside
  cases members with
  | nil =>
      have empty : (render JsonStyle.indented (textRecord [])).toList = ['{', '}'] := by
        simp [render, textRecord, renderAt, enclose, renderMembers]
      rw [empty] at inside
      simp only [List.mem_cons, List.not_mem_nil, or_false] at inside
      rcases inside with rfl | rfl <;> decide
  | cons member more =>
      rw [render_textRecord (List.cons_ne_nil member more)] at inside
      simp only [List.cons_append, List.mem_cons, List.mem_append, List.not_mem_nil, or_false]
        at inside
      rcases inside with rfl | rfl | rfl | rfl | written | rfl | rfl
      all_goals first
        | decide
        | exact untouched_membersChars _ c written

end Json

/-! ## Arrays nested past the room -/

namespace JsonReader

theorem skipGaps_bracket {chars : Array Char} {position : Nat}
    (opens : chars[position]? = some '[') : skipGaps chars position = position := by
  have inside : position < chars.size := (Array.getElem?_eq_some_iff.mp opens).1
  obtain ⟨fuel, room⟩ : ∃ fuel, chars.size - position = fuel + 1 := ⟨_, (Nat.succ_pred_eq_of_pos
    (by omega)).symm⟩
  simp [skipGaps, room, skipGaps.go, opens, isGap]

/-- A value read where opening brackets stand one more than the room for nesting fails as the last
one opens, when the fuel covers them. -/
theorem readValue_brackets {chars : Array Char} (nesting : Nat) :
    ∀ {fuel position : Nat}, 2 * nesting < fuel →
      (∀ i ≤ nesting, chars[position + i]? = some '[') →
      readValue chars fuel nesting position = .error (.tooDeep .array) := by
  induction nesting with
  | zero =>
      intro fuel position roomy opens
      obtain ⟨fuel, rfl⟩ : ∃ rest, fuel = rest + 1 := ⟨fuel - 1, by omega⟩
      have first : chars[position]? = some '[' := opens 0 le_rfl
      rw [readValue, first]
      rfl
  | succ nesting ih =>
      intro fuel position roomy opens
      obtain ⟨fuel, rfl⟩ : ∃ rest, fuel = rest + 2 := ⟨fuel - 2, by omega⟩
      have first : chars[position]? = some '[' := opens 0 (by omega)
      have second : chars[position + 1]? = some '[' := opens 1 (by omega)
      have inner : readValue chars fuel nesting (position + 1) = .error (.tooDeep .array) :=
        ih (by omega) fun i bound => by
          simpa [Nat.add_assoc, Nat.add_comm 1 i] using opens (i + 1) (by omega)
      rw [readValue, first]
      show readItems chars (fuel + 1) nesting (skipGaps chars (position + 1)) [] true = _
      rw [skipGaps_bracket second, readItems]
      simp [second, inner]

end JsonReader

namespace Json

/-- A text of opening brackets one more than the room for nesting is refused as too deep. -/
theorem parse_brackets (nesting : Nat) :
    parse nesting (String.ofList (List.replicate (nesting + 1) '[')) = .error (.tooDeep .array) := by
  unfold parse
  simp only [String.toList_ofList]
  generalize chosen : (List.replicate (nesting + 1) '[').toArray = chars
  have opens : ∀ i ≤ nesting, chars[0 + i]? = some '[' := by
    intro i bound
    simp [← chosen, show i < nesting + 1 by omega]
  have start : JsonReader.skipGaps chars 0 = 0 :=
    JsonReader.skipGaps_bracket (opens 0 (Nat.zero_le _))
  have size : chars.size = nesting + 1 := by simp [← chosen]
  have failed := @JsonReader.readValue_brackets chars nesting (2 * chars.size + 4) 0 (by omega) opens
  simp [start, failed, opens 0 (Nat.zero_le _)]

end Json

end SheetExport
