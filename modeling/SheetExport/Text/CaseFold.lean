/-!
# Folding letters

Letters are folded to lower case one code point at a time, and may then lose their accents.

* Lower case: the table maps each letter of the Basic Multilingual Plane whose case folding is one
  other code point to it (so `µ` and `ſ` fold too). A run `(first, count, offset, step)` stands
  for the `count` code points `first`, `first + step`, … each of which is lowered by adding
  `offset`; the Deseret capitals above the plane are lowered by adding 40.
* Accents: a folded letter of the Latin blocks (Latin-1 to Latin Extended-B, and Latin Extended
  Additional) that decomposes into an ASCII letter and combining marks becomes that letter. A run
  `(first, count, step, letter, several)` lists such letters; `several` marks those that carry more
  than one mark, which only the thorough removal takes off.
-/

namespace SheetExport.Text

/-- The runs of capitals and the offsets that lower them. -/
def lowerRuns : Array (Nat × Nat × Int × Nat) := #[
  (0xB5, 1, 775, 1), (0xC0, 23, 32, 1), (0xD8, 7, 32, 1), (0x100, 24, 1, 2), (0x132, 3, 1, 2),
  (0x139, 8, 1, 2), (0x14A, 23, 1, 2), (0x178, 1, -121, 1), (0x179, 3, 1, 2), (0x17F, 1, -268, 1),
  (0x181, 1, 210, 1), (0x182, 2, 1, 2), (0x186, 1, 206, 1), (0x187, 1, 1, 1), (0x189, 2, 205, 1),
  (0x18B, 1, 1, 1), (0x18E, 1, 79, 1), (0x18F, 1, 202, 1), (0x190, 1, 203, 1), (0x191, 1, 1, 1),
  (0x193, 1, 205, 1), (0x194, 1, 207, 1), (0x196, 1, 211, 1), (0x197, 1, 209, 1), (0x198, 1, 1, 1),
  (0x19C, 1, 211, 1), (0x19D, 1, 213, 1), (0x19F, 1, 214, 1), (0x1A0, 3, 1, 2), (0x1A6, 1, 218, 1),
  (0x1A7, 1, 1, 1), (0x1A9, 1, 218, 1), (0x1AC, 1, 1, 1), (0x1AE, 1, 218, 1), (0x1AF, 1, 1, 1),
  (0x1B1, 2, 217, 1), (0x1B3, 2, 1, 2), (0x1B7, 1, 219, 1), (0x1B8, 1, 1, 1), (0x1BC, 1, 1, 1),
  (0x1C4, 1, 2, 1), (0x1C5, 1, 1, 1), (0x1C7, 1, 2, 1), (0x1C8, 1, 1, 1), (0x1CA, 1, 2, 1),
  (0x1CB, 9, 1, 2), (0x1DE, 9, 1, 2), (0x1F1, 1, 2, 1), (0x1F2, 2, 1, 2), (0x1F6, 1, -97, 1),
  (0x1F7, 1, -56, 1), (0x1F8, 20, 1, 2), (0x220, 1, -130, 1), (0x222, 9, 1, 2),
  (0x23A, 1, 10795, 1), (0x23B, 1, 1, 1), (0x23D, 1, -163, 1), (0x23E, 1, 10792, 1),
  (0x241, 1, 1, 1), (0x243, 1, -195, 1), (0x244, 1, 69, 1), (0x245, 1, 71, 1), (0x246, 5, 1, 2),
  (0x370, 2, 1, 2), (0x376, 1, 1, 1), (0x386, 1, 38, 1), (0x388, 3, 37, 1), (0x38C, 1, 64, 1),
  (0x38E, 2, 63, 1), (0x391, 17, 32, 1), (0x3A3, 9, 32, 1), (0x3C2, 1, 1, 1), (0x3CF, 1, 8, 1),
  (0x3D0, 1, -30, 1), (0x3D1, 1, -25, 1), (0x3D5, 1, -15, 1), (0x3D6, 1, -22, 1),
  (0x3D8, 12, 1, 2), (0x3F0, 1, -54, 1), (0x3F1, 1, -48, 1), (0x3F4, 1, -60, 1),
  (0x3F5, 1, -64, 1), (0x3F7, 1, 1, 1), (0x3F9, 1, -7, 1), (0x3FA, 1, 1, 1), (0x3FD, 3, -130, 1),
  (0x400, 16, 80, 1), (0x410, 32, 32, 1), (0x460, 17, 1, 2), (0x48A, 27, 1, 2), (0x4C0, 1, 15, 1),
  (0x4C1, 7, 1, 2), (0x4D0, 44, 1, 2), (0x531, 38, 48, 1), (0x10A0, 38, 7264, 1),
  (0x10C7, 1, 7264, 1), (0x10CD, 1, 7264, 1), (0x1E00, 75, 1, 2), (0x1E9B, 1, -58, 1),
  (0x1E9E, 1, -7615, 1), (0x1EA0, 48, 1, 2), (0x1F08, 8, -8, 1), (0x1F18, 6, -8, 1),
  (0x1F28, 8, -8, 1), (0x1F38, 8, -8, 1), (0x1F48, 6, -8, 1), (0x1F59, 4, -8, 2),
  (0x1F68, 8, -8, 1), (0x1F88, 8, -8, 1), (0x1F98, 8, -8, 1), (0x1FA8, 8, -8, 1),
  (0x1FB8, 2, -8, 1), (0x1FBA, 2, -74, 1), (0x1FBC, 1, -9, 1), (0x1FBE, 1, -7173, 1),
  (0x1FC8, 4, -86, 1), (0x1FCC, 1, -9, 1), (0x1FD8, 2, -8, 1), (0x1FDA, 2, -100, 1),
  (0x1FE8, 2, -8, 1), (0x1FEA, 2, -112, 1), (0x1FEC, 1, -7, 1), (0x1FF8, 2, -128, 1),
  (0x1FFA, 2, -126, 1), (0x1FFC, 1, -9, 1), (0x2126, 1, -7517, 1), (0x212A, 1, -8383, 1),
  (0x212B, 1, -8262, 1), (0x2132, 1, 28, 1), (0x2160, 16, 16, 1), (0x2183, 1, 1, 1),
  (0x2C00, 47, 48, 1), (0x2C60, 1, 1, 1), (0x2C62, 1, -10743, 1), (0x2C63, 1, -3814, 1),
  (0x2C64, 1, -10727, 1), (0x2C67, 3, 1, 2), (0x2C6D, 1, -10780, 1), (0x2C6E, 1, -10749, 1),
  (0x2C6F, 1, -10783, 1), (0x2C70, 1, -10782, 1), (0x2C72, 1, 1, 1), (0x2C75, 1, 1, 1),
  (0x2C7E, 2, -10815, 1), (0x2C80, 50, 1, 2), (0x2CEB, 2, 1, 2), (0x2CF2, 1, 1, 1),
  (0xA640, 23, 1, 2), (0xA680, 12, 1, 2), (0xA722, 7, 1, 2), (0xA732, 31, 1, 2), (0xA779, 2, 1, 2),
  (0xA77D, 1, -35332, 1), (0xA77E, 5, 1, 2), (0xA78B, 1, 1, 1), (0xA78D, 1, -42280, 1),
  (0xA790, 2, 1, 2), (0xA7A0, 5, 1, 2), (0xA7AA, 1, -42308, 1), (0xFF21, 26, 32, 1)]

/-- The runs of accented small Latin letters, with the letter each becomes. -/
def accentRuns : Array (Nat × Nat × Nat × Char × Bool) := #[
  (0xE0, 6, 1, 'a', false), (0xE7, 1, 1, 'c', false), (0xE8, 4, 1, 'e', false),
  (0xEC, 4, 1, 'i', false), (0xF1, 1, 1, 'n', false), (0xF2, 5, 1, 'o', false),
  (0xF9, 4, 1, 'u', false), (0xFD, 2, 2, 'y', false), (0x101, 3, 2, 'a', false),
  (0x107, 4, 2, 'c', false), (0x10F, 1, 1, 'd', false), (0x113, 5, 2, 'e', false),
  (0x11D, 4, 2, 'g', false), (0x125, 1, 1, 'h', false), (0x129, 4, 2, 'i', false),
  (0x130, 1, 1, 'i', false), (0x135, 1, 1, 'j', false), (0x137, 1, 1, 'k', false),
  (0x13A, 3, 2, 'l', false), (0x144, 3, 2, 'n', false), (0x14D, 3, 2, 'o', false),
  (0x155, 3, 2, 'r', false), (0x15B, 4, 2, 's', false), (0x163, 2, 2, 't', false),
  (0x169, 6, 2, 'u', false), (0x175, 1, 1, 'w', false), (0x177, 1, 1, 'y', false),
  (0x17A, 3, 2, 'z', false), (0x1A1, 1, 1, 'o', false), (0x1B0, 1, 1, 'u', false),
  (0x1CE, 1, 1, 'a', false), (0x1D0, 1, 1, 'i', false), (0x1D2, 1, 1, 'o', false),
  (0x1D4, 1, 1, 'u', false), (0x1D6, 4, 2, 'u', true), (0x1DF, 1, 1, 'a', true),
  (0x1E7, 1, 1, 'g', false), (0x1E9, 1, 1, 'k', false), (0x1EB, 1, 1, 'o', false),
  (0x1ED, 1, 1, 'o', true), (0x1F0, 1, 1, 'j', false), (0x1F5, 1, 1, 'g', false),
  (0x1F9, 1, 1, 'n', false), (0x1FB, 1, 1, 'a', true), (0x201, 2, 2, 'a', false),
  (0x205, 2, 2, 'e', false), (0x209, 2, 2, 'i', false), (0x20D, 2, 2, 'o', false),
  (0x211, 2, 2, 'r', false), (0x215, 2, 2, 'u', false), (0x219, 1, 1, 's', false),
  (0x21B, 1, 1, 't', false), (0x21F, 1, 1, 'h', false), (0x227, 1, 1, 'a', false),
  (0x229, 1, 1, 'e', false), (0x22B, 2, 2, 'o', true), (0x22F, 1, 1, 'o', false),
  (0x231, 1, 1, 'o', true), (0x233, 1, 1, 'y', false), (0x1E01, 1, 1, 'a', false),
  (0x1E03, 3, 2, 'b', false), (0x1E09, 1, 1, 'c', true), (0x1E0B, 5, 2, 'd', false),
  (0x1E15, 2, 2, 'e', true), (0x1E19, 2, 2, 'e', false), (0x1E1D, 1, 1, 'e', true),
  (0x1E1F, 1, 1, 'f', false), (0x1E21, 1, 1, 'g', false), (0x1E23, 5, 2, 'h', false),
  (0x1E2D, 1, 1, 'i', false), (0x1E2F, 1, 1, 'i', true), (0x1E31, 3, 2, 'k', false),
  (0x1E37, 1, 1, 'l', false), (0x1E39, 1, 1, 'l', true), (0x1E3B, 2, 2, 'l', false),
  (0x1E3F, 3, 2, 'm', false), (0x1E45, 4, 2, 'n', false), (0x1E4D, 4, 2, 'o', true),
  (0x1E55, 2, 2, 'p', false), (0x1E59, 2, 2, 'r', false), (0x1E5D, 1, 1, 'r', true),
  (0x1E5F, 1, 1, 'r', false), (0x1E61, 2, 2, 's', false), (0x1E65, 3, 2, 's', true),
  (0x1E6B, 4, 2, 't', false), (0x1E73, 3, 2, 'u', false), (0x1E79, 2, 2, 'u', true),
  (0x1E7D, 2, 2, 'v', false), (0x1E81, 5, 2, 'w', false), (0x1E8B, 2, 2, 'x', false),
  (0x1E8F, 1, 1, 'y', false), (0x1E91, 3, 2, 'z', false), (0x1E96, 1, 1, 'h', false),
  (0x1E97, 1, 1, 't', false), (0x1E98, 1, 1, 'w', false), (0x1E99, 1, 1, 'y', false),
  (0x1EA1, 2, 2, 'a', false), (0x1EA5, 10, 2, 'a', true), (0x1EB9, 3, 2, 'e', false),
  (0x1EBF, 5, 2, 'e', true), (0x1EC9, 2, 2, 'i', false), (0x1ECD, 2, 2, 'o', false),
  (0x1ED1, 10, 2, 'o', true), (0x1EE5, 2, 2, 'u', false), (0x1EE9, 5, 2, 'u', true),
  (0x1EF3, 4, 2, 'y', false)]

/-- Whether a code point is one of a run's. -/
def inRun (code first count step : Nat) : Bool :=
  first ≤ code && code < first + count * step && (code - first) % step == 0

/-- The lower case of a code point: ASCII capitals and the listed ones are lowered, every other
code point is its own lower case. -/
def lowerPoint (code : Nat) : Nat :=
  if code < 0x80 then (if 0x41 ≤ code && code ≤ 0x5A then code + 32 else code)
  else if 66560 ≤ code && code < 66600 then code + 40
  else
    match lowerRuns.find? fun (first, count, _, step) => inRun code first count step with
    | some (_, _, offset, _) => (code + offset).toNat
    | none => code

/-- A small letter without its accents: the ASCII letter it is built on, when it carries one mark
or `thorough` is set; any other code point as it is. -/
def withoutAccent (thorough : Bool) (code : Nat) : Nat :=
  match accentRuns.find? fun (first, count, step, _, _) => inRun code first count step with
  | some (_, _, _, letter, several) => if several && !thorough then code else letter.toNat
  | none => code

theorem inRun_first (first count step : Nat) (h : 0 < count) (hs : 0 < step) :
    inRun first first count step = true := by
  have within : first < first + count * step := by
    have := Nat.mul_le_mul_right step h
    omega
  simp [inRun, within]

end SheetExport.Text
