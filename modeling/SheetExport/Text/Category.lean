/-!
# General categories

The full-text tokenizers sort characters by the general category the edition of Unicode their
tables were built from gives them. A category is a number:

* 1 to 4 the controls, formats, unassigned and surrogates (Cc, Cf, Cn, Cs), 31 private use (Co);
* 5 to 9 the letters Ll, Lm, Lo, Lt and Lu, and 30 the cased letters as one class (LC), which no
  code point has;
* 10 to 12 the marks Mc, Me and Mn;
* 13 to 15 the numbers Nd, Nl and No;
* 16 to 22 the punctuation Pc, Pd, Pe, Pf, Pi, Po and Ps;
* 23 to 26 the symbols Sc, Sk, Sm and So;
* 27 to 29 the separators Zl, Zp and Zs.

Category 0 is a code point the table leaves out, which every choice of categories counts as part
of a word. The table is a list of runs in increasing order.
-/

namespace SheetExport.Text

/-- The runs of the table that begin from U+0000 to U+03DF. -/
def categoryRuns0 : Array (Nat × Nat) := #[
  (0x0, 0), (0x1, 1), (0x20, 29), (0x21, 21), (0x24, 23), (0x25, 21), (0x28, 22), (0x29, 18),
  (0x2A, 21), (0x2B, 25), (0x2C, 21), (0x2D, 17), (0x2E, 21), (0x30, 13), (0x3A, 21), (0x3C, 25),
  (0x3F, 21), (0x41, 9), (0x5B, 22), (0x5C, 21), (0x5D, 18), (0x5E, 24), (0x5F, 16), (0x60, 24),
  (0x61, 5), (0x7B, 22), (0x7C, 25), (0x7D, 18), (0x7E, 25), (0x7F, 1), (0xA0, 29), (0xA1, 21),
  (0xA2, 23), (0xA6, 26), (0xA7, 21), (0xA8, 24), (0xA9, 26), (0xAA, 7), (0xAB, 20), (0xAC, 25),
  (0xAD, 2), (0xAE, 26), (0xAF, 24), (0xB0, 26), (0xB1, 25), (0xB2, 15), (0xB4, 24), (0xB5, 5),
  (0xB6, 21), (0xB8, 24), (0xB9, 15), (0xBA, 7), (0xBB, 19), (0xBC, 15), (0xBF, 21), (0xC0, 9),
  (0xD7, 25), (0xD8, 9), (0xDF, 5), (0xF7, 25), (0xF8, 5), (0x100, 9), (0x101, 5), (0x102, 9),
  (0x103, 5), (0x104, 9), (0x105, 5), (0x106, 9), (0x107, 5), (0x108, 9), (0x109, 5), (0x10A, 9),
  (0x10B, 5), (0x10C, 9), (0x10D, 5), (0x10E, 9), (0x10F, 5), (0x110, 9), (0x111, 5), (0x112, 9),
  (0x113, 5), (0x114, 9), (0x115, 5), (0x116, 9), (0x117, 5), (0x118, 9), (0x119, 5), (0x11A, 9),
  (0x11B, 5), (0x11C, 9), (0x11D, 5), (0x11E, 9), (0x11F, 5), (0x120, 9), (0x121, 5), (0x122, 9),
  (0x123, 5), (0x124, 9), (0x125, 5), (0x126, 9), (0x127, 5), (0x128, 9), (0x129, 5), (0x12A, 9),
  (0x12B, 5), (0x12C, 9), (0x12D, 5), (0x12E, 9), (0x12F, 5), (0x130, 9), (0x131, 5), (0x132, 9),
  (0x133, 5), (0x134, 9), (0x135, 5), (0x136, 9), (0x137, 5), (0x139, 9), (0x13A, 5), (0x13B, 9),
  (0x13C, 5), (0x13D, 9), (0x13E, 5), (0x13F, 9), (0x140, 5), (0x141, 9), (0x142, 5), (0x143, 9),
  (0x144, 5), (0x145, 9), (0x146, 5), (0x147, 9), (0x148, 5), (0x14A, 9), (0x14B, 5), (0x14C, 9),
  (0x14D, 5), (0x14E, 9), (0x14F, 5), (0x150, 9), (0x151, 5), (0x152, 9), (0x153, 5), (0x154, 9),
  (0x155, 5), (0x156, 9), (0x157, 5), (0x158, 9), (0x159, 5), (0x15A, 9), (0x15B, 5), (0x15C, 9),
  (0x15D, 5), (0x15E, 9), (0x15F, 5), (0x160, 9), (0x161, 5), (0x162, 9), (0x163, 5), (0x164, 9),
  (0x165, 5), (0x166, 9), (0x167, 5), (0x168, 9), (0x169, 5), (0x16A, 9), (0x16B, 5), (0x16C, 9),
  (0x16D, 5), (0x16E, 9), (0x16F, 5), (0x170, 9), (0x171, 5), (0x172, 9), (0x173, 5), (0x174, 9),
  (0x175, 5), (0x176, 9), (0x177, 5), (0x178, 9), (0x17A, 5), (0x17B, 9), (0x17C, 5), (0x17D, 9),
  (0x17E, 5), (0x181, 9), (0x183, 5), (0x184, 9), (0x185, 5), (0x186, 9), (0x188, 5), (0x189, 9),
  (0x18C, 5), (0x18E, 9), (0x192, 5), (0x193, 9), (0x195, 5), (0x196, 9), (0x199, 5), (0x19C, 9),
  (0x19E, 5), (0x19F, 9), (0x1A1, 5), (0x1A2, 9), (0x1A3, 5), (0x1A4, 9), (0x1A5, 5), (0x1A6, 9),
  (0x1A8, 5), (0x1A9, 9), (0x1AA, 5), (0x1AC, 9), (0x1AD, 5), (0x1AE, 9), (0x1B0, 5), (0x1B1, 9),
  (0x1B4, 5), (0x1B5, 9), (0x1B6, 5), (0x1B7, 9), (0x1B9, 5), (0x1BB, 7), (0x1BC, 9), (0x1BD, 5),
  (0x1C0, 7), (0x1C4, 9), (0x1C5, 8), (0x1C6, 5), (0x1C7, 9), (0x1C8, 8), (0x1C9, 5), (0x1CA, 9),
  (0x1CB, 8), (0x1CC, 5), (0x1CD, 9), (0x1CE, 5), (0x1CF, 9), (0x1D0, 5), (0x1D1, 9), (0x1D2, 5),
  (0x1D3, 9), (0x1D4, 5), (0x1D5, 9), (0x1D6, 5), (0x1D7, 9), (0x1D8, 5), (0x1D9, 9), (0x1DA, 5),
  (0x1DB, 9), (0x1DC, 5), (0x1DE, 9), (0x1DF, 5), (0x1E0, 9), (0x1E1, 5), (0x1E2, 9), (0x1E3, 5),
  (0x1E4, 9), (0x1E5, 5), (0x1E6, 9), (0x1E7, 5), (0x1E8, 9), (0x1E9, 5), (0x1EA, 9), (0x1EB, 5),
  (0x1EC, 9), (0x1ED, 5), (0x1EE, 9), (0x1EF, 5), (0x1F1, 9), (0x1F2, 8), (0x1F3, 5), (0x1F4, 9),
  (0x1F5, 5), (0x1F6, 9), (0x1F9, 5), (0x1FA, 9), (0x1FB, 5), (0x1FC, 9), (0x1FD, 5), (0x1FE, 9),
  (0x1FF, 5), (0x200, 9), (0x201, 5), (0x202, 9), (0x203, 5), (0x204, 9), (0x205, 5), (0x206, 9),
  (0x207, 5), (0x208, 9), (0x209, 5), (0x20A, 9), (0x20B, 5), (0x20C, 9), (0x20D, 5), (0x20E, 9),
  (0x20F, 5), (0x210, 9), (0x211, 5), (0x212, 9), (0x213, 5), (0x214, 9), (0x215, 5), (0x216, 9),
  (0x217, 5), (0x218, 9), (0x219, 5), (0x21A, 9), (0x21B, 5), (0x21C, 9), (0x21D, 5), (0x21E, 9),
  (0x21F, 5), (0x220, 9), (0x221, 5), (0x222, 9), (0x223, 5), (0x224, 9), (0x225, 5), (0x226, 9),
  (0x227, 5), (0x228, 9), (0x229, 5), (0x22A, 9), (0x22B, 5), (0x22C, 9), (0x22D, 5), (0x22E, 9),
  (0x22F, 5), (0x230, 9), (0x231, 5), (0x232, 9), (0x233, 5), (0x23A, 9), (0x23C, 5), (0x23D, 9),
  (0x23F, 5), (0x241, 9), (0x242, 5), (0x243, 9), (0x247, 5), (0x248, 9), (0x249, 5), (0x24A, 9),
  (0x24B, 5), (0x24C, 9), (0x24D, 5), (0x24E, 9), (0x24F, 5), (0x294, 7), (0x295, 5), (0x2B0, 6),
  (0x2C2, 24), (0x2C6, 6), (0x2D2, 24), (0x2E0, 6), (0x2E5, 24), (0x2EC, 6), (0x2ED, 24),
  (0x2EE, 6), (0x2EF, 24), (0x300, 12), (0x370, 9), (0x371, 5), (0x372, 9), (0x373, 5), (0x374, 6),
  (0x375, 24), (0x376, 9), (0x377, 5), (0x378, 0), (0x37A, 6), (0x37B, 5), (0x37E, 21), (0x37F, 0),
  (0x384, 24), (0x386, 9), (0x387, 21), (0x388, 9), (0x38B, 0), (0x38C, 9), (0x38D, 0), (0x38E, 9),
  (0x390, 5), (0x391, 9), (0x3A2, 0), (0x3A3, 9), (0x3AC, 5), (0x3CF, 9), (0x3D0, 5), (0x3D2, 9),
  (0x3D5, 5), (0x3D8, 9), (0x3D9, 5), (0x3DA, 9), (0x3DB, 5), (0x3DC, 9), (0x3DD, 5), (0x3DE, 9),
  (0x3DF, 5)]

/-- The runs of the table that begin from U+03E0 to U+0A34. -/
def categoryRuns1 : Array (Nat × Nat) := #[
  (0x3E0, 9), (0x3E1, 5), (0x3E2, 9), (0x3E3, 5), (0x3E4, 9), (0x3E5, 5), (0x3E6, 9), (0x3E7, 5),
  (0x3E8, 9), (0x3E9, 5), (0x3EA, 9), (0x3EB, 5), (0x3EC, 9), (0x3ED, 5), (0x3EE, 9), (0x3EF, 5),
  (0x3F4, 9), (0x3F5, 5), (0x3F6, 25), (0x3F7, 9), (0x3F8, 5), (0x3F9, 9), (0x3FB, 5), (0x3FD, 9),
  (0x430, 5), (0x460, 9), (0x461, 5), (0x462, 9), (0x463, 5), (0x464, 9), (0x465, 5), (0x466, 9),
  (0x467, 5), (0x468, 9), (0x469, 5), (0x46A, 9), (0x46B, 5), (0x46C, 9), (0x46D, 5), (0x46E, 9),
  (0x46F, 5), (0x470, 9), (0x471, 5), (0x472, 9), (0x473, 5), (0x474, 9), (0x475, 5), (0x476, 9),
  (0x477, 5), (0x478, 9), (0x479, 5), (0x47A, 9), (0x47B, 5), (0x47C, 9), (0x47D, 5), (0x47E, 9),
  (0x47F, 5), (0x480, 9), (0x481, 5), (0x482, 26), (0x483, 12), (0x488, 11), (0x48A, 9),
  (0x48B, 5), (0x48C, 9), (0x48D, 5), (0x48E, 9), (0x48F, 5), (0x490, 9), (0x491, 5), (0x492, 9),
  (0x493, 5), (0x494, 9), (0x495, 5), (0x496, 9), (0x497, 5), (0x498, 9), (0x499, 5), (0x49A, 9),
  (0x49B, 5), (0x49C, 9), (0x49D, 5), (0x49E, 9), (0x49F, 5), (0x4A0, 9), (0x4A1, 5), (0x4A2, 9),
  (0x4A3, 5), (0x4A4, 9), (0x4A5, 5), (0x4A6, 9), (0x4A7, 5), (0x4A8, 9), (0x4A9, 5), (0x4AA, 9),
  (0x4AB, 5), (0x4AC, 9), (0x4AD, 5), (0x4AE, 9), (0x4AF, 5), (0x4B0, 9), (0x4B1, 5), (0x4B2, 9),
  (0x4B3, 5), (0x4B4, 9), (0x4B5, 5), (0x4B6, 9), (0x4B7, 5), (0x4B8, 9), (0x4B9, 5), (0x4BA, 9),
  (0x4BB, 5), (0x4BC, 9), (0x4BD, 5), (0x4BE, 9), (0x4BF, 5), (0x4C0, 9), (0x4C2, 5), (0x4C3, 9),
  (0x4C4, 5), (0x4C5, 9), (0x4C6, 5), (0x4C7, 9), (0x4C8, 5), (0x4C9, 9), (0x4CA, 5), (0x4CB, 9),
  (0x4CC, 5), (0x4CD, 9), (0x4CE, 5), (0x4D0, 9), (0x4D1, 5), (0x4D2, 9), (0x4D3, 5), (0x4D4, 9),
  (0x4D5, 5), (0x4D6, 9), (0x4D7, 5), (0x4D8, 9), (0x4D9, 5), (0x4DA, 9), (0x4DB, 5), (0x4DC, 9),
  (0x4DD, 5), (0x4DE, 9), (0x4DF, 5), (0x4E0, 9), (0x4E1, 5), (0x4E2, 9), (0x4E3, 5), (0x4E4, 9),
  (0x4E5, 5), (0x4E6, 9), (0x4E7, 5), (0x4E8, 9), (0x4E9, 5), (0x4EA, 9), (0x4EB, 5), (0x4EC, 9),
  (0x4ED, 5), (0x4EE, 9), (0x4EF, 5), (0x4F0, 9), (0x4F1, 5), (0x4F2, 9), (0x4F3, 5), (0x4F4, 9),
  (0x4F5, 5), (0x4F6, 9), (0x4F7, 5), (0x4F8, 9), (0x4F9, 5), (0x4FA, 9), (0x4FB, 5), (0x4FC, 9),
  (0x4FD, 5), (0x4FE, 9), (0x4FF, 5), (0x500, 9), (0x501, 5), (0x502, 9), (0x503, 5), (0x504, 9),
  (0x505, 5), (0x506, 9), (0x507, 5), (0x508, 9), (0x509, 5), (0x50A, 9), (0x50B, 5), (0x50C, 9),
  (0x50D, 5), (0x50E, 9), (0x50F, 5), (0x510, 9), (0x511, 5), (0x512, 9), (0x513, 5), (0x514, 9),
  (0x515, 5), (0x516, 9), (0x517, 5), (0x518, 9), (0x519, 5), (0x51A, 9), (0x51B, 5), (0x51C, 9),
  (0x51D, 5), (0x51E, 9), (0x51F, 5), (0x520, 9), (0x521, 5), (0x522, 9), (0x523, 5), (0x524, 9),
  (0x525, 5), (0x526, 9), (0x527, 5), (0x528, 0), (0x531, 9), (0x557, 0), (0x559, 6), (0x55A, 21),
  (0x560, 0), (0x561, 5), (0x588, 0), (0x589, 21), (0x58A, 17), (0x58B, 0), (0x58F, 23),
  (0x590, 0), (0x591, 12), (0x5BE, 17), (0x5BF, 12), (0x5C0, 21), (0x5C1, 12), (0x5C3, 21),
  (0x5C4, 12), (0x5C6, 21), (0x5C7, 12), (0x5C8, 0), (0x5D0, 7), (0x5EB, 0), (0x5F0, 7),
  (0x5F3, 21), (0x5F5, 0), (0x600, 2), (0x605, 0), (0x606, 25), (0x609, 21), (0x60B, 23),
  (0x60C, 21), (0x60E, 26), (0x610, 12), (0x61B, 21), (0x61C, 0), (0x61E, 21), (0x620, 7),
  (0x640, 6), (0x641, 7), (0x64B, 12), (0x660, 13), (0x66A, 21), (0x66E, 7), (0x670, 12),
  (0x671, 7), (0x6D4, 21), (0x6D5, 7), (0x6D6, 12), (0x6DD, 2), (0x6DE, 26), (0x6DF, 12),
  (0x6E5, 6), (0x6E7, 12), (0x6E9, 26), (0x6EA, 12), (0x6EE, 7), (0x6F0, 13), (0x6FA, 7),
  (0x6FD, 26), (0x6FF, 7), (0x700, 21), (0x70E, 0), (0x70F, 2), (0x710, 7), (0x711, 12),
  (0x712, 7), (0x730, 12), (0x74B, 0), (0x74D, 7), (0x7A6, 12), (0x7B1, 7), (0x7B2, 0),
  (0x7C0, 13), (0x7CA, 7), (0x7EB, 12), (0x7F4, 6), (0x7F6, 26), (0x7F7, 21), (0x7FA, 6),
  (0x7FB, 0), (0x800, 7), (0x816, 12), (0x81A, 6), (0x81B, 12), (0x824, 6), (0x825, 12),
  (0x828, 6), (0x829, 12), (0x82E, 0), (0x830, 21), (0x83F, 0), (0x840, 7), (0x859, 12),
  (0x85C, 0), (0x85E, 21), (0x85F, 0), (0x8A0, 7), (0x8A1, 0), (0x8A2, 7), (0x8AD, 0), (0x8E4, 12),
  (0x8FF, 0), (0x900, 12), (0x903, 10), (0x904, 7), (0x93A, 12), (0x93B, 10), (0x93C, 12),
  (0x93D, 7), (0x93E, 10), (0x941, 12), (0x949, 10), (0x94D, 12), (0x94E, 10), (0x950, 7),
  (0x951, 12), (0x958, 7), (0x962, 12), (0x964, 21), (0x966, 13), (0x970, 21), (0x971, 6),
  (0x972, 7), (0x978, 0), (0x979, 7), (0x980, 0), (0x981, 12), (0x982, 10), (0x984, 0), (0x985, 7),
  (0x98D, 0), (0x98F, 7), (0x991, 0), (0x993, 7), (0x9A9, 0), (0x9AA, 7), (0x9B1, 0), (0x9B2, 7),
  (0x9B3, 0), (0x9B6, 7), (0x9BA, 0), (0x9BC, 12), (0x9BD, 7), (0x9BE, 10), (0x9C1, 12),
  (0x9C5, 0), (0x9C7, 10), (0x9C9, 0), (0x9CB, 10), (0x9CD, 12), (0x9CE, 7), (0x9CF, 0),
  (0x9D7, 10), (0x9D8, 0), (0x9DC, 7), (0x9DE, 0), (0x9DF, 7), (0x9E2, 12), (0x9E4, 0),
  (0x9E6, 13), (0x9F0, 7), (0x9F2, 23), (0x9F4, 15), (0x9FA, 26), (0x9FB, 23), (0x9FC, 0),
  (0xA01, 12), (0xA03, 10), (0xA04, 0), (0xA05, 7), (0xA0B, 0), (0xA0F, 7), (0xA11, 0), (0xA13, 7),
  (0xA29, 0), (0xA2A, 7), (0xA31, 0), (0xA32, 7), (0xA34, 0)]

/-- The runs of the table that begin from U+0A35 to U+10FC. -/
def categoryRuns2 : Array (Nat × Nat) := #[
  (0xA35, 7), (0xA37, 0), (0xA38, 7), (0xA3A, 0), (0xA3C, 12), (0xA3D, 0), (0xA3E, 10),
  (0xA41, 12), (0xA43, 0), (0xA47, 12), (0xA49, 0), (0xA4B, 12), (0xA4E, 0), (0xA51, 12),
  (0xA52, 0), (0xA59, 7), (0xA5D, 0), (0xA5E, 7), (0xA5F, 0), (0xA66, 13), (0xA70, 12), (0xA72, 7),
  (0xA75, 12), (0xA76, 0), (0xA81, 12), (0xA83, 10), (0xA84, 0), (0xA85, 7), (0xA8E, 0),
  (0xA8F, 7), (0xA92, 0), (0xA93, 7), (0xAA9, 0), (0xAAA, 7), (0xAB1, 0), (0xAB2, 7), (0xAB4, 0),
  (0xAB5, 7), (0xABA, 0), (0xABC, 12), (0xABD, 7), (0xABE, 10), (0xAC1, 12), (0xAC6, 0),
  (0xAC7, 12), (0xAC9, 10), (0xACA, 0), (0xACB, 10), (0xACD, 12), (0xACE, 0), (0xAD0, 7),
  (0xAD1, 0), (0xAE0, 7), (0xAE2, 12), (0xAE4, 0), (0xAE6, 13), (0xAF0, 21), (0xAF1, 23),
  (0xAF2, 0), (0xB01, 12), (0xB02, 10), (0xB04, 0), (0xB05, 7), (0xB0D, 0), (0xB0F, 7), (0xB11, 0),
  (0xB13, 7), (0xB29, 0), (0xB2A, 7), (0xB31, 0), (0xB32, 7), (0xB34, 0), (0xB35, 7), (0xB3A, 0),
  (0xB3C, 12), (0xB3D, 7), (0xB3E, 10), (0xB3F, 12), (0xB40, 10), (0xB41, 12), (0xB45, 0),
  (0xB47, 10), (0xB49, 0), (0xB4B, 10), (0xB4D, 12), (0xB4E, 0), (0xB56, 12), (0xB57, 10),
  (0xB58, 0), (0xB5C, 7), (0xB5E, 0), (0xB5F, 7), (0xB62, 12), (0xB64, 0), (0xB66, 13),
  (0xB70, 26), (0xB71, 7), (0xB72, 15), (0xB78, 0), (0xB82, 12), (0xB83, 7), (0xB84, 0),
  (0xB85, 7), (0xB8B, 0), (0xB8E, 7), (0xB91, 0), (0xB92, 7), (0xB96, 0), (0xB99, 7), (0xB9B, 0),
  (0xB9C, 7), (0xB9D, 0), (0xB9E, 7), (0xBA0, 0), (0xBA3, 7), (0xBA5, 0), (0xBA8, 7), (0xBAB, 0),
  (0xBAE, 7), (0xBBA, 0), (0xBBE, 10), (0xBC0, 12), (0xBC1, 10), (0xBC3, 0), (0xBC6, 10),
  (0xBC9, 0), (0xBCA, 10), (0xBCD, 12), (0xBCE, 0), (0xBD0, 7), (0xBD1, 0), (0xBD7, 10),
  (0xBD8, 0), (0xBE6, 13), (0xBF0, 15), (0xBF3, 26), (0xBF9, 23), (0xBFA, 26), (0xBFB, 0),
  (0xC01, 10), (0xC04, 0), (0xC05, 7), (0xC0D, 0), (0xC0E, 7), (0xC11, 0), (0xC12, 7), (0xC29, 0),
  (0xC2A, 7), (0xC34, 0), (0xC35, 7), (0xC3A, 0), (0xC3D, 7), (0xC3E, 12), (0xC41, 10), (0xC45, 0),
  (0xC46, 12), (0xC49, 0), (0xC4A, 12), (0xC4E, 0), (0xC55, 12), (0xC57, 0), (0xC58, 7),
  (0xC5A, 0), (0xC60, 7), (0xC62, 12), (0xC64, 0), (0xC66, 13), (0xC70, 0), (0xC78, 15),
  (0xC7F, 26), (0xC80, 0), (0xC82, 10), (0xC84, 0), (0xC85, 7), (0xC8D, 0), (0xC8E, 7), (0xC91, 0),
  (0xC92, 7), (0xCA9, 0), (0xCAA, 7), (0xCB4, 0), (0xCB5, 7), (0xCBA, 0), (0xCBC, 12), (0xCBD, 7),
  (0xCBE, 10), (0xCBF, 12), (0xCC0, 10), (0xCC5, 0), (0xCC6, 12), (0xCC7, 10), (0xCC9, 0),
  (0xCCA, 10), (0xCCC, 12), (0xCCE, 0), (0xCD5, 10), (0xCD7, 0), (0xCDE, 7), (0xCDF, 0),
  (0xCE0, 7), (0xCE2, 12), (0xCE4, 0), (0xCE6, 13), (0xCF0, 0), (0xCF1, 7), (0xCF3, 0),
  (0xD02, 10), (0xD04, 0), (0xD05, 7), (0xD0D, 0), (0xD0E, 7), (0xD11, 0), (0xD12, 7), (0xD3B, 0),
  (0xD3D, 7), (0xD3E, 10), (0xD41, 12), (0xD45, 0), (0xD46, 10), (0xD49, 0), (0xD4A, 10),
  (0xD4D, 12), (0xD4E, 7), (0xD4F, 0), (0xD57, 10), (0xD58, 0), (0xD60, 7), (0xD62, 12),
  (0xD64, 0), (0xD66, 13), (0xD70, 15), (0xD76, 0), (0xD79, 26), (0xD7A, 7), (0xD80, 0),
  (0xD82, 10), (0xD84, 0), (0xD85, 7), (0xD97, 0), (0xD9A, 7), (0xDB2, 0), (0xDB3, 7), (0xDBC, 0),
  (0xDBD, 7), (0xDBE, 0), (0xDC0, 7), (0xDC7, 0), (0xDCA, 12), (0xDCB, 0), (0xDCF, 10),
  (0xDD2, 12), (0xDD5, 0), (0xDD6, 12), (0xDD7, 0), (0xDD8, 10), (0xDE0, 0), (0xDF2, 10),
  (0xDF4, 21), (0xDF5, 0), (0xE01, 7), (0xE31, 12), (0xE32, 7), (0xE34, 12), (0xE3B, 0),
  (0xE3F, 23), (0xE40, 7), (0xE46, 6), (0xE47, 12), (0xE4F, 21), (0xE50, 13), (0xE5A, 21),
  (0xE5C, 0), (0xE81, 7), (0xE83, 0), (0xE84, 7), (0xE85, 0), (0xE87, 7), (0xE89, 0), (0xE8A, 7),
  (0xE8B, 0), (0xE8D, 7), (0xE8E, 0), (0xE94, 7), (0xE98, 0), (0xE99, 7), (0xEA0, 0), (0xEA1, 7),
  (0xEA4, 0), (0xEA5, 7), (0xEA6, 0), (0xEA7, 7), (0xEA8, 0), (0xEAA, 7), (0xEAC, 0), (0xEAD, 7),
  (0xEB1, 12), (0xEB2, 7), (0xEB4, 12), (0xEBA, 0), (0xEBB, 12), (0xEBD, 7), (0xEBE, 0),
  (0xEC0, 7), (0xEC5, 0), (0xEC6, 6), (0xEC7, 0), (0xEC8, 12), (0xECE, 0), (0xED0, 13), (0xEDA, 0),
  (0xEDC, 7), (0xEE0, 0), (0xF00, 7), (0xF01, 26), (0xF04, 21), (0xF13, 26), (0xF14, 21),
  (0xF15, 26), (0xF18, 12), (0xF1A, 26), (0xF20, 13), (0xF2A, 15), (0xF34, 26), (0xF35, 12),
  (0xF36, 26), (0xF37, 12), (0xF38, 26), (0xF39, 12), (0xF3A, 22), (0xF3B, 18), (0xF3C, 22),
  (0xF3D, 18), (0xF3E, 10), (0xF40, 7), (0xF48, 0), (0xF49, 7), (0xF6D, 0), (0xF71, 12),
  (0xF7F, 10), (0xF80, 12), (0xF85, 21), (0xF86, 12), (0xF88, 7), (0xF8D, 12), (0xF98, 0),
  (0xF99, 12), (0xFBD, 0), (0xFBE, 26), (0xFC6, 12), (0xFC7, 26), (0xFCD, 0), (0xFCE, 26),
  (0xFD0, 21), (0xFD5, 26), (0xFD9, 21), (0xFDB, 0), (0x1000, 7), (0x102B, 10), (0x102D, 12),
  (0x1031, 10), (0x1032, 12), (0x1038, 10), (0x1039, 12), (0x103B, 10), (0x103D, 12), (0x103F, 7),
  (0x1040, 13), (0x104A, 21), (0x1050, 7), (0x1056, 10), (0x1058, 12), (0x105A, 7), (0x105E, 12),
  (0x1061, 7), (0x1062, 10), (0x1065, 7), (0x1067, 10), (0x106E, 7), (0x1071, 12), (0x1075, 7),
  (0x1082, 12), (0x1083, 10), (0x1085, 12), (0x1087, 10), (0x108D, 12), (0x108E, 7), (0x108F, 10),
  (0x1090, 13), (0x109A, 10), (0x109D, 12), (0x109E, 26), (0x10A0, 9), (0x10C6, 0), (0x10C7, 9),
  (0x10C8, 0), (0x10CD, 9), (0x10CE, 0), (0x10D0, 7), (0x10FB, 21), (0x10FC, 6)]

/-- The runs of the table that begin from U+10FD to U+1EA0. -/
def categoryRuns3 : Array (Nat × Nat) := #[
  (0x10FD, 7), (0x1249, 0), (0x124A, 7), (0x124E, 0), (0x1250, 7), (0x1257, 0), (0x1258, 7),
  (0x1259, 0), (0x125A, 7), (0x125E, 0), (0x1260, 7), (0x1289, 0), (0x128A, 7), (0x128E, 0),
  (0x1290, 7), (0x12B1, 0), (0x12B2, 7), (0x12B6, 0), (0x12B8, 7), (0x12BF, 0), (0x12C0, 7),
  (0x12C1, 0), (0x12C2, 7), (0x12C6, 0), (0x12C8, 7), (0x12D7, 0), (0x12D8, 7), (0x1311, 0),
  (0x1312, 7), (0x1316, 0), (0x1318, 7), (0x135B, 0), (0x135D, 12), (0x1360, 21), (0x1369, 15),
  (0x137D, 0), (0x1380, 7), (0x1390, 26), (0x139A, 0), (0x13A0, 7), (0x13F5, 0), (0x1400, 17),
  (0x1401, 7), (0x166D, 21), (0x166F, 7), (0x1680, 29), (0x1681, 7), (0x169B, 22), (0x169C, 18),
  (0x169D, 0), (0x16A0, 7), (0x16EB, 21), (0x16EE, 14), (0x16F1, 0), (0x1700, 7), (0x170D, 0),
  (0x170E, 7), (0x1712, 12), (0x1715, 0), (0x1720, 7), (0x1732, 12), (0x1735, 21), (0x1737, 0),
  (0x1740, 7), (0x1752, 12), (0x1754, 0), (0x1760, 7), (0x176D, 0), (0x176E, 7), (0x1771, 0),
  (0x1772, 12), (0x1774, 0), (0x1780, 7), (0x17B4, 12), (0x17B6, 10), (0x17B7, 12), (0x17BE, 10),
  (0x17C6, 12), (0x17C7, 10), (0x17C9, 12), (0x17D4, 21), (0x17D7, 6), (0x17D8, 21), (0x17DB, 23),
  (0x17DC, 7), (0x17DD, 12), (0x17DE, 0), (0x17E0, 13), (0x17EA, 0), (0x17F0, 15), (0x17FA, 0),
  (0x1800, 21), (0x1806, 17), (0x1807, 21), (0x180B, 12), (0x180E, 29), (0x180F, 0), (0x1810, 13),
  (0x181A, 0), (0x1820, 7), (0x1843, 6), (0x1844, 7), (0x1878, 0), (0x1880, 7), (0x18A9, 12),
  (0x18AA, 7), (0x18AB, 0), (0x18B0, 7), (0x18F6, 0), (0x1900, 7), (0x191D, 0), (0x1920, 12),
  (0x1923, 10), (0x1927, 12), (0x1929, 10), (0x192C, 0), (0x1930, 10), (0x1932, 12), (0x1933, 10),
  (0x1939, 12), (0x193C, 0), (0x1940, 26), (0x1941, 0), (0x1944, 21), (0x1946, 13), (0x1950, 7),
  (0x196E, 0), (0x1970, 7), (0x1975, 0), (0x1980, 7), (0x19AC, 0), (0x19B0, 10), (0x19C1, 7),
  (0x19C8, 10), (0x19CA, 0), (0x19D0, 13), (0x19DA, 15), (0x19DB, 0), (0x19DE, 26), (0x1A00, 7),
  (0x1A17, 12), (0x1A19, 10), (0x1A1C, 0), (0x1A1E, 21), (0x1A20, 7), (0x1A55, 10), (0x1A56, 12),
  (0x1A57, 10), (0x1A58, 12), (0x1A5F, 0), (0x1A60, 12), (0x1A61, 10), (0x1A62, 12), (0x1A63, 10),
  (0x1A65, 12), (0x1A6D, 10), (0x1A73, 12), (0x1A7D, 0), (0x1A7F, 12), (0x1A80, 13), (0x1A8A, 0),
  (0x1A90, 13), (0x1A9A, 0), (0x1AA0, 21), (0x1AA7, 6), (0x1AA8, 21), (0x1AAE, 0), (0x1B00, 12),
  (0x1B04, 10), (0x1B05, 7), (0x1B34, 12), (0x1B35, 10), (0x1B36, 12), (0x1B3B, 10), (0x1B3C, 12),
  (0x1B3D, 10), (0x1B42, 12), (0x1B43, 10), (0x1B45, 7), (0x1B4C, 0), (0x1B50, 13), (0x1B5A, 21),
  (0x1B61, 26), (0x1B6B, 12), (0x1B74, 26), (0x1B7D, 0), (0x1B80, 12), (0x1B82, 10), (0x1B83, 7),
  (0x1BA1, 10), (0x1BA2, 12), (0x1BA6, 10), (0x1BA8, 12), (0x1BAA, 10), (0x1BAB, 12), (0x1BAC, 10),
  (0x1BAE, 7), (0x1BB0, 13), (0x1BBA, 7), (0x1BE6, 12), (0x1BE7, 10), (0x1BE8, 12), (0x1BEA, 10),
  (0x1BED, 12), (0x1BEE, 10), (0x1BEF, 12), (0x1BF2, 10), (0x1BF4, 0), (0x1BFC, 21), (0x1C00, 7),
  (0x1C24, 10), (0x1C2C, 12), (0x1C34, 10), (0x1C36, 12), (0x1C38, 0), (0x1C3B, 21), (0x1C40, 13),
  (0x1C4A, 0), (0x1C4D, 7), (0x1C50, 13), (0x1C5A, 7), (0x1C78, 6), (0x1C7E, 21), (0x1C80, 0),
  (0x1CC0, 21), (0x1CC8, 0), (0x1CD0, 12), (0x1CD3, 21), (0x1CD4, 12), (0x1CE1, 10), (0x1CE2, 12),
  (0x1CE9, 7), (0x1CED, 12), (0x1CEE, 7), (0x1CF2, 10), (0x1CF4, 12), (0x1CF5, 7), (0x1CF7, 0),
  (0x1D00, 5), (0x1D2C, 6), (0x1D6B, 5), (0x1D78, 6), (0x1D79, 5), (0x1D9B, 6), (0x1DC0, 12),
  (0x1DE7, 0), (0x1DFC, 12), (0x1E00, 9), (0x1E01, 5), (0x1E02, 9), (0x1E03, 5), (0x1E04, 9),
  (0x1E05, 5), (0x1E06, 9), (0x1E07, 5), (0x1E08, 9), (0x1E09, 5), (0x1E0A, 9), (0x1E0B, 5),
  (0x1E0C, 9), (0x1E0D, 5), (0x1E0E, 9), (0x1E0F, 5), (0x1E10, 9), (0x1E11, 5), (0x1E12, 9),
  (0x1E13, 5), (0x1E14, 9), (0x1E15, 5), (0x1E16, 9), (0x1E17, 5), (0x1E18, 9), (0x1E19, 5),
  (0x1E1A, 9), (0x1E1B, 5), (0x1E1C, 9), (0x1E1D, 5), (0x1E1E, 9), (0x1E1F, 5), (0x1E20, 9),
  (0x1E21, 5), (0x1E22, 9), (0x1E23, 5), (0x1E24, 9), (0x1E25, 5), (0x1E26, 9), (0x1E27, 5),
  (0x1E28, 9), (0x1E29, 5), (0x1E2A, 9), (0x1E2B, 5), (0x1E2C, 9), (0x1E2D, 5), (0x1E2E, 9),
  (0x1E2F, 5), (0x1E30, 9), (0x1E31, 5), (0x1E32, 9), (0x1E33, 5), (0x1E34, 9), (0x1E35, 5),
  (0x1E36, 9), (0x1E37, 5), (0x1E38, 9), (0x1E39, 5), (0x1E3A, 9), (0x1E3B, 5), (0x1E3C, 9),
  (0x1E3D, 5), (0x1E3E, 9), (0x1E3F, 5), (0x1E40, 9), (0x1E41, 5), (0x1E42, 9), (0x1E43, 5),
  (0x1E44, 9), (0x1E45, 5), (0x1E46, 9), (0x1E47, 5), (0x1E48, 9), (0x1E49, 5), (0x1E4A, 9),
  (0x1E4B, 5), (0x1E4C, 9), (0x1E4D, 5), (0x1E4E, 9), (0x1E4F, 5), (0x1E50, 9), (0x1E51, 5),
  (0x1E52, 9), (0x1E53, 5), (0x1E54, 9), (0x1E55, 5), (0x1E56, 9), (0x1E57, 5), (0x1E58, 9),
  (0x1E59, 5), (0x1E5A, 9), (0x1E5B, 5), (0x1E5C, 9), (0x1E5D, 5), (0x1E5E, 9), (0x1E5F, 5),
  (0x1E60, 9), (0x1E61, 5), (0x1E62, 9), (0x1E63, 5), (0x1E64, 9), (0x1E65, 5), (0x1E66, 9),
  (0x1E67, 5), (0x1E68, 9), (0x1E69, 5), (0x1E6A, 9), (0x1E6B, 5), (0x1E6C, 9), (0x1E6D, 5),
  (0x1E6E, 9), (0x1E6F, 5), (0x1E70, 9), (0x1E71, 5), (0x1E72, 9), (0x1E73, 5), (0x1E74, 9),
  (0x1E75, 5), (0x1E76, 9), (0x1E77, 5), (0x1E78, 9), (0x1E79, 5), (0x1E7A, 9), (0x1E7B, 5),
  (0x1E7C, 9), (0x1E7D, 5), (0x1E7E, 9), (0x1E7F, 5), (0x1E80, 9), (0x1E81, 5), (0x1E82, 9),
  (0x1E83, 5), (0x1E84, 9), (0x1E85, 5), (0x1E86, 9), (0x1E87, 5), (0x1E88, 9), (0x1E89, 5),
  (0x1E8A, 9), (0x1E8B, 5), (0x1E8C, 9), (0x1E8D, 5), (0x1E8E, 9), (0x1E8F, 5), (0x1E90, 9),
  (0x1E91, 5), (0x1E92, 9), (0x1E93, 5), (0x1E94, 9), (0x1E95, 5), (0x1E9E, 9), (0x1E9F, 5),
  (0x1EA0, 9)]

/-- The runs of the table that begin from U+1EA1 to U+2C70. -/
def categoryRuns4 : Array (Nat × Nat) := #[
  (0x1EA1, 5), (0x1EA2, 9), (0x1EA3, 5), (0x1EA4, 9), (0x1EA5, 5), (0x1EA6, 9), (0x1EA7, 5),
  (0x1EA8, 9), (0x1EA9, 5), (0x1EAA, 9), (0x1EAB, 5), (0x1EAC, 9), (0x1EAD, 5), (0x1EAE, 9),
  (0x1EAF, 5), (0x1EB0, 9), (0x1EB1, 5), (0x1EB2, 9), (0x1EB3, 5), (0x1EB4, 9), (0x1EB5, 5),
  (0x1EB6, 9), (0x1EB7, 5), (0x1EB8, 9), (0x1EB9, 5), (0x1EBA, 9), (0x1EBB, 5), (0x1EBC, 9),
  (0x1EBD, 5), (0x1EBE, 9), (0x1EBF, 5), (0x1EC0, 9), (0x1EC1, 5), (0x1EC2, 9), (0x1EC3, 5),
  (0x1EC4, 9), (0x1EC5, 5), (0x1EC6, 9), (0x1EC7, 5), (0x1EC8, 9), (0x1EC9, 5), (0x1ECA, 9),
  (0x1ECB, 5), (0x1ECC, 9), (0x1ECD, 5), (0x1ECE, 9), (0x1ECF, 5), (0x1ED0, 9), (0x1ED1, 5),
  (0x1ED2, 9), (0x1ED3, 5), (0x1ED4, 9), (0x1ED5, 5), (0x1ED6, 9), (0x1ED7, 5), (0x1ED8, 9),
  (0x1ED9, 5), (0x1EDA, 9), (0x1EDB, 5), (0x1EDC, 9), (0x1EDD, 5), (0x1EDE, 9), (0x1EDF, 5),
  (0x1EE0, 9), (0x1EE1, 5), (0x1EE2, 9), (0x1EE3, 5), (0x1EE4, 9), (0x1EE5, 5), (0x1EE6, 9),
  (0x1EE7, 5), (0x1EE8, 9), (0x1EE9, 5), (0x1EEA, 9), (0x1EEB, 5), (0x1EEC, 9), (0x1EED, 5),
  (0x1EEE, 9), (0x1EEF, 5), (0x1EF0, 9), (0x1EF1, 5), (0x1EF2, 9), (0x1EF3, 5), (0x1EF4, 9),
  (0x1EF5, 5), (0x1EF6, 9), (0x1EF7, 5), (0x1EF8, 9), (0x1EF9, 5), (0x1EFA, 9), (0x1EFB, 5),
  (0x1EFC, 9), (0x1EFD, 5), (0x1EFE, 9), (0x1EFF, 5), (0x1F08, 9), (0x1F10, 5), (0x1F16, 0),
  (0x1F18, 9), (0x1F1E, 0), (0x1F20, 5), (0x1F28, 9), (0x1F30, 5), (0x1F38, 9), (0x1F40, 5),
  (0x1F46, 0), (0x1F48, 9), (0x1F4E, 0), (0x1F50, 5), (0x1F58, 0), (0x1F59, 9), (0x1F5A, 0),
  (0x1F5B, 9), (0x1F5C, 0), (0x1F5D, 9), (0x1F5E, 0), (0x1F5F, 9), (0x1F60, 5), (0x1F68, 9),
  (0x1F70, 5), (0x1F7E, 0), (0x1F80, 5), (0x1F88, 8), (0x1F90, 5), (0x1F98, 8), (0x1FA0, 5),
  (0x1FA8, 8), (0x1FB0, 5), (0x1FB5, 0), (0x1FB6, 5), (0x1FB8, 9), (0x1FBC, 8), (0x1FBD, 24),
  (0x1FBE, 5), (0x1FBF, 24), (0x1FC2, 5), (0x1FC5, 0), (0x1FC6, 5), (0x1FC8, 9), (0x1FCC, 8),
  (0x1FCD, 24), (0x1FD0, 5), (0x1FD4, 0), (0x1FD6, 5), (0x1FD8, 9), (0x1FDC, 0), (0x1FDD, 24),
  (0x1FE0, 5), (0x1FE8, 9), (0x1FED, 24), (0x1FF0, 0), (0x1FF2, 5), (0x1FF5, 0), (0x1FF6, 5),
  (0x1FF8, 9), (0x1FFC, 8), (0x1FFD, 24), (0x1FFF, 0), (0x2000, 29), (0x200B, 2), (0x2010, 17),
  (0x2016, 21), (0x2018, 20), (0x2019, 19), (0x201A, 22), (0x201B, 20), (0x201D, 19), (0x201E, 22),
  (0x201F, 20), (0x2020, 21), (0x2028, 27), (0x2029, 28), (0x202A, 2), (0x202F, 29), (0x2030, 21),
  (0x2039, 20), (0x203A, 19), (0x203B, 21), (0x203F, 16), (0x2041, 21), (0x2044, 25), (0x2045, 22),
  (0x2046, 18), (0x2047, 21), (0x2052, 25), (0x2053, 21), (0x2054, 16), (0x2055, 21), (0x205F, 29),
  (0x2060, 2), (0x2065, 0), (0x206A, 2), (0x2070, 15), (0x2071, 6), (0x2072, 0), (0x2074, 15),
  (0x207A, 25), (0x207D, 22), (0x207E, 18), (0x207F, 6), (0x2080, 15), (0x208A, 25), (0x208D, 22),
  (0x208E, 18), (0x208F, 0), (0x2090, 6), (0x209D, 0), (0x20A0, 23), (0x20BA, 0), (0x20D0, 12),
  (0x20DD, 11), (0x20E1, 12), (0x20E2, 11), (0x20E5, 12), (0x20F1, 0), (0x2100, 26), (0x2102, 9),
  (0x2103, 26), (0x2107, 9), (0x2108, 26), (0x210A, 5), (0x210B, 9), (0x210E, 5), (0x2110, 9),
  (0x2113, 5), (0x2114, 26), (0x2115, 9), (0x2116, 26), (0x2118, 25), (0x2119, 9), (0x211E, 26),
  (0x2124, 9), (0x2125, 26), (0x2126, 9), (0x2127, 26), (0x2128, 9), (0x2129, 26), (0x212A, 9),
  (0x212E, 26), (0x212F, 5), (0x2130, 9), (0x2134, 5), (0x2135, 7), (0x2139, 5), (0x213A, 26),
  (0x213C, 5), (0x213E, 9), (0x2140, 25), (0x2145, 9), (0x2146, 5), (0x214A, 26), (0x214B, 25),
  (0x214C, 26), (0x214E, 5), (0x214F, 26), (0x2150, 15), (0x2160, 14), (0x2183, 9), (0x2184, 5),
  (0x2185, 14), (0x2189, 15), (0x218A, 0), (0x2190, 25), (0x2195, 26), (0x219A, 25), (0x219C, 26),
  (0x21A0, 25), (0x21A1, 26), (0x21A3, 25), (0x21A4, 26), (0x21A6, 25), (0x21A7, 26), (0x21AE, 25),
  (0x21AF, 26), (0x21CE, 25), (0x21D0, 26), (0x21D2, 25), (0x21D3, 26), (0x21D4, 25), (0x21D5, 26),
  (0x21F4, 25), (0x2300, 26), (0x2308, 25), (0x230C, 26), (0x2320, 25), (0x2322, 26), (0x2329, 22),
  (0x232A, 18), (0x232B, 26), (0x237C, 25), (0x237D, 26), (0x239B, 25), (0x23B4, 26), (0x23DC, 25),
  (0x23E2, 26), (0x23F4, 0), (0x2400, 26), (0x2427, 0), (0x2440, 26), (0x244B, 0), (0x2460, 15),
  (0x249C, 26), (0x24EA, 15), (0x2500, 26), (0x25B7, 25), (0x25B8, 26), (0x25C1, 25), (0x25C2, 26),
  (0x25F8, 25), (0x2600, 26), (0x266F, 25), (0x2670, 26), (0x2700, 0), (0x2701, 26), (0x2768, 22),
  (0x2769, 18), (0x276A, 22), (0x276B, 18), (0x276C, 22), (0x276D, 18), (0x276E, 22), (0x276F, 18),
  (0x2770, 22), (0x2771, 18), (0x2772, 22), (0x2773, 18), (0x2774, 22), (0x2775, 18), (0x2776, 15),
  (0x2794, 26), (0x27C0, 25), (0x27C5, 22), (0x27C6, 18), (0x27C7, 25), (0x27E6, 22), (0x27E7, 18),
  (0x27E8, 22), (0x27E9, 18), (0x27EA, 22), (0x27EB, 18), (0x27EC, 22), (0x27ED, 18), (0x27EE, 22),
  (0x27EF, 18), (0x27F0, 25), (0x2800, 26), (0x2900, 25), (0x2983, 22), (0x2984, 18), (0x2985, 22),
  (0x2986, 18), (0x2987, 22), (0x2988, 18), (0x2989, 22), (0x298A, 18), (0x298B, 22), (0x298C, 18),
  (0x298D, 22), (0x298E, 18), (0x298F, 22), (0x2990, 18), (0x2991, 22), (0x2992, 18), (0x2993, 22),
  (0x2994, 18), (0x2995, 22), (0x2996, 18), (0x2997, 22), (0x2998, 18), (0x2999, 25), (0x29D8, 22),
  (0x29D9, 18), (0x29DA, 22), (0x29DB, 18), (0x29DC, 25), (0x29FC, 22), (0x29FD, 18), (0x29FE, 25),
  (0x2B00, 26), (0x2B30, 25), (0x2B45, 26), (0x2B47, 25), (0x2B4D, 0), (0x2B50, 26), (0x2B5A, 0),
  (0x2C00, 9), (0x2C2F, 0), (0x2C30, 5), (0x2C5F, 0), (0x2C60, 9), (0x2C61, 5), (0x2C62, 9),
  (0x2C65, 5), (0x2C67, 9), (0x2C68, 5), (0x2C69, 9), (0x2C6A, 5), (0x2C6B, 9), (0x2C6C, 5),
  (0x2C6D, 9)]

/-- The runs of the table that begin from U+2C71 to U+A735. -/
def categoryRuns5 : Array (Nat × Nat) := #[
  (0x2C71, 5), (0x2C72, 9), (0x2C73, 5), (0x2C75, 9), (0x2C76, 5), (0x2C7C, 6), (0x2C7E, 9),
  (0x2C81, 5), (0x2C82, 9), (0x2C83, 5), (0x2C84, 9), (0x2C85, 5), (0x2C86, 9), (0x2C87, 5),
  (0x2C88, 9), (0x2C89, 5), (0x2C8A, 9), (0x2C8B, 5), (0x2C8C, 9), (0x2C8D, 5), (0x2C8E, 9),
  (0x2C8F, 5), (0x2C90, 9), (0x2C91, 5), (0x2C92, 9), (0x2C93, 5), (0x2C94, 9), (0x2C95, 5),
  (0x2C96, 9), (0x2C97, 5), (0x2C98, 9), (0x2C99, 5), (0x2C9A, 9), (0x2C9B, 5), (0x2C9C, 9),
  (0x2C9D, 5), (0x2C9E, 9), (0x2C9F, 5), (0x2CA0, 9), (0x2CA1, 5), (0x2CA2, 9), (0x2CA3, 5),
  (0x2CA4, 9), (0x2CA5, 5), (0x2CA6, 9), (0x2CA7, 5), (0x2CA8, 9), (0x2CA9, 5), (0x2CAA, 9),
  (0x2CAB, 5), (0x2CAC, 9), (0x2CAD, 5), (0x2CAE, 9), (0x2CAF, 5), (0x2CB0, 9), (0x2CB1, 5),
  (0x2CB2, 9), (0x2CB3, 5), (0x2CB4, 9), (0x2CB5, 5), (0x2CB6, 9), (0x2CB7, 5), (0x2CB8, 9),
  (0x2CB9, 5), (0x2CBA, 9), (0x2CBB, 5), (0x2CBC, 9), (0x2CBD, 5), (0x2CBE, 9), (0x2CBF, 5),
  (0x2CC0, 9), (0x2CC1, 5), (0x2CC2, 9), (0x2CC3, 5), (0x2CC4, 9), (0x2CC5, 5), (0x2CC6, 9),
  (0x2CC7, 5), (0x2CC8, 9), (0x2CC9, 5), (0x2CCA, 9), (0x2CCB, 5), (0x2CCC, 9), (0x2CCD, 5),
  (0x2CCE, 9), (0x2CCF, 5), (0x2CD0, 9), (0x2CD1, 5), (0x2CD2, 9), (0x2CD3, 5), (0x2CD4, 9),
  (0x2CD5, 5), (0x2CD6, 9), (0x2CD7, 5), (0x2CD8, 9), (0x2CD9, 5), (0x2CDA, 9), (0x2CDB, 5),
  (0x2CDC, 9), (0x2CDD, 5), (0x2CDE, 9), (0x2CDF, 5), (0x2CE0, 9), (0x2CE1, 5), (0x2CE2, 9),
  (0x2CE3, 5), (0x2CE5, 26), (0x2CEB, 9), (0x2CEC, 5), (0x2CED, 9), (0x2CEE, 5), (0x2CEF, 12),
  (0x2CF2, 9), (0x2CF3, 5), (0x2CF4, 0), (0x2CF9, 21), (0x2CFD, 15), (0x2CFE, 21), (0x2D00, 5),
  (0x2D26, 0), (0x2D27, 5), (0x2D28, 0), (0x2D2D, 5), (0x2D2E, 0), (0x2D30, 7), (0x2D68, 0),
  (0x2D6F, 6), (0x2D70, 21), (0x2D71, 0), (0x2D7F, 12), (0x2D80, 7), (0x2D97, 0), (0x2DA0, 7),
  (0x2DA7, 0), (0x2DA8, 7), (0x2DAF, 0), (0x2DB0, 7), (0x2DB7, 0), (0x2DB8, 7), (0x2DBF, 0),
  (0x2DC0, 7), (0x2DC7, 0), (0x2DC8, 7), (0x2DCF, 0), (0x2DD0, 7), (0x2DD7, 0), (0x2DD8, 7),
  (0x2DDF, 0), (0x2DE0, 12), (0x2E00, 21), (0x2E02, 20), (0x2E03, 19), (0x2E04, 20), (0x2E05, 19),
  (0x2E06, 21), (0x2E09, 20), (0x2E0A, 19), (0x2E0B, 21), (0x2E0C, 20), (0x2E0D, 19), (0x2E0E, 21),
  (0x2E17, 17), (0x2E18, 21), (0x2E1A, 17), (0x2E1B, 21), (0x2E1C, 20), (0x2E1D, 19), (0x2E1E, 21),
  (0x2E20, 20), (0x2E21, 19), (0x2E22, 22), (0x2E23, 18), (0x2E24, 22), (0x2E25, 18), (0x2E26, 22),
  (0x2E27, 18), (0x2E28, 22), (0x2E29, 18), (0x2E2A, 21), (0x2E2F, 6), (0x2E30, 21), (0x2E3A, 17),
  (0x2E3C, 0), (0x2E80, 26), (0x2E9A, 0), (0x2E9B, 26), (0x2EF4, 0), (0x2F00, 26), (0x2FD6, 0),
  (0x2FF0, 26), (0x2FFC, 0), (0x3000, 29), (0x3001, 21), (0x3004, 26), (0x3005, 6), (0x3006, 7),
  (0x3007, 14), (0x3008, 22), (0x3009, 18), (0x300A, 22), (0x300B, 18), (0x300C, 22), (0x300D, 18),
  (0x300E, 22), (0x300F, 18), (0x3010, 22), (0x3011, 18), (0x3012, 26), (0x3014, 22), (0x3015, 18),
  (0x3016, 22), (0x3017, 18), (0x3018, 22), (0x3019, 18), (0x301A, 22), (0x301B, 18), (0x301C, 17),
  (0x301D, 22), (0x301E, 18), (0x3020, 26), (0x3021, 14), (0x302A, 12), (0x302E, 10), (0x3030, 17),
  (0x3031, 6), (0x3036, 26), (0x3038, 14), (0x303B, 6), (0x303C, 7), (0x303D, 21), (0x303E, 26),
  (0x3040, 0), (0x3041, 7), (0x3097, 0), (0x3099, 12), (0x309B, 24), (0x309D, 6), (0x309F, 7),
  (0x30A0, 17), (0x30A1, 7), (0x30FB, 21), (0x30FC, 6), (0x30FF, 7), (0x3100, 0), (0x3105, 7),
  (0x312E, 0), (0x3131, 7), (0x318F, 0), (0x3190, 26), (0x3192, 15), (0x3196, 26), (0x31A0, 7),
  (0x31BB, 0), (0x31C0, 26), (0x31E4, 0), (0x31F0, 7), (0x3200, 26), (0x321F, 0), (0x3220, 15),
  (0x322A, 26), (0x3248, 15), (0x3250, 26), (0x3251, 15), (0x3260, 26), (0x3280, 15), (0x328A, 26),
  (0x32B1, 15), (0x32C0, 26), (0x32FF, 0), (0x3300, 26), (0x3400, 7), (0x3401, 0), (0x4DB5, 7),
  (0x4DB6, 0), (0x4DC0, 26), (0x4E00, 7), (0x4E01, 0), (0x9FCC, 7), (0x9FCD, 0), (0xA000, 7),
  (0xA015, 6), (0xA016, 7), (0xA48D, 0), (0xA490, 26), (0xA4C7, 0), (0xA4D0, 7), (0xA4F8, 6),
  (0xA4FE, 21), (0xA500, 7), (0xA60C, 6), (0xA60D, 21), (0xA610, 7), (0xA620, 13), (0xA62A, 7),
  (0xA62C, 0), (0xA640, 9), (0xA641, 5), (0xA642, 9), (0xA643, 5), (0xA644, 9), (0xA645, 5),
  (0xA646, 9), (0xA647, 5), (0xA648, 9), (0xA649, 5), (0xA64A, 9), (0xA64B, 5), (0xA64C, 9),
  (0xA64D, 5), (0xA64E, 9), (0xA64F, 5), (0xA650, 9), (0xA651, 5), (0xA652, 9), (0xA653, 5),
  (0xA654, 9), (0xA655, 5), (0xA656, 9), (0xA657, 5), (0xA658, 9), (0xA659, 5), (0xA65A, 9),
  (0xA65B, 5), (0xA65C, 9), (0xA65D, 5), (0xA65E, 9), (0xA65F, 5), (0xA660, 9), (0xA661, 5),
  (0xA662, 9), (0xA663, 5), (0xA664, 9), (0xA665, 5), (0xA666, 9), (0xA667, 5), (0xA668, 9),
  (0xA669, 5), (0xA66A, 9), (0xA66B, 5), (0xA66C, 9), (0xA66D, 5), (0xA66E, 7), (0xA66F, 12),
  (0xA670, 11), (0xA673, 21), (0xA674, 12), (0xA67E, 21), (0xA67F, 6), (0xA680, 9), (0xA681, 5),
  (0xA682, 9), (0xA683, 5), (0xA684, 9), (0xA685, 5), (0xA686, 9), (0xA687, 5), (0xA688, 9),
  (0xA689, 5), (0xA68A, 9), (0xA68B, 5), (0xA68C, 9), (0xA68D, 5), (0xA68E, 9), (0xA68F, 5),
  (0xA690, 9), (0xA691, 5), (0xA692, 9), (0xA693, 5), (0xA694, 9), (0xA695, 5), (0xA696, 9),
  (0xA697, 5), (0xA698, 0), (0xA69F, 12), (0xA6A0, 7), (0xA6E6, 14), (0xA6F0, 12), (0xA6F2, 21),
  (0xA6F8, 0), (0xA700, 24), (0xA717, 6), (0xA720, 24), (0xA722, 9), (0xA723, 5), (0xA724, 9),
  (0xA725, 5), (0xA726, 9), (0xA727, 5), (0xA728, 9), (0xA729, 5), (0xA72A, 9), (0xA72B, 5),
  (0xA72C, 9), (0xA72D, 5), (0xA72E, 9), (0xA72F, 5), (0xA732, 9), (0xA733, 5), (0xA734, 9),
  (0xA735, 5)]

/-- The runs of the table that begin from U+A736 to U+1003B. -/
def categoryRuns6 : Array (Nat × Nat) := #[
  (0xA736, 9), (0xA737, 5), (0xA738, 9), (0xA739, 5), (0xA73A, 9), (0xA73B, 5), (0xA73C, 9),
  (0xA73D, 5), (0xA73E, 9), (0xA73F, 5), (0xA740, 9), (0xA741, 5), (0xA742, 9), (0xA743, 5),
  (0xA744, 9), (0xA745, 5), (0xA746, 9), (0xA747, 5), (0xA748, 9), (0xA749, 5), (0xA74A, 9),
  (0xA74B, 5), (0xA74C, 9), (0xA74D, 5), (0xA74E, 9), (0xA74F, 5), (0xA750, 9), (0xA751, 5),
  (0xA752, 9), (0xA753, 5), (0xA754, 9), (0xA755, 5), (0xA756, 9), (0xA757, 5), (0xA758, 9),
  (0xA759, 5), (0xA75A, 9), (0xA75B, 5), (0xA75C, 9), (0xA75D, 5), (0xA75E, 9), (0xA75F, 5),
  (0xA760, 9), (0xA761, 5), (0xA762, 9), (0xA763, 5), (0xA764, 9), (0xA765, 5), (0xA766, 9),
  (0xA767, 5), (0xA768, 9), (0xA769, 5), (0xA76A, 9), (0xA76B, 5), (0xA76C, 9), (0xA76D, 5),
  (0xA76E, 9), (0xA76F, 5), (0xA770, 6), (0xA771, 5), (0xA779, 9), (0xA77A, 5), (0xA77B, 9),
  (0xA77C, 5), (0xA77D, 9), (0xA77F, 5), (0xA780, 9), (0xA781, 5), (0xA782, 9), (0xA783, 5),
  (0xA784, 9), (0xA785, 5), (0xA786, 9), (0xA787, 5), (0xA788, 6), (0xA789, 24), (0xA78B, 9),
  (0xA78C, 5), (0xA78D, 9), (0xA78E, 5), (0xA78F, 0), (0xA790, 9), (0xA791, 5), (0xA792, 9),
  (0xA793, 5), (0xA794, 0), (0xA7A0, 9), (0xA7A1, 5), (0xA7A2, 9), (0xA7A3, 5), (0xA7A4, 9),
  (0xA7A5, 5), (0xA7A6, 9), (0xA7A7, 5), (0xA7A8, 9), (0xA7A9, 5), (0xA7AA, 9), (0xA7AB, 0),
  (0xA7F8, 6), (0xA7FA, 5), (0xA7FB, 7), (0xA802, 12), (0xA803, 7), (0xA806, 12), (0xA807, 7),
  (0xA80B, 12), (0xA80C, 7), (0xA823, 10), (0xA825, 12), (0xA827, 10), (0xA828, 26), (0xA82C, 0),
  (0xA830, 15), (0xA836, 26), (0xA838, 23), (0xA839, 26), (0xA83A, 0), (0xA840, 7), (0xA874, 21),
  (0xA878, 0), (0xA880, 10), (0xA882, 7), (0xA8B4, 10), (0xA8C4, 12), (0xA8C5, 0), (0xA8CE, 21),
  (0xA8D0, 13), (0xA8DA, 0), (0xA8E0, 12), (0xA8F2, 7), (0xA8F8, 21), (0xA8FB, 7), (0xA8FC, 0),
  (0xA900, 13), (0xA90A, 7), (0xA926, 12), (0xA92E, 21), (0xA930, 7), (0xA947, 12), (0xA952, 10),
  (0xA954, 0), (0xA95F, 21), (0xA960, 7), (0xA97D, 0), (0xA980, 12), (0xA983, 10), (0xA984, 7),
  (0xA9B3, 12), (0xA9B4, 10), (0xA9B6, 12), (0xA9BA, 10), (0xA9BC, 12), (0xA9BD, 10), (0xA9C1, 21),
  (0xA9CE, 0), (0xA9CF, 6), (0xA9D0, 13), (0xA9DA, 0), (0xA9DE, 21), (0xA9E0, 0), (0xAA00, 7),
  (0xAA29, 12), (0xAA2F, 10), (0xAA31, 12), (0xAA33, 10), (0xAA35, 12), (0xAA37, 0), (0xAA40, 7),
  (0xAA43, 12), (0xAA44, 7), (0xAA4C, 12), (0xAA4D, 10), (0xAA4E, 0), (0xAA50, 13), (0xAA5A, 0),
  (0xAA5C, 21), (0xAA60, 7), (0xAA70, 6), (0xAA71, 7), (0xAA77, 26), (0xAA7A, 7), (0xAA7B, 10),
  (0xAA7C, 0), (0xAA80, 7), (0xAAB0, 12), (0xAAB1, 7), (0xAAB2, 12), (0xAAB5, 7), (0xAAB7, 12),
  (0xAAB9, 7), (0xAABE, 12), (0xAAC0, 7), (0xAAC1, 12), (0xAAC2, 7), (0xAAC3, 0), (0xAADB, 7),
  (0xAADD, 6), (0xAADE, 21), (0xAAE0, 7), (0xAAEB, 10), (0xAAEC, 12), (0xAAEE, 10), (0xAAF0, 21),
  (0xAAF2, 7), (0xAAF3, 6), (0xAAF5, 10), (0xAAF6, 12), (0xAAF7, 0), (0xAB01, 7), (0xAB07, 0),
  (0xAB09, 7), (0xAB0F, 0), (0xAB11, 7), (0xAB17, 0), (0xAB20, 7), (0xAB27, 0), (0xAB28, 7),
  (0xAB2F, 0), (0xABC0, 7), (0xABE3, 10), (0xABE5, 12), (0xABE6, 10), (0xABE8, 12), (0xABE9, 10),
  (0xABEB, 21), (0xABEC, 10), (0xABED, 12), (0xABEE, 0), (0xABF0, 13), (0xABFA, 0), (0xAC00, 7),
  (0xAC01, 0), (0xD7A3, 7), (0xD7A4, 0), (0xD7B0, 7), (0xD7C7, 0), (0xD7CB, 7), (0xD7FC, 0),
  (0xD800, 4), (0xE000, 31), (0xE001, 0), (0xF8FF, 31), (0xF900, 7), (0xFA6E, 0), (0xFA70, 7),
  (0xFADA, 0), (0xFB00, 5), (0xFB07, 0), (0xFB13, 5), (0xFB18, 0), (0xFB1D, 7), (0xFB1E, 12),
  (0xFB1F, 7), (0xFB29, 25), (0xFB2A, 7), (0xFB37, 0), (0xFB38, 7), (0xFB3D, 0), (0xFB3E, 7),
  (0xFB3F, 0), (0xFB40, 7), (0xFB42, 0), (0xFB43, 7), (0xFB45, 0), (0xFB46, 7), (0xFBB2, 24),
  (0xFBC2, 0), (0xFBD3, 7), (0xFD3E, 22), (0xFD3F, 18), (0xFD40, 0), (0xFD50, 7), (0xFD90, 0),
  (0xFD92, 7), (0xFDC8, 0), (0xFDF0, 7), (0xFDFC, 23), (0xFDFD, 26), (0xFDFE, 0), (0xFE00, 12),
  (0xFE10, 21), (0xFE17, 22), (0xFE18, 18), (0xFE19, 21), (0xFE1A, 0), (0xFE20, 12), (0xFE27, 0),
  (0xFE30, 21), (0xFE31, 17), (0xFE33, 16), (0xFE35, 22), (0xFE36, 18), (0xFE37, 22), (0xFE38, 18),
  (0xFE39, 22), (0xFE3A, 18), (0xFE3B, 22), (0xFE3C, 18), (0xFE3D, 22), (0xFE3E, 18), (0xFE3F, 22),
  (0xFE40, 18), (0xFE41, 22), (0xFE42, 18), (0xFE43, 22), (0xFE44, 18), (0xFE45, 21), (0xFE47, 22),
  (0xFE48, 18), (0xFE49, 21), (0xFE4D, 16), (0xFE50, 21), (0xFE53, 0), (0xFE54, 21), (0xFE58, 17),
  (0xFE59, 22), (0xFE5A, 18), (0xFE5B, 22), (0xFE5C, 18), (0xFE5D, 22), (0xFE5E, 18), (0xFE5F, 21),
  (0xFE62, 25), (0xFE63, 17), (0xFE64, 25), (0xFE67, 0), (0xFE68, 21), (0xFE69, 23), (0xFE6A, 21),
  (0xFE6C, 0), (0xFE70, 7), (0xFE75, 0), (0xFE76, 7), (0xFEFD, 0), (0xFEFF, 2), (0xFF00, 0),
  (0xFF01, 21), (0xFF04, 23), (0xFF05, 21), (0xFF08, 22), (0xFF09, 18), (0xFF0A, 21), (0xFF0B, 25),
  (0xFF0C, 21), (0xFF0D, 17), (0xFF0E, 21), (0xFF10, 13), (0xFF1A, 21), (0xFF1C, 25), (0xFF1F, 21),
  (0xFF21, 9), (0xFF3B, 22), (0xFF3C, 21), (0xFF3D, 18), (0xFF3E, 24), (0xFF3F, 16), (0xFF40, 24),
  (0xFF41, 5), (0xFF5B, 22), (0xFF5C, 25), (0xFF5D, 18), (0xFF5E, 25), (0xFF5F, 22), (0xFF60, 18),
  (0xFF61, 21), (0xFF62, 22), (0xFF63, 18), (0xFF64, 21), (0xFF66, 7), (0xFF70, 6), (0xFF71, 7),
  (0xFF9E, 6), (0xFFA0, 7), (0xFFBF, 0), (0xFFC2, 7), (0xFFC8, 0), (0xFFCA, 7), (0xFFD0, 0),
  (0xFFD2, 7), (0xFFD8, 0), (0xFFDA, 7), (0xFFDD, 0), (0xFFE0, 23), (0xFFE2, 25), (0xFFE3, 24),
  (0xFFE4, 26), (0xFFE5, 23), (0xFFE7, 0), (0xFFE8, 26), (0xFFE9, 25), (0xFFED, 26), (0xFFEF, 0),
  (0xFFF9, 2), (0xFFFC, 26), (0x10000, 7), (0x1000C, 0), (0x1000D, 7), (0x10027, 0), (0x10028, 7),
  (0x1003B, 0)]

/-- The runs of the table that begin from U+1003C to U+1F248. -/
def categoryRuns7 : Array (Nat × Nat) := #[
  (0x1003C, 7), (0x1003E, 0), (0x1003F, 7), (0x1004E, 0), (0x10050, 7), (0x1005E, 0), (0x10080, 7),
  (0x100FB, 0), (0x10100, 21), (0x10103, 0), (0x10107, 15), (0x10134, 0), (0x10137, 26),
  (0x10140, 14), (0x10175, 15), (0x10179, 26), (0x1018A, 15), (0x1018B, 0), (0x10190, 26),
  (0x1019C, 0), (0x101D0, 26), (0x101FD, 12), (0x101FE, 0), (0x10280, 7), (0x1029D, 0),
  (0x102A0, 7), (0x102D1, 0), (0x10300, 7), (0x1031F, 0), (0x10320, 15), (0x10324, 0),
  (0x10330, 7), (0x10341, 14), (0x10342, 7), (0x1034A, 14), (0x1034B, 0), (0x10380, 7),
  (0x1039E, 0), (0x1039F, 21), (0x103A0, 7), (0x103C4, 0), (0x103C8, 7), (0x103D0, 21),
  (0x103D1, 14), (0x103D6, 0), (0x10400, 9), (0x10428, 5), (0x10450, 7), (0x1049E, 0),
  (0x104A0, 13), (0x104AA, 0), (0x10800, 7), (0x10806, 0), (0x10808, 7), (0x10809, 0),
  (0x1080A, 7), (0x10836, 0), (0x10837, 7), (0x10839, 0), (0x1083C, 7), (0x1083D, 0), (0x1083F, 7),
  (0x10856, 0), (0x10857, 21), (0x10858, 15), (0x10860, 0), (0x10900, 7), (0x10916, 15),
  (0x1091C, 0), (0x1091F, 21), (0x10920, 7), (0x1093A, 0), (0x1093F, 21), (0x10940, 0),
  (0x10980, 7), (0x109B8, 0), (0x109BE, 7), (0x109C0, 0), (0x10A00, 7), (0x10A01, 12),
  (0x10A04, 0), (0x10A05, 12), (0x10A07, 0), (0x10A0C, 12), (0x10A10, 7), (0x10A14, 0),
  (0x10A15, 7), (0x10A18, 0), (0x10A19, 7), (0x10A34, 0), (0x10A38, 12), (0x10A3B, 0),
  (0x10A3F, 12), (0x10A40, 15), (0x10A48, 0), (0x10A50, 21), (0x10A59, 0), (0x10A60, 7),
  (0x10A7D, 15), (0x10A7F, 21), (0x10A80, 0), (0x10B00, 7), (0x10B36, 0), (0x10B39, 21),
  (0x10B40, 7), (0x10B56, 0), (0x10B58, 15), (0x10B60, 7), (0x10B73, 0), (0x10B78, 15),
  (0x10B80, 0), (0x10C00, 7), (0x10C49, 0), (0x10E60, 15), (0x10E7F, 0), (0x11000, 10),
  (0x11001, 12), (0x11002, 10), (0x11003, 7), (0x11038, 12), (0x11047, 21), (0x1104E, 0),
  (0x11052, 15), (0x11066, 13), (0x11070, 0), (0x11080, 12), (0x11082, 10), (0x11083, 7),
  (0x110B0, 10), (0x110B3, 12), (0x110B7, 10), (0x110B9, 12), (0x110BB, 21), (0x110BD, 2),
  (0x110BE, 21), (0x110C2, 0), (0x110D0, 7), (0x110E9, 0), (0x110F0, 13), (0x110FA, 0),
  (0x11100, 12), (0x11103, 7), (0x11127, 12), (0x1112C, 10), (0x1112D, 12), (0x11135, 0),
  (0x11136, 13), (0x11140, 21), (0x11144, 0), (0x11180, 12), (0x11182, 10), (0x11183, 7),
  (0x111B3, 10), (0x111B6, 12), (0x111BF, 10), (0x111C1, 7), (0x111C5, 21), (0x111C9, 0),
  (0x111D0, 13), (0x111DA, 0), (0x11680, 7), (0x116AB, 12), (0x116AC, 10), (0x116AD, 12),
  (0x116AE, 10), (0x116B0, 12), (0x116B6, 10), (0x116B7, 12), (0x116B8, 0), (0x116C0, 13),
  (0x116CA, 0), (0x12000, 7), (0x1236F, 0), (0x12400, 14), (0x12463, 0), (0x12470, 21),
  (0x12474, 0), (0x13000, 7), (0x1342F, 0), (0x16800, 7), (0x16A39, 0), (0x16F00, 7), (0x16F45, 0),
  (0x16F50, 7), (0x16F51, 10), (0x16F7F, 0), (0x16F8F, 12), (0x16F93, 6), (0x16FA0, 0),
  (0x1B000, 7), (0x1B002, 0), (0x1D000, 26), (0x1D0F6, 0), (0x1D100, 26), (0x1D127, 0),
  (0x1D129, 26), (0x1D165, 10), (0x1D167, 12), (0x1D16A, 26), (0x1D16D, 10), (0x1D173, 2),
  (0x1D17B, 12), (0x1D183, 26), (0x1D185, 12), (0x1D18C, 26), (0x1D1AA, 12), (0x1D1AE, 26),
  (0x1D1DE, 0), (0x1D200, 26), (0x1D242, 12), (0x1D245, 26), (0x1D246, 0), (0x1D300, 26),
  (0x1D357, 0), (0x1D360, 15), (0x1D372, 0), (0x1D400, 9), (0x1D41A, 5), (0x1D434, 9),
  (0x1D44E, 5), (0x1D455, 0), (0x1D456, 5), (0x1D468, 9), (0x1D482, 5), (0x1D49C, 9), (0x1D49D, 0),
  (0x1D49E, 9), (0x1D4A0, 0), (0x1D4A2, 9), (0x1D4A3, 0), (0x1D4A5, 9), (0x1D4A7, 0), (0x1D4A9, 9),
  (0x1D4AD, 0), (0x1D4AE, 9), (0x1D4B6, 5), (0x1D4BA, 0), (0x1D4BB, 5), (0x1D4BC, 0), (0x1D4BD, 5),
  (0x1D4C4, 0), (0x1D4C5, 5), (0x1D4D0, 9), (0x1D4EA, 5), (0x1D504, 9), (0x1D506, 0), (0x1D507, 9),
  (0x1D50B, 0), (0x1D50D, 9), (0x1D515, 0), (0x1D516, 9), (0x1D51D, 0), (0x1D51E, 5), (0x1D538, 9),
  (0x1D53A, 0), (0x1D53B, 9), (0x1D53F, 0), (0x1D540, 9), (0x1D545, 0), (0x1D546, 9), (0x1D547, 0),
  (0x1D54A, 9), (0x1D551, 0), (0x1D552, 5), (0x1D56C, 9), (0x1D586, 5), (0x1D5A0, 9), (0x1D5BA, 5),
  (0x1D5D4, 9), (0x1D5EE, 5), (0x1D608, 9), (0x1D622, 5), (0x1D63C, 9), (0x1D656, 5), (0x1D670, 9),
  (0x1D68A, 5), (0x1D6A6, 0), (0x1D6A8, 9), (0x1D6C1, 25), (0x1D6C2, 5), (0x1D6DB, 25),
  (0x1D6DC, 5), (0x1D6E2, 9), (0x1D6FB, 25), (0x1D6FC, 5), (0x1D715, 25), (0x1D716, 5),
  (0x1D71C, 9), (0x1D735, 25), (0x1D736, 5), (0x1D74F, 25), (0x1D750, 5), (0x1D756, 9),
  (0x1D76F, 25), (0x1D770, 5), (0x1D789, 25), (0x1D78A, 5), (0x1D790, 9), (0x1D7A9, 25),
  (0x1D7AA, 5), (0x1D7C3, 25), (0x1D7C4, 5), (0x1D7CA, 9), (0x1D7CB, 5), (0x1D7CC, 0),
  (0x1D7CE, 13), (0x1D800, 0), (0x1EE00, 7), (0x1EE04, 0), (0x1EE05, 7), (0x1EE20, 0),
  (0x1EE21, 7), (0x1EE23, 0), (0x1EE24, 7), (0x1EE25, 0), (0x1EE27, 7), (0x1EE28, 0), (0x1EE29, 7),
  (0x1EE33, 0), (0x1EE34, 7), (0x1EE38, 0), (0x1EE39, 7), (0x1EE3A, 0), (0x1EE3B, 7), (0x1EE3C, 0),
  (0x1EE42, 7), (0x1EE43, 0), (0x1EE47, 7), (0x1EE48, 0), (0x1EE49, 7), (0x1EE4A, 0), (0x1EE4B, 7),
  (0x1EE4C, 0), (0x1EE4D, 7), (0x1EE50, 0), (0x1EE51, 7), (0x1EE53, 0), (0x1EE54, 7), (0x1EE55, 0),
  (0x1EE57, 7), (0x1EE58, 0), (0x1EE59, 7), (0x1EE5A, 0), (0x1EE5B, 7), (0x1EE5C, 0), (0x1EE5D, 7),
  (0x1EE5E, 0), (0x1EE5F, 7), (0x1EE60, 0), (0x1EE61, 7), (0x1EE63, 0), (0x1EE64, 7), (0x1EE65, 0),
  (0x1EE67, 7), (0x1EE6B, 0), (0x1EE6C, 7), (0x1EE73, 0), (0x1EE74, 7), (0x1EE78, 0), (0x1EE79, 7),
  (0x1EE7D, 0), (0x1EE7E, 7), (0x1EE7F, 0), (0x1EE80, 7), (0x1EE8A, 0), (0x1EE8B, 7), (0x1EE9C, 0),
  (0x1EEA1, 7), (0x1EEA4, 0), (0x1EEA5, 7), (0x1EEAA, 0), (0x1EEAB, 7), (0x1EEBC, 0),
  (0x1EEF0, 25), (0x1EEF2, 0), (0x1F000, 26), (0x1F02C, 0), (0x1F030, 26), (0x1F094, 0),
  (0x1F0A0, 26), (0x1F0AF, 0), (0x1F0B1, 26), (0x1F0BF, 0), (0x1F0C1, 26), (0x1F0D0, 0),
  (0x1F0D1, 26), (0x1F0E0, 0), (0x1F100, 15), (0x1F10B, 0), (0x1F110, 26), (0x1F12F, 0),
  (0x1F130, 26), (0x1F16C, 0), (0x1F170, 26), (0x1F19B, 0), (0x1F1E6, 26), (0x1F203, 0),
  (0x1F210, 26), (0x1F23B, 0), (0x1F240, 26)]

/-- The runs of the table that begin from U+1F249 to U+10FFFF. -/
def categoryRuns8 : Array (Nat × Nat) := #[
  (0x1F249, 0), (0x1F250, 26), (0x1F252, 0), (0x1F300, 26), (0x1F321, 0), (0x1F330, 26),
  (0x1F336, 0), (0x1F337, 26), (0x1F37D, 0), (0x1F380, 26), (0x1F394, 0), (0x1F3A0, 26),
  (0x1F3C5, 0), (0x1F3C6, 26), (0x1F3CB, 0), (0x1F3E0, 26), (0x1F3F1, 0), (0x1F400, 26),
  (0x1F43F, 0), (0x1F440, 26), (0x1F441, 0), (0x1F442, 26), (0x1F4F8, 0), (0x1F4F9, 26),
  (0x1F4FD, 0), (0x1F500, 26), (0x1F53E, 0), (0x1F540, 26), (0x1F544, 0), (0x1F550, 26),
  (0x1F568, 0), (0x1F5FB, 26), (0x1F641, 0), (0x1F645, 26), (0x1F650, 0), (0x1F680, 26),
  (0x1F6C6, 0), (0x1F700, 26), (0x1F774, 0), (0x20000, 7), (0x20001, 0), (0x2A6D6, 7),
  (0x2A6D7, 0), (0x2A700, 7), (0x2A701, 0), (0x2B734, 7), (0x2B735, 0), (0x2B740, 7), (0x2B741, 0),
  (0x2B81D, 7), (0x2B81E, 0), (0x2F800, 7), (0x2FA1E, 0), (0xE0001, 2), (0xE0002, 0), (0xE0020, 2),
  (0xE0080, 0), (0xE0100, 12), (0xE01F0, 0), (0xF0000, 31), (0xF0001, 0), (0xFFFFD, 31),
  (0xFFFFE, 0)]

/-- Each run of code points of one category, as its first code point and the category; a run
lasts until the next begins. -/
def categoryRuns : Array (Nat × Nat) :=
  categoryRuns0 ++ categoryRuns1 ++ categoryRuns2 ++ categoryRuns3 ++ categoryRuns4 ++
    categoryRuns5 ++ categoryRuns6 ++ categoryRuns7 ++ categoryRuns8

/-- The index of the last run of a table that begins at or below a code point, searched between
`low`, whose run begins at or below it, and `high`. -/
def lastRunAtOrBelow (runs : Array (Nat × Nat)) (code : Nat) (low high : Nat) : Nat :=
  if h : low + 1 < high then
    let middle := (low + high) / 2
    if (runs[middle]?.map (·.1)).getD 0 ≤ code then lastRunAtOrBelow runs code middle high
    else lastRunAtOrBelow runs code low middle
  else low
termination_by high - low
decreasing_by all_goals omega

/-- The category a table of runs gives a code point. -/
def categoryIn (runs : Array (Nat × Nat)) (code : Nat) : Nat :=
  ((runs[lastRunAtOrBelow runs code 0 runs.size]?).map (·.2)).getD 0

/-- The general category of a code point; 0 from U+100000 up, which the table does not reach. -/
def category (code : Nat) : Nat :=
  if 0x100000 ≤ code then 0 else categoryIn categoryRuns code

/-- The categories whose characters the Unicode tokenizer takes as parts of words unless told
otherwise: letters, numbers and private use (`L* N* Co`), with the code points the table leaves
out. -/
def wordCategories : List Nat := [0, 5, 6, 7, 8, 9, 30, 13, 14, 15, 31]

/-- The categories one word of a `categories` setting names by its first two letters: a class
and one of its kinds, or the whole class after a star. A word whose first letter names no class
names nothing; one whose second letter names no kind of its class is refused. -/
def categoriesNamed (first second : Char) : Option (List Nat) :=
  let pick (kinds : List (Char × Nat)) : Option (List Nat) :=
    if second == '*' then some (kinds.map (·.2))
    else (kinds.find? (·.1 == second)).map fun (_, number) => [number]
  match first with
  | 'C' => pick [('c', 1), ('f', 2), ('n', 3), ('s', 4), ('o', 31)]
  | 'L' => pick [('l', 5), ('m', 6), ('o', 7), ('t', 8), ('u', 9), ('C', 30)]
  | 'M' => pick [('c', 10), ('e', 11), ('n', 12)]
  | 'N' => pick [('d', 13), ('l', 14), ('o', 15)]
  | 'P' => pick [('c', 16), ('d', 17), ('e', 18), ('f', 19), ('i', 20), ('o', 21), ('s', 22)]
  | 'S' => pick [('c', 23), ('k', 24), ('m', 25), ('o', 26)]
  | 'Z' => pick [('l', 27), ('p', 28), ('s', 29)]
  | _ => some []

/-- Whether a code point counts as part of a word under the usual categories: below 128 an ASCII
letter or digit. -/
def isAlphanumeric (code : Nat) : Bool :=
  code != 0 && wordCategories.contains (category code)

theorem categoryIn_first (code category : Nat) : categoryIn #[(0, category)] code = category := by
  simp [categoryIn, lastRunAtOrBelow]

end SheetExport.Text
