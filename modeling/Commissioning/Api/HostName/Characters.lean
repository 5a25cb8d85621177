import Commissioning.Text.Printable

/-!
# Characters of host names

What Unicode (version 14) says about the characters that may stand in the name of a host:
which they are, which of them are marks that belong to the character in front, in which
direction they are read, and which pairs of them are one character when put together. The
ranges are listed in ascending order; those of the characters of names may hold code points
that are not assigned, which cannot be printed and so are no characters of names. Capital
letters count like the small letters of which they are the capitals.
-/

namespace Commissioning

namespace HostName

/-- Whether a character is in one of several ranges of code points. -/
def inRanges (ranges : List (Nat × Nat)) (c : Char) : Bool :=
  ranges.any fun r => r.1 ≤ c.toNat && c.toNat ≤ r.2

/-! ### Characters -/

/-- The characters of names from U+0000 to U+0FFF. -/
def allowedEarly : List (Nat × Nat) :=
  [(0x2d, 0x2d), (0x30, 0x39), (0x41, 0x5a), (0x61, 0x7a), (0xc0, 0xd6), (0xd8, 0xf6),
   (0xf8, 0x131), (0x134, 0x13e), (0x141, 0x148), (0x14a, 0x17e), (0x180, 0x1c3),
   (0x1cd, 0x1f0), (0x1f4, 0x2af), (0x2b9, 0x2c1), (0x2c6, 0x2d1), (0x2ec, 0x2ec),
   (0x2ee, 0x2ee), (0x300, 0x33f), (0x342, 0x342), (0x346, 0x34e), (0x350, 0x373),
   (0x376, 0x377), (0x37b, 0x37d), (0x37f, 0x37f), (0x386, 0x386), (0x388, 0x3cf),
   (0x3d7, 0x3ef), (0x3f3, 0x3f4), (0x3f7, 0x3f8), (0x3fa, 0x481), (0x483, 0x487),
   (0x48a, 0x559), (0x560, 0x586), (0x588, 0x588), (0x591, 0x5bd), (0x5bf, 0x5bf),
   (0x5c1, 0x5c2), (0x5c4, 0x5c5), (0x5c7, 0x5f2), (0x610, 0x61a), (0x620, 0x63f),
   (0x641, 0x65f), (0x66e, 0x674), (0x679, 0x6d3), (0x6d5, 0x6dc), (0x6df, 0x6e8),
   (0x6ea, 0x6ef), (0x6fa, 0x6ff), (0x710, 0x7f5), (0x7fd, 0x7fd), (0x800, 0x82d),
   (0x840, 0x85b), (0x860, 0x887), (0x889, 0x88e), (0x898, 0x8e1), (0x8e3, 0x957),
   (0x960, 0x963), (0x966, 0x96f), (0x971, 0x9d7), (0x9e0, 0x9f1), (0x9fc, 0x9fc),
   (0x9fe, 0xa32), (0xa35, 0xa35), (0xa38, 0xa51), (0xa5c, 0xa5c), (0xa66, 0xa75),
   (0xa81, 0xaef), (0xaf9, 0xb57), (0xb5f, 0xb6f), (0xb71, 0xb71), (0xb82, 0xbef),
   (0xc00, 0xc6f), (0xc80, 0xc83), (0xc85, 0xd4e), (0xd54, 0xd57), (0xd5f, 0xd6f),
   (0xd7a, 0xdf3), (0xe01, 0xe32), (0xe34, 0xe3a), (0xe40, 0xe4e), (0xe50, 0xe59),
   (0xe81, 0xeb2), (0xeb4, 0xed9), (0xede, 0xf00), (0xf0b, 0xf0b), (0xf18, 0xf19),
   (0xf20, 0xf29), (0xf35, 0xf35), (0xf37, 0xf37), (0xf39, 0xf39), (0xf3e, 0xf42),
   (0xf44, 0xf4c), (0xf4e, 0xf51), (0xf53, 0xf56), (0xf58, 0xf5b), (0xf5d, 0xf68),
   (0xf6a, 0xf72), (0xf74, 0xf74), (0xf7a, 0xf80), (0xf82, 0xf84), (0xf86, 0xf92),
   (0xf94, 0xf9c), (0xf9e, 0xfa1), (0xfa3, 0xfa6), (0xfa8, 0xfab), (0xfad, 0xfb8),
   (0xfba, 0xfbc), (0xfc6, 0xfc6)]

/-- The characters of names from U+1000 to the end of the basic plane. -/
def allowedBasic : List (Nat × Nat) :=
  [(0x1000, 0x1049), (0x1050, 0x109d), (0x10a0, 0x10fa), (0x10fd, 0x10ff), (0x1200, 0x135f),
   (0x1380, 0x138f), (0x1401, 0x166c), (0x166f, 0x167f), (0x1681, 0x169a), (0x16a0, 0x16ea),
   (0x16f1, 0x1734), (0x1740, 0x17b3), (0x17b6, 0x17d3), (0x17d7, 0x17d7), (0x17dc, 0x17e9),
   (0x1810, 0x193b), (0x1946, 0x19d9), (0x1a00, 0x1a1b), (0x1a20, 0x1a99), (0x1aa7, 0x1aa7),
   (0x1ab0, 0x1abd), (0x1abf, 0x1b59), (0x1b6b, 0x1b73), (0x1b80, 0x1bf3), (0x1c00, 0x1c37),
   (0x1c40, 0x1c7d), (0x1c90, 0x1cbf), (0x1cd0, 0x1cd2), (0x1cd4, 0x1d2b), (0x1d2f, 0x1d2f),
   (0x1d3b, 0x1d3b), (0x1d4e, 0x1d4e), (0x1d6b, 0x1d77), (0x1d79, 0x1d9a), (0x1dc0, 0x1e99),
   (0x1e9c, 0x1f70), (0x1f72, 0x1f72), (0x1f74, 0x1f74), (0x1f76, 0x1f76), (0x1f78, 0x1f78),
   (0x1f7a, 0x1f7a), (0x1f7c, 0x1f7c), (0x1fb0, 0x1fb1), (0x1fb6, 0x1fb6), (0x1fb8, 0x1fba),
   (0x1fc6, 0x1fc6), (0x1fc8, 0x1fc8), (0x1fca, 0x1fca), (0x1fd0, 0x1fd2), (0x1fd6, 0x1fda),
   (0x1fe0, 0x1fe2), (0x1fe4, 0x1fea), (0x1fec, 0x1fec), (0x1ff6, 0x1ff6), (0x1ff8, 0x1ff8),
   (0x1ffa, 0x1ffa), (0x2126, 0x2126), (0x212a, 0x212b), (0x2132, 0x2132), (0x214e, 0x214e),
   (0x2183, 0x2184), (0x2c00, 0x2c7b), (0x2c7e, 0x2ce4), (0x2ceb, 0x2cf3), (0x2d00, 0x2d67),
   (0x2d7f, 0x2dff), (0x2e2f, 0x2e2f), (0x3005, 0x3007), (0x302a, 0x302d), (0x303c, 0x303c),
   (0x3041, 0x309a), (0x309d, 0x309e), (0x30a1, 0x30fa), (0x30fc, 0x30fe), (0x3105, 0x312f),
   (0x31a0, 0x31bf), (0x31f0, 0x31ff), (0x3400, 0x4dbf), (0x4e00, 0xa48c), (0xa4d0, 0xa4fd),
   (0xa500, 0xa60c), (0xa610, 0xa66f), (0xa674, 0xa67d), (0xa67f, 0xa69b), (0xa69e, 0xa6e5),
   (0xa6f0, 0xa6f1), (0xa717, 0xa71f), (0xa722, 0xa76f), (0xa771, 0xa788), (0xa78b, 0xa7d9),
   (0xa7f5, 0xa7f7), (0xa7fa, 0xa827), (0xa82c, 0xa82c), (0xa840, 0xa873), (0xa880, 0xa8c5),
   (0xa8d0, 0xa8f7), (0xa8fb, 0xa8fb), (0xa8fd, 0xa92d), (0xa930, 0xa953), (0xa980, 0xa9c0),
   (0xa9cf, 0xa9d9), (0xa9e0, 0xaa59), (0xaa60, 0xaa76), (0xaa7a, 0xaadd), (0xaae0, 0xaaef),
   (0xaaf2, 0xab5a), (0xab60, 0xab68), (0xabc0, 0xabea), (0xabec, 0xd7a3), (0xfa0e, 0xfa0f),
   (0xfa11, 0xfa11), (0xfa13, 0xfa14), (0xfa1f, 0xfa1f), (0xfa21, 0xfa21), (0xfa23, 0xfa24),
   (0xfa27, 0xfa29), (0xfb1e, 0xfb1e), (0xfe20, 0xfe2f), (0xfe73, 0xfe73)]

/-- The characters of names beyond the basic plane. -/
def allowedSupplementary : List (Nat × Nat) :=
  [(0x10000, 0x100fa), (0x101fd, 0x102e0), (0x10300, 0x1031f), (0x1032d, 0x10340),
   (0x10342, 0x10349), (0x10350, 0x1039d), (0x103a0, 0x103cf), (0x10400, 0x10563),
   (0x10570, 0x10780), (0x10800, 0x10855), (0x10860, 0x10876), (0x10880, 0x1089e),
   (0x108e0, 0x108f5), (0x10900, 0x10915), (0x10920, 0x10939), (0x10980, 0x109b7),
   (0x109be, 0x109bf), (0x10a00, 0x10a3f), (0x10a60, 0x10a7c), (0x10a80, 0x10a9c),
   (0x10ac0, 0x10ac7), (0x10ac9, 0x10ae6), (0x10b00, 0x10b35), (0x10b40, 0x10b55),
   (0x10b60, 0x10b72), (0x10b80, 0x10b91), (0x10c00, 0x10cf2), (0x10d00, 0x10d39),
   (0x10e80, 0x10eac), (0x10eb0, 0x10f1c), (0x10f27, 0x10f50), (0x10f70, 0x10f85),
   (0x10fb0, 0x10fc4), (0x10fe0, 0x11046), (0x11066, 0x110ba), (0x110c2, 0x110c2),
   (0x110d0, 0x1113f), (0x11144, 0x11173), (0x11176, 0x111c4), (0x111c9, 0x111cc),
   (0x111ce, 0x111da), (0x111dc, 0x111dc), (0x11200, 0x11237), (0x1123e, 0x112a8),
   (0x112b0, 0x1144a), (0x11450, 0x11459), (0x1145e, 0x114c5), (0x114c7, 0x115c0),
   (0x115d8, 0x11640), (0x11644, 0x11659), (0x11680, 0x116b8), (0x116c0, 0x11739),
   (0x11740, 0x1183a), (0x118a0, 0x118e9), (0x118ff, 0x11943), (0x11950, 0x119e1),
   (0x119e3, 0x11a3e), (0x11a47, 0x11a99), (0x11a9d, 0x11a9d), (0x11ab0, 0x11c40),
   (0x11c50, 0x11c59), (0x11c72, 0x11ef6), (0x11fb0, 0x11fb0), (0x12000, 0x12399),
   (0x12480, 0x12ff0), (0x13000, 0x1342e), (0x14400, 0x16a69), (0x16a70, 0x16af4),
   (0x16b00, 0x16b36), (0x16b40, 0x16b43), (0x16b50, 0x16b59), (0x16b63, 0x16e7f),
   (0x16f00, 0x16fe1), (0x16fe3, 0x1bc99), (0x1bc9d, 0x1bc9e), (0x1cf00, 0x1cf46),
   (0x1da00, 0x1da36), (0x1da3b, 0x1da6c), (0x1da75, 0x1da75), (0x1da84, 0x1da84),
   (0x1da9b, 0x1e14e), (0x1e290, 0x1e2f9), (0x1e7e0, 0x1e8c4), (0x1e8d0, 0x1e959),
   (0x20000, 0x2ebe0), (0x30000, 0x3134a)]

/-- Whether a character may stand anywhere in a name. -/
def isAllowed (c : Char) : Bool :=
  Text.isPrintable c &&
    (inRanges allowedEarly c || inRanges allowedBasic c || inRanges allowedSupplementary c)

/-! ### Marks -/

/-- The marks of the basic plane. -/
def marksBasic : List (Nat × Nat) :=
  [(0x300, 0x36f), (0x483, 0x487), (0x591, 0x5c7), (0x610, 0x61a), (0x64b, 0x65f),
   (0x670, 0x670), (0x6d6, 0x6e4), (0x6e7, 0x6ed), (0x711, 0x711), (0x730, 0x74a),
   (0x7a6, 0x7b0), (0x7eb, 0x7f3), (0x7fd, 0x7fd), (0x816, 0x819), (0x81b, 0x823),
   (0x825, 0x827), (0x829, 0x82d), (0x859, 0x85b), (0x898, 0x89f), (0x8ca, 0x903),
   (0x93a, 0x93c), (0x93e, 0x94f), (0x951, 0x957), (0x962, 0x963), (0x981, 0x983),
   (0x9bc, 0x9bc), (0x9be, 0x9cd), (0x9d7, 0x9d7), (0x9e2, 0x9e3), (0x9fe, 0xa03),
   (0xa3c, 0xa51), (0xa70, 0xa71), (0xa75, 0xa83), (0xabc, 0xabc), (0xabe, 0xacd),
   (0xae2, 0xae3), (0xafa, 0xb03), (0xb3c, 0xb3c), (0xb3e, 0xb57), (0xb62, 0xb63),
   (0xb82, 0xb82), (0xbbe, 0xbcd), (0xbd7, 0xbd7), (0xc00, 0xc04), (0xc3c, 0xc3c),
   (0xc3e, 0xc56), (0xc62, 0xc63), (0xc81, 0xc83), (0xcbc, 0xcbc), (0xcbe, 0xcd6),
   (0xce2, 0xce3), (0xd00, 0xd03), (0xd3b, 0xd3c), (0xd3e, 0xd4d), (0xd57, 0xd57),
   (0xd62, 0xd63), (0xd81, 0xd83), (0xdca, 0xddf), (0xdf2, 0xdf3), (0xe31, 0xe31),
   (0xe34, 0xe3a), (0xe47, 0xe4e), (0xeb1, 0xeb1), (0xeb4, 0xebc), (0xec8, 0xecd),
   (0xf18, 0xf19), (0xf35, 0xf3f), (0xf71, 0xf87), (0xf8d, 0xfc6), (0x102b, 0x103e),
   (0x1056, 0x1059), (0x105e, 0x1060), (0x1062, 0x1064), (0x1067, 0x106d), (0x1071, 0x1074),
   (0x1082, 0x108d), (0x108f, 0x108f), (0x109a, 0x109d), (0x135d, 0x135f), (0x1712, 0x1715),
   (0x1732, 0x1734), (0x1752, 0x1753), (0x1772, 0x1773), (0x17b6, 0x17d3), (0x17dd, 0x17dd),
   (0x1885, 0x1886), (0x18a9, 0x18a9), (0x1920, 0x193b), (0x1a17, 0x1a1b), (0x1a55, 0x1a7f),
   (0x1ab0, 0x1b04), (0x1b34, 0x1b44), (0x1b6b, 0x1b82), (0x1ba1, 0x1bad), (0x1be6, 0x1bf3),
   (0x1c24, 0x1c37), (0x1cd0, 0x1ce8), (0x1ced, 0x1ced), (0x1cf4, 0x1cf4), (0x1cf7, 0x1cf9),
   (0x1dc0, 0x1dff), (0x2cef, 0x2cf1), (0x2d7f, 0x2d7f), (0x2de0, 0x2dff), (0x302a, 0x302d),
   (0x3099, 0x309a), (0xa66f, 0xa67d), (0xa69e, 0xa69f), (0xa6f0, 0xa6f1), (0xa802, 0xa802),
   (0xa806, 0xa806), (0xa80b, 0xa80b), (0xa823, 0xa82c), (0xa880, 0xa881), (0xa8b4, 0xa8c5),
   (0xa8e0, 0xa8f1), (0xa8ff, 0xa8ff), (0xa926, 0xa92d), (0xa947, 0xa983), (0xa9b3, 0xa9c0),
   (0xa9e5, 0xa9e5), (0xaa29, 0xaa36), (0xaa43, 0xaa43), (0xaa4c, 0xaa4d), (0xaa7b, 0xaa7d),
   (0xaab0, 0xaab0), (0xaab2, 0xaab4), (0xaab7, 0xaab8), (0xaabe, 0xaabf), (0xaac1, 0xaac1),
   (0xaaeb, 0xaaef), (0xaaf5, 0xaaf6), (0xabe3, 0xabed), (0xfb1e, 0xfe2f)]

/-- The marks beyond the basic plane. -/
def marksSupplementary : List (Nat × Nat) :=
  [(0x101fd, 0x101fd), (0x102e0, 0x102e0), (0x10376, 0x1037a), (0x10a01, 0x10a0f),
   (0x10a38, 0x10a3f), (0x10ae5, 0x10ae6), (0x10d24, 0x10d27), (0x10eab, 0x10eac),
   (0x10f46, 0x10f50), (0x10f82, 0x10f85), (0x11000, 0x11002), (0x11038, 0x11046),
   (0x11070, 0x11070), (0x11073, 0x11074), (0x1107f, 0x11082), (0x110b0, 0x110c2),
   (0x11100, 0x11102), (0x11127, 0x11134), (0x11145, 0x11146), (0x11173, 0x11173),
   (0x11180, 0x11182), (0x111b3, 0x111c0), (0x111c9, 0x111cf), (0x1122c, 0x1123e),
   (0x112df, 0x112ea), (0x11300, 0x11303), (0x1133b, 0x1133c), (0x1133e, 0x1134d),
   (0x11357, 0x11357), (0x11362, 0x11374), (0x11435, 0x11446), (0x1145e, 0x1145e),
   (0x114b0, 0x114c3), (0x115af, 0x115c0), (0x115dc, 0x115dd), (0x11630, 0x11640),
   (0x116ab, 0x116b7), (0x1171d, 0x1172b), (0x1182c, 0x1183a), (0x11930, 0x1193e),
   (0x11940, 0x11940), (0x11942, 0x11943), (0x119d1, 0x119e0), (0x119e4, 0x119e4),
   (0x11a01, 0x11a0a), (0x11a33, 0x11a39), (0x11a3b, 0x11a47), (0x11a51, 0x11a5b),
   (0x11a8a, 0x11a99), (0x11c2f, 0x11c3f), (0x11c92, 0x11cb6), (0x11d31, 0x11d45),
   (0x11d47, 0x11d47), (0x11d8a, 0x11d97), (0x11ef3, 0x11ef6), (0x16af0, 0x16af4),
   (0x16b30, 0x16b36), (0x16f4f, 0x16f4f), (0x16f51, 0x16f92), (0x16fe4, 0x16ff1),
   (0x1bc9d, 0x1daaf), (0x1e000, 0x1e02a), (0x1e130, 0x1e136), (0x1e2ae, 0x1e2ae),
   (0x1e2ec, 0x1e2ef), (0x1e8d0, 0x1e8d6), (0x1e944, 0x1e94a)]

/-- Whether a character is a mark that belongs to the one in front of it. -/
def isMark (c : Char) : Bool := inRanges marksBasic c || inRanges marksSupplementary c

/-- The marks that take the vowel from the letter in front. -/
def viramas : List (Nat × Nat) :=
  [(0x94d, 0x94d), (0x9cd, 0x9cd), (0xa4d, 0xa4d), (0xacd, 0xacd), (0xb4d, 0xb4d),
   (0xbcd, 0xbcd), (0xc4d, 0xc4d), (0xccd, 0xccd), (0xd3b, 0xd3c), (0xd4d, 0xd4d),
   (0xdca, 0xdca), (0xe3a, 0xe3a), (0xeba, 0xeba), (0xf84, 0xf84), (0x1039, 0x103a),
   (0x1714, 0x1715), (0x1734, 0x1734), (0x17d2, 0x17d2), (0x1a60, 0x1a60), (0x1b44, 0x1b44),
   (0x1baa, 0x1bab), (0x1bf2, 0x1bf3), (0x2d7f, 0x2d7f), (0xa806, 0xa806), (0xa82c, 0xa82c),
   (0xa8c4, 0xa8c4), (0xa953, 0xa953), (0xa9c0, 0xa9c0), (0xaaf6, 0xaaf6), (0xabed, 0xabed),
   (0x10a3f, 0x10a3f), (0x11046, 0x11046), (0x11070, 0x11070), (0x1107f, 0x1107f),
   (0x110b9, 0x110b9), (0x11133, 0x11134), (0x111c0, 0x111c0), (0x11235, 0x11235),
   (0x112ea, 0x112ea), (0x1134d, 0x1134d), (0x11442, 0x11442), (0x114c2, 0x114c2),
   (0x115bf, 0x115bf), (0x1163f, 0x1163f), (0x116b6, 0x116b6), (0x1172b, 0x1172b),
   (0x11839, 0x11839), (0x1193d, 0x1193e), (0x119e0, 0x119e0), (0x11a34, 0x11a34),
   (0x11a47, 0x11a47), (0x11a99, 0x11a99), (0x11c3f, 0x11c3f), (0x11d44, 0x11d45),
   (0x11d97, 0x11d97)]

/-! ### Directions -/

/-- How a character goes with the direction of those around it. -/
inductive Direction where
  /-- It is read from the left. -/
  | fromLeft
  /-- It is read from the right. -/
  | fromRight
  /-- It is a digit that is written among letters read from the right. -/
  | rightDigit
  /-- It is a digit of any text. -/
  | digit
  /-- It belongs to the character in front. -/
  | mark
  /-- It goes with either direction. -/
  | neutral
deriving DecidableEq, Repr

/-- The letters that are read from the right. -/
def fromRightRanges : List (Nat × Nat) :=
  [(0x5d0, 0x5f4), (0x620, 0x64a), (0x66e, 0x66f), (0x671, 0x6d5), (0x6e5, 0x6e6),
   (0x6ee, 0x6ef), (0x6fa, 0x710), (0x712, 0x72f), (0x74d, 0x7a5), (0x7b1, 0x7ea),
   (0x7f4, 0x7f5), (0x800, 0x815), (0x81a, 0x81a), (0x824, 0x824), (0x828, 0x828),
   (0x840, 0x858), (0x860, 0x88e), (0x8a0, 0x8c9), (0xfe73, 0xfe73), (0x10800, 0x10a00),
   (0x10a10, 0x10a35), (0x10a60, 0x10ae4), (0x10b00, 0x10d23), (0x10e80, 0x10ea9),
   (0x10eb0, 0x10f45), (0x10f70, 0x10f81), (0x10fb0, 0x10ff6), (0x1e800, 0x1e8c4),
   (0x1e900, 0x1e943), (0x1e94b, 0x1e959)]

/-- The digits that are written among letters read from the right. -/
def rightDigitRanges : List (Nat × Nat) :=
  [(0x660, 0x669), (0x10d30, 0x10d39)]

/-- The digits of any text. -/
def digitRanges : List (Nat × Nat) :=
  [(0x30, 0x39), (0x6f0, 0x6f9)]

/-- The marks that may stand among letters read from the right. -/
def rightMarkRanges : List (Nat × Nat) :=
  [(0x300, 0x36f), (0x591, 0x5c7), (0x610, 0x61a), (0x64b, 0x65f), (0x670, 0x670),
   (0x6d6, 0x6e4), (0x6e7, 0x6ed), (0x711, 0x711), (0x730, 0x74a), (0x7a6, 0x7b0),
   (0x7eb, 0x7f3), (0x7fd, 0x7fd), (0x816, 0x819), (0x81b, 0x823), (0x825, 0x827),
   (0x829, 0x82d), (0x859, 0x85b), (0x898, 0x89f), (0x8ca, 0x902), (0x1ab0, 0x1b03),
   (0x1dc0, 0x1dff), (0xfb1e, 0xfe2f), (0x10a01, 0x10a0f), (0x10a38, 0x10a3f),
   (0x10ae5, 0x10ae6), (0x10d24, 0x10d27), (0x10eab, 0x10eac), (0x10f46, 0x10f50),
   (0x10f82, 0x10f85), (0x1e8d0, 0x1e8d6), (0x1e944, 0x1e94a)]

/-- The characters that go with either direction. -/
def neutralRanges : List (Nat × Nat) :=
  [(0x2d, 0x2d), (0xb7, 0xb7), (0x2b9, 0x2ba), (0x2c6, 0x2cf), (0x2ec, 0x2ec), (0x375, 0x375),
   (0x200c, 0x200d), (0x2e2f, 0x2e2f), (0x30fb, 0x30fb), (0xa67f, 0xa67f), (0xa717, 0xa71f),
   (0xa788, 0xa788)]

/-- The direction of a character of a name. -/
def direction (c : Char) : Direction :=
  if inRanges fromRightRanges c then .fromRight
  else if inRanges rightDigitRanges c then .rightDigit
  else if inRanges digitRanges c then .digit
  else if inRanges rightMarkRanges c then .mark
  else if inRanges neutralRanges c then .neutral
  else .fromLeft

/-! ### Scripts -/

/-- The Greek script. -/
def greek : List (Nat × Nat) :=
  [(0x370, 0x3e1), (0x3f3, 0x3ff), (0x1d26, 0x1d2a), (0x1f00, 0x1ffa), (0x2126, 0x2126),
   (0xab65, 0xab65)]

/-- The Hebrew script. -/
def hebrew : List (Nat × Nat) :=
  [(0x591, 0x5f4), (0xfb1e, 0xfb1e)]

/-- The scripts between whose characters a middle dot separates words. -/
def middleDotScripts : List (Nat × Nat) :=
  [(0x3005, 0x3005), (0x3007, 0x3007), (0x3041, 0x3096), (0x309d, 0x309e), (0x30a1, 0x30fa),
   (0x30fd, 0x30fe), (0x31f0, 0x31ff), (0x3400, 0x9fff), (0xfa0e, 0xfa29), (0x16fe3, 0x16fe3),
   (0x16ff0, 0x16ff1), (0x1aff0, 0x1b000), (0x1b001, 0x1b11f), (0x1b120, 0x1b122),
   (0x1b150, 0x1b152), (0x1b164, 0x1b167), (0x20000, 0x3134a)]

/-! ### Pairs -/

/-- The characters that can be put together with the one in front, and those in front. -/
def compositions : List (Nat × String) :=
  [(0x300,
     "AEINOUWYaeinouwyÂÊÔÜâêôüĂăĒēŌōƠơƯưΑΕΗΙΟΥΩαεηιουωϊϋЕИеиἀἁἈἉἐἑἘἙἠἡἨἩἰἱἸἹὀὁὈὉὐὑ" ++
     "ὙὠὡὨὩ"),
   (0x301,
     "ACEGIKLMNOPRSUWYZacegiklmnoprsuwyzÂÅÆÇÊÏÔÕØÜâåæçêïôõøüĂăĒēŌōŨũƠơƯưΑΕΗΙΟΥΩαεη" ++
     "ιουωϊϋГКгкἀἁἈἉἐἑἘἙἠἡἨἩἰἱἸἹὀὁὈὉὐὑὙὠὡὨὩ"),
   (0x302, "ACEGHIJOSUWYZaceghijosuwyzẠạẸẹỌọ"), (0x303, "AEINOUVYaeinouvyÂÊÔâêôĂăƠơƯư"),
   (0x304, "AEGIOUYaegiouyÄÆÕÖÜäæõöüǪǫȦȧȮȯΑΙΥαιυИУиуḶḷṚṛ"),
   (0x306, "AEGIOUaegiouȨȩΑΙΥαιυАЕЖИУаежиуẠạ"),
   (0x307, "ABCDEFGHIMNOPRSTWXYZabcdefghmnoprstwxyzŚśŠšṢṣ"),
   (0x308, "AEHIOUWXYaehiotuwxyÕõŪūΙΥιυІАЕЖЗИОУЧЫЭаежзиоучыэіӘәӨө"),
   (0x309, "AEIOUYaeiouyÂÊÔâêôĂăƠơƯư"), (0x30a, "AUauwy"), (0x30b, "OUouУу"),
   (0x30c, "ACDEGHIKLNORSTUZacdeghijklnorstuzÜüƷʒ"), (0x30f, "AEIORUaeioruѴѵ"),
   (0x311, "AEIORUaeioru"), (0x313, "ΑΕΗΙΟΩαεηιορυω"), (0x314, "ΑΕΗΙΟΡΥΩαεηιορυω"),
   (0x31b, "OUou"), (0x323, "ABDEHIKLMNORSTUVWYZabdehiklmnorstuvwyzƠơƯư"), (0x324, "Uu"),
   (0x325, "Aa"), (0x326, "STst"), (0x327, "CDEGHKLNRSTcdeghklnrst"), (0x328, "AEIOUaeiou"),
   (0x32d, "DELNTUdelntu"), (0x32e, "Hh"), (0x330, "EIUeiu"), (0x331, "BDKLNRTZbdhklnrtz"),
   (0x342, "αηιυωϊϋἀἁἈἉἠἡἨἩἰἱἸἹὐὑὙὠὡὨὩ"), (0x653, "\u0627"),
   (0x654, "\u0627\u0648\u064a\u06c1\u06d2\u06d5"), (0x655, "\u0627"),
   (0x93c, "\u0928\u0930\u0933"), (0x9be, "\u09c7"), (0x9d7, "\u09c7"), (0xb3e, "\u0b47"),
   (0xb56, "\u0b47"), (0xb57, "\u0b47"), (0xbbe, "\u0bc6\u0bc7"), (0xbd7, "\u0b92\u0bc6"),
   (0xc56, "\u0c46"), (0xcc2, "\u0cc6"), (0xcd5, "\u0cbf\u0cc6\u0cca"), (0xcd6, "\u0cc6"),
   (0xd3e, "\u0d46\u0d47"), (0xd57, "\u0d46"), (0xdca, "\u0dd9\u0ddc"), (0xdcf, "\u0dd9"),
   (0xddf, "\u0dd9"), (0x102e, "\u1025"),
   (0x1b35, "\u1b05\u1b07\u1b09\u1b0b\u1b0d\u1b11\u1b3a\u1b3c\u1b3e\u1b3f\u1b42"),
   (0x3099,
     "\u3046\u304b\u304d\u304f\u3051\u3053\u3055\u3057\u3059\u305b\u305d\u305f" ++
     "\u3061\u3064\u3066\u3068\u306f\u3072\u3075\u3078\u307b\u309d\u30a6\u30ab" ++
     "\u30ad\u30af\u30b1\u30b3\u30b5\u30b7\u30b9\u30bb\u30bd\u30bf\u30c1\u30c4" ++
     "\u30c6\u30c8\u30cf\u30d2\u30d5\u30d8\u30db\u30ef\u30f0\u30f1\u30f2\u30fd"),
   (0x309a, "\u306f\u3072\u3075\u3078\u307b\u30cf\u30d2\u30d5\u30d8\u30db"), (0x110ba, "𑂙𑂛𑂥"),
   (0x11127, "𑄱𑄲"), (0x1133e, "𑍇"), (0x11357, "𑍇"), (0x114b0, "𑒹"), (0x114ba, "𑒹"),
   (0x114bd, "𑒹"), (0x115af, "𑖸𑖹"), (0x11930, "𑤵")]

/-- Whether two characters, one behind the other, are one character when put together. -/
def compose (front back : Char) : Bool :=
  match compositions.lookup back.toNat with
  | some fronts => fronts.contains front
  | none => false

end HostName

end Commissioning
