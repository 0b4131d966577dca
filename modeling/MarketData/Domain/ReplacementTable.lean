/-! The characters of Unicode 17 that one other character stands for in a domain name: capital
letters, and forms that differ in looks only. Runs are entries `(first, last, step, image)`: from
`first` to `last` in steps of `step`, the code points go to those from `image` on, in the same
steps. Radicals and compatibility ideographs follow no rule; those that stand for themselves are
listed as themselves. -/

namespace MarketData.Domain

/-- Runs below 0x2000. -/
def lowReplacements : List (Nat × Nat × Nat × Nat) :=
  [(0xa0, 0xa0, 1, 0x20), (0xaa, 0xaa, 1, 0x61), (0xb2, 0xb3, 1, 0x32), (0xb5, 0xb5, 1, 0x3bc),
   (0xb9, 0xb9, 1, 0x31), (0xba, 0xba, 1, 0x6f), (0xc0, 0xd6, 1, 0xe0), (0xd8, 0xde, 1, 0xf8),
   (0x100, 0x12e, 2, 0x101), (0x134, 0x136, 2, 0x135), (0x139, 0x13d, 2, 0x13a),
   (0x141, 0x147, 2, 0x142), (0x14a, 0x176, 2, 0x14b), (0x178, 0x178, 1, 0xff),
   (0x179, 0x17d, 2, 0x17a), (0x17f, 0x17f, 1, 0x73), (0x181, 0x181, 1, 0x253),
   (0x182, 0x184, 2, 0x183), (0x186, 0x186, 1, 0x254), (0x187, 0x187, 1, 0x188),
   (0x189, 0x18a, 1, 0x256), (0x18b, 0x18b, 1, 0x18c), (0x18e, 0x18e, 1, 0x1dd),
   (0x18f, 0x18f, 1, 0x259), (0x190, 0x190, 1, 0x25b), (0x191, 0x191, 1, 0x192),
   (0x193, 0x193, 1, 0x260), (0x194, 0x194, 1, 0x263), (0x196, 0x196, 1, 0x269),
   (0x197, 0x197, 1, 0x268), (0x198, 0x198, 1, 0x199), (0x19c, 0x19c, 1, 0x26f),
   (0x19d, 0x19d, 1, 0x272), (0x19f, 0x19f, 1, 0x275), (0x1a0, 0x1a4, 2, 0x1a1),
   (0x1a6, 0x1a6, 1, 0x280), (0x1a7, 0x1a7, 1, 0x1a8), (0x1a9, 0x1a9, 1, 0x283),
   (0x1ac, 0x1ac, 1, 0x1ad), (0x1ae, 0x1ae, 1, 0x288), (0x1af, 0x1af, 1, 0x1b0),
   (0x1b1, 0x1b2, 1, 0x28a), (0x1b3, 0x1b5, 2, 0x1b4), (0x1b7, 0x1b7, 1, 0x292),
   (0x1b8, 0x1b8, 1, 0x1b9), (0x1bc, 0x1bc, 1, 0x1bd), (0x1cd, 0x1db, 2, 0x1ce),
   (0x1de, 0x1ee, 2, 0x1df), (0x1f4, 0x1f4, 1, 0x1f5), (0x1f6, 0x1f6, 1, 0x195),
   (0x1f7, 0x1f7, 1, 0x1bf), (0x1f8, 0x21e, 2, 0x1f9), (0x220, 0x220, 1, 0x19e),
   (0x222, 0x232, 2, 0x223), (0x23a, 0x23a, 1, 0x2c65), (0x23b, 0x23b, 1, 0x23c),
   (0x23d, 0x23d, 1, 0x19a), (0x23e, 0x23e, 1, 0x2c66), (0x241, 0x241, 1, 0x242),
   (0x243, 0x243, 1, 0x180), (0x244, 0x244, 1, 0x289), (0x245, 0x245, 1, 0x28c),
   (0x246, 0x24e, 2, 0x247), (0x2b0, 0x2b2, 2, 0x68), (0x2b1, 0x2b1, 1, 0x266),
   (0x2b3, 0x2b3, 1, 0x72), (0x2b4, 0x2b4, 1, 0x279), (0x2b5, 0x2b5, 1, 0x27b),
   (0x2b6, 0x2b6, 1, 0x281), (0x2b7, 0x2b7, 1, 0x77), (0x2b8, 0x2b8, 1, 0x79),
   (0x2e0, 0x2e0, 1, 0x263), (0x2e1, 0x2e1, 1, 0x6c), (0x2e2, 0x2e2, 1, 0x73),
   (0x2e3, 0x2e3, 1, 0x78), (0x2e4, 0x2e4, 1, 0x295), (0x340, 0x341, 1, 0x300),
   (0x343, 0x343, 1, 0x313), (0x345, 0x345, 1, 0x3b9), (0x370, 0x372, 2, 0x371),
   (0x374, 0x374, 1, 0x2b9), (0x376, 0x376, 1, 0x377), (0x37e, 0x37e, 1, 0x3b),
   (0x37f, 0x37f, 1, 0x3f3), (0x386, 0x386, 1, 0x3ac), (0x387, 0x387, 1, 0xb7),
   (0x388, 0x38a, 1, 0x3ad), (0x38c, 0x38c, 1, 0x3cc), (0x38e, 0x38f, 1, 0x3cd),
   (0x391, 0x3a1, 1, 0x3b1), (0x3a3, 0x3ab, 1, 0x3c3), (0x3cf, 0x3cf, 1, 0x3d7),
   (0x3d0, 0x3d0, 1, 0x3b2), (0x3d1, 0x3d1, 1, 0x3b8), (0x3d2, 0x3d2, 1, 0x3c5),
   (0x3d3, 0x3d3, 1, 0x3cd), (0x3d4, 0x3d4, 1, 0x3cb), (0x3d5, 0x3d5, 1, 0x3c6),
   (0x3d6, 0x3d6, 1, 0x3c0), (0x3d8, 0x3ee, 2, 0x3d9), (0x3f0, 0x3f0, 1, 0x3ba),
   (0x3f1, 0x3f1, 1, 0x3c1), (0x3f2, 0x3f2, 1, 0x3c3), (0x3f4, 0x3f4, 1, 0x3b8),
   (0x3f5, 0x3f5, 1, 0x3b5), (0x3f7, 0x3f7, 1, 0x3f8), (0x3f9, 0x3f9, 1, 0x3c3),
   (0x3fa, 0x3fa, 1, 0x3fb), (0x3fd, 0x3ff, 1, 0x37b), (0x400, 0x40f, 1, 0x450),
   (0x410, 0x42f, 1, 0x430), (0x460, 0x480, 2, 0x461), (0x48a, 0x4be, 2, 0x48b),
   (0x4c0, 0x4c0, 1, 0x4cf), (0x4c1, 0x4cd, 2, 0x4c2), (0x4d0, 0x52e, 2, 0x4d1),
   (0x531, 0x556, 1, 0x561), (0xf0c, 0xf0c, 1, 0xf0b), (0x10a0, 0x10c5, 1, 0x2d00),
   (0x10c7, 0x10c7, 1, 0x2d27), (0x10cd, 0x10cd, 1, 0x2d2d), (0x10fc, 0x10fc, 1, 0x10dc),
   (0x13f8, 0x13fd, 1, 0x13f0), (0x1c80, 0x1c80, 1, 0x432), (0x1c81, 0x1c81, 1, 0x434),
   (0x1c82, 0x1c82, 1, 0x43e), (0x1c83, 0x1c84, 1, 0x441), (0x1c85, 0x1c85, 1, 0x442),
   (0x1c86, 0x1c86, 1, 0x44a), (0x1c87, 0x1c87, 1, 0x463), (0x1c88, 0x1c88, 1, 0xa64b),
   (0x1c89, 0x1c89, 1, 0x1c8a), (0x1c90, 0x1cba, 1, 0x10d0), (0x1cbd, 0x1cbf, 1, 0x10fd),
   (0x1d2c, 0x1d2c, 1, 0x61), (0x1d2d, 0x1d2d, 1, 0xe6), (0x1d2e, 0x1d30, 2, 0x62),
   (0x1d31, 0x1d39, 2, 0x65), (0x1d32, 0x1d32, 1, 0x1dd), (0x1d34, 0x1d3a, 2, 0x68),
   (0x1d3c, 0x1d3c, 1, 0x6f), (0x1d3d, 0x1d3d, 1, 0x223), (0x1d3e, 0x1d3e, 1, 0x70),
   (0x1d3f, 0x1d3f, 1, 0x72), (0x1d40, 0x1d41, 1, 0x74), (0x1d42, 0x1d42, 1, 0x77),
   (0x1d43, 0x1d43, 1, 0x61), (0x1d44, 0x1d45, 1, 0x250), (0x1d46, 0x1d46, 1, 0x1d02),
   (0x1d47, 0x1d47, 1, 0x62), (0x1d48, 0x1d49, 1, 0x64), (0x1d4a, 0x1d4a, 1, 0x259),
   (0x1d4b, 0x1d4c, 1, 0x25b), (0x1d4d, 0x1d4d, 1, 0x67), (0x1d4f, 0x1d4f, 1, 0x6b),
   (0x1d50, 0x1d52, 2, 0x6d), (0x1d51, 0x1d51, 1, 0x14b), (0x1d53, 0x1d53, 1, 0x254),
   (0x1d54, 0x1d55, 1, 0x1d16), (0x1d56, 0x1d56, 1, 0x70), (0x1d57, 0x1d58, 1, 0x74),
   (0x1d59, 0x1d59, 1, 0x1d1d), (0x1d5a, 0x1d5a, 1, 0x26f), (0x1d5b, 0x1d5b, 1, 0x76),
   (0x1d5c, 0x1d5c, 1, 0x1d25), (0x1d5d, 0x1d5f, 1, 0x3b2), (0x1d60, 0x1d61, 1, 0x3c6),
   (0x1d62, 0x1d62, 1, 0x69), (0x1d63, 0x1d63, 1, 0x72), (0x1d64, 0x1d65, 1, 0x75),
   (0x1d66, 0x1d67, 1, 0x3b2), (0x1d68, 0x1d68, 1, 0x3c1), (0x1d69, 0x1d6a, 1, 0x3c6),
   (0x1d78, 0x1d78, 1, 0x43d), (0x1d9b, 0x1d9b, 1, 0x252), (0x1d9c, 0x1d9c, 1, 0x63),
   (0x1d9d, 0x1d9d, 1, 0x255), (0x1d9e, 0x1d9e, 1, 0xf0), (0x1d9f, 0x1d9f, 1, 0x25c),
   (0x1da0, 0x1da0, 1, 0x66), (0x1da1, 0x1da1, 1, 0x25f), (0x1da2, 0x1da2, 1, 0x261),
   (0x1da3, 0x1da3, 1, 0x265), (0x1da4, 0x1da6, 1, 0x268), (0x1da7, 0x1da7, 1, 0x1d7b),
   (0x1da8, 0x1da8, 1, 0x29d), (0x1da9, 0x1da9, 1, 0x26d), (0x1daa, 0x1daa, 1, 0x1d85),
   (0x1dab, 0x1dab, 1, 0x29f), (0x1dac, 0x1dac, 1, 0x271), (0x1dad, 0x1dad, 1, 0x270),
   (0x1dae, 0x1db1, 1, 0x272), (0x1db2, 0x1db2, 1, 0x278), (0x1db3, 0x1db4, 1, 0x282),
   (0x1db5, 0x1db5, 1, 0x1ab), (0x1db6, 0x1db7, 1, 0x289), (0x1db8, 0x1db8, 1, 0x1d1c),
   (0x1db9, 0x1dba, 1, 0x28b), (0x1dbb, 0x1dbb, 1, 0x7a), (0x1dbc, 0x1dbe, 1, 0x290),
   (0x1dbf, 0x1dbf, 1, 0x3b8), (0x1e00, 0x1e94, 2, 0x1e01), (0x1e9b, 0x1e9b, 1, 0x1e61),
   (0x1e9e, 0x1e9e, 1, 0xdf), (0x1ea0, 0x1efe, 2, 0x1ea1), (0x1f08, 0x1f0f, 1, 0x1f00),
   (0x1f18, 0x1f1d, 1, 0x1f10), (0x1f28, 0x1f2f, 1, 0x1f20), (0x1f38, 0x1f3f, 1, 0x1f30),
   (0x1f48, 0x1f4d, 1, 0x1f40), (0x1f59, 0x1f5f, 2, 0x1f51), (0x1f68, 0x1f6f, 1, 0x1f60),
   (0x1f71, 0x1f71, 1, 0x3ac), (0x1f73, 0x1f73, 1, 0x3ad), (0x1f75, 0x1f75, 1, 0x3ae),
   (0x1f77, 0x1f77, 1, 0x3af), (0x1f79, 0x1f79, 1, 0x3cc), (0x1f7b, 0x1f7b, 1, 0x3cd),
   (0x1f7d, 0x1f7d, 1, 0x3ce), (0x1fb8, 0x1fb9, 1, 0x1fb0), (0x1fba, 0x1fba, 1, 0x1f70),
   (0x1fbb, 0x1fbb, 1, 0x3ac), (0x1fbe, 0x1fbe, 1, 0x3b9), (0x1fc8, 0x1fca, 2, 0x1f72),
   (0x1fc9, 0x1fc9, 1, 0x3ad), (0x1fcb, 0x1fcb, 1, 0x3ae), (0x1fd3, 0x1fd3, 1, 0x390),
   (0x1fd8, 0x1fd9, 1, 0x1fd0), (0x1fda, 0x1fda, 1, 0x1f76), (0x1fdb, 0x1fdb, 1, 0x3af),
   (0x1fe3, 0x1fe3, 1, 0x3b0), (0x1fe8, 0x1fe9, 1, 0x1fe0), (0x1fea, 0x1fea, 1, 0x1f7a),
   (0x1feb, 0x1feb, 1, 0x3cd), (0x1fec, 0x1fec, 1, 0x1fe5), (0x1fef, 0x1fef, 1, 0x60),
   (0x1ff8, 0x1ff8, 1, 0x1f78), (0x1ff9, 0x1ffb, 2, 0x3cc), (0x1ffa, 0x1ffa, 1, 0x1f7c)]

/-- Runs from 0x2000 to 0xffff. -/
def middleReplacements : List (Nat × Nat × Nat × Nat) :=
  [(0x2000, 0x2000, 1, 0x20), (0x2001, 0x2001, 1, 0x20), (0x2002, 0x2002, 1, 0x20),
   (0x2003, 0x2003, 1, 0x20), (0x2004, 0x2004, 1, 0x20), (0x2005, 0x2005, 1, 0x20),
   (0x2006, 0x2006, 1, 0x20), (0x2007, 0x2007, 1, 0x20), (0x2008, 0x2008, 1, 0x20),
   (0x2009, 0x2009, 1, 0x20), (0x200a, 0x200a, 1, 0x20), (0x2011, 0x2011, 1, 0x2010),
   (0x202f, 0x202f, 1, 0x20), (0x205f, 0x205f, 1, 0x20), (0x2070, 0x2070, 1, 0x30),
   (0x2071, 0x2071, 1, 0x69), (0x2074, 0x2079, 1, 0x34), (0x207a, 0x207a, 1, 0x2b),
   (0x207b, 0x207b, 1, 0x2212), (0x207c, 0x207c, 1, 0x3d), (0x207d, 0x207e, 1, 0x28),
   (0x207f, 0x207f, 1, 0x6e), (0x2080, 0x2089, 1, 0x30), (0x208a, 0x208a, 1, 0x2b),
   (0x208b, 0x208b, 1, 0x2212), (0x208c, 0x208c, 1, 0x3d), (0x208d, 0x208e, 1, 0x28),
   (0x2090, 0x2090, 1, 0x61), (0x2091, 0x2091, 1, 0x65), (0x2092, 0x2092, 1, 0x6f),
   (0x2093, 0x2093, 1, 0x78), (0x2094, 0x2094, 1, 0x259), (0x2095, 0x2095, 1, 0x68),
   (0x2096, 0x2099, 1, 0x6b), (0x209a, 0x209a, 1, 0x70), (0x209b, 0x209c, 1, 0x73),
   (0x2102, 0x2102, 1, 0x63), (0x2107, 0x2107, 1, 0x25b), (0x210a, 0x210b, 1, 0x67),
   (0x210c, 0x210c, 1, 0x68), (0x210d, 0x210d, 1, 0x68), (0x210e, 0x210e, 1, 0x68),
   (0x210f, 0x210f, 1, 0x127), (0x2110, 0x2110, 1, 0x69), (0x2111, 0x2111, 1, 0x69),
   (0x2112, 0x2112, 1, 0x6c), (0x2113, 0x2115, 2, 0x6c), (0x2119, 0x211b, 1, 0x70),
   (0x211c, 0x211c, 1, 0x72), (0x211d, 0x211d, 1, 0x72), (0x2124, 0x2124, 1, 0x7a),
   (0x2126, 0x2126, 1, 0x3c9), (0x2128, 0x2128, 1, 0x7a), (0x212a, 0x212a, 1, 0x6b),
   (0x212b, 0x212b, 1, 0xe5), (0x212c, 0x212d, 1, 0x62), (0x212f, 0x212f, 1, 0x65),
   (0x2130, 0x2131, 1, 0x65), (0x2132, 0x2132, 1, 0x214e), (0x2133, 0x2133, 1, 0x6d),
   (0x2134, 0x2134, 1, 0x6f), (0x2135, 0x2138, 1, 0x5d0), (0x2139, 0x2139, 1, 0x69),
   (0x213c, 0x213c, 1, 0x3c0), (0x213d, 0x213d, 1, 0x3b3), (0x213e, 0x213e, 1, 0x3b3),
   (0x213f, 0x213f, 1, 0x3c0), (0x2140, 0x2140, 1, 0x2211), (0x2145, 0x2145, 1, 0x64),
   (0x2146, 0x2147, 1, 0x64), (0x2148, 0x2149, 1, 0x69), (0x2160, 0x2160, 1, 0x69),
   (0x2164, 0x2164, 1, 0x76), (0x2169, 0x2169, 1, 0x78), (0x216c, 0x216c, 1, 0x6c),
   (0x216d, 0x216e, 1, 0x63), (0x216f, 0x216f, 1, 0x6d), (0x2170, 0x2170, 1, 0x69),
   (0x2174, 0x2174, 1, 0x76), (0x2179, 0x2179, 1, 0x78), (0x217c, 0x217c, 1, 0x6c),
   (0x217d, 0x217e, 1, 0x63), (0x217f, 0x217f, 1, 0x6d), (0x2183, 0x2183, 1, 0x2184),
   (0x2329, 0x232a, 1, 0x3008), (0x2460, 0x2468, 1, 0x31), (0x24b6, 0x24cf, 1, 0x61),
   (0x24d0, 0x24e9, 1, 0x61), (0x24ea, 0x24ea, 1, 0x30), (0x2c00, 0x2c2f, 1, 0x2c30),
   (0x2c60, 0x2c60, 1, 0x2c61), (0x2c62, 0x2c62, 1, 0x26b), (0x2c63, 0x2c63, 1, 0x1d7d),
   (0x2c64, 0x2c64, 1, 0x27d), (0x2c67, 0x2c6b, 2, 0x2c68), (0x2c6d, 0x2c6d, 1, 0x251),
   (0x2c6e, 0x2c6e, 1, 0x271), (0x2c6f, 0x2c6f, 1, 0x250), (0x2c70, 0x2c70, 1, 0x252),
   (0x2c72, 0x2c72, 1, 0x2c73), (0x2c75, 0x2c75, 1, 0x2c76), (0x2c7c, 0x2c7c, 1, 0x6a),
   (0x2c7d, 0x2c7d, 1, 0x76), (0x2c7e, 0x2c7f, 1, 0x23f), (0x2c80, 0x2ce2, 2, 0x2c81),
   (0x2ceb, 0x2ced, 2, 0x2cec), (0x2cf2, 0x2cf2, 1, 0x2cf3), (0x2d6f, 0x2d6f, 1, 0x2d61),
   (0x2e9f, 0x2e9f, 1, 0x6bcd), (0x2ef3, 0x2ef3, 1, 0x9f9f), (0x3000, 0x3000, 1, 0x20),
   (0x3002, 0x3002, 1, 0x2e), (0x3036, 0x3036, 1, 0x3012), (0x3038, 0x3038, 1, 0x5341),
   (0x3039, 0x303a, 1, 0x5344), (0x3131, 0x3132, 1, 0x1100), (0x3133, 0x3135, 2, 0x11aa),
   (0x3134, 0x3134, 1, 0x1102), (0x3136, 0x3136, 1, 0x11ad), (0x3137, 0x3139, 1, 0x1103),
   (0x313a, 0x313f, 1, 0x11b0), (0x3140, 0x3140, 1, 0x111a), (0x3141, 0x3143, 1, 0x1106),
   (0x3144, 0x3144, 1, 0x1121), (0x3145, 0x314e, 1, 0x1109), (0x314f, 0x3163, 1, 0x1161),
   (0x3165, 0x3166, 1, 0x1114), (0x3167, 0x3168, 1, 0x11c7), (0x3169, 0x3169, 1, 0x11cc),
   (0x316a, 0x316a, 1, 0x11ce), (0x316b, 0x316b, 1, 0x11d3), (0x316c, 0x316c, 1, 0x11d7),
   (0x316d, 0x316d, 1, 0x11d9), (0x316e, 0x316e, 1, 0x111c), (0x316f, 0x316f, 1, 0x11dd),
   (0x3170, 0x3170, 1, 0x11df), (0x3171, 0x3172, 1, 0x111d), (0x3173, 0x3173, 1, 0x1120),
   (0x3174, 0x3175, 1, 0x1122), (0x3176, 0x3176, 1, 0x1127), (0x3177, 0x3177, 1, 0x1129),
   (0x3178, 0x317c, 1, 0x112b), (0x317d, 0x317d, 1, 0x1132), (0x317e, 0x317e, 1, 0x1136),
   (0x317f, 0x317f, 1, 0x1140), (0x3180, 0x3180, 1, 0x1147), (0x3181, 0x3181, 1, 0x114c),
   (0x3182, 0x3183, 1, 0x11f1), (0x3184, 0x3186, 1, 0x1157), (0x3187, 0x3188, 1, 0x1184),
   (0x3189, 0x3189, 1, 0x1188), (0x318a, 0x318b, 1, 0x1191), (0x318c, 0x318c, 1, 0x1194),
   (0x318d, 0x318d, 1, 0x119e), (0x318e, 0x318e, 1, 0x11a1), (0x3192, 0x3192, 1, 0x4e00),
   (0x3193, 0x3193, 1, 0x4e8c), (0x3194, 0x3194, 1, 0x4e09), (0x3195, 0x3195, 1, 0x56db),
   (0x3196, 0x3196, 1, 0x4e0a), (0x3197, 0x3197, 1, 0x4e2d), (0x3198, 0x3198, 1, 0x4e0b),
   (0x3199, 0x3199, 1, 0x7532), (0x319a, 0x319a, 1, 0x4e59), (0x319b, 0x319b, 1, 0x4e19),
   (0x319c, 0x319c, 1, 0x4e01), (0x319d, 0x319d, 1, 0x5929), (0x319e, 0x319e, 1, 0x5730),
   (0x319f, 0x319f, 1, 0x4eba), (0x3244, 0x3244, 1, 0x554f), (0x3245, 0x3245, 1, 0x5e7c),
   (0x3246, 0x3246, 1, 0x6587), (0x3247, 0x3247, 1, 0x7b8f), (0x3260, 0x3260, 1, 0x1100),
   (0x3261, 0x3262, 1, 0x1102), (0x3263, 0x3265, 1, 0x1105), (0x3266, 0x3266, 1, 0x1109),
   (0x3267, 0x3268, 1, 0x110b), (0x3269, 0x326d, 1, 0x110e), (0x326e, 0x326e, 1, 0xac00),
   (0x326f, 0x326f, 1, 0xb098), (0x3270, 0x3270, 1, 0xb2e4), (0x3271, 0x3271, 1, 0xb77c),
   (0x3272, 0x3272, 1, 0xb9c8), (0x3273, 0x3273, 1, 0xbc14), (0x3274, 0x3274, 1, 0xc0ac),
   (0x3275, 0x3275, 1, 0xc544), (0x3276, 0x3276, 1, 0xc790), (0x3277, 0x3277, 1, 0xcc28),
   (0x3278, 0x3278, 1, 0xce74), (0x3279, 0x3279, 1, 0xd0c0), (0x327a, 0x327a, 1, 0xd30c),
   (0x327b, 0x327b, 1, 0xd558), (0x327e, 0x327e, 1, 0xc6b0), (0x3280, 0x3280, 1, 0x4e00),
   (0x3281, 0x3281, 1, 0x4e8c), (0x3282, 0x3282, 1, 0x4e09), (0x3283, 0x3283, 1, 0x56db),
   (0x3284, 0x3284, 1, 0x4e94), (0x3285, 0x3285, 1, 0x516d), (0x3286, 0x3286, 1, 0x4e03),
   (0x3287, 0x3287, 1, 0x516b), (0x3288, 0x3288, 1, 0x4e5d), (0x3289, 0x3289, 1, 0x5341),
   (0x328a, 0x328a, 1, 0x6708), (0x328b, 0x328b, 1, 0x706b), (0x328c, 0x328c, 1, 0x6c34),
   (0x328d, 0x328d, 1, 0x6728), (0x328e, 0x328e, 1, 0x91d1), (0x328f, 0x328f, 1, 0x571f),
   (0x3290, 0x3290, 1, 0x65e5), (0x3291, 0x3291, 1, 0x682a), (0x3292, 0x3292, 1, 0x6709),
   (0x3293, 0x3293, 1, 0x793e), (0x3294, 0x3294, 1, 0x540d), (0x3295, 0x3295, 1, 0x7279),
   (0x3296, 0x3296, 1, 0x8ca1), (0x3297, 0x3297, 1, 0x795d), (0x3298, 0x3298, 1, 0x52b4),
   (0x3299, 0x3299, 1, 0x79d8), (0x329a, 0x329a, 1, 0x7537), (0x329b, 0x329b, 1, 0x5973),
   (0x329c, 0x329c, 1, 0x9069), (0x329d, 0x329d, 1, 0x512a), (0x329e, 0x329e, 1, 0x5370),
   (0x329f, 0x329f, 1, 0x6ce8), (0x32a0, 0x32a0, 1, 0x9805), (0x32a1, 0x32a1, 1, 0x4f11),
   (0x32a2, 0x32a2, 1, 0x5199), (0x32a3, 0x32a3, 1, 0x6b63), (0x32a4, 0x32a4, 1, 0x4e0a),
   (0x32a5, 0x32a5, 1, 0x4e2d), (0x32a6, 0x32a6, 1, 0x4e0b), (0x32a7, 0x32a7, 1, 0x5de6),
   (0x32a8, 0x32a8, 1, 0x53f3), (0x32a9, 0x32a9, 1, 0x533b), (0x32aa, 0x32aa, 1, 0x5b97),
   (0x32ab, 0x32ab, 1, 0x5b66), (0x32ac, 0x32ac, 1, 0x76e3), (0x32ad, 0x32ad, 1, 0x4f01),
   (0x32ae, 0x32ae, 1, 0x8cc7), (0x32af, 0x32af, 1, 0x5354), (0x32b0, 0x32b0, 1, 0x591c),
   (0x32d0, 0x32d0, 1, 0x30a2), (0x32d1, 0x32d1, 1, 0x30a4), (0x32d2, 0x32d2, 1, 0x30a6),
   (0x32d3, 0x32d3, 1, 0x30a8), (0x32d4, 0x32d5, 1, 0x30aa), (0x32d6, 0x32d6, 1, 0x30ad),
   (0x32d7, 0x32d7, 1, 0x30af), (0x32d8, 0x32d8, 1, 0x30b1), (0x32d9, 0x32d9, 1, 0x30b3),
   (0x32da, 0x32da, 1, 0x30b5), (0x32db, 0x32db, 1, 0x30b7), (0x32dc, 0x32dc, 1, 0x30b9),
   (0x32dd, 0x32dd, 1, 0x30bb), (0x32de, 0x32de, 1, 0x30bd), (0x32df, 0x32df, 1, 0x30bf),
   (0x32e0, 0x32e0, 1, 0x30c1), (0x32e1, 0x32e1, 1, 0x30c4), (0x32e2, 0x32e2, 1, 0x30c6),
   (0x32e3, 0x32e3, 1, 0x30c8), (0x32e4, 0x32e9, 1, 0x30ca), (0x32ea, 0x32ea, 1, 0x30d2),
   (0x32eb, 0x32eb, 1, 0x30d5), (0x32ec, 0x32ec, 1, 0x30d8), (0x32ed, 0x32ed, 1, 0x30db),
   (0x32ee, 0x32f2, 1, 0x30de), (0x32f3, 0x32f3, 1, 0x30e4), (0x32f4, 0x32f4, 1, 0x30e6),
   (0x32f5, 0x32fa, 1, 0x30e8), (0x32fb, 0x32fe, 1, 0x30ef), (0xa640, 0xa66c, 2, 0xa641),
   (0xa680, 0xa69a, 2, 0xa681), (0xa69c, 0xa69c, 1, 0x44a), (0xa69d, 0xa69d, 1, 0x44c),
   (0xa722, 0xa72e, 2, 0xa723), (0xa732, 0xa76e, 2, 0xa733), (0xa770, 0xa770, 1, 0xa76f),
   (0xa779, 0xa77b, 2, 0xa77a), (0xa77d, 0xa77d, 1, 0x1d79), (0xa77e, 0xa786, 2, 0xa77f),
   (0xa78b, 0xa78b, 1, 0xa78c), (0xa78d, 0xa78d, 1, 0x265), (0xa790, 0xa792, 2, 0xa791),
   (0xa796, 0xa7a8, 2, 0xa797), (0xa7aa, 0xa7aa, 1, 0x266), (0xa7ab, 0xa7ab, 1, 0x25c),
   (0xa7ac, 0xa7ac, 1, 0x261), (0xa7ad, 0xa7ad, 1, 0x26c), (0xa7ae, 0xa7ae, 1, 0x26a),
   (0xa7b0, 0xa7b0, 1, 0x29e), (0xa7b1, 0xa7b1, 1, 0x287), (0xa7b2, 0xa7b2, 1, 0x29d),
   (0xa7b3, 0xa7b3, 1, 0xab53), (0xa7b4, 0xa7c2, 2, 0xa7b5), (0xa7c4, 0xa7c4, 1, 0xa794),
   (0xa7c5, 0xa7c5, 1, 0x282), (0xa7c6, 0xa7c6, 1, 0x1d8e), (0xa7c7, 0xa7c9, 2, 0xa7c8),
   (0xa7cb, 0xa7cb, 1, 0x264), (0xa7cc, 0xa7da, 2, 0xa7cd), (0xa7dc, 0xa7dc, 1, 0x19b),
   (0xa7f1, 0xa7f1, 1, 0x73), (0xa7f2, 0xa7f2, 1, 0x63), (0xa7f3, 0xa7f3, 1, 0x66),
   (0xa7f4, 0xa7f4, 1, 0x71), (0xa7f5, 0xa7f5, 1, 0xa7f6), (0xa7f8, 0xa7f8, 1, 0x127),
   (0xa7f9, 0xa7f9, 1, 0x153), (0xab5c, 0xab5c, 1, 0xa727), (0xab5d, 0xab5d, 1, 0xab37),
   (0xab5e, 0xab5e, 1, 0x26b), (0xab5f, 0xab5f, 1, 0xab52), (0xab69, 0xab69, 1, 0x28d),
   (0xab70, 0xabbf, 1, 0x13a0), (0xfb20, 0xfb20, 1, 0x5e2), (0xfb21, 0xfb21, 1, 0x5d0),
   (0xfb22, 0xfb23, 1, 0x5d3), (0xfb24, 0xfb26, 1, 0x5db), (0xfb27, 0xfb27, 1, 0x5e8),
   (0xfb28, 0xfb28, 1, 0x5ea), (0xfb29, 0xfb29, 1, 0x2b), (0xfb50, 0xfb50, 1, 0x671),
   (0xfb51, 0xfb51, 1, 0x671), (0xfb52, 0xfb52, 1, 0x67b), (0xfb53, 0xfb53, 1, 0x67b),
   (0xfb54, 0xfb54, 1, 0x67b), (0xfb55, 0xfb55, 1, 0x67b), (0xfb56, 0xfb56, 1, 0x67e),
   (0xfb57, 0xfb57, 1, 0x67e), (0xfb58, 0xfb5a, 2, 0x67e), (0xfb59, 0xfb5b, 2, 0x67e),
   (0xfb5c, 0xfb5c, 1, 0x680), (0xfb5d, 0xfb5d, 1, 0x680), (0xfb5e, 0xfb5e, 1, 0x67a),
   (0xfb5f, 0xfb5f, 1, 0x67a), (0xfb60, 0xfb60, 1, 0x67a), (0xfb61, 0xfb61, 1, 0x67a),
   (0xfb62, 0xfb62, 1, 0x67f), (0xfb63, 0xfb63, 1, 0x67f), (0xfb64, 0xfb64, 1, 0x67f),
   (0xfb65, 0xfb65, 1, 0x67f), (0xfb66, 0xfb66, 1, 0x679), (0xfb67, 0xfb67, 1, 0x679),
   (0xfb68, 0xfb68, 1, 0x679), (0xfb69, 0xfb69, 1, 0x679), (0xfb6a, 0xfb6a, 1, 0x6a4),
   (0xfb6b, 0xfb6b, 1, 0x6a4), (0xfb6c, 0xfb6e, 2, 0x6a4), (0xfb6d, 0xfb6f, 2, 0x6a4),
   (0xfb70, 0xfb70, 1, 0x6a6), (0xfb71, 0xfb71, 1, 0x6a6), (0xfb72, 0xfb72, 1, 0x684),
   (0xfb73, 0xfb73, 1, 0x684), (0xfb74, 0xfb74, 1, 0x684), (0xfb75, 0xfb75, 1, 0x684),
   (0xfb76, 0xfb76, 1, 0x683), (0xfb77, 0xfb77, 1, 0x683), (0xfb78, 0xfb78, 1, 0x683),
   (0xfb79, 0xfb79, 1, 0x683), (0xfb7a, 0xfb7a, 1, 0x686), (0xfb7b, 0xfb7b, 1, 0x686),
   (0xfb7c, 0xfb7c, 1, 0x686), (0xfb7d, 0xfb7e, 1, 0x686), (0xfb7f, 0xfb7f, 1, 0x687),
   (0xfb80, 0xfb80, 1, 0x687), (0xfb81, 0xfb81, 1, 0x687), (0xfb82, 0xfb82, 1, 0x68d),
   (0xfb83, 0xfb83, 1, 0x68d), (0xfb84, 0xfb86, 2, 0x68c), (0xfb85, 0xfb87, 2, 0x68c),
   (0xfb88, 0xfb88, 1, 0x688), (0xfb89, 0xfb89, 1, 0x688), (0xfb8a, 0xfb8a, 1, 0x698),
   (0xfb8b, 0xfb8b, 1, 0x698), (0xfb8c, 0xfb8c, 1, 0x691), (0xfb8d, 0xfb8d, 1, 0x691),
   (0xfb8e, 0xfb8e, 1, 0x6a9), (0xfb8f, 0xfb8f, 1, 0x6a9), (0xfb90, 0xfb90, 1, 0x6a9),
   (0xfb91, 0xfb91, 1, 0x6a9), (0xfb92, 0xfb92, 1, 0x6af), (0xfb93, 0xfb93, 1, 0x6af),
   (0xfb94, 0xfb94, 1, 0x6af), (0xfb95, 0xfb95, 1, 0x6af), (0xfb96, 0xfb96, 1, 0x6b3),
   (0xfb97, 0xfb97, 1, 0x6b3), (0xfb98, 0xfb98, 1, 0x6b3), (0xfb99, 0xfb99, 1, 0x6b3),
   (0xfb9a, 0xfb9a, 1, 0x6b1), (0xfb9b, 0xfb9b, 1, 0x6b1), (0xfb9c, 0xfb9c, 1, 0x6b1),
   (0xfb9d, 0xfb9d, 1, 0x6b1), (0xfb9e, 0xfb9e, 1, 0x6ba), (0xfb9f, 0xfba0, 1, 0x6ba),
   (0xfba1, 0xfba1, 1, 0x6bb), (0xfba2, 0xfba2, 1, 0x6bb), (0xfba3, 0xfba3, 1, 0x6bb),
   (0xfba4, 0xfba4, 1, 0x6c0), (0xfba5, 0xfba6, 1, 0x6c0), (0xfba7, 0xfba7, 1, 0x6c1),
   (0xfba8, 0xfba8, 1, 0x6c1), (0xfba9, 0xfba9, 1, 0x6c1), (0xfbaa, 0xfbaa, 1, 0x6be),
   (0xfbab, 0xfbab, 1, 0x6be), (0xfbac, 0xfbac, 1, 0x6be), (0xfbad, 0xfbad, 1, 0x6be),
   (0xfbae, 0xfbae, 1, 0x6d2), (0xfbaf, 0xfbb0, 1, 0x6d2), (0xfbb1, 0xfbb1, 1, 0x6d3),
   (0xfbd3, 0xfbd3, 1, 0x6ad), (0xfbd4, 0xfbd4, 1, 0x6ad), (0xfbd5, 0xfbd5, 1, 0x6ad),
   (0xfbd6, 0xfbd6, 1, 0x6ad), (0xfbd7, 0xfbd7, 1, 0x6c7), (0xfbd8, 0xfbd8, 1, 0x6c7),
   (0xfbd9, 0xfbdb, 2, 0x6c6), (0xfbda, 0xfbdc, 2, 0x6c6), (0xfbde, 0xfbde, 1, 0x6cb),
   (0xfbdf, 0xfbdf, 1, 0x6cb), (0xfbe0, 0xfbe0, 1, 0x6c5), (0xfbe1, 0xfbe1, 1, 0x6c5),
   (0xfbe2, 0xfbe2, 1, 0x6c9), (0xfbe3, 0xfbe3, 1, 0x6c9), (0xfbe4, 0xfbe4, 1, 0x6d0),
   (0xfbe5, 0xfbe5, 1, 0x6d0), (0xfbe6, 0xfbe6, 1, 0x6d0), (0xfbe7, 0xfbe7, 1, 0x6d0),
   (0xfbe8, 0xfbe8, 1, 0x649), (0xfbe9, 0xfbe9, 1, 0x649), (0xfbfc, 0xfbfc, 1, 0x6cc),
   (0xfbfd, 0xfbfd, 1, 0x6cc), (0xfbfe, 0xfbfe, 1, 0x6cc), (0xfbff, 0xfbff, 1, 0x6cc),
   (0xfe10, 0xfe10, 1, 0x2c), (0xfe11, 0xfe11, 1, 0x3001), (0xfe13, 0xfe14, 1, 0x3a),
   (0xfe15, 0xfe15, 1, 0x21), (0xfe16, 0xfe16, 1, 0x3f), (0xfe17, 0xfe18, 1, 0x3016),
   (0xfe31, 0xfe31, 1, 0x2014), (0xfe32, 0xfe32, 1, 0x2013), (0xfe33, 0xfe33, 1, 0x5f),
   (0xfe34, 0xfe34, 1, 0x5f), (0xfe35, 0xfe36, 1, 0x28), (0xfe37, 0xfe37, 1, 0x7b),
   (0xfe38, 0xfe38, 1, 0x7d), (0xfe39, 0xfe3a, 1, 0x3014), (0xfe3b, 0xfe3c, 1, 0x3010),
   (0xfe3d, 0xfe3e, 1, 0x300a), (0xfe3f, 0xfe40, 1, 0x3008), (0xfe41, 0xfe44, 1, 0x300c),
   (0xfe47, 0xfe47, 1, 0x5b), (0xfe48, 0xfe48, 1, 0x5d), (0xfe4d, 0xfe4d, 1, 0x5f),
   (0xfe4e, 0xfe4e, 1, 0x5f), (0xfe4f, 0xfe4f, 1, 0x5f), (0xfe50, 0xfe50, 1, 0x2c),
   (0xfe51, 0xfe51, 1, 0x3001), (0xfe54, 0xfe54, 1, 0x3b), (0xfe55, 0xfe55, 1, 0x3a),
   (0xfe56, 0xfe56, 1, 0x3f), (0xfe57, 0xfe57, 1, 0x21), (0xfe58, 0xfe58, 1, 0x2014),
   (0xfe59, 0xfe5a, 1, 0x28), (0xfe5b, 0xfe5b, 1, 0x7b), (0xfe5c, 0xfe5c, 1, 0x7d),
   (0xfe5d, 0xfe5e, 1, 0x3014), (0xfe5f, 0xfe5f, 1, 0x23), (0xfe60, 0xfe60, 1, 0x26),
   (0xfe61, 0xfe62, 1, 0x2a), (0xfe63, 0xfe63, 1, 0x2d), (0xfe64, 0xfe64, 1, 0x3c),
   (0xfe65, 0xfe65, 1, 0x3e), (0xfe66, 0xfe66, 1, 0x3d), (0xfe68, 0xfe68, 1, 0x5c),
   (0xfe69, 0xfe6a, 1, 0x24), (0xfe6b, 0xfe6b, 1, 0x40), (0xfe80, 0xfe81, 1, 0x621),
   (0xfe82, 0xfe83, 1, 0x622), (0xfe84, 0xfe85, 1, 0x623), (0xfe86, 0xfe87, 1, 0x624),
   (0xfe88, 0xfe89, 1, 0x625), (0xfe8a, 0xfe8a, 1, 0x626), (0xfe8b, 0xfe8b, 1, 0x626),
   (0xfe8c, 0xfe8d, 1, 0x626), (0xfe8e, 0xfe8f, 1, 0x627), (0xfe90, 0xfe90, 1, 0x628),
   (0xfe91, 0xfe91, 1, 0x628), (0xfe92, 0xfe93, 1, 0x628), (0xfe94, 0xfe95, 1, 0x629),
   (0xfe96, 0xfe96, 1, 0x62a), (0xfe97, 0xfe97, 1, 0x62a), (0xfe98, 0xfe99, 1, 0x62a),
   (0xfe9a, 0xfe9a, 1, 0x62b), (0xfe9b, 0xfe9b, 1, 0x62b), (0xfe9c, 0xfe9d, 1, 0x62b),
   (0xfe9e, 0xfe9e, 1, 0x62c), (0xfe9f, 0xfe9f, 1, 0x62c), (0xfea0, 0xfea1, 1, 0x62c),
   (0xfea2, 0xfea2, 1, 0x62d), (0xfea3, 0xfea3, 1, 0x62d), (0xfea4, 0xfea5, 1, 0x62d),
   (0xfea6, 0xfea6, 1, 0x62e), (0xfea7, 0xfea7, 1, 0x62e), (0xfea8, 0xfea9, 1, 0x62e),
   (0xfeaa, 0xfeab, 1, 0x62f), (0xfeac, 0xfead, 1, 0x630), (0xfeae, 0xfeaf, 1, 0x631),
   (0xfeb0, 0xfeb1, 1, 0x632), (0xfeb2, 0xfeb2, 1, 0x633), (0xfeb3, 0xfeb3, 1, 0x633),
   (0xfeb4, 0xfeb5, 1, 0x633), (0xfeb6, 0xfeb6, 1, 0x634), (0xfeb7, 0xfeb7, 1, 0x634),
   (0xfeb8, 0xfeb9, 1, 0x634), (0xfeba, 0xfeba, 1, 0x635), (0xfebb, 0xfebb, 1, 0x635),
   (0xfebc, 0xfebd, 1, 0x635), (0xfebe, 0xfebe, 1, 0x636), (0xfebf, 0xfebf, 1, 0x636),
   (0xfec0, 0xfec1, 1, 0x636), (0xfec2, 0xfec2, 1, 0x637), (0xfec3, 0xfec3, 1, 0x637),
   (0xfec4, 0xfec5, 1, 0x637), (0xfec6, 0xfec6, 1, 0x638), (0xfec7, 0xfec7, 1, 0x638),
   (0xfec8, 0xfec9, 1, 0x638), (0xfeca, 0xfeca, 1, 0x639), (0xfecb, 0xfecb, 1, 0x639),
   (0xfecc, 0xfecd, 1, 0x639), (0xfece, 0xfece, 1, 0x63a), (0xfecf, 0xfecf, 1, 0x63a),
   (0xfed0, 0xfed0, 1, 0x63a), (0xfed1, 0xfed1, 1, 0x641), (0xfed2, 0xfed2, 1, 0x641),
   (0xfed3, 0xfed3, 1, 0x641), (0xfed4, 0xfed5, 1, 0x641), (0xfed6, 0xfed6, 1, 0x642),
   (0xfed7, 0xfed7, 1, 0x642), (0xfed8, 0xfed9, 1, 0x642), (0xfeda, 0xfeda, 1, 0x643),
   (0xfedb, 0xfedb, 1, 0x643), (0xfedc, 0xfedd, 1, 0x643), (0xfede, 0xfede, 1, 0x644),
   (0xfedf, 0xfedf, 1, 0x644), (0xfee0, 0xfee1, 1, 0x644), (0xfee2, 0xfee2, 1, 0x645),
   (0xfee3, 0xfee3, 1, 0x645), (0xfee4, 0xfee5, 1, 0x645), (0xfee6, 0xfee6, 1, 0x646),
   (0xfee7, 0xfee7, 1, 0x646), (0xfee8, 0xfee9, 1, 0x646), (0xfeea, 0xfeea, 1, 0x647),
   (0xfeeb, 0xfeeb, 1, 0x647), (0xfeec, 0xfeed, 1, 0x647), (0xfeee, 0xfeef, 1, 0x648),
   (0xfef0, 0xfef1, 1, 0x649), (0xfef2, 0xfef2, 1, 0x64a), (0xfef3, 0xfef3, 1, 0x64a),
   (0xfef4, 0xfef4, 1, 0x64a), (0xff01, 0xff20, 1, 0x21), (0xff21, 0xff3a, 1, 0x61),
   (0xff3b, 0xff5e, 1, 0x5b), (0xff5f, 0xff60, 1, 0x2985), (0xff61, 0xff61, 1, 0x2e),
   (0xff62, 0xff63, 1, 0x300c), (0xff64, 0xff64, 1, 0x3001), (0xff65, 0xff65, 1, 0x30fb),
   (0xff66, 0xff66, 1, 0x30f2), (0xff67, 0xff67, 1, 0x30a1), (0xff68, 0xff68, 1, 0x30a3),
   (0xff69, 0xff69, 1, 0x30a5), (0xff6a, 0xff6a, 1, 0x30a7), (0xff6b, 0xff6b, 1, 0x30a9),
   (0xff6c, 0xff6c, 1, 0x30e3), (0xff6d, 0xff6d, 1, 0x30e5), (0xff6e, 0xff6e, 1, 0x30e7),
   (0xff6f, 0xff6f, 1, 0x30c3), (0xff70, 0xff70, 1, 0x30fc), (0xff71, 0xff71, 1, 0x30a2),
   (0xff72, 0xff72, 1, 0x30a4), (0xff73, 0xff73, 1, 0x30a6), (0xff74, 0xff74, 1, 0x30a8),
   (0xff75, 0xff76, 1, 0x30aa), (0xff77, 0xff77, 1, 0x30ad), (0xff78, 0xff78, 1, 0x30af),
   (0xff79, 0xff79, 1, 0x30b1), (0xff7a, 0xff7a, 1, 0x30b3), (0xff7b, 0xff7b, 1, 0x30b5),
   (0xff7c, 0xff7c, 1, 0x30b7), (0xff7d, 0xff7d, 1, 0x30b9), (0xff7e, 0xff7e, 1, 0x30bb),
   (0xff7f, 0xff7f, 1, 0x30bd), (0xff80, 0xff80, 1, 0x30bf), (0xff81, 0xff81, 1, 0x30c1),
   (0xff82, 0xff82, 1, 0x30c4), (0xff83, 0xff83, 1, 0x30c6), (0xff84, 0xff84, 1, 0x30c8),
   (0xff85, 0xff8a, 1, 0x30ca), (0xff8b, 0xff8b, 1, 0x30d2), (0xff8c, 0xff8c, 1, 0x30d5),
   (0xff8d, 0xff8d, 1, 0x30d8), (0xff8e, 0xff8e, 1, 0x30db), (0xff8f, 0xff93, 1, 0x30de),
   (0xff94, 0xff94, 1, 0x30e4), (0xff95, 0xff95, 1, 0x30e6), (0xff96, 0xff9b, 1, 0x30e8),
   (0xff9c, 0xff9c, 1, 0x30ef), (0xff9d, 0xff9d, 1, 0x30f3), (0xff9e, 0xff9f, 1, 0x3099),
   (0xffa1, 0xffa2, 1, 0x1100), (0xffa3, 0xffa5, 2, 0x11aa), (0xffa4, 0xffa4, 1, 0x1102),
   (0xffa6, 0xffa6, 1, 0x11ad), (0xffa7, 0xffa9, 1, 0x1103), (0xffaa, 0xffaf, 1, 0x11b0),
   (0xffb0, 0xffb0, 1, 0x111a), (0xffb1, 0xffb3, 1, 0x1106), (0xffb4, 0xffb4, 1, 0x1121),
   (0xffb5, 0xffbe, 1, 0x1109), (0xffc2, 0xffc7, 1, 0x1161), (0xffca, 0xffcf, 1, 0x1167),
   (0xffd2, 0xffd7, 1, 0x116d), (0xffda, 0xffdc, 1, 0x1173), (0xffe0, 0xffe1, 1, 0xa2),
   (0xffe2, 0xffe2, 1, 0xac), (0xffe4, 0xffe4, 1, 0xa6), (0xffe5, 0xffe5, 1, 0xa5),
   (0xffe6, 0xffe6, 1, 0x20a9), (0xffe8, 0xffe8, 1, 0x2502), (0xffe9, 0xffec, 1, 0x2190),
   (0xffed, 0xffed, 1, 0x25a0), (0xffee, 0xffee, 1, 0x25cb)]

/-- Runs from 0x10000 on. -/
def highReplacements : List (Nat × Nat × Nat × Nat) :=
  [(0x10400, 0x10427, 1, 0x10428), (0x104b0, 0x104d3, 1, 0x104d8), (0x10570, 0x10594, 2, 0x10597),
   (0x10571, 0x10579, 2, 0x10598), (0x1057d, 0x10589, 2, 0x105a4), (0x1058d, 0x10591, 2, 0x105b4),
   (0x10595, 0x10595, 1, 0x105bc), (0x10781, 0x10782, 1, 0x2d0), (0x10783, 0x10783, 1, 0xe6),
   (0x10784, 0x10784, 1, 0x299), (0x10785, 0x10785, 1, 0x253), (0x10787, 0x10789, 2, 0x2a3),
   (0x10788, 0x10788, 1, 0xab66), (0x1078a, 0x1078a, 1, 0x2a4), (0x1078b, 0x1078c, 1, 0x256),
   (0x1078d, 0x1078d, 1, 0x1d91), (0x1078e, 0x1078e, 1, 0x258), (0x1078f, 0x1078f, 1, 0x25e),
   (0x10790, 0x10790, 1, 0x2a9), (0x10791, 0x10791, 1, 0x264), (0x10792, 0x10792, 1, 0x262),
   (0x10793, 0x10793, 1, 0x260), (0x10794, 0x10794, 1, 0x29b), (0x10795, 0x10795, 1, 0x127),
   (0x10796, 0x10796, 1, 0x29c), (0x10797, 0x10797, 1, 0x267), (0x10798, 0x10798, 1, 0x284),
   (0x10799, 0x1079a, 1, 0x2aa), (0x1079b, 0x1079b, 1, 0x26c), (0x1079c, 0x1079c, 1, 0x1df04),
   (0x1079d, 0x1079d, 1, 0xa78e), (0x1079e, 0x1079e, 1, 0x26e), (0x1079f, 0x1079f, 1, 0x1df05),
   (0x107a0, 0x107a0, 1, 0x28e), (0x107a1, 0x107a1, 1, 0x1df06), (0x107a2, 0x107a2, 1, 0xf8),
   (0x107a3, 0x107a4, 1, 0x276), (0x107a5, 0x107a5, 1, 0x71), (0x107a6, 0x107a6, 1, 0x27a),
   (0x107a7, 0x107a7, 1, 0x1df08), (0x107a8, 0x107a9, 1, 0x27d), (0x107aa, 0x107aa, 1, 0x280),
   (0x107ab, 0x107ab, 1, 0x2a8), (0x107ac, 0x107ac, 1, 0x2a6), (0x107ad, 0x107ad, 1, 0xab67),
   (0x107ae, 0x107ae, 1, 0x2a7), (0x107af, 0x107af, 1, 0x288), (0x107b0, 0x107b0, 1, 0x2c71),
   (0x107b2, 0x107b2, 1, 0x28f), (0x107b3, 0x107b4, 1, 0x2a1), (0x107b5, 0x107b5, 1, 0x298),
   (0x107b6, 0x107b8, 1, 0x1c0), (0x107b9, 0x107b9, 1, 0x1df0a), (0x107ba, 0x107ba, 1, 0x1df1e),
   (0x10c80, 0x10cb2, 1, 0x10cc0), (0x10d50, 0x10d65, 1, 0x10d70), (0x118a0, 0x118bf, 1, 0x118c0),
   (0x16e40, 0x16e5f, 1, 0x16e60), (0x16ea0, 0x16eb8, 1, 0x16ebb), (0x1ccd6, 0x1ccef, 1, 0x61),
   (0x1ccf0, 0x1ccf9, 1, 0x30), (0x1d400, 0x1d419, 1, 0x61), (0x1d41a, 0x1d433, 1, 0x61),
   (0x1d434, 0x1d44d, 1, 0x61), (0x1d44e, 0x1d466, 2, 0x61), (0x1d44f, 0x1d453, 2, 0x62),
   (0x1d457, 0x1d467, 2, 0x6a), (0x1d468, 0x1d481, 1, 0x61), (0x1d482, 0x1d49b, 1, 0x61),
   (0x1d49c, 0x1d49e, 2, 0x61), (0x1d49f, 0x1d49f, 1, 0x64), (0x1d4a2, 0x1d4a2, 1, 0x67),
   (0x1d4a5, 0x1d4a6, 1, 0x6a), (0x1d4a9, 0x1d4ac, 1, 0x6e), (0x1d4ae, 0x1d4b5, 1, 0x73),
   (0x1d4b6, 0x1d4b9, 1, 0x61), (0x1d4bb, 0x1d4cf, 2, 0x66), (0x1d4be, 0x1d4c2, 2, 0x69),
   (0x1d4c6, 0x1d4ce, 2, 0x71), (0x1d4d0, 0x1d4e9, 1, 0x61), (0x1d4ea, 0x1d503, 1, 0x61),
   (0x1d504, 0x1d505, 1, 0x61), (0x1d507, 0x1d50a, 1, 0x64), (0x1d50d, 0x1d514, 1, 0x6a),
   (0x1d516, 0x1d51c, 1, 0x73), (0x1d51e, 0x1d537, 1, 0x61), (0x1d538, 0x1d539, 1, 0x61),
   (0x1d53b, 0x1d53e, 1, 0x64), (0x1d540, 0x1d544, 1, 0x69), (0x1d546, 0x1d546, 1, 0x6f),
   (0x1d54a, 0x1d550, 1, 0x73), (0x1d552, 0x1d56b, 1, 0x61), (0x1d56c, 0x1d585, 1, 0x61),
   (0x1d586, 0x1d59f, 1, 0x61), (0x1d5a0, 0x1d5b9, 1, 0x61), (0x1d5ba, 0x1d5d3, 1, 0x61),
   (0x1d5d4, 0x1d5ed, 1, 0x61), (0x1d5ee, 0x1d607, 1, 0x61), (0x1d608, 0x1d621, 1, 0x61),
   (0x1d622, 0x1d63b, 1, 0x61), (0x1d63c, 0x1d655, 1, 0x61), (0x1d656, 0x1d66f, 1, 0x61),
   (0x1d670, 0x1d689, 1, 0x61), (0x1d68a, 0x1d6a3, 1, 0x61), (0x1d6a4, 0x1d6a4, 1, 0x131),
   (0x1d6a5, 0x1d6a5, 1, 0x237), (0x1d6a8, 0x1d6b8, 1, 0x3b1), (0x1d6b9, 0x1d6b9, 1, 0x3b8),
   (0x1d6ba, 0x1d6c0, 1, 0x3c3), (0x1d6c1, 0x1d6c1, 1, 0x2207), (0x1d6c2, 0x1d6d2, 1, 0x3b1),
   (0x1d6d3, 0x1d6d3, 1, 0x3c3), (0x1d6d4, 0x1d6da, 1, 0x3c3), (0x1d6db, 0x1d6db, 1, 0x2202),
   (0x1d6dc, 0x1d6dc, 1, 0x3b5), (0x1d6dd, 0x1d6dd, 1, 0x3b8), (0x1d6de, 0x1d6de, 1, 0x3ba),
   (0x1d6df, 0x1d6df, 1, 0x3c6), (0x1d6e0, 0x1d6e0, 1, 0x3c1), (0x1d6e1, 0x1d6e1, 1, 0x3c0),
   (0x1d6e2, 0x1d6f2, 1, 0x3b1), (0x1d6f3, 0x1d6f3, 1, 0x3b8), (0x1d6f4, 0x1d6fa, 1, 0x3c3),
   (0x1d6fb, 0x1d6fb, 1, 0x2207), (0x1d6fc, 0x1d70c, 1, 0x3b1), (0x1d70d, 0x1d70d, 1, 0x3c3),
   (0x1d70e, 0x1d714, 1, 0x3c3), (0x1d715, 0x1d715, 1, 0x2202), (0x1d716, 0x1d716, 1, 0x3b5),
   (0x1d717, 0x1d717, 1, 0x3b8), (0x1d718, 0x1d718, 1, 0x3ba), (0x1d719, 0x1d719, 1, 0x3c6),
   (0x1d71a, 0x1d71a, 1, 0x3c1), (0x1d71b, 0x1d71b, 1, 0x3c0), (0x1d71c, 0x1d72c, 1, 0x3b1),
   (0x1d72d, 0x1d72d, 1, 0x3b8), (0x1d72e, 0x1d734, 1, 0x3c3), (0x1d735, 0x1d735, 1, 0x2207),
   (0x1d736, 0x1d746, 1, 0x3b1), (0x1d747, 0x1d747, 1, 0x3c3), (0x1d748, 0x1d74e, 1, 0x3c3),
   (0x1d74f, 0x1d74f, 1, 0x2202), (0x1d750, 0x1d750, 1, 0x3b5), (0x1d751, 0x1d751, 1, 0x3b8),
   (0x1d752, 0x1d752, 1, 0x3ba), (0x1d753, 0x1d753, 1, 0x3c6), (0x1d754, 0x1d754, 1, 0x3c1),
   (0x1d755, 0x1d755, 1, 0x3c0), (0x1d756, 0x1d766, 1, 0x3b1), (0x1d767, 0x1d767, 1, 0x3b8),
   (0x1d768, 0x1d76e, 1, 0x3c3), (0x1d76f, 0x1d76f, 1, 0x2207), (0x1d770, 0x1d780, 1, 0x3b1),
   (0x1d781, 0x1d781, 1, 0x3c3), (0x1d782, 0x1d788, 1, 0x3c3), (0x1d789, 0x1d789, 1, 0x2202),
   (0x1d78a, 0x1d78a, 1, 0x3b5), (0x1d78b, 0x1d78b, 1, 0x3b8), (0x1d78c, 0x1d78c, 1, 0x3ba),
   (0x1d78d, 0x1d78d, 1, 0x3c6), (0x1d78e, 0x1d78e, 1, 0x3c1), (0x1d78f, 0x1d78f, 1, 0x3c0),
   (0x1d790, 0x1d7a0, 1, 0x3b1), (0x1d7a1, 0x1d7a1, 1, 0x3b8), (0x1d7a2, 0x1d7a8, 1, 0x3c3),
   (0x1d7a9, 0x1d7a9, 1, 0x2207), (0x1d7aa, 0x1d7ba, 1, 0x3b1), (0x1d7bb, 0x1d7bb, 1, 0x3c3),
   (0x1d7bc, 0x1d7c2, 1, 0x3c3), (0x1d7c3, 0x1d7c3, 1, 0x2202), (0x1d7c4, 0x1d7c4, 1, 0x3b5),
   (0x1d7c5, 0x1d7c5, 1, 0x3b8), (0x1d7c6, 0x1d7c6, 1, 0x3ba), (0x1d7c7, 0x1d7c7, 1, 0x3c6),
   (0x1d7c8, 0x1d7c8, 1, 0x3c1), (0x1d7c9, 0x1d7c9, 1, 0x3c0), (0x1d7ca, 0x1d7ca, 1, 0x3dd),
   (0x1d7cb, 0x1d7cb, 1, 0x3dd), (0x1d7ce, 0x1d7d7, 1, 0x30), (0x1d7d8, 0x1d7e1, 1, 0x30),
   (0x1d7e2, 0x1d7eb, 1, 0x30), (0x1d7ec, 0x1d7f5, 1, 0x30), (0x1d7f6, 0x1d7ff, 1, 0x30),
   (0x1e030, 0x1e038, 1, 0x430), (0x1e039, 0x1e03b, 1, 0x43a), (0x1e03c, 0x1e046, 1, 0x43e),
   (0x1e047, 0x1e047, 1, 0x44b), (0x1e048, 0x1e049, 1, 0x44d), (0x1e04a, 0x1e04a, 1, 0xa689),
   (0x1e04b, 0x1e04b, 1, 0x4d9), (0x1e04c, 0x1e04c, 1, 0x456), (0x1e04d, 0x1e04d, 1, 0x458),
   (0x1e04e, 0x1e04e, 1, 0x4e9), (0x1e04f, 0x1e04f, 1, 0x4af), (0x1e050, 0x1e050, 1, 0x4cf),
   (0x1e051, 0x1e059, 1, 0x430), (0x1e05a, 0x1e05b, 1, 0x43a), (0x1e05c, 0x1e05d, 1, 0x43e),
   (0x1e05e, 0x1e05e, 1, 0x441), (0x1e05f, 0x1e064, 1, 0x443), (0x1e065, 0x1e066, 1, 0x44a),
   (0x1e067, 0x1e067, 1, 0x491), (0x1e068, 0x1e068, 1, 0x456), (0x1e069, 0x1e069, 1, 0x455),
   (0x1e06a, 0x1e06a, 1, 0x45f), (0x1e06b, 0x1e06b, 1, 0x4ab), (0x1e06c, 0x1e06c, 1, 0xa651),
   (0x1e06d, 0x1e06d, 1, 0x4b1), (0x1e900, 0x1e921, 1, 0x1e922), (0x1ee00, 0x1ee01, 1, 0x627),
   (0x1ee02, 0x1ee02, 1, 0x62c), (0x1ee03, 0x1ee03, 1, 0x62f), (0x1ee05, 0x1ee05, 1, 0x648),
   (0x1ee06, 0x1ee06, 1, 0x632), (0x1ee07, 0x1ee07, 1, 0x62d), (0x1ee08, 0x1ee08, 1, 0x637),
   (0x1ee09, 0x1ee09, 1, 0x64a), (0x1ee0a, 0x1ee0d, 1, 0x643), (0x1ee0e, 0x1ee0e, 1, 0x633),
   (0x1ee0f, 0x1ee0f, 1, 0x639), (0x1ee10, 0x1ee10, 1, 0x641), (0x1ee11, 0x1ee11, 1, 0x635),
   (0x1ee12, 0x1ee12, 1, 0x642), (0x1ee13, 0x1ee13, 1, 0x631), (0x1ee14, 0x1ee14, 1, 0x634),
   (0x1ee15, 0x1ee16, 1, 0x62a), (0x1ee17, 0x1ee17, 1, 0x62e), (0x1ee18, 0x1ee18, 1, 0x630),
   (0x1ee19, 0x1ee19, 1, 0x636), (0x1ee1a, 0x1ee1a, 1, 0x638), (0x1ee1b, 0x1ee1b, 1, 0x63a),
   (0x1ee1c, 0x1ee1c, 1, 0x66e), (0x1ee1d, 0x1ee1d, 1, 0x6ba), (0x1ee1e, 0x1ee1e, 1, 0x6a1),
   (0x1ee1f, 0x1ee1f, 1, 0x66f), (0x1ee21, 0x1ee21, 1, 0x628), (0x1ee22, 0x1ee22, 1, 0x62c),
   (0x1ee24, 0x1ee24, 1, 0x647), (0x1ee27, 0x1ee27, 1, 0x62d), (0x1ee29, 0x1ee29, 1, 0x64a),
   (0x1ee2a, 0x1ee2d, 1, 0x643), (0x1ee2e, 0x1ee2e, 1, 0x633), (0x1ee2f, 0x1ee2f, 1, 0x639),
   (0x1ee30, 0x1ee30, 1, 0x641), (0x1ee31, 0x1ee31, 1, 0x635), (0x1ee32, 0x1ee32, 1, 0x642),
   (0x1ee34, 0x1ee34, 1, 0x634), (0x1ee35, 0x1ee36, 1, 0x62a), (0x1ee37, 0x1ee37, 1, 0x62e),
   (0x1ee39, 0x1ee39, 1, 0x636), (0x1ee3b, 0x1ee3b, 1, 0x63a), (0x1ee42, 0x1ee42, 1, 0x62c),
   (0x1ee47, 0x1ee47, 1, 0x62d), (0x1ee49, 0x1ee49, 1, 0x64a), (0x1ee4b, 0x1ee4d, 2, 0x644),
   (0x1ee4e, 0x1ee4e, 1, 0x633), (0x1ee4f, 0x1ee4f, 1, 0x639), (0x1ee51, 0x1ee51, 1, 0x635),
   (0x1ee52, 0x1ee52, 1, 0x642), (0x1ee54, 0x1ee54, 1, 0x634), (0x1ee57, 0x1ee57, 1, 0x62e),
   (0x1ee59, 0x1ee59, 1, 0x636), (0x1ee5b, 0x1ee5b, 1, 0x63a), (0x1ee5d, 0x1ee5d, 1, 0x6ba),
   (0x1ee5f, 0x1ee5f, 1, 0x66f), (0x1ee61, 0x1ee61, 1, 0x628), (0x1ee62, 0x1ee62, 1, 0x62c),
   (0x1ee64, 0x1ee64, 1, 0x647), (0x1ee67, 0x1ee67, 1, 0x62d), (0x1ee68, 0x1ee68, 1, 0x637),
   (0x1ee69, 0x1ee69, 1, 0x64a), (0x1ee6a, 0x1ee6c, 2, 0x643), (0x1ee6d, 0x1ee6d, 1, 0x646),
   (0x1ee6e, 0x1ee6e, 1, 0x633), (0x1ee6f, 0x1ee6f, 1, 0x639), (0x1ee70, 0x1ee70, 1, 0x641),
   (0x1ee71, 0x1ee71, 1, 0x635), (0x1ee72, 0x1ee72, 1, 0x642), (0x1ee74, 0x1ee74, 1, 0x634),
   (0x1ee75, 0x1ee76, 1, 0x62a), (0x1ee77, 0x1ee77, 1, 0x62e), (0x1ee79, 0x1ee79, 1, 0x636),
   (0x1ee7a, 0x1ee7a, 1, 0x638), (0x1ee7b, 0x1ee7b, 1, 0x63a), (0x1ee7c, 0x1ee7c, 1, 0x66e),
   (0x1ee7e, 0x1ee7e, 1, 0x6a1), (0x1ee80, 0x1ee81, 1, 0x627), (0x1ee82, 0x1ee82, 1, 0x62c),
   (0x1ee83, 0x1ee83, 1, 0x62f), (0x1ee84, 0x1ee85, 1, 0x647), (0x1ee86, 0x1ee86, 1, 0x632),
   (0x1ee87, 0x1ee87, 1, 0x62d), (0x1ee88, 0x1ee88, 1, 0x637), (0x1ee89, 0x1ee89, 1, 0x64a),
   (0x1ee8b, 0x1ee8d, 1, 0x644), (0x1ee8e, 0x1ee8e, 1, 0x633), (0x1ee8f, 0x1ee8f, 1, 0x639),
   (0x1ee90, 0x1ee90, 1, 0x641), (0x1ee91, 0x1ee91, 1, 0x635), (0x1ee92, 0x1ee92, 1, 0x642),
   (0x1ee93, 0x1ee93, 1, 0x631), (0x1ee94, 0x1ee94, 1, 0x634), (0x1ee95, 0x1ee96, 1, 0x62a),
   (0x1ee97, 0x1ee97, 1, 0x62e), (0x1ee98, 0x1ee98, 1, 0x630), (0x1ee99, 0x1ee99, 1, 0x636),
   (0x1ee9a, 0x1ee9a, 1, 0x638), (0x1ee9b, 0x1ee9b, 1, 0x63a), (0x1eea1, 0x1eea1, 1, 0x628),
   (0x1eea2, 0x1eea2, 1, 0x62c), (0x1eea3, 0x1eea3, 1, 0x62f), (0x1eea5, 0x1eea5, 1, 0x648),
   (0x1eea6, 0x1eea6, 1, 0x632), (0x1eea7, 0x1eea7, 1, 0x62d), (0x1eea8, 0x1eea8, 1, 0x637),
   (0x1eea9, 0x1eea9, 1, 0x64a), (0x1eeab, 0x1eead, 1, 0x644), (0x1eeae, 0x1eeae, 1, 0x633),
   (0x1eeaf, 0x1eeaf, 1, 0x639), (0x1eeb0, 0x1eeb0, 1, 0x641), (0x1eeb1, 0x1eeb1, 1, 0x635),
   (0x1eeb2, 0x1eeb2, 1, 0x642), (0x1eeb3, 0x1eeb3, 1, 0x631), (0x1eeb4, 0x1eeb4, 1, 0x634),
   (0x1eeb5, 0x1eeb6, 1, 0x62a), (0x1eeb7, 0x1eeb7, 1, 0x62e), (0x1eeb8, 0x1eeb8, 1, 0x630),
   (0x1eeb9, 0x1eeb9, 1, 0x636), (0x1eeba, 0x1eeba, 1, 0x638), (0x1eebb, 0x1eebb, 1, 0x63a),
   (0x1f12b, 0x1f12b, 1, 0x63), (0x1f12c, 0x1f12c, 1, 0x72), (0x1f130, 0x1f149, 1, 0x61),
   (0x1f202, 0x1f202, 1, 0x30b5), (0x1f210, 0x1f210, 1, 0x624b), (0x1f211, 0x1f211, 1, 0x5b57),
   (0x1f212, 0x1f212, 1, 0x53cc), (0x1f213, 0x1f213, 1, 0x30c7), (0x1f214, 0x1f214, 1, 0x4e8c),
   (0x1f215, 0x1f215, 1, 0x591a), (0x1f216, 0x1f216, 1, 0x89e3), (0x1f217, 0x1f217, 1, 0x5929),
   (0x1f218, 0x1f218, 1, 0x4ea4), (0x1f219, 0x1f219, 1, 0x6620), (0x1f21a, 0x1f21a, 1, 0x7121),
   (0x1f21b, 0x1f21b, 1, 0x6599), (0x1f21c, 0x1f21c, 1, 0x524d), (0x1f21d, 0x1f21d, 1, 0x5f8c),
   (0x1f21e, 0x1f21e, 1, 0x518d), (0x1f21f, 0x1f21f, 1, 0x65b0), (0x1f220, 0x1f220, 1, 0x521d),
   (0x1f221, 0x1f221, 1, 0x7d42), (0x1f222, 0x1f222, 1, 0x751f), (0x1f223, 0x1f223, 1, 0x8ca9),
   (0x1f224, 0x1f224, 1, 0x58f0), (0x1f225, 0x1f225, 1, 0x5439), (0x1f226, 0x1f226, 1, 0x6f14),
   (0x1f227, 0x1f227, 1, 0x6295), (0x1f228, 0x1f228, 1, 0x6355), (0x1f229, 0x1f229, 1, 0x4e00),
   (0x1f22a, 0x1f22a, 1, 0x4e09), (0x1f22b, 0x1f22b, 1, 0x904a), (0x1f22c, 0x1f22c, 1, 0x5de6),
   (0x1f22d, 0x1f22d, 1, 0x4e2d), (0x1f22e, 0x1f22e, 1, 0x53f3), (0x1f22f, 0x1f22f, 1, 0x6307),
   (0x1f230, 0x1f230, 1, 0x8d70), (0x1f231, 0x1f231, 1, 0x6253), (0x1f232, 0x1f232, 1, 0x7981),
   (0x1f233, 0x1f233, 1, 0x7a7a), (0x1f234, 0x1f234, 1, 0x5408), (0x1f235, 0x1f235, 1, 0x6e80),
   (0x1f236, 0x1f236, 1, 0x6709), (0x1f237, 0x1f237, 1, 0x6708), (0x1f238, 0x1f238, 1, 0x7533),
   (0x1f239, 0x1f239, 1, 0x5272), (0x1f23a, 0x1f23a, 1, 0x55b6), (0x1f23b, 0x1f23b, 1, 0x914d),
   (0x1f250, 0x1f250, 1, 0x5f97), (0x1f251, 0x1f251, 1, 0x53ef), (0x1fbf0, 0x1fbf9, 1, 0x30)]

/-- What stands for the code points from 0x2f00 on. -/
def radicals : List Nat :=
  [0x4e00, 0x4e28, 0x4e36, 0x4e3f, 0x4e59, 0x4e85, 0x4e8c, 0x4ea0, 0x4eba, 0x513f, 0x5165, 0x516b,
   0x5182, 0x5196, 0x51ab, 0x51e0, 0x51f5, 0x5200, 0x529b, 0x52f9, 0x5315, 0x531a, 0x5338, 0x5341,
   0x535c, 0x5369, 0x5382, 0x53b6, 0x53c8, 0x53e3, 0x56d7, 0x571f, 0x58eb, 0x5902, 0x590a, 0x5915,
   0x5927, 0x5973, 0x5b50, 0x5b80, 0x5bf8, 0x5c0f, 0x5c22, 0x5c38, 0x5c6e, 0x5c71, 0x5ddb, 0x5de5,
   0x5df1, 0x5dfe, 0x5e72, 0x5e7a, 0x5e7f, 0x5ef4, 0x5efe, 0x5f0b, 0x5f13, 0x5f50, 0x5f61, 0x5f73,
   0x5fc3, 0x6208, 0x6236, 0x624b, 0x652f, 0x6534, 0x6587, 0x6597, 0x65a4, 0x65b9, 0x65e0, 0x65e5,
   0x66f0, 0x6708, 0x6728, 0x6b20, 0x6b62, 0x6b79, 0x6bb3, 0x6bcb, 0x6bd4, 0x6bdb, 0x6c0f, 0x6c14,
   0x6c34, 0x706b, 0x722a, 0x7236, 0x723b, 0x723f, 0x7247, 0x7259, 0x725b, 0x72ac, 0x7384, 0x7389,
   0x74dc, 0x74e6, 0x7518, 0x751f, 0x7528, 0x7530, 0x758b, 0x7592, 0x7676, 0x767d, 0x76ae, 0x76bf,
   0x76ee, 0x77db, 0x77e2, 0x77f3, 0x793a, 0x79b8, 0x79be, 0x7a74, 0x7acb, 0x7af9, 0x7c73, 0x7cf8,
   0x7f36, 0x7f51, 0x7f8a, 0x7fbd, 0x8001, 0x800c, 0x8012, 0x8033, 0x807f, 0x8089, 0x81e3, 0x81ea,
   0x81f3, 0x81fc, 0x820c, 0x821b, 0x821f, 0x826e, 0x8272, 0x8278, 0x864d, 0x866b, 0x8840, 0x884c,
   0x8863, 0x897e, 0x898b, 0x89d2, 0x8a00, 0x8c37, 0x8c46, 0x8c55, 0x8c78, 0x8c9d, 0x8d64, 0x8d70,
   0x8db3, 0x8eab, 0x8eca, 0x8f9b, 0x8fb0, 0x8fb5, 0x9091, 0x9149, 0x91c6, 0x91cc, 0x91d1, 0x9577,
   0x9580, 0x961c, 0x96b6, 0x96b9, 0x96e8, 0x9751, 0x975e, 0x9762, 0x9769, 0x97cb, 0x97ed, 0x97f3,
   0x9801, 0x98a8, 0x98db, 0x98df, 0x9996, 0x9999, 0x99ac, 0x9aa8, 0x9ad8, 0x9adf, 0x9b25, 0x9b2f,
   0x9b32, 0x9b3c, 0x9b5a, 0x9ce5, 0x9e75, 0x9e7f, 0x9ea5, 0x9ebb, 0x9ec3, 0x9ecd, 0x9ed1, 0x9ef9,
   0x9efd, 0x9f0e, 0x9f13, 0x9f20, 0x9f3b, 0x9f4a, 0x9f52, 0x9f8d, 0x9f9c, 0x9fa0]

/-- What stands for the code points from 0xf900 on. -/
def ideographs : List Nat :=
  [0x8c48, 0x66f4, 0x8eca, 0x8cc8, 0x6ed1, 0x4e32, 0x53e5, 0x9f9c, 0x9f9c, 0x5951, 0x91d1, 0x5587,
   0x5948, 0x61f6, 0x7669, 0x7f85, 0x863f, 0x87ba, 0x88f8, 0x908f, 0x6a02, 0x6d1b, 0x70d9, 0x73de,
   0x843d, 0x916a, 0x99f1, 0x4e82, 0x5375, 0x6b04, 0x721b, 0x862d, 0x9e1e, 0x5d50, 0x6feb, 0x85cd,
   0x8964, 0x62c9, 0x81d8, 0x881f, 0x5eca, 0x6717, 0x6d6a, 0x72fc, 0x90ce, 0x4f86, 0x51b7, 0x52de,
   0x64c4, 0x6ad3, 0x7210, 0x76e7, 0x8001, 0x8606, 0x865c, 0x8def, 0x9732, 0x9b6f, 0x9dfa, 0x788c,
   0x797f, 0x7da0, 0x83c9, 0x9304, 0x9e7f, 0x8ad6, 0x58df, 0x5f04, 0x7c60, 0x807e, 0x7262, 0x78ca,
   0x8cc2, 0x96f7, 0x58d8, 0x5c62, 0x6a13, 0x6dda, 0x6f0f, 0x7d2f, 0x7e37, 0x964b, 0x52d2, 0x808b,
   0x51dc, 0x51cc, 0x7a1c, 0x7dbe, 0x83f1, 0x9675, 0x8b80, 0x62cf, 0x6a02, 0x8afe, 0x4e39, 0x5be7,
   0x6012, 0x7387, 0x7570, 0x5317, 0x78fb, 0x4fbf, 0x5fa9, 0x4e0d, 0x6ccc, 0x6578, 0x7d22, 0x53c3,
   0x585e, 0x7701, 0x8449, 0x8aaa, 0x6bba, 0x8fb0, 0x6c88, 0x62fe, 0x82e5, 0x63a0, 0x7565, 0x4eae,
   0x5169, 0x51c9, 0x6881, 0x7ce7, 0x826f, 0x8ad2, 0x91cf, 0x52f5, 0x5442, 0x5973, 0x5eec, 0x65c5,
   0x6ffe, 0x792a, 0x95ad, 0x9a6a, 0x9e97, 0x9ece, 0x529b, 0x66c6, 0x6b77, 0x8f62, 0x5e74, 0x6190,
   0x6200, 0x649a, 0x6f23, 0x7149, 0x7489, 0x79ca, 0x7df4, 0x806f, 0x8f26, 0x84ee, 0x9023, 0x934a,
   0x5217, 0x52a3, 0x54bd, 0x70c8, 0x88c2, 0x8aaa, 0x5ec9, 0x5ff5, 0x637b, 0x6bae, 0x7c3e, 0x7375,
   0x4ee4, 0x56f9, 0x5be7, 0x5dba, 0x601c, 0x73b2, 0x7469, 0x7f9a, 0x8046, 0x9234, 0x96f6, 0x9748,
   0x9818, 0x4f8b, 0x79ae, 0x91b4, 0x96b8, 0x60e1, 0x4e86, 0x50da, 0x5bee, 0x5c3f, 0x6599, 0x6a02,
   0x71ce, 0x7642, 0x84fc, 0x907c, 0x9f8d, 0x6688, 0x962e, 0x5289, 0x677b, 0x67f3, 0x6d41, 0x6e9c,
   0x7409, 0x7559, 0x786b, 0x7d10, 0x985e, 0x516d, 0x622e, 0x9678, 0x502b, 0x5d19, 0x6dea, 0x8f2a,
   0x5f8b, 0x6144, 0x6817, 0x7387, 0x9686, 0x5229, 0x540f, 0x5c65, 0x6613, 0x674e, 0x68a8, 0x6ce5,
   0x7406, 0x75e2, 0x7f79, 0x88cf, 0x88e1, 0x91cc, 0x96e2, 0x533f, 0x6eba, 0x541d, 0x71d0, 0x7498,
   0x85fa, 0x96a3, 0x9c57, 0x9e9f, 0x6797, 0x6dcb, 0x81e8, 0x7acb, 0x7b20, 0x7c92, 0x72c0, 0x7099,
   0x8b58, 0x4ec0, 0x8336, 0x523a, 0x5207, 0x5ea6, 0x62d3, 0x7cd6, 0x5b85, 0x6d1e, 0x66b4, 0x8f3b,
   0x884c, 0x964d, 0x898b, 0x5ed3, 0x5140, 0x55c0, 0xfa0e, 0xfa0f, 0x585a, 0xfa11, 0x6674, 0xfa13,
   0xfa14, 0x51de, 0x732a, 0x76ca, 0x793c, 0x795e, 0x7965, 0x798f, 0x9756, 0x7cbe, 0x7fbd, 0xfa1f,
   0x8612, 0xfa21, 0x8af8, 0xfa23, 0xfa24, 0x9038, 0x90fd, 0xfa27, 0xfa28, 0xfa29, 0x98ef, 0x98fc,
   0x9928, 0x9db4, 0x90de, 0x96b7, 0x4fae, 0x50e7, 0x514d, 0x52c9, 0x52e4, 0x5351, 0x559d, 0x5606,
   0x5668, 0x5840, 0x58a8, 0x5c64, 0x5c6e, 0x6094, 0x6168, 0x618e, 0x61f2, 0x654f, 0x65e2, 0x6691,
   0x6885, 0x6d77, 0x6e1a, 0x6f22, 0x716e, 0x722b, 0x7422, 0x7891, 0x793e, 0x7949, 0x7948, 0x7950,
   0x7956, 0x795d, 0x798d, 0x798e, 0x7a40, 0x7a81, 0x7bc0, 0x7df4, 0x7e09, 0x7e41, 0x7f72, 0x8005,
   0x81ed, 0x8279, 0x8279, 0x8457, 0x8910, 0x8996, 0x8b01, 0x8b39, 0x8cd3, 0x8d08, 0x8fb6, 0x9038,
   0x96e3, 0x97ff, 0x983b, 0x6075, 0x242ee, 0x8218, 0xfa6e, 0xfa6f, 0x4e26, 0x51b5, 0x5168, 0x4f80,
   0x5145, 0x5180, 0x52c7, 0x52fa, 0x559d, 0x5555, 0x5599, 0x55e2, 0x585a, 0x58b3, 0x5944, 0x5954,
   0x5a62, 0x5b28, 0x5ed2, 0x5ed9, 0x5f69, 0x5fad, 0x60d8, 0x614e, 0x6108, 0x618e, 0x6160, 0x61f2,
   0x6234, 0x63c4, 0x641c, 0x6452, 0x6556, 0x6674, 0x6717, 0x671b, 0x6756, 0x6b79, 0x6bba, 0x6d41,
   0x6edb, 0x6ecb, 0x6f22, 0x701e, 0x716e, 0x77a7, 0x7235, 0x72af, 0x732a, 0x7471, 0x7506, 0x753b,
   0x761d, 0x761f, 0x76ca, 0x76db, 0x76f4, 0x774a, 0x7740, 0x78cc, 0x7ab1, 0x7bc0, 0x7c7b, 0x7d5b,
   0x7df4, 0x7f3e, 0x8005, 0x8352, 0x83ef, 0x8779, 0x8941, 0x8986, 0x8996, 0x8abf, 0x8af8, 0x8acb,
   0x8b01, 0x8afe, 0x8aed, 0x8b39, 0x8b8a, 0x8d08, 0x8f38, 0x9072, 0x9199, 0x9276, 0x967c, 0x96e3,
   0x9756, 0x97db, 0x97ff, 0x980b, 0x983b, 0x9b12, 0x9f9c, 0x2284a, 0x22844, 0x233d5, 0x3b9d,
   0x4018, 0x4039, 0x25249, 0x25cd0, 0x27ed3, 0x9f43, 0x9f8e]

/-- What stands for the code points from 0x2f800 on. -/
def moreIdeographs : List Nat :=
  [0x4e3d, 0x4e38, 0x4e41, 0x20122, 0x4f60, 0x4fae, 0x4fbb, 0x5002, 0x507a, 0x5099, 0x50e7, 0x50cf,
   0x349e, 0x2063a, 0x514d, 0x5154, 0x5164, 0x5177, 0x2051c, 0x34b9, 0x5167, 0x518d, 0x2054b,
   0x5197, 0x51a4, 0x4ecc, 0x51ac, 0x51b5, 0x291df, 0x51f5, 0x5203, 0x34df, 0x523b, 0x5246, 0x5272,
   0x5277, 0x3515, 0x52c7, 0x52c9, 0x52e4, 0x52fa, 0x5305, 0x5306, 0x5317, 0x5349, 0x5351, 0x535a,
   0x5373, 0x537d, 0x537f, 0x537f, 0x537f, 0x20a2c, 0x7070, 0x53ca, 0x53df, 0x20b63, 0x53eb, 0x53f1,
   0x5406, 0x549e, 0x5438, 0x5448, 0x5468, 0x54a2, 0x54f6, 0x5510, 0x5553, 0x5563, 0x5584, 0x5584,
   0x5599, 0x55ab, 0x55b3, 0x55c2, 0x5716, 0x5606, 0x5717, 0x5651, 0x5674, 0x5207, 0x58ee, 0x57ce,
   0x57f4, 0x580d, 0x578b, 0x5832, 0x5831, 0x58ac, 0x214e4, 0x58f2, 0x58f7, 0x5906, 0x591a, 0x5922,
   0x5962, 0x216a8, 0x216ea, 0x59ec, 0x5a1b, 0x5a27, 0x59d8, 0x5a66, 0x36ee, 0x36fc, 0x5b08, 0x5b3e,
   0x5b3e, 0x219c8, 0x5bc3, 0x5bd8, 0x5be7, 0x5bf3, 0x21b18, 0x5bff, 0x5c06, 0x5f53, 0x5c22, 0x3781,
   0x5c60, 0x5c6e, 0x5cc0, 0x5c8d, 0x21de4, 0x5d43, 0x21de6, 0x5d6e, 0x5d6b, 0x5d7c, 0x5de1, 0x5de2,
   0x382f, 0x5dfd, 0x5e28, 0x5e3d, 0x5e69, 0x3862, 0x22183, 0x387c, 0x5eb0, 0x5eb3, 0x5eb6, 0x5eca,
   0x2a392, 0x5efe, 0x22331, 0x22331, 0x8201, 0x5f22, 0x5f22, 0x38c7, 0x232b8, 0x261da, 0x5f62,
   0x5f6b, 0x38e3, 0x5f9a, 0x5fcd, 0x5fd7, 0x5ff9, 0x6081, 0x393a, 0x391c, 0x6094, 0x226d4, 0x60c7,
   0x6148, 0x614c, 0x614e, 0x614c, 0x617a, 0x618e, 0x61b2, 0x61a4, 0x61af, 0x61de, 0x61f2, 0x61f6,
   0x6210, 0x621b, 0x625d, 0x62b1, 0x62d4, 0x6350, 0x22b0c, 0x633d, 0x62fc, 0x6368, 0x6383, 0x63e4,
   0x22bf1, 0x6422, 0x63c5, 0x63a9, 0x3a2e, 0x6469, 0x647e, 0x649d, 0x6477, 0x3a6c, 0x654f, 0x656c,
   0x2300a, 0x65e3, 0x66f8, 0x6649, 0x3b19, 0x6691, 0x3b08, 0x3ae4, 0x5192, 0x5195, 0x6700, 0x669c,
   0x80ad, 0x43d9, 0x6717, 0x671b, 0x6721, 0x675e, 0x6753, 0x233c3, 0x3b49, 0x67fa, 0x6785, 0x6852,
   0x6885, 0x2346d, 0x688e, 0x681f, 0x6914, 0x3b9d, 0x6942, 0x69a3, 0x69ea, 0x6aa8, 0x236a3, 0x6adb,
   0x3c18, 0x6b21, 0x238a7, 0x6b54, 0x3c4e, 0x6b72, 0x6b9f, 0x6bba, 0x6bbb, 0x23a8d, 0x21d0b,
   0x23afa, 0x6c4e, 0x23cbc, 0x6cbf, 0x6ccd, 0x6c67, 0x6d16, 0x6d3e, 0x6d77, 0x6d41, 0x6d69, 0x6d78,
   0x6d85, 0x23d1e, 0x6d34, 0x6e2f, 0x6e6e, 0x3d33, 0x6ecb, 0x6ec7, 0x23ed1, 0x6df9, 0x6f6e,
   0x23f5e, 0x23f8e, 0x6fc6, 0x7039, 0x701e, 0x701b, 0x3d96, 0x704a, 0x707d, 0x7077, 0x70ad,
   0x20525, 0x7145, 0x24263, 0x719c, 0x243ab, 0x7228, 0x7235, 0x7250, 0x24608, 0x7280, 0x7295,
   0x24735, 0x24814, 0x737a, 0x738b, 0x3eac, 0x73a5, 0x3eb8, 0x3eb8, 0x7447, 0x745c, 0x7471, 0x7485,
   0x74ca, 0x3f1b, 0x7524, 0x24c36, 0x753e, 0x24c92, 0x7570, 0x2219f, 0x7610, 0x24fa1, 0x24fb8,
   0x25044, 0x3ffc, 0x4008, 0x76f4, 0x250f3, 0x250f2, 0x25119, 0x25133, 0x771e, 0x771f, 0x771f,
   0x774a, 0x4039, 0x778b, 0x4046, 0x4096, 0x2541d, 0x784e, 0x788c, 0x78cc, 0x40e3, 0x25626, 0x7956,
   0x2569a, 0x256c5, 0x798f, 0x79eb, 0x412f, 0x7a40, 0x7a4a, 0x7a4f, 0x2597c, 0x25aa7, 0x25aa7,
   0x7aee, 0x4202, 0x25bab, 0x7bc6, 0x7bc9, 0x4227, 0x25c80, 0x7cd2, 0x42a0, 0x7ce8, 0x7ce3, 0x7d00,
   0x25f86, 0x7d63, 0x4301, 0x7dc7, 0x7e02, 0x7e45, 0x4334, 0x26228, 0x26247, 0x4359, 0x262d9,
   0x7f7a, 0x2633e, 0x7f95, 0x7ffa, 0x8005, 0x264da, 0x26523, 0x8060, 0x265a8, 0x8070, 0x2335f,
   0x43d5, 0x80b2, 0x8103, 0x440b, 0x813e, 0x5ab5, 0x267a7, 0x267b5, 0x23393, 0x2339c, 0x8201,
   0x8204, 0x8f9e, 0x446b, 0x8291, 0x828b, 0x829d, 0x52b3, 0x82b1, 0x82b3, 0x82bd, 0x82e6, 0x26b3c,
   0x82e5, 0x831d, 0x8363, 0x83ad, 0x8323, 0x83bd, 0x83e7, 0x8457, 0x8353, 0x83ca, 0x83cc, 0x83dc,
   0x26c36, 0x26d6b, 0x26cd5, 0x452b, 0x84f1, 0x84f3, 0x8516, 0x273ca, 0x8564, 0x26f2c, 0x455d,
   0x4561, 0x26fb1, 0x270d2, 0x456b, 0x8650, 0x865c, 0x8667, 0x8669, 0x86a9, 0x8688, 0x870e, 0x86e2,
   0x8779, 0x8728, 0x876b, 0x8786, 0x45d7, 0x87e1, 0x8801, 0x45f9, 0x8860, 0x8863, 0x27667, 0x88d7,
   0x88de, 0x4635, 0x88fa, 0x34bb, 0x278ae, 0x27966, 0x46be, 0x46c7, 0x8aa0, 0x8aed, 0x8b8a, 0x8c55,
   0x27ca8, 0x8cab, 0x8cc1, 0x8d1b, 0x8d77, 0x27f2f, 0x20804, 0x8dcb, 0x8dbc, 0x8df0, 0x208de,
   0x8ed4, 0x8f38, 0x285d2, 0x285ed, 0x9094, 0x90f1, 0x9111, 0x2872e, 0x911b, 0x9238, 0x92d7,
   0x92d8, 0x927c, 0x93f9, 0x9415, 0x28bfa, 0x958b, 0x4995, 0x95b7, 0x28d77, 0x49e6, 0x96c3, 0x5db2,
   0x9723, 0x29145, 0x2921a, 0x4a6e, 0x4a76, 0x97e0, 0x2940a, 0x4ab2, 0x29496, 0x980b, 0x980b,
   0x9829, 0x295b6, 0x98e2, 0x4b33, 0x9929, 0x99a7, 0x99c2, 0x99fe, 0x4bce, 0x29b30, 0x9b12, 0x9c40,
   0x9cfd, 0x4cce, 0x4ced, 0x9d67, 0x2a0ce, 0x4cf8, 0x2a105, 0x2a20e, 0x2a291, 0x9ebb, 0x4d56,
   0x9ef9, 0x9efe, 0x9f05, 0x9f0f, 0x9f16, 0x9f3b, 0x2a600]

end MarketData.Domain
