import ManagementModel.Text.Ranges

/-!
# ManagementModel — characters that are composed of two

Data of a Unicode property: the code points that stand for two others in a row.
-/

namespace ManagementModel.Text.Canonical

/-- The code points that take the place of two others in the canonical form. -/
def pairs : Rows (Nat × Nat) := [
  (0xc0, [(0x41, 0x300), (0x41, 0x301), (0x41, 0x302), (0x41, 0x303), (0x41, 0x308),
    (0x41, 0x30a)]),
  (0xc7, [(0x43, 0x327), (0x45, 0x300), (0x45, 0x301), (0x45, 0x302), (0x45, 0x308), (0x49, 0x300),
    (0x49, 0x301), (0x49, 0x302), (0x49, 0x308)]),
  (0xd1, [(0x4e, 0x303), (0x4f, 0x300), (0x4f, 0x301), (0x4f, 0x302), (0x4f, 0x303),
    (0x4f, 0x308)]),
  (0xd9, [(0x55, 0x300), (0x55, 0x301), (0x55, 0x302), (0x55, 0x308), (0x59, 0x301)]),
  (0xe0, [(0x61, 0x300), (0x61, 0x301), (0x61, 0x302), (0x61, 0x303), (0x61, 0x308),
    (0x61, 0x30a)]),
  (0xe7, [(0x63, 0x327), (0x65, 0x300), (0x65, 0x301), (0x65, 0x302), (0x65, 0x308), (0x69, 0x300),
    (0x69, 0x301), (0x69, 0x302), (0x69, 0x308)]),
  (0xf1, [(0x6e, 0x303), (0x6f, 0x300), (0x6f, 0x301), (0x6f, 0x302), (0x6f, 0x303),
    (0x6f, 0x308)]),
  (0xf9, [(0x75, 0x300), (0x75, 0x301), (0x75, 0x302), (0x75, 0x308), (0x79, 0x301)]),
  (0xff, [(0x79, 0x308), (0x41, 0x304), (0x61, 0x304), (0x41, 0x306), (0x61, 0x306), (0x41, 0x328),
    (0x61, 0x328), (0x43, 0x301), (0x63, 0x301), (0x43, 0x302), (0x63, 0x302), (0x43, 0x307),
    (0x63, 0x307), (0x43, 0x30c), (0x63, 0x30c), (0x44, 0x30c), (0x64, 0x30c)]),
  (0x112, [(0x45, 0x304), (0x65, 0x304), (0x45, 0x306), (0x65, 0x306), (0x45, 0x307),
    (0x65, 0x307), (0x45, 0x328), (0x65, 0x328), (0x45, 0x30c), (0x65, 0x30c), (0x47, 0x302),
    (0x67, 0x302), (0x47, 0x306), (0x67, 0x306), (0x47, 0x307), (0x67, 0x307), (0x47, 0x327),
    (0x67, 0x327), (0x48, 0x302), (0x68, 0x302)]),
  (0x128, [(0x49, 0x303), (0x69, 0x303), (0x49, 0x304), (0x69, 0x304), (0x49, 0x306),
    (0x69, 0x306), (0x49, 0x328), (0x69, 0x328), (0x49, 0x307)]),
  (0x134, [(0x4a, 0x302), (0x6a, 0x302), (0x4b, 0x327), (0x6b, 0x327)]),
  (0x139, [(0x4c, 0x301), (0x6c, 0x301), (0x4c, 0x327), (0x6c, 0x327), (0x4c, 0x30c),
    (0x6c, 0x30c)]),
  (0x143, [(0x4e, 0x301), (0x6e, 0x301), (0x4e, 0x327), (0x6e, 0x327), (0x4e, 0x30c),
    (0x6e, 0x30c)]),
  (0x14c, [(0x4f, 0x304), (0x6f, 0x304), (0x4f, 0x306), (0x6f, 0x306), (0x4f, 0x30b),
    (0x6f, 0x30b)]),
  (0x154, [(0x52, 0x301), (0x72, 0x301), (0x52, 0x327), (0x72, 0x327), (0x52, 0x30c),
    (0x72, 0x30c), (0x53, 0x301), (0x73, 0x301), (0x53, 0x302), (0x73, 0x302), (0x53, 0x327),
    (0x73, 0x327), (0x53, 0x30c), (0x73, 0x30c), (0x54, 0x327), (0x74, 0x327), (0x54, 0x30c),
    (0x74, 0x30c)]),
  (0x168, [(0x55, 0x303), (0x75, 0x303), (0x55, 0x304), (0x75, 0x304), (0x55, 0x306),
    (0x75, 0x306), (0x55, 0x30a), (0x75, 0x30a), (0x55, 0x30b), (0x75, 0x30b), (0x55, 0x328),
    (0x75, 0x328), (0x57, 0x302), (0x77, 0x302), (0x59, 0x302), (0x79, 0x302), (0x59, 0x308),
    (0x5a, 0x301), (0x7a, 0x301), (0x5a, 0x307), (0x7a, 0x307), (0x5a, 0x30c), (0x7a, 0x30c)]),
  (0x1a0, [(0x4f, 0x31b), (0x6f, 0x31b)]), (0x1af, [(0x55, 0x31b), (0x75, 0x31b)]),
  (0x1cd, [(0x41, 0x30c), (0x61, 0x30c), (0x49, 0x30c), (0x69, 0x30c), (0x4f, 0x30c),
    (0x6f, 0x30c), (0x55, 0x30c), (0x75, 0x30c), (0xdc, 0x304), (0xfc, 0x304), (0xdc, 0x301),
    (0xfc, 0x301), (0xdc, 0x30c), (0xfc, 0x30c), (0xdc, 0x300), (0xfc, 0x300)]),
  (0x1de, [(0xc4, 0x304), (0xe4, 0x304), (0x226, 0x304), (0x227, 0x304), (0xc6, 0x304),
    (0xe6, 0x304)]),
  (0x1e6, [(0x47, 0x30c), (0x67, 0x30c), (0x4b, 0x30c), (0x6b, 0x30c), (0x4f, 0x328),
    (0x6f, 0x328), (0x1ea, 0x304), (0x1eb, 0x304), (0x1b7, 0x30c), (0x292, 0x30c), (0x6a, 0x30c)]),
  (0x1f4, [(0x47, 0x301), (0x67, 0x301)]),
  (0x1f8, [(0x4e, 0x300), (0x6e, 0x300), (0xc5, 0x301), (0xe5, 0x301), (0xc6, 0x301),
    (0xe6, 0x301), (0xd8, 0x301), (0xf8, 0x301), (0x41, 0x30f), (0x61, 0x30f), (0x41, 0x311),
    (0x61, 0x311), (0x45, 0x30f), (0x65, 0x30f), (0x45, 0x311), (0x65, 0x311), (0x49, 0x30f),
    (0x69, 0x30f), (0x49, 0x311), (0x69, 0x311), (0x4f, 0x30f), (0x6f, 0x30f), (0x4f, 0x311),
    (0x6f, 0x311), (0x52, 0x30f), (0x72, 0x30f), (0x52, 0x311), (0x72, 0x311), (0x55, 0x30f),
    (0x75, 0x30f), (0x55, 0x311), (0x75, 0x311), (0x53, 0x326), (0x73, 0x326), (0x54, 0x326),
    (0x74, 0x326)]), (0x21e, [(0x48, 0x30c), (0x68, 0x30c)]),
  (0x226, [(0x41, 0x307), (0x61, 0x307), (0x45, 0x327), (0x65, 0x327), (0xd6, 0x304),
    (0xf6, 0x304), (0xd5, 0x304), (0xf5, 0x304), (0x4f, 0x307), (0x6f, 0x307), (0x22e, 0x304),
    (0x22f, 0x304), (0x59, 0x304), (0x79, 0x304)]), (0x385, [(0xa8, 0x301), (0x391, 0x301)]),
  (0x388, [(0x395, 0x301), (0x397, 0x301), (0x399, 0x301)]), (0x38c, [(0x39f, 0x301)]),
  (0x38e, [(0x3a5, 0x301), (0x3a9, 0x301), (0x3ca, 0x301)]),
  (0x3aa, [(0x399, 0x308), (0x3a5, 0x308), (0x3b1, 0x301), (0x3b5, 0x301), (0x3b7, 0x301),
    (0x3b9, 0x301), (0x3cb, 0x301)]),
  (0x3ca, [(0x3b9, 0x308), (0x3c5, 0x308), (0x3bf, 0x301), (0x3c5, 0x301), (0x3c9, 0x301)]),
  (0x3d3, [(0x3d2, 0x301), (0x3d2, 0x308)]), (0x400, [(0x415, 0x300), (0x415, 0x308)]),
  (0x403, [(0x413, 0x301)]), (0x407, [(0x406, 0x308)]),
  (0x40c, [(0x41a, 0x301), (0x418, 0x300), (0x423, 0x306)]), (0x419, [(0x418, 0x306)]),
  (0x439, [(0x438, 0x306)]), (0x450, [(0x435, 0x300), (0x435, 0x308)]), (0x453, [(0x433, 0x301)]),
  (0x457, [(0x456, 0x308)]), (0x45c, [(0x43a, 0x301), (0x438, 0x300), (0x443, 0x306)]),
  (0x476, [(0x474, 0x30f), (0x475, 0x30f)]), (0x4c1, [(0x416, 0x306), (0x436, 0x306)]),
  (0x4d0, [(0x410, 0x306), (0x430, 0x306), (0x410, 0x308), (0x430, 0x308)]),
  (0x4d6, [(0x415, 0x306), (0x435, 0x306)]),
  (0x4da, [(0x4d8, 0x308), (0x4d9, 0x308), (0x416, 0x308), (0x436, 0x308), (0x417, 0x308),
    (0x437, 0x308)]),
  (0x4e2, [(0x418, 0x304), (0x438, 0x304), (0x418, 0x308), (0x438, 0x308), (0x41e, 0x308),
    (0x43e, 0x308)]),
  (0x4ea, [(0x4e8, 0x308), (0x4e9, 0x308), (0x42d, 0x308), (0x44d, 0x308), (0x423, 0x304),
    (0x443, 0x304), (0x423, 0x308), (0x443, 0x308), (0x423, 0x30b), (0x443, 0x30b), (0x427, 0x308),
    (0x447, 0x308)]), (0x4f8, [(0x42b, 0x308), (0x44b, 0x308)]),
  (0x622, [(0x627, 0x653), (0x627, 0x654), (0x648, 0x654), (0x627, 0x655), (0x64a, 0x654)]),
  (0x6c0, [(0x6d5, 0x654)]), (0x6c2, [(0x6c1, 0x654)]), (0x6d3, [(0x6d2, 0x654)]),
  (0x929, [(0x928, 0x93c)]), (0x931, [(0x930, 0x93c)]), (0x934, [(0x933, 0x93c)]),
  (0x9cb, [(0x9c7, 0x9be), (0x9c7, 0x9d7)]), (0xb48, [(0xb47, 0xb56)]),
  (0xb4b, [(0xb47, 0xb3e), (0xb47, 0xb57)]), (0xb94, [(0xb92, 0xbd7)]),
  (0xbca, [(0xbc6, 0xbbe), (0xbc7, 0xbbe), (0xbc6, 0xbd7)]), (0xc48, [(0xc46, 0xc56)]),
  (0xcc0, [(0xcbf, 0xcd5)]), (0xcc7, [(0xcc6, 0xcd5), (0xcc6, 0xcd6)]),
  (0xcca, [(0xcc6, 0xcc2), (0xcca, 0xcd5)]),
  (0xd4a, [(0xd46, 0xd3e), (0xd47, 0xd3e), (0xd46, 0xd57)]), (0xdda, [(0xdd9, 0xdca)]),
  (0xddc, [(0xdd9, 0xdcf), (0xddc, 0xdca), (0xdd9, 0xddf)]), (0x1026, [(0x1025, 0x102e)]),
  (0x1b06, [(0x1b05, 0x1b35)]), (0x1b08, [(0x1b07, 0x1b35)]), (0x1b0a, [(0x1b09, 0x1b35)]),
  (0x1b0c, [(0x1b0b, 0x1b35)]), (0x1b0e, [(0x1b0d, 0x1b35)]), (0x1b12, [(0x1b11, 0x1b35)]),
  (0x1b3b, [(0x1b3a, 0x1b35)]), (0x1b3d, [(0x1b3c, 0x1b35)]),
  (0x1b40, [(0x1b3e, 0x1b35), (0x1b3f, 0x1b35)]), (0x1b43, [(0x1b42, 0x1b35)]),
  (0x1e00, [(0x41, 0x325), (0x61, 0x325), (0x42, 0x307), (0x62, 0x307), (0x42, 0x323),
    (0x62, 0x323), (0x42, 0x331), (0x62, 0x331), (0xc7, 0x301), (0xe7, 0x301), (0x44, 0x307),
    (0x64, 0x307), (0x44, 0x323), (0x64, 0x323), (0x44, 0x331), (0x64, 0x331), (0x44, 0x327),
    (0x64, 0x327), (0x44, 0x32d), (0x64, 0x32d), (0x112, 0x300), (0x113, 0x300), (0x112, 0x301),
    (0x113, 0x301), (0x45, 0x32d), (0x65, 0x32d), (0x45, 0x330), (0x65, 0x330), (0x228, 0x306),
    (0x229, 0x306), (0x46, 0x307), (0x66, 0x307), (0x47, 0x304), (0x67, 0x304), (0x48, 0x307),
    (0x68, 0x307), (0x48, 0x323), (0x68, 0x323), (0x48, 0x308), (0x68, 0x308), (0x48, 0x327),
    (0x68, 0x327), (0x48, 0x32e), (0x68, 0x32e), (0x49, 0x330), (0x69, 0x330), (0xcf, 0x301),
    (0xef, 0x301), (0x4b, 0x301), (0x6b, 0x301), (0x4b, 0x323), (0x6b, 0x323), (0x4b, 0x331),
    (0x6b, 0x331), (0x4c, 0x323), (0x6c, 0x323), (0x1e36, 0x304), (0x1e37, 0x304), (0x4c, 0x331),
    (0x6c, 0x331), (0x4c, 0x32d), (0x6c, 0x32d), (0x4d, 0x301), (0x6d, 0x301), (0x4d, 0x307),
    (0x6d, 0x307), (0x4d, 0x323), (0x6d, 0x323), (0x4e, 0x307), (0x6e, 0x307), (0x4e, 0x323),
    (0x6e, 0x323), (0x4e, 0x331), (0x6e, 0x331), (0x4e, 0x32d), (0x6e, 0x32d), (0xd5, 0x301),
    (0xf5, 0x301), (0xd5, 0x308), (0xf5, 0x308), (0x14c, 0x300), (0x14d, 0x300), (0x14c, 0x301),
    (0x14d, 0x301), (0x50, 0x301), (0x70, 0x301), (0x50, 0x307), (0x70, 0x307), (0x52, 0x307),
    (0x72, 0x307), (0x52, 0x323), (0x72, 0x323), (0x1e5a, 0x304), (0x1e5b, 0x304), (0x52, 0x331),
    (0x72, 0x331), (0x53, 0x307), (0x73, 0x307), (0x53, 0x323), (0x73, 0x323), (0x15a, 0x307),
    (0x15b, 0x307), (0x160, 0x307), (0x161, 0x307), (0x1e62, 0x307), (0x1e63, 0x307),
    (0x54, 0x307), (0x74, 0x307), (0x54, 0x323), (0x74, 0x323), (0x54, 0x331), (0x74, 0x331),
    (0x54, 0x32d), (0x74, 0x32d), (0x55, 0x324), (0x75, 0x324), (0x55, 0x330), (0x75, 0x330),
    (0x55, 0x32d), (0x75, 0x32d), (0x168, 0x301), (0x169, 0x301), (0x16a, 0x308), (0x16b, 0x308),
    (0x56, 0x303), (0x76, 0x303), (0x56, 0x323), (0x76, 0x323), (0x57, 0x300), (0x77, 0x300),
    (0x57, 0x301), (0x77, 0x301), (0x57, 0x308), (0x77, 0x308), (0x57, 0x307), (0x77, 0x307),
    (0x57, 0x323), (0x77, 0x323), (0x58, 0x307), (0x78, 0x307), (0x58, 0x308), (0x78, 0x308),
    (0x59, 0x307), (0x79, 0x307), (0x5a, 0x302), (0x7a, 0x302), (0x5a, 0x323), (0x7a, 0x323),
    (0x5a, 0x331), (0x7a, 0x331), (0x68, 0x331), (0x74, 0x308), (0x77, 0x30a), (0x79, 0x30a)]),
  (0x1e9b, [(0x17f, 0x307)]),
  (0x1ea0, [(0x41, 0x323), (0x61, 0x323), (0x41, 0x309), (0x61, 0x309), (0xc2, 0x301),
    (0xe2, 0x301), (0xc2, 0x300), (0xe2, 0x300), (0xc2, 0x309), (0xe2, 0x309), (0xc2, 0x303),
    (0xe2, 0x303), (0x1ea0, 0x302), (0x1ea1, 0x302), (0x102, 0x301), (0x103, 0x301),
    (0x102, 0x300), (0x103, 0x300), (0x102, 0x309), (0x103, 0x309), (0x102, 0x303), (0x103, 0x303),
    (0x1ea0, 0x306), (0x1ea1, 0x306), (0x45, 0x323), (0x65, 0x323), (0x45, 0x309), (0x65, 0x309),
    (0x45, 0x303), (0x65, 0x303), (0xca, 0x301), (0xea, 0x301), (0xca, 0x300), (0xea, 0x300),
    (0xca, 0x309), (0xea, 0x309), (0xca, 0x303), (0xea, 0x303), (0x1eb8, 0x302), (0x1eb9, 0x302),
    (0x49, 0x309), (0x69, 0x309), (0x49, 0x323), (0x69, 0x323), (0x4f, 0x323), (0x6f, 0x323),
    (0x4f, 0x309), (0x6f, 0x309), (0xd4, 0x301), (0xf4, 0x301), (0xd4, 0x300), (0xf4, 0x300),
    (0xd4, 0x309), (0xf4, 0x309), (0xd4, 0x303), (0xf4, 0x303), (0x1ecc, 0x302), (0x1ecd, 0x302),
    (0x1a0, 0x301), (0x1a1, 0x301), (0x1a0, 0x300), (0x1a1, 0x300), (0x1a0, 0x309), (0x1a1, 0x309),
    (0x1a0, 0x303), (0x1a1, 0x303), (0x1a0, 0x323), (0x1a1, 0x323), (0x55, 0x323), (0x75, 0x323),
    (0x55, 0x309), (0x75, 0x309), (0x1af, 0x301), (0x1b0, 0x301), (0x1af, 0x300), (0x1b0, 0x300),
    (0x1af, 0x309), (0x1b0, 0x309), (0x1af, 0x303), (0x1b0, 0x303), (0x1af, 0x323), (0x1b0, 0x323),
    (0x59, 0x300), (0x79, 0x300), (0x59, 0x323), (0x79, 0x323), (0x59, 0x309), (0x79, 0x309),
    (0x59, 0x303), (0x79, 0x303)]),
  (0x1f00, [(0x3b1, 0x313), (0x3b1, 0x314), (0x1f00, 0x300), (0x1f01, 0x300), (0x1f00, 0x301),
    (0x1f01, 0x301), (0x1f00, 0x342), (0x1f01, 0x342), (0x391, 0x313), (0x391, 0x314),
    (0x1f08, 0x300), (0x1f09, 0x300), (0x1f08, 0x301), (0x1f09, 0x301), (0x1f08, 0x342),
    (0x1f09, 0x342), (0x3b5, 0x313), (0x3b5, 0x314), (0x1f10, 0x300), (0x1f11, 0x300),
    (0x1f10, 0x301), (0x1f11, 0x301)]),
  (0x1f18, [(0x395, 0x313), (0x395, 0x314), (0x1f18, 0x300), (0x1f19, 0x300), (0x1f18, 0x301),
    (0x1f19, 0x301)]),
  (0x1f20, [(0x3b7, 0x313), (0x3b7, 0x314), (0x1f20, 0x300), (0x1f21, 0x300), (0x1f20, 0x301),
    (0x1f21, 0x301), (0x1f20, 0x342), (0x1f21, 0x342), (0x397, 0x313), (0x397, 0x314),
    (0x1f28, 0x300), (0x1f29, 0x300), (0x1f28, 0x301), (0x1f29, 0x301), (0x1f28, 0x342),
    (0x1f29, 0x342), (0x3b9, 0x313), (0x3b9, 0x314), (0x1f30, 0x300), (0x1f31, 0x300),
    (0x1f30, 0x301), (0x1f31, 0x301), (0x1f30, 0x342), (0x1f31, 0x342), (0x399, 0x313),
    (0x399, 0x314), (0x1f38, 0x300), (0x1f39, 0x300), (0x1f38, 0x301), (0x1f39, 0x301),
    (0x1f38, 0x342), (0x1f39, 0x342), (0x3bf, 0x313), (0x3bf, 0x314), (0x1f40, 0x300),
    (0x1f41, 0x300), (0x1f40, 0x301), (0x1f41, 0x301)]),
  (0x1f48, [(0x39f, 0x313), (0x39f, 0x314), (0x1f48, 0x300), (0x1f49, 0x300), (0x1f48, 0x301),
    (0x1f49, 0x301)]),
  (0x1f50, [(0x3c5, 0x313), (0x3c5, 0x314), (0x1f50, 0x300), (0x1f51, 0x300), (0x1f50, 0x301),
    (0x1f51, 0x301), (0x1f50, 0x342), (0x1f51, 0x342)]), (0x1f59, [(0x3a5, 0x314)]),
  (0x1f5b, [(0x1f59, 0x300)]), (0x1f5d, [(0x1f59, 0x301)]),
  (0x1f5f, [(0x1f59, 0x342), (0x3c9, 0x313), (0x3c9, 0x314), (0x1f60, 0x300), (0x1f61, 0x300),
    (0x1f60, 0x301), (0x1f61, 0x301), (0x1f60, 0x342), (0x1f61, 0x342), (0x3a9, 0x313),
    (0x3a9, 0x314), (0x1f68, 0x300), (0x1f69, 0x300), (0x1f68, 0x301), (0x1f69, 0x301),
    (0x1f68, 0x342), (0x1f69, 0x342), (0x3b1, 0x300)]), (0x1f72, [(0x3b5, 0x300)]),
  (0x1f74, [(0x3b7, 0x300)]), (0x1f76, [(0x3b9, 0x300)]), (0x1f78, [(0x3bf, 0x300)]),
  (0x1f7a, [(0x3c5, 0x300)]), (0x1f7c, [(0x3c9, 0x300)]),
  (0x1f80, [(0x1f00, 0x345), (0x1f01, 0x345), (0x1f02, 0x345), (0x1f03, 0x345), (0x1f04, 0x345),
    (0x1f05, 0x345), (0x1f06, 0x345), (0x1f07, 0x345), (0x1f08, 0x345), (0x1f09, 0x345),
    (0x1f0a, 0x345), (0x1f0b, 0x345), (0x1f0c, 0x345), (0x1f0d, 0x345), (0x1f0e, 0x345),
    (0x1f0f, 0x345), (0x1f20, 0x345), (0x1f21, 0x345), (0x1f22, 0x345), (0x1f23, 0x345),
    (0x1f24, 0x345), (0x1f25, 0x345), (0x1f26, 0x345), (0x1f27, 0x345), (0x1f28, 0x345),
    (0x1f29, 0x345), (0x1f2a, 0x345), (0x1f2b, 0x345), (0x1f2c, 0x345), (0x1f2d, 0x345),
    (0x1f2e, 0x345), (0x1f2f, 0x345), (0x1f60, 0x345), (0x1f61, 0x345), (0x1f62, 0x345),
    (0x1f63, 0x345), (0x1f64, 0x345), (0x1f65, 0x345), (0x1f66, 0x345), (0x1f67, 0x345),
    (0x1f68, 0x345), (0x1f69, 0x345), (0x1f6a, 0x345), (0x1f6b, 0x345), (0x1f6c, 0x345),
    (0x1f6d, 0x345), (0x1f6e, 0x345), (0x1f6f, 0x345), (0x3b1, 0x306), (0x3b1, 0x304),
    (0x1f70, 0x345), (0x3b1, 0x345), (0x3ac, 0x345)]),
  (0x1fb6, [(0x3b1, 0x342), (0x1fb6, 0x345), (0x391, 0x306), (0x391, 0x304), (0x391, 0x300)]),
  (0x1fbc, [(0x391, 0x345)]),
  (0x1fc1, [(0xa8, 0x342), (0x1f74, 0x345), (0x3b7, 0x345), (0x3ae, 0x345)]),
  (0x1fc6, [(0x3b7, 0x342), (0x1fc6, 0x345), (0x395, 0x300)]), (0x1fca, [(0x397, 0x300)]),
  (0x1fcc, [(0x397, 0x345), (0x1fbf, 0x300), (0x1fbf, 0x301), (0x1fbf, 0x342), (0x3b9, 0x306),
    (0x3b9, 0x304), (0x3ca, 0x300)]),
  (0x1fd6, [(0x3b9, 0x342), (0x3ca, 0x342), (0x399, 0x306), (0x399, 0x304), (0x399, 0x300)]),
  (0x1fdd, [(0x1ffe, 0x300), (0x1ffe, 0x301), (0x1ffe, 0x342), (0x3c5, 0x306), (0x3c5, 0x304),
    (0x3cb, 0x300)]),
  (0x1fe4, [(0x3c1, 0x313), (0x3c1, 0x314), (0x3c5, 0x342), (0x3cb, 0x342), (0x3a5, 0x306),
    (0x3a5, 0x304), (0x3a5, 0x300)]), (0x1fec, [(0x3a1, 0x314), (0xa8, 0x300)]),
  (0x1ff2, [(0x1f7c, 0x345), (0x3c9, 0x345), (0x3ce, 0x345)]),
  (0x1ff6, [(0x3c9, 0x342), (0x1ff6, 0x345), (0x39f, 0x300)]), (0x1ffa, [(0x3a9, 0x300)]),
  (0x1ffc, [(0x3a9, 0x345)]), (0x219a, [(0x2190, 0x338), (0x2192, 0x338)]),
  (0x21ae, [(0x2194, 0x338)]), (0x21cd, [(0x21d0, 0x338), (0x21d4, 0x338), (0x21d2, 0x338)]),
  (0x2204, [(0x2203, 0x338)]), (0x2209, [(0x2208, 0x338)]), (0x220c, [(0x220b, 0x338)]),
  (0x2224, [(0x2223, 0x338)]), (0x2226, [(0x2225, 0x338)]), (0x2241, [(0x223c, 0x338)]),
  (0x2244, [(0x2243, 0x338)]), (0x2247, [(0x2245, 0x338)]), (0x2249, [(0x2248, 0x338)]),
  (0x2260, [(0x3d, 0x338)]), (0x2262, [(0x2261, 0x338)]),
  (0x226d, [(0x224d, 0x338), (0x3c, 0x338), (0x3e, 0x338), (0x2264, 0x338), (0x2265, 0x338)]),
  (0x2274, [(0x2272, 0x338), (0x2273, 0x338)]), (0x2278, [(0x2276, 0x338), (0x2277, 0x338)]),
  (0x2280, [(0x227a, 0x338), (0x227b, 0x338)]), (0x2284, [(0x2282, 0x338), (0x2283, 0x338)]),
  (0x2288, [(0x2286, 0x338), (0x2287, 0x338)]),
  (0x22ac, [(0x22a2, 0x338), (0x22a8, 0x338), (0x22a9, 0x338), (0x22ab, 0x338)]),
  (0x22e0, [(0x227c, 0x338), (0x227d, 0x338), (0x2291, 0x338), (0x2292, 0x338)]),
  (0x22ea, [(0x22b2, 0x338), (0x22b3, 0x338), (0x22b4, 0x338), (0x22b5, 0x338)]),
  (0x304c, [(0x304b, 0x3099)]), (0x304e, [(0x304d, 0x3099)]), (0x3050, [(0x304f, 0x3099)]),
  (0x3052, [(0x3051, 0x3099)]), (0x3054, [(0x3053, 0x3099)]), (0x3056, [(0x3055, 0x3099)]),
  (0x3058, [(0x3057, 0x3099)]), (0x305a, [(0x3059, 0x3099)]), (0x305c, [(0x305b, 0x3099)]),
  (0x305e, [(0x305d, 0x3099)]), (0x3060, [(0x305f, 0x3099)]), (0x3062, [(0x3061, 0x3099)]),
  (0x3065, [(0x3064, 0x3099)]), (0x3067, [(0x3066, 0x3099)]), (0x3069, [(0x3068, 0x3099)]),
  (0x3070, [(0x306f, 0x3099), (0x306f, 0x309a)]), (0x3073, [(0x3072, 0x3099), (0x3072, 0x309a)]),
  (0x3076, [(0x3075, 0x3099), (0x3075, 0x309a)]), (0x3079, [(0x3078, 0x3099), (0x3078, 0x309a)]),
  (0x307c, [(0x307b, 0x3099), (0x307b, 0x309a)]), (0x3094, [(0x3046, 0x3099)]),
  (0x309e, [(0x309d, 0x3099)]), (0x30ac, [(0x30ab, 0x3099)]), (0x30ae, [(0x30ad, 0x3099)]),
  (0x30b0, [(0x30af, 0x3099)]), (0x30b2, [(0x30b1, 0x3099)]), (0x30b4, [(0x30b3, 0x3099)]),
  (0x30b6, [(0x30b5, 0x3099)]), (0x30b8, [(0x30b7, 0x3099)]), (0x30ba, [(0x30b9, 0x3099)]),
  (0x30bc, [(0x30bb, 0x3099)]), (0x30be, [(0x30bd, 0x3099)]), (0x30c0, [(0x30bf, 0x3099)]),
  (0x30c2, [(0x30c1, 0x3099)]), (0x30c5, [(0x30c4, 0x3099)]), (0x30c7, [(0x30c6, 0x3099)]),
  (0x30c9, [(0x30c8, 0x3099)]), (0x30d0, [(0x30cf, 0x3099), (0x30cf, 0x309a)]),
  (0x30d3, [(0x30d2, 0x3099), (0x30d2, 0x309a)]), (0x30d6, [(0x30d5, 0x3099), (0x30d5, 0x309a)]),
  (0x30d9, [(0x30d8, 0x3099), (0x30d8, 0x309a)]), (0x30dc, [(0x30db, 0x3099), (0x30db, 0x309a)]),
  (0x30f4, [(0x30a6, 0x3099)]),
  (0x30f7, [(0x30ef, 0x3099), (0x30f0, 0x3099), (0x30f1, 0x3099), (0x30f2, 0x3099)]),
  (0x30fe, [(0x30fd, 0x3099)]), (0x105c9, [(0x105d2, 0x307)]), (0x105e4, [(0x105da, 0x307)]),
  (0x1109a, [(0x11099, 0x110ba)]), (0x1109c, [(0x1109b, 0x110ba)]),
  (0x110ab, [(0x110a5, 0x110ba)]), (0x1112e, [(0x11131, 0x11127), (0x11132, 0x11127)]),
  (0x1134b, [(0x11347, 0x1133e), (0x11347, 0x11357)]), (0x11383, [(0x11382, 0x113c9)]),
  (0x11385, [(0x11384, 0x113bb)]), (0x1138e, [(0x1138b, 0x113c2)]),
  (0x11391, [(0x11390, 0x113c9)]), (0x113c5, [(0x113c2, 0x113c2)]),
  (0x113c7, [(0x113c2, 0x113b8), (0x113c2, 0x113c9)]),
  (0x114bb, [(0x114b9, 0x114ba), (0x114b9, 0x114b0)]), (0x114be, [(0x114b9, 0x114bd)]),
  (0x115ba, [(0x115b8, 0x115af), (0x115b9, 0x115af)]), (0x11938, [(0x11935, 0x11930)]),
  (0x16121, [(0x1611e, 0x1611e), (0x1611e, 0x16129), (0x1611e, 0x1611f), (0x16129, 0x1611f),
    (0x1611e, 0x16120), (0x16121, 0x1611f), (0x16122, 0x1611f), (0x16121, 0x16120)]),
  (0x16d68, [(0x16d67, 0x16d67), (0x16d63, 0x16d67), (0x16d69, 0x16d67)])]

/-- The code points that stand for two others, but do not take their place. -/
def parted : Rows (Nat × Nat) := [
  (0x344, [(0x308, 0x301)]),
  (0x958, [(0x915, 0x93c), (0x916, 0x93c), (0x917, 0x93c), (0x91c, 0x93c), (0x921, 0x93c),
    (0x922, 0x93c), (0x92b, 0x93c), (0x92f, 0x93c)]), (0x9dc, [(0x9a1, 0x9bc), (0x9a2, 0x9bc)]),
  (0x9df, [(0x9af, 0x9bc)]), (0xa33, [(0xa32, 0xa3c)]), (0xa36, [(0xa38, 0xa3c)]),
  (0xa59, [(0xa16, 0xa3c), (0xa17, 0xa3c), (0xa1c, 0xa3c)]), (0xa5e, [(0xa2b, 0xa3c)]),
  (0xb5c, [(0xb21, 0xb3c), (0xb22, 0xb3c)]), (0xf43, [(0xf42, 0xfb7)]), (0xf4d, [(0xf4c, 0xfb7)]),
  (0xf52, [(0xf51, 0xfb7)]), (0xf57, [(0xf56, 0xfb7)]), (0xf5c, [(0xf5b, 0xfb7)]),
  (0xf69, [(0xf40, 0xfb5)]), (0xf73, [(0xf71, 0xf72)]), (0xf75, [(0xf71, 0xf74), (0xfb2, 0xf80)]),
  (0xf78, [(0xfb3, 0xf80)]), (0xf81, [(0xf71, 0xf80)]), (0xf93, [(0xf92, 0xfb7)]),
  (0xf9d, [(0xf9c, 0xfb7)]), (0xfa2, [(0xfa1, 0xfb7)]), (0xfa7, [(0xfa6, 0xfb7)]),
  (0xfac, [(0xfab, 0xfb7)]), (0xfb9, [(0xf90, 0xfb5)]), (0x2adc, [(0x2add, 0x338)]),
  (0xfb1d, [(0x5d9, 0x5b4)]), (0xfb1f, [(0x5f2, 0x5b7)]),
  (0xfb2a, [(0x5e9, 0x5c1), (0x5e9, 0x5c2), (0xfb49, 0x5c1), (0xfb49, 0x5c2), (0x5d0, 0x5b7),
    (0x5d0, 0x5b8), (0x5d0, 0x5bc), (0x5d1, 0x5bc), (0x5d2, 0x5bc), (0x5d3, 0x5bc), (0x5d4, 0x5bc),
    (0x5d5, 0x5bc), (0x5d6, 0x5bc)]),
  (0xfb38, [(0x5d8, 0x5bc), (0x5d9, 0x5bc), (0x5da, 0x5bc), (0x5db, 0x5bc), (0x5dc, 0x5bc)]),
  (0xfb3e, [(0x5de, 0x5bc)]), (0xfb40, [(0x5e0, 0x5bc), (0x5e1, 0x5bc)]),
  (0xfb43, [(0x5e3, 0x5bc), (0x5e4, 0x5bc)]),
  (0xfb46, [(0x5e6, 0x5bc), (0x5e7, 0x5bc), (0x5e8, 0x5bc), (0x5e9, 0x5bc), (0x5ea, 0x5bc),
    (0x5d5, 0x5b9), (0x5d1, 0x5bf), (0x5db, 0x5bf), (0x5e4, 0x5bf)]),
  (0x1d15e, [(0x1d157, 0x1d165), (0x1d158, 0x1d165), (0x1d15f, 0x1d16e), (0x1d15f, 0x1d16f),
    (0x1d15f, 0x1d170), (0x1d15f, 0x1d171), (0x1d15f, 0x1d172)]),
  (0x1d1bb, [(0x1d1b9, 0x1d165), (0x1d1ba, 0x1d165), (0x1d1bb, 0x1d16e), (0x1d1bc, 0x1d16e),
    (0x1d1bb, 0x1d16f), (0x1d1bc, 0x1d16f)])]

end ManagementModel.Text.Canonical
