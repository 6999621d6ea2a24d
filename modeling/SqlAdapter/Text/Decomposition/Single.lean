/-
Compatibility decompositions to one character, as runs: the first character of
a run, how many follow one another, and what the first one becomes. Each later
character of the run becomes the next one. Runs are in code point order, in
blocks headed by their last character.
-/

namespace SqlAdapter.Text

private def singleDecompositions0 : List (Nat × Nat × Nat) :=
  [(0xA0, 1, 0x20), (0xAA, 1, 0x61), (0xB2, 2, 0x32), (0xB5, 1, 0x3BC), (0xB9, 1, 0x31),
   (0xBA, 1, 0x6F), (0x17F, 1, 0x73), (0x2B0, 1, 0x68), (0x2B1, 1, 0x266), (0x2B2, 1, 0x6A),
   (0x2B3, 1, 0x72), (0x2B4, 1, 0x279), (0x2B5, 1, 0x27B), (0x2B6, 1, 0x281), (0x2B7, 1, 0x77),
   (0x2B8, 1, 0x79), (0x2E0, 1, 0x263), (0x2E1, 1, 0x6C), (0x2E2, 1, 0x73), (0x2E3, 1, 0x78),
   (0x2E4, 1, 0x295), (0x340, 2, 0x300), (0x343, 1, 0x313), (0x374, 1, 0x2B9), (0x37E, 1, 0x3B),
   (0x387, 1, 0xB7), (0x3D0, 1, 0x3B2), (0x3D1, 1, 0x3B8), (0x3D2, 1, 0x3A5), (0x3D5, 1, 0x3C6),
   (0x3D6, 1, 0x3C0), (0x3F0, 1, 0x3BA), (0x3F1, 2, 0x3C1), (0x3F4, 1, 0x398), (0x3F5, 1, 0x3B5),
   (0x3F9, 1, 0x3A3), (0xF0C, 1, 0xF0B), (0x10FC, 1, 0x10DC), (0x1D2C, 1, 0x41), (0x1D2D, 1, 0xC6),
   (0x1D2E, 1, 0x42), (0x1D30, 2, 0x44), (0x1D32, 1, 0x18E), (0x1D33, 8, 0x47), (0x1D3C, 1, 0x4F),
   (0x1D3D, 1, 0x222), (0x1D3E, 1, 0x50), (0x1D3F, 1, 0x52), (0x1D40, 2, 0x54), (0x1D42, 1, 0x57),
   (0x1D43, 1, 0x61), (0x1D44, 2, 0x250), (0x1D46, 1, 0x1D02), (0x1D47, 1, 0x62), (0x1D48, 2, 0x64),
   (0x1D4A, 1, 0x259), (0x1D4B, 2, 0x25B), (0x1D4D, 1, 0x67), (0x1D4F, 1, 0x6B), (0x1D50, 1, 0x6D),
   (0x1D51, 1, 0x14B), (0x1D52, 1, 0x6F), (0x1D53, 1, 0x254), (0x1D54, 2, 0x1D16),
   (0x1D56, 1, 0x70), (0x1D57, 2, 0x74), (0x1D59, 1, 0x1D1D), (0x1D5A, 1, 0x26F), (0x1D5B, 1, 0x76),
   (0x1D5C, 1, 0x1D25), (0x1D5D, 3, 0x3B2), (0x1D60, 2, 0x3C6), (0x1D62, 1, 0x69),
   (0x1D63, 1, 0x72), (0x1D64, 2, 0x75), (0x1D66, 2, 0x3B2), (0x1D68, 1, 0x3C1), (0x1D69, 2, 0x3C6),
   (0x1D78, 1, 0x43D), (0x1D9B, 1, 0x252), (0x1D9C, 1, 0x63), (0x1D9D, 1, 0x255), (0x1D9E, 1, 0xF0),
   (0x1D9F, 1, 0x25C), (0x1DA0, 1, 0x66), (0x1DA1, 1, 0x25F), (0x1DA2, 1, 0x261),
   (0x1DA3, 1, 0x265), (0x1DA4, 3, 0x268), (0x1DA7, 1, 0x1D7B), (0x1DA8, 1, 0x29D),
   (0x1DA9, 1, 0x26D), (0x1DAA, 1, 0x1D85), (0x1DAB, 1, 0x29F), (0x1DAC, 1, 0x271),
   (0x1DAD, 1, 0x270), (0x1DAE, 4, 0x272), (0x1DB2, 1, 0x278), (0x1DB3, 2, 0x282),
   (0x1DB5, 1, 0x1AB), (0x1DB6, 2, 0x289), (0x1DB8, 1, 0x1D1C), (0x1DB9, 2, 0x28B),
   (0x1DBB, 1, 0x7A), (0x1DBC, 3, 0x290), (0x1DBF, 1, 0x3B8), (0x1FBE, 1, 0x3B9), (0x1FEF, 1, 0x60),
   (0x2000, 1, 0x20), (0x2001, 1, 0x20), (0x2002, 1, 0x20), (0x2003, 1, 0x20), (0x2004, 1, 0x20),
   (0x2005, 1, 0x20), (0x2006, 1, 0x20), (0x2007, 1, 0x20), (0x2008, 1, 0x20), (0x2009, 1, 0x20),
   (0x200A, 1, 0x20), (0x2011, 1, 0x2010), (0x2024, 1, 0x2E), (0x202F, 1, 0x20), (0x205F, 1, 0x20),
   (0x2070, 1, 0x30), (0x2071, 1, 0x69), (0x2074, 6, 0x34), (0x207A, 1, 0x2B), (0x207B, 1, 0x2212),
   (0x207C, 1, 0x3D), (0x207D, 2, 0x28), (0x207F, 1, 0x6E), (0x2080, 10, 0x30), (0x208A, 1, 0x2B),
   (0x208B, 1, 0x2212), (0x208C, 1, 0x3D), (0x208D, 2, 0x28), (0x2090, 1, 0x61), (0x2091, 1, 0x65),
   (0x2092, 1, 0x6F), (0x2093, 1, 0x78), (0x2094, 1, 0x259), (0x2095, 1, 0x68), (0x2096, 4, 0x6B),
   (0x209A, 1, 0x70), (0x209B, 2, 0x73), (0x2102, 1, 0x43), (0x2107, 1, 0x190), (0x210A, 1, 0x67),
   (0x210B, 1, 0x48), (0x210C, 1, 0x48), (0x210D, 1, 0x48), (0x210E, 1, 0x68), (0x210F, 1, 0x127),
   (0x2110, 1, 0x49), (0x2111, 1, 0x49), (0x2112, 1, 0x4C), (0x2113, 1, 0x6C), (0x2115, 1, 0x4E),
   (0x2119, 3, 0x50), (0x211C, 1, 0x52), (0x211D, 1, 0x52), (0x2124, 1, 0x5A), (0x2126, 1, 0x3A9),
   (0x2128, 1, 0x5A), (0x212A, 1, 0x4B), (0x212C, 2, 0x42), (0x212F, 1, 0x65), (0x2130, 2, 0x45),
   (0x2133, 1, 0x4D), (0x2134, 1, 0x6F), (0x2135, 4, 0x5D0), (0x2139, 1, 0x69), (0x213C, 1, 0x3C0),
   (0x213D, 1, 0x3B3), (0x213E, 1, 0x393), (0x213F, 1, 0x3A0), (0x2140, 1, 0x2211),
   (0x2145, 1, 0x44), (0x2146, 2, 0x64), (0x2148, 2, 0x69), (0x2160, 1, 0x49), (0x2164, 1, 0x56),
   (0x2169, 1, 0x58), (0x216C, 1, 0x4C), (0x216D, 2, 0x43), (0x216F, 1, 0x4D), (0x2170, 1, 0x69),
   (0x2174, 1, 0x76), (0x2179, 1, 0x78), (0x217C, 1, 0x6C), (0x217D, 2, 0x63), (0x217F, 1, 0x6D),
   (0x2329, 2, 0x3008), (0x2460, 9, 0x31), (0x24B6, 26, 0x41), (0x24D0, 26, 0x61),
   (0x24EA, 1, 0x30), (0x2C7C, 1, 0x6A), (0x2C7D, 1, 0x56), (0x2D6F, 1, 0x2D61)]

private def singleDecompositions1 : List (Nat × Nat × Nat) :=
  [(0x2E9F, 1, 0x6BCD), (0x2EF3, 1, 0x9F9F), (0x2F00, 1, 0x4E00), (0x2F01, 1, 0x4E28),
   (0x2F02, 1, 0x4E36), (0x2F03, 1, 0x4E3F), (0x2F04, 1, 0x4E59), (0x2F05, 1, 0x4E85),
   (0x2F06, 1, 0x4E8C), (0x2F07, 1, 0x4EA0), (0x2F08, 1, 0x4EBA), (0x2F09, 1, 0x513F),
   (0x2F0A, 1, 0x5165), (0x2F0B, 1, 0x516B), (0x2F0C, 1, 0x5182), (0x2F0D, 1, 0x5196),
   (0x2F0E, 1, 0x51AB), (0x2F0F, 1, 0x51E0), (0x2F10, 1, 0x51F5), (0x2F11, 1, 0x5200),
   (0x2F12, 1, 0x529B), (0x2F13, 1, 0x52F9), (0x2F14, 1, 0x5315), (0x2F15, 1, 0x531A),
   (0x2F16, 1, 0x5338), (0x2F17, 1, 0x5341), (0x2F18, 1, 0x535C), (0x2F19, 1, 0x5369),
   (0x2F1A, 1, 0x5382), (0x2F1B, 1, 0x53B6), (0x2F1C, 1, 0x53C8), (0x2F1D, 1, 0x53E3),
   (0x2F1E, 1, 0x56D7), (0x2F1F, 1, 0x571F), (0x2F20, 1, 0x58EB), (0x2F21, 1, 0x5902),
   (0x2F22, 1, 0x590A), (0x2F23, 1, 0x5915), (0x2F24, 1, 0x5927), (0x2F25, 1, 0x5973),
   (0x2F26, 1, 0x5B50), (0x2F27, 1, 0x5B80), (0x2F28, 1, 0x5BF8), (0x2F29, 1, 0x5C0F),
   (0x2F2A, 1, 0x5C22), (0x2F2B, 1, 0x5C38), (0x2F2C, 1, 0x5C6E), (0x2F2D, 1, 0x5C71),
   (0x2F2E, 1, 0x5DDB), (0x2F2F, 1, 0x5DE5), (0x2F30, 1, 0x5DF1), (0x2F31, 1, 0x5DFE),
   (0x2F32, 1, 0x5E72), (0x2F33, 1, 0x5E7A), (0x2F34, 1, 0x5E7F), (0x2F35, 1, 0x5EF4),
   (0x2F36, 1, 0x5EFE), (0x2F37, 1, 0x5F0B), (0x2F38, 1, 0x5F13), (0x2F39, 1, 0x5F50),
   (0x2F3A, 1, 0x5F61), (0x2F3B, 1, 0x5F73), (0x2F3C, 1, 0x5FC3), (0x2F3D, 1, 0x6208),
   (0x2F3E, 1, 0x6236), (0x2F3F, 1, 0x624B), (0x2F40, 1, 0x652F), (0x2F41, 1, 0x6534),
   (0x2F42, 1, 0x6587), (0x2F43, 1, 0x6597), (0x2F44, 1, 0x65A4), (0x2F45, 1, 0x65B9),
   (0x2F46, 1, 0x65E0), (0x2F47, 1, 0x65E5), (0x2F48, 1, 0x66F0), (0x2F49, 1, 0x6708),
   (0x2F4A, 1, 0x6728), (0x2F4B, 1, 0x6B20), (0x2F4C, 1, 0x6B62), (0x2F4D, 1, 0x6B79),
   (0x2F4E, 1, 0x6BB3), (0x2F4F, 1, 0x6BCB), (0x2F50, 1, 0x6BD4), (0x2F51, 1, 0x6BDB),
   (0x2F52, 1, 0x6C0F), (0x2F53, 1, 0x6C14), (0x2F54, 1, 0x6C34), (0x2F55, 1, 0x706B),
   (0x2F56, 1, 0x722A), (0x2F57, 1, 0x7236), (0x2F58, 1, 0x723B), (0x2F59, 1, 0x723F),
   (0x2F5A, 1, 0x7247), (0x2F5B, 1, 0x7259), (0x2F5C, 1, 0x725B), (0x2F5D, 1, 0x72AC),
   (0x2F5E, 1, 0x7384), (0x2F5F, 1, 0x7389), (0x2F60, 1, 0x74DC), (0x2F61, 1, 0x74E6),
   (0x2F62, 1, 0x7518), (0x2F63, 1, 0x751F), (0x2F64, 1, 0x7528), (0x2F65, 1, 0x7530),
   (0x2F66, 1, 0x758B), (0x2F67, 1, 0x7592), (0x2F68, 1, 0x7676), (0x2F69, 1, 0x767D),
   (0x2F6A, 1, 0x76AE), (0x2F6B, 1, 0x76BF), (0x2F6C, 1, 0x76EE), (0x2F6D, 1, 0x77DB),
   (0x2F6E, 1, 0x77E2), (0x2F6F, 1, 0x77F3), (0x2F70, 1, 0x793A), (0x2F71, 1, 0x79B8),
   (0x2F72, 1, 0x79BE), (0x2F73, 1, 0x7A74), (0x2F74, 1, 0x7ACB), (0x2F75, 1, 0x7AF9),
   (0x2F76, 1, 0x7C73), (0x2F77, 1, 0x7CF8), (0x2F78, 1, 0x7F36), (0x2F79, 1, 0x7F51),
   (0x2F7A, 1, 0x7F8A), (0x2F7B, 1, 0x7FBD), (0x2F7C, 1, 0x8001), (0x2F7D, 1, 0x800C),
   (0x2F7E, 1, 0x8012), (0x2F7F, 1, 0x8033), (0x2F80, 1, 0x807F), (0x2F81, 1, 0x8089),
   (0x2F82, 1, 0x81E3), (0x2F83, 1, 0x81EA), (0x2F84, 1, 0x81F3), (0x2F85, 1, 0x81FC),
   (0x2F86, 1, 0x820C), (0x2F87, 1, 0x821B), (0x2F88, 1, 0x821F), (0x2F89, 1, 0x826E),
   (0x2F8A, 1, 0x8272), (0x2F8B, 1, 0x8278), (0x2F8C, 1, 0x864D), (0x2F8D, 1, 0x866B),
   (0x2F8E, 1, 0x8840), (0x2F8F, 1, 0x884C), (0x2F90, 1, 0x8863), (0x2F91, 1, 0x897E),
   (0x2F92, 1, 0x898B), (0x2F93, 1, 0x89D2), (0x2F94, 1, 0x8A00), (0x2F95, 1, 0x8C37),
   (0x2F96, 1, 0x8C46), (0x2F97, 1, 0x8C55), (0x2F98, 1, 0x8C78), (0x2F99, 1, 0x8C9D),
   (0x2F9A, 1, 0x8D64), (0x2F9B, 1, 0x8D70), (0x2F9C, 1, 0x8DB3), (0x2F9D, 1, 0x8EAB),
   (0x2F9E, 1, 0x8ECA), (0x2F9F, 1, 0x8F9B), (0x2FA0, 1, 0x8FB0), (0x2FA1, 1, 0x8FB5),
   (0x2FA2, 1, 0x9091), (0x2FA3, 1, 0x9149), (0x2FA4, 1, 0x91C6), (0x2FA5, 1, 0x91CC),
   (0x2FA6, 1, 0x91D1), (0x2FA7, 1, 0x9577), (0x2FA8, 1, 0x9580), (0x2FA9, 1, 0x961C),
   (0x2FAA, 1, 0x96B6), (0x2FAB, 1, 0x96B9), (0x2FAC, 1, 0x96E8), (0x2FAD, 1, 0x9751),
   (0x2FAE, 1, 0x975E), (0x2FAF, 1, 0x9762), (0x2FB0, 1, 0x9769), (0x2FB1, 1, 0x97CB),
   (0x2FB2, 1, 0x97ED), (0x2FB3, 1, 0x97F3), (0x2FB4, 1, 0x9801), (0x2FB5, 1, 0x98A8),
   (0x2FB6, 1, 0x98DB), (0x2FB7, 1, 0x98DF), (0x2FB8, 1, 0x9996), (0x2FB9, 1, 0x9999),
   (0x2FBA, 1, 0x99AC), (0x2FBB, 1, 0x9AA8), (0x2FBC, 1, 0x9AD8), (0x2FBD, 1, 0x9ADF),
   (0x2FBE, 1, 0x9B25), (0x2FBF, 1, 0x9B2F), (0x2FC0, 1, 0x9B32), (0x2FC1, 1, 0x9B3C),
   (0x2FC2, 1, 0x9B5A), (0x2FC3, 1, 0x9CE5), (0x2FC4, 1, 0x9E75), (0x2FC5, 1, 0x9E7F)]

private def singleDecompositions2 : List (Nat × Nat × Nat) :=
  [(0x2FC6, 1, 0x9EA5), (0x2FC7, 1, 0x9EBB), (0x2FC8, 1, 0x9EC3), (0x2FC9, 1, 0x9ECD),
   (0x2FCA, 1, 0x9ED1), (0x2FCB, 1, 0x9EF9), (0x2FCC, 1, 0x9EFD), (0x2FCD, 1, 0x9F0E),
   (0x2FCE, 1, 0x9F13), (0x2FCF, 1, 0x9F20), (0x2FD0, 1, 0x9F3B), (0x2FD1, 1, 0x9F4A),
   (0x2FD2, 1, 0x9F52), (0x2FD3, 1, 0x9F8D), (0x2FD4, 1, 0x9F9C), (0x2FD5, 1, 0x9FA0),
   (0x3000, 1, 0x20), (0x3036, 1, 0x3012), (0x3038, 1, 0x5341), (0x3039, 2, 0x5344),
   (0x3131, 2, 0x1100), (0x3133, 1, 0x11AA), (0x3134, 1, 0x1102), (0x3135, 2, 0x11AC),
   (0x3137, 3, 0x1103), (0x313A, 6, 0x11B0), (0x3140, 1, 0x111A), (0x3141, 3, 0x1106),
   (0x3144, 1, 0x1121), (0x3145, 10, 0x1109), (0x314F, 21, 0x1161), (0x3164, 1, 0x1160),
   (0x3165, 2, 0x1114), (0x3167, 2, 0x11C7), (0x3169, 1, 0x11CC), (0x316A, 1, 0x11CE),
   (0x316B, 1, 0x11D3), (0x316C, 1, 0x11D7), (0x316D, 1, 0x11D9), (0x316E, 1, 0x111C),
   (0x316F, 1, 0x11DD), (0x3170, 1, 0x11DF), (0x3171, 2, 0x111D), (0x3173, 1, 0x1120),
   (0x3174, 2, 0x1122), (0x3176, 1, 0x1127), (0x3177, 1, 0x1129), (0x3178, 5, 0x112B),
   (0x317D, 1, 0x1132), (0x317E, 1, 0x1136), (0x317F, 1, 0x1140), (0x3180, 1, 0x1147),
   (0x3181, 1, 0x114C), (0x3182, 2, 0x11F1), (0x3184, 3, 0x1157), (0x3187, 2, 0x1184),
   (0x3189, 1, 0x1188), (0x318A, 2, 0x1191), (0x318C, 1, 0x1194), (0x318D, 1, 0x119E),
   (0x318E, 1, 0x11A1), (0x3192, 1, 0x4E00), (0x3193, 1, 0x4E8C), (0x3194, 1, 0x4E09),
   (0x3195, 1, 0x56DB), (0x3196, 1, 0x4E0A), (0x3197, 1, 0x4E2D), (0x3198, 1, 0x4E0B),
   (0x3199, 1, 0x7532), (0x319A, 1, 0x4E59), (0x319B, 1, 0x4E19), (0x319C, 1, 0x4E01),
   (0x319D, 1, 0x5929), (0x319E, 1, 0x5730), (0x319F, 1, 0x4EBA), (0x3244, 1, 0x554F),
   (0x3245, 1, 0x5E7C), (0x3246, 1, 0x6587), (0x3247, 1, 0x7B8F), (0x3260, 1, 0x1100),
   (0x3261, 2, 0x1102), (0x3263, 3, 0x1105), (0x3266, 1, 0x1109), (0x3267, 2, 0x110B),
   (0x3269, 5, 0x110E), (0x3280, 1, 0x4E00), (0x3281, 1, 0x4E8C), (0x3282, 1, 0x4E09),
   (0x3283, 1, 0x56DB), (0x3284, 1, 0x4E94), (0x3285, 1, 0x516D), (0x3286, 1, 0x4E03),
   (0x3287, 1, 0x516B), (0x3288, 1, 0x4E5D), (0x3289, 1, 0x5341), (0x328A, 1, 0x6708),
   (0x328B, 1, 0x706B), (0x328C, 1, 0x6C34), (0x328D, 1, 0x6728), (0x328E, 1, 0x91D1),
   (0x328F, 1, 0x571F), (0x3290, 1, 0x65E5), (0x3291, 1, 0x682A), (0x3292, 1, 0x6709),
   (0x3293, 1, 0x793E), (0x3294, 1, 0x540D), (0x3295, 1, 0x7279), (0x3296, 1, 0x8CA1),
   (0x3297, 1, 0x795D), (0x3298, 1, 0x52B4), (0x3299, 1, 0x79D8), (0x329A, 1, 0x7537),
   (0x329B, 1, 0x5973), (0x329C, 1, 0x9069), (0x329D, 1, 0x512A), (0x329E, 1, 0x5370),
   (0x329F, 1, 0x6CE8), (0x32A0, 1, 0x9805), (0x32A1, 1, 0x4F11), (0x32A2, 1, 0x5199),
   (0x32A3, 1, 0x6B63), (0x32A4, 1, 0x4E0A), (0x32A5, 1, 0x4E2D), (0x32A6, 1, 0x4E0B),
   (0x32A7, 1, 0x5DE6), (0x32A8, 1, 0x53F3), (0x32A9, 1, 0x533B), (0x32AA, 1, 0x5B97),
   (0x32AB, 1, 0x5B66), (0x32AC, 1, 0x76E3), (0x32AD, 1, 0x4F01), (0x32AE, 1, 0x8CC7),
   (0x32AF, 1, 0x5354), (0x32B0, 1, 0x591C), (0x32D0, 1, 0x30A2), (0x32D1, 1, 0x30A4),
   (0x32D2, 1, 0x30A6), (0x32D3, 1, 0x30A8), (0x32D4, 2, 0x30AA), (0x32D6, 1, 0x30AD),
   (0x32D7, 1, 0x30AF), (0x32D8, 1, 0x30B1), (0x32D9, 1, 0x30B3), (0x32DA, 1, 0x30B5),
   (0x32DB, 1, 0x30B7), (0x32DC, 1, 0x30B9), (0x32DD, 1, 0x30BB), (0x32DE, 1, 0x30BD),
   (0x32DF, 1, 0x30BF), (0x32E0, 1, 0x30C1), (0x32E1, 1, 0x30C4), (0x32E2, 1, 0x30C6),
   (0x32E3, 1, 0x30C8), (0x32E4, 6, 0x30CA), (0x32EA, 1, 0x30D2), (0x32EB, 1, 0x30D5),
   (0x32EC, 1, 0x30D8), (0x32ED, 1, 0x30DB), (0x32EE, 5, 0x30DE), (0x32F3, 1, 0x30E4),
   (0x32F4, 1, 0x30E6), (0x32F5, 6, 0x30E8), (0x32FB, 4, 0x30EF), (0xA69C, 1, 0x44A),
   (0xA69D, 1, 0x44C), (0xA770, 1, 0xA76F), (0xA7F1, 1, 0x53), (0xA7F2, 1, 0x43), (0xA7F3, 1, 0x46),
   (0xA7F4, 1, 0x51), (0xA7F8, 1, 0x126), (0xA7F9, 1, 0x153), (0xAB5C, 1, 0xA727),
   (0xAB5D, 1, 0xAB37), (0xAB5E, 1, 0x26B), (0xAB5F, 1, 0xAB52), (0xAB69, 1, 0x28D),
   (0xF900, 1, 0x8C48), (0xF901, 1, 0x66F4), (0xF902, 1, 0x8ECA), (0xF903, 1, 0x8CC8),
   (0xF904, 1, 0x6ED1), (0xF905, 1, 0x4E32), (0xF906, 1, 0x53E5), (0xF907, 1, 0x9F9C),
   (0xF908, 1, 0x9F9C), (0xF909, 1, 0x5951), (0xF90A, 1, 0x91D1), (0xF90B, 1, 0x5587),
   (0xF90C, 1, 0x5948), (0xF90D, 1, 0x61F6), (0xF90E, 1, 0x7669), (0xF90F, 1, 0x7F85),
   (0xF910, 1, 0x863F), (0xF911, 1, 0x87BA), (0xF912, 1, 0x88F8), (0xF913, 1, 0x908F),
   (0xF914, 1, 0x6A02), (0xF915, 1, 0x6D1B), (0xF916, 1, 0x70D9)]

private def singleDecompositions3 : List (Nat × Nat × Nat) :=
  [(0xF917, 1, 0x73DE), (0xF918, 1, 0x843D), (0xF919, 1, 0x916A), (0xF91A, 1, 0x99F1),
   (0xF91B, 1, 0x4E82), (0xF91C, 1, 0x5375), (0xF91D, 1, 0x6B04), (0xF91E, 1, 0x721B),
   (0xF91F, 1, 0x862D), (0xF920, 1, 0x9E1E), (0xF921, 1, 0x5D50), (0xF922, 1, 0x6FEB),
   (0xF923, 1, 0x85CD), (0xF924, 1, 0x8964), (0xF925, 1, 0x62C9), (0xF926, 1, 0x81D8),
   (0xF927, 1, 0x881F), (0xF928, 1, 0x5ECA), (0xF929, 1, 0x6717), (0xF92A, 1, 0x6D6A),
   (0xF92B, 1, 0x72FC), (0xF92C, 1, 0x90CE), (0xF92D, 1, 0x4F86), (0xF92E, 1, 0x51B7),
   (0xF92F, 1, 0x52DE), (0xF930, 1, 0x64C4), (0xF931, 1, 0x6AD3), (0xF932, 1, 0x7210),
   (0xF933, 1, 0x76E7), (0xF934, 1, 0x8001), (0xF935, 1, 0x8606), (0xF936, 1, 0x865C),
   (0xF937, 1, 0x8DEF), (0xF938, 1, 0x9732), (0xF939, 1, 0x9B6F), (0xF93A, 1, 0x9DFA),
   (0xF93B, 1, 0x788C), (0xF93C, 1, 0x797F), (0xF93D, 1, 0x7DA0), (0xF93E, 1, 0x83C9),
   (0xF93F, 1, 0x9304), (0xF940, 1, 0x9E7F), (0xF941, 1, 0x8AD6), (0xF942, 1, 0x58DF),
   (0xF943, 1, 0x5F04), (0xF944, 1, 0x7C60), (0xF945, 1, 0x807E), (0xF946, 1, 0x7262),
   (0xF947, 1, 0x78CA), (0xF948, 1, 0x8CC2), (0xF949, 1, 0x96F7), (0xF94A, 1, 0x58D8),
   (0xF94B, 1, 0x5C62), (0xF94C, 1, 0x6A13), (0xF94D, 1, 0x6DDA), (0xF94E, 1, 0x6F0F),
   (0xF94F, 1, 0x7D2F), (0xF950, 1, 0x7E37), (0xF951, 1, 0x964B), (0xF952, 1, 0x52D2),
   (0xF953, 1, 0x808B), (0xF954, 1, 0x51DC), (0xF955, 1, 0x51CC), (0xF956, 1, 0x7A1C),
   (0xF957, 1, 0x7DBE), (0xF958, 1, 0x83F1), (0xF959, 1, 0x9675), (0xF95A, 1, 0x8B80),
   (0xF95B, 1, 0x62CF), (0xF95C, 1, 0x6A02), (0xF95D, 1, 0x8AFE), (0xF95E, 1, 0x4E39),
   (0xF95F, 1, 0x5BE7), (0xF960, 1, 0x6012), (0xF961, 1, 0x7387), (0xF962, 1, 0x7570),
   (0xF963, 1, 0x5317), (0xF964, 1, 0x78FB), (0xF965, 1, 0x4FBF), (0xF966, 1, 0x5FA9),
   (0xF967, 1, 0x4E0D), (0xF968, 1, 0x6CCC), (0xF969, 1, 0x6578), (0xF96A, 1, 0x7D22),
   (0xF96B, 1, 0x53C3), (0xF96C, 1, 0x585E), (0xF96D, 1, 0x7701), (0xF96E, 1, 0x8449),
   (0xF96F, 1, 0x8AAA), (0xF970, 1, 0x6BBA), (0xF971, 1, 0x8FB0), (0xF972, 1, 0x6C88),
   (0xF973, 1, 0x62FE), (0xF974, 1, 0x82E5), (0xF975, 1, 0x63A0), (0xF976, 1, 0x7565),
   (0xF977, 1, 0x4EAE), (0xF978, 1, 0x5169), (0xF979, 1, 0x51C9), (0xF97A, 1, 0x6881),
   (0xF97B, 1, 0x7CE7), (0xF97C, 1, 0x826F), (0xF97D, 1, 0x8AD2), (0xF97E, 1, 0x91CF),
   (0xF97F, 1, 0x52F5), (0xF980, 1, 0x5442), (0xF981, 1, 0x5973), (0xF982, 1, 0x5EEC),
   (0xF983, 1, 0x65C5), (0xF984, 1, 0x6FFE), (0xF985, 1, 0x792A), (0xF986, 1, 0x95AD),
   (0xF987, 1, 0x9A6A), (0xF988, 1, 0x9E97), (0xF989, 1, 0x9ECE), (0xF98A, 1, 0x529B),
   (0xF98B, 1, 0x66C6), (0xF98C, 1, 0x6B77), (0xF98D, 1, 0x8F62), (0xF98E, 1, 0x5E74),
   (0xF98F, 1, 0x6190), (0xF990, 1, 0x6200), (0xF991, 1, 0x649A), (0xF992, 1, 0x6F23),
   (0xF993, 1, 0x7149), (0xF994, 1, 0x7489), (0xF995, 1, 0x79CA), (0xF996, 1, 0x7DF4),
   (0xF997, 1, 0x806F), (0xF998, 1, 0x8F26), (0xF999, 1, 0x84EE), (0xF99A, 1, 0x9023),
   (0xF99B, 1, 0x934A), (0xF99C, 1, 0x5217), (0xF99D, 1, 0x52A3), (0xF99E, 1, 0x54BD),
   (0xF99F, 1, 0x70C8), (0xF9A0, 1, 0x88C2), (0xF9A1, 1, 0x8AAA), (0xF9A2, 1, 0x5EC9),
   (0xF9A3, 1, 0x5FF5), (0xF9A4, 1, 0x637B), (0xF9A5, 1, 0x6BAE), (0xF9A6, 1, 0x7C3E),
   (0xF9A7, 1, 0x7375), (0xF9A8, 1, 0x4EE4), (0xF9A9, 1, 0x56F9), (0xF9AA, 1, 0x5BE7),
   (0xF9AB, 1, 0x5DBA), (0xF9AC, 1, 0x601C), (0xF9AD, 1, 0x73B2), (0xF9AE, 1, 0x7469),
   (0xF9AF, 1, 0x7F9A), (0xF9B0, 1, 0x8046), (0xF9B1, 1, 0x9234), (0xF9B2, 1, 0x96F6),
   (0xF9B3, 1, 0x9748), (0xF9B4, 1, 0x9818), (0xF9B5, 1, 0x4F8B), (0xF9B6, 1, 0x79AE),
   (0xF9B7, 1, 0x91B4), (0xF9B8, 1, 0x96B8), (0xF9B9, 1, 0x60E1), (0xF9BA, 1, 0x4E86),
   (0xF9BB, 1, 0x50DA), (0xF9BC, 1, 0x5BEE), (0xF9BD, 1, 0x5C3F), (0xF9BE, 1, 0x6599),
   (0xF9BF, 1, 0x6A02), (0xF9C0, 1, 0x71CE), (0xF9C1, 1, 0x7642), (0xF9C2, 1, 0x84FC),
   (0xF9C3, 1, 0x907C), (0xF9C4, 1, 0x9F8D), (0xF9C5, 1, 0x6688), (0xF9C6, 1, 0x962E),
   (0xF9C7, 1, 0x5289), (0xF9C8, 1, 0x677B), (0xF9C9, 1, 0x67F3), (0xF9CA, 1, 0x6D41),
   (0xF9CB, 1, 0x6E9C), (0xF9CC, 1, 0x7409), (0xF9CD, 1, 0x7559), (0xF9CE, 1, 0x786B),
   (0xF9CF, 1, 0x7D10), (0xF9D0, 1, 0x985E), (0xF9D1, 1, 0x516D), (0xF9D2, 1, 0x622E),
   (0xF9D3, 1, 0x9678), (0xF9D4, 1, 0x502B), (0xF9D5, 1, 0x5D19), (0xF9D6, 1, 0x6DEA),
   (0xF9D7, 1, 0x8F2A), (0xF9D8, 1, 0x5F8B), (0xF9D9, 1, 0x6144), (0xF9DA, 1, 0x6817),
   (0xF9DB, 1, 0x7387), (0xF9DC, 1, 0x9686), (0xF9DD, 1, 0x5229), (0xF9DE, 1, 0x540F)]

private def singleDecompositions4 : List (Nat × Nat × Nat) :=
  [(0xF9DF, 1, 0x5C65), (0xF9E0, 1, 0x6613), (0xF9E1, 1, 0x674E), (0xF9E2, 1, 0x68A8),
   (0xF9E3, 1, 0x6CE5), (0xF9E4, 1, 0x7406), (0xF9E5, 1, 0x75E2), (0xF9E6, 1, 0x7F79),
   (0xF9E7, 1, 0x88CF), (0xF9E8, 1, 0x88E1), (0xF9E9, 1, 0x91CC), (0xF9EA, 1, 0x96E2),
   (0xF9EB, 1, 0x533F), (0xF9EC, 1, 0x6EBA), (0xF9ED, 1, 0x541D), (0xF9EE, 1, 0x71D0),
   (0xF9EF, 1, 0x7498), (0xF9F0, 1, 0x85FA), (0xF9F1, 1, 0x96A3), (0xF9F2, 1, 0x9C57),
   (0xF9F3, 1, 0x9E9F), (0xF9F4, 1, 0x6797), (0xF9F5, 1, 0x6DCB), (0xF9F6, 1, 0x81E8),
   (0xF9F7, 1, 0x7ACB), (0xF9F8, 1, 0x7B20), (0xF9F9, 1, 0x7C92), (0xF9FA, 1, 0x72C0),
   (0xF9FB, 1, 0x7099), (0xF9FC, 1, 0x8B58), (0xF9FD, 1, 0x4EC0), (0xF9FE, 1, 0x8336),
   (0xF9FF, 1, 0x523A), (0xFA00, 1, 0x5207), (0xFA01, 1, 0x5EA6), (0xFA02, 1, 0x62D3),
   (0xFA03, 1, 0x7CD6), (0xFA04, 1, 0x5B85), (0xFA05, 1, 0x6D1E), (0xFA06, 1, 0x66B4),
   (0xFA07, 1, 0x8F3B), (0xFA08, 1, 0x884C), (0xFA09, 1, 0x964D), (0xFA0A, 1, 0x898B),
   (0xFA0B, 1, 0x5ED3), (0xFA0C, 1, 0x5140), (0xFA0D, 1, 0x55C0), (0xFA10, 1, 0x585A),
   (0xFA12, 1, 0x6674), (0xFA15, 1, 0x51DE), (0xFA16, 1, 0x732A), (0xFA17, 1, 0x76CA),
   (0xFA18, 1, 0x793C), (0xFA19, 1, 0x795E), (0xFA1A, 1, 0x7965), (0xFA1B, 1, 0x798F),
   (0xFA1C, 1, 0x9756), (0xFA1D, 1, 0x7CBE), (0xFA1E, 1, 0x7FBD), (0xFA20, 1, 0x8612),
   (0xFA22, 1, 0x8AF8), (0xFA25, 1, 0x9038), (0xFA26, 1, 0x90FD), (0xFA2A, 1, 0x98EF),
   (0xFA2B, 1, 0x98FC), (0xFA2C, 1, 0x9928), (0xFA2D, 1, 0x9DB4), (0xFA2E, 1, 0x90DE),
   (0xFA2F, 1, 0x96B7), (0xFA30, 1, 0x4FAE), (0xFA31, 1, 0x50E7), (0xFA32, 1, 0x514D),
   (0xFA33, 1, 0x52C9), (0xFA34, 1, 0x52E4), (0xFA35, 1, 0x5351), (0xFA36, 1, 0x559D),
   (0xFA37, 1, 0x5606), (0xFA38, 1, 0x5668), (0xFA39, 1, 0x5840), (0xFA3A, 1, 0x58A8),
   (0xFA3B, 1, 0x5C64), (0xFA3C, 1, 0x5C6E), (0xFA3D, 1, 0x6094), (0xFA3E, 1, 0x6168),
   (0xFA3F, 1, 0x618E), (0xFA40, 1, 0x61F2), (0xFA41, 1, 0x654F), (0xFA42, 1, 0x65E2),
   (0xFA43, 1, 0x6691), (0xFA44, 1, 0x6885), (0xFA45, 1, 0x6D77), (0xFA46, 1, 0x6E1A),
   (0xFA47, 1, 0x6F22), (0xFA48, 1, 0x716E), (0xFA49, 1, 0x722B), (0xFA4A, 1, 0x7422),
   (0xFA4B, 1, 0x7891), (0xFA4C, 1, 0x793E), (0xFA4D, 1, 0x7949), (0xFA4E, 1, 0x7948),
   (0xFA4F, 1, 0x7950), (0xFA50, 1, 0x7956), (0xFA51, 1, 0x795D), (0xFA52, 2, 0x798D),
   (0xFA54, 1, 0x7A40), (0xFA55, 1, 0x7A81), (0xFA56, 1, 0x7BC0), (0xFA57, 1, 0x7DF4),
   (0xFA58, 1, 0x7E09), (0xFA59, 1, 0x7E41), (0xFA5A, 1, 0x7F72), (0xFA5B, 1, 0x8005),
   (0xFA5C, 1, 0x81ED), (0xFA5D, 1, 0x8279), (0xFA5E, 1, 0x8279), (0xFA5F, 1, 0x8457),
   (0xFA60, 1, 0x8910), (0xFA61, 1, 0x8996), (0xFA62, 1, 0x8B01), (0xFA63, 1, 0x8B39),
   (0xFA64, 1, 0x8CD3), (0xFA65, 1, 0x8D08), (0xFA66, 1, 0x8FB6), (0xFA67, 1, 0x9038),
   (0xFA68, 1, 0x96E3), (0xFA69, 1, 0x97FF), (0xFA6A, 1, 0x983B), (0xFA6B, 1, 0x6075),
   (0xFA6C, 1, 0x242EE), (0xFA6D, 1, 0x8218), (0xFA70, 1, 0x4E26), (0xFA71, 1, 0x51B5),
   (0xFA72, 1, 0x5168), (0xFA73, 1, 0x4F80), (0xFA74, 1, 0x5145), (0xFA75, 1, 0x5180),
   (0xFA76, 1, 0x52C7), (0xFA77, 1, 0x52FA), (0xFA78, 1, 0x559D), (0xFA79, 1, 0x5555),
   (0xFA7A, 1, 0x5599), (0xFA7B, 1, 0x55E2), (0xFA7C, 1, 0x585A), (0xFA7D, 1, 0x58B3),
   (0xFA7E, 1, 0x5944), (0xFA7F, 1, 0x5954), (0xFA80, 1, 0x5A62), (0xFA81, 1, 0x5B28),
   (0xFA82, 1, 0x5ED2), (0xFA83, 1, 0x5ED9), (0xFA84, 1, 0x5F69), (0xFA85, 1, 0x5FAD),
   (0xFA86, 1, 0x60D8), (0xFA87, 1, 0x614E), (0xFA88, 1, 0x6108), (0xFA89, 1, 0x618E),
   (0xFA8A, 1, 0x6160), (0xFA8B, 1, 0x61F2), (0xFA8C, 1, 0x6234), (0xFA8D, 1, 0x63C4),
   (0xFA8E, 1, 0x641C), (0xFA8F, 1, 0x6452), (0xFA90, 1, 0x6556), (0xFA91, 1, 0x6674),
   (0xFA92, 1, 0x6717), (0xFA93, 1, 0x671B), (0xFA94, 1, 0x6756), (0xFA95, 1, 0x6B79),
   (0xFA96, 1, 0x6BBA), (0xFA97, 1, 0x6D41), (0xFA98, 1, 0x6EDB), (0xFA99, 1, 0x6ECB),
   (0xFA9A, 1, 0x6F22), (0xFA9B, 1, 0x701E), (0xFA9C, 1, 0x716E), (0xFA9D, 1, 0x77A7),
   (0xFA9E, 1, 0x7235), (0xFA9F, 1, 0x72AF), (0xFAA0, 1, 0x732A), (0xFAA1, 1, 0x7471),
   (0xFAA2, 1, 0x7506), (0xFAA3, 1, 0x753B), (0xFAA4, 1, 0x761D), (0xFAA5, 1, 0x761F),
   (0xFAA6, 1, 0x76CA), (0xFAA7, 1, 0x76DB), (0xFAA8, 1, 0x76F4), (0xFAA9, 1, 0x774A),
   (0xFAAA, 1, 0x7740), (0xFAAB, 1, 0x78CC), (0xFAAC, 1, 0x7AB1), (0xFAAD, 1, 0x7BC0),
   (0xFAAE, 1, 0x7C7B), (0xFAAF, 1, 0x7D5B), (0xFAB0, 1, 0x7DF4), (0xFAB1, 1, 0x7F3E),
   (0xFAB2, 1, 0x8005), (0xFAB3, 1, 0x8352), (0xFAB4, 1, 0x83EF), (0xFAB5, 1, 0x8779)]

private def singleDecompositions5 : List (Nat × Nat × Nat) :=
  [(0xFAB6, 1, 0x8941), (0xFAB7, 1, 0x8986), (0xFAB8, 1, 0x8996), (0xFAB9, 1, 0x8ABF),
   (0xFABA, 1, 0x8AF8), (0xFABB, 1, 0x8ACB), (0xFABC, 1, 0x8B01), (0xFABD, 1, 0x8AFE),
   (0xFABE, 1, 0x8AED), (0xFABF, 1, 0x8B39), (0xFAC0, 1, 0x8B8A), (0xFAC1, 1, 0x8D08),
   (0xFAC2, 1, 0x8F38), (0xFAC3, 1, 0x9072), (0xFAC4, 1, 0x9199), (0xFAC5, 1, 0x9276),
   (0xFAC6, 1, 0x967C), (0xFAC7, 1, 0x96E3), (0xFAC8, 1, 0x9756), (0xFAC9, 1, 0x97DB),
   (0xFACA, 1, 0x97FF), (0xFACB, 1, 0x980B), (0xFACC, 1, 0x983B), (0xFACD, 1, 0x9B12),
   (0xFACE, 1, 0x9F9C), (0xFACF, 1, 0x2284A), (0xFAD0, 1, 0x22844), (0xFAD1, 1, 0x233D5),
   (0xFAD2, 1, 0x3B9D), (0xFAD3, 1, 0x4018), (0xFAD4, 1, 0x4039), (0xFAD5, 1, 0x25249),
   (0xFAD6, 1, 0x25CD0), (0xFAD7, 1, 0x27ED3), (0xFAD8, 1, 0x9F43), (0xFAD9, 1, 0x9F8E),
   (0xFB20, 1, 0x5E2), (0xFB21, 1, 0x5D0), (0xFB22, 2, 0x5D3), (0xFB24, 3, 0x5DB),
   (0xFB27, 1, 0x5E8), (0xFB28, 1, 0x5EA), (0xFB29, 1, 0x2B), (0xFB50, 1, 0x671),
   (0xFB51, 1, 0x671), (0xFB52, 1, 0x67B), (0xFB53, 1, 0x67B), (0xFB54, 1, 0x67B),
   (0xFB55, 1, 0x67B), (0xFB56, 1, 0x67E), (0xFB57, 1, 0x67E), (0xFB58, 1, 0x67E),
   (0xFB59, 1, 0x67E), (0xFB5A, 1, 0x680), (0xFB5B, 1, 0x680), (0xFB5C, 1, 0x680),
   (0xFB5D, 1, 0x680), (0xFB5E, 1, 0x67A), (0xFB5F, 1, 0x67A), (0xFB60, 1, 0x67A),
   (0xFB61, 1, 0x67A), (0xFB62, 1, 0x67F), (0xFB63, 1, 0x67F), (0xFB64, 1, 0x67F),
   (0xFB65, 1, 0x67F), (0xFB66, 1, 0x679), (0xFB67, 1, 0x679), (0xFB68, 1, 0x679),
   (0xFB69, 1, 0x679), (0xFB6A, 1, 0x6A4), (0xFB6B, 1, 0x6A4), (0xFB6C, 1, 0x6A4),
   (0xFB6D, 1, 0x6A4), (0xFB6E, 1, 0x6A6), (0xFB6F, 1, 0x6A6), (0xFB70, 1, 0x6A6),
   (0xFB71, 1, 0x6A6), (0xFB72, 1, 0x684), (0xFB73, 1, 0x684), (0xFB74, 1, 0x684),
   (0xFB75, 1, 0x684), (0xFB76, 1, 0x683), (0xFB77, 1, 0x683), (0xFB78, 1, 0x683),
   (0xFB79, 1, 0x683), (0xFB7A, 1, 0x686), (0xFB7B, 1, 0x686), (0xFB7C, 1, 0x686),
   (0xFB7D, 2, 0x686), (0xFB7F, 1, 0x687), (0xFB80, 1, 0x687), (0xFB81, 1, 0x687),
   (0xFB82, 1, 0x68D), (0xFB83, 1, 0x68D), (0xFB84, 1, 0x68C), (0xFB85, 1, 0x68C),
   (0xFB86, 1, 0x68E), (0xFB87, 1, 0x68E), (0xFB88, 1, 0x688), (0xFB89, 1, 0x688),
   (0xFB8A, 1, 0x698), (0xFB8B, 1, 0x698), (0xFB8C, 1, 0x691), (0xFB8D, 1, 0x691),
   (0xFB8E, 1, 0x6A9), (0xFB8F, 1, 0x6A9), (0xFB90, 1, 0x6A9), (0xFB91, 1, 0x6A9),
   (0xFB92, 1, 0x6AF), (0xFB93, 1, 0x6AF), (0xFB94, 1, 0x6AF), (0xFB95, 1, 0x6AF),
   (0xFB96, 1, 0x6B3), (0xFB97, 1, 0x6B3), (0xFB98, 1, 0x6B3), (0xFB99, 1, 0x6B3),
   (0xFB9A, 1, 0x6B1), (0xFB9B, 1, 0x6B1), (0xFB9C, 1, 0x6B1), (0xFB9D, 1, 0x6B1),
   (0xFB9E, 1, 0x6BA), (0xFB9F, 2, 0x6BA), (0xFBA1, 1, 0x6BB), (0xFBA2, 1, 0x6BB),
   (0xFBA3, 1, 0x6BB), (0xFBA6, 1, 0x6C1), (0xFBA7, 1, 0x6C1), (0xFBA8, 1, 0x6C1),
   (0xFBA9, 1, 0x6C1), (0xFBAA, 1, 0x6BE), (0xFBAB, 1, 0x6BE), (0xFBAC, 1, 0x6BE),
   (0xFBAD, 1, 0x6BE), (0xFBAE, 1, 0x6D2), (0xFBAF, 1, 0x6D2), (0xFBD3, 1, 0x6AD),
   (0xFBD4, 1, 0x6AD), (0xFBD5, 1, 0x6AD), (0xFBD6, 1, 0x6AD), (0xFBD7, 1, 0x6C7),
   (0xFBD8, 1, 0x6C7), (0xFBD9, 1, 0x6C6), (0xFBDA, 1, 0x6C6), (0xFBDB, 1, 0x6C8),
   (0xFBDC, 1, 0x6C8), (0xFBDE, 1, 0x6CB), (0xFBDF, 1, 0x6CB), (0xFBE0, 1, 0x6C5),
   (0xFBE1, 1, 0x6C5), (0xFBE2, 1, 0x6C9), (0xFBE3, 1, 0x6C9), (0xFBE4, 1, 0x6D0),
   (0xFBE5, 1, 0x6D0), (0xFBE6, 1, 0x6D0), (0xFBE7, 1, 0x6D0), (0xFBE8, 1, 0x649),
   (0xFBE9, 1, 0x649), (0xFBFC, 1, 0x6CC), (0xFBFD, 1, 0x6CC), (0xFBFE, 1, 0x6CC),
   (0xFBFF, 1, 0x6CC), (0xFE10, 1, 0x2C), (0xFE11, 2, 0x3001), (0xFE13, 2, 0x3A), (0xFE15, 1, 0x21),
   (0xFE16, 1, 0x3F), (0xFE17, 2, 0x3016), (0xFE31, 1, 0x2014), (0xFE32, 1, 0x2013),
   (0xFE33, 1, 0x5F), (0xFE34, 1, 0x5F), (0xFE35, 2, 0x28), (0xFE37, 1, 0x7B), (0xFE38, 1, 0x7D),
   (0xFE39, 2, 0x3014), (0xFE3B, 2, 0x3010), (0xFE3D, 2, 0x300A), (0xFE3F, 2, 0x3008),
   (0xFE41, 4, 0x300C), (0xFE47, 1, 0x5B), (0xFE48, 1, 0x5D), (0xFE4D, 1, 0x5F), (0xFE4E, 1, 0x5F),
   (0xFE4F, 1, 0x5F), (0xFE50, 1, 0x2C), (0xFE51, 1, 0x3001), (0xFE52, 1, 0x2E), (0xFE54, 1, 0x3B),
   (0xFE55, 1, 0x3A), (0xFE56, 1, 0x3F), (0xFE57, 1, 0x21), (0xFE58, 1, 0x2014), (0xFE59, 2, 0x28),
   (0xFE5B, 1, 0x7B), (0xFE5C, 1, 0x7D), (0xFE5D, 2, 0x3014), (0xFE5F, 1, 0x23), (0xFE60, 1, 0x26),
   (0xFE61, 2, 0x2A), (0xFE63, 1, 0x2D)]

private def singleDecompositions6 : List (Nat × Nat × Nat) :=
  [(0xFE64, 1, 0x3C), (0xFE65, 1, 0x3E), (0xFE66, 1, 0x3D), (0xFE68, 1, 0x5C), (0xFE69, 2, 0x24),
   (0xFE6B, 1, 0x40), (0xFE80, 1, 0x621), (0xFE8D, 1, 0x627), (0xFE8E, 2, 0x627),
   (0xFE90, 1, 0x628), (0xFE91, 1, 0x628), (0xFE92, 2, 0x628), (0xFE94, 2, 0x629),
   (0xFE96, 1, 0x62A), (0xFE97, 1, 0x62A), (0xFE98, 2, 0x62A), (0xFE9A, 1, 0x62B),
   (0xFE9B, 1, 0x62B), (0xFE9C, 2, 0x62B), (0xFE9E, 1, 0x62C), (0xFE9F, 1, 0x62C),
   (0xFEA0, 2, 0x62C), (0xFEA2, 1, 0x62D), (0xFEA3, 1, 0x62D), (0xFEA4, 2, 0x62D),
   (0xFEA6, 1, 0x62E), (0xFEA7, 1, 0x62E), (0xFEA8, 2, 0x62E), (0xFEAA, 2, 0x62F),
   (0xFEAC, 2, 0x630), (0xFEAE, 2, 0x631), (0xFEB0, 2, 0x632), (0xFEB2, 1, 0x633),
   (0xFEB3, 1, 0x633), (0xFEB4, 2, 0x633), (0xFEB6, 1, 0x634), (0xFEB7, 1, 0x634),
   (0xFEB8, 2, 0x634), (0xFEBA, 1, 0x635), (0xFEBB, 1, 0x635), (0xFEBC, 2, 0x635),
   (0xFEBE, 1, 0x636), (0xFEBF, 1, 0x636), (0xFEC0, 2, 0x636), (0xFEC2, 1, 0x637),
   (0xFEC3, 1, 0x637), (0xFEC4, 2, 0x637), (0xFEC6, 1, 0x638), (0xFEC7, 1, 0x638),
   (0xFEC8, 2, 0x638), (0xFECA, 1, 0x639), (0xFECB, 1, 0x639), (0xFECC, 2, 0x639),
   (0xFECE, 1, 0x63A), (0xFECF, 1, 0x63A), (0xFED0, 1, 0x63A), (0xFED1, 1, 0x641),
   (0xFED2, 1, 0x641), (0xFED3, 1, 0x641), (0xFED4, 2, 0x641), (0xFED6, 1, 0x642),
   (0xFED7, 1, 0x642), (0xFED8, 2, 0x642), (0xFEDA, 1, 0x643), (0xFEDB, 1, 0x643),
   (0xFEDC, 2, 0x643), (0xFEDE, 1, 0x644), (0xFEDF, 1, 0x644), (0xFEE0, 2, 0x644),
   (0xFEE2, 1, 0x645), (0xFEE3, 1, 0x645), (0xFEE4, 2, 0x645), (0xFEE6, 1, 0x646),
   (0xFEE7, 1, 0x646), (0xFEE8, 2, 0x646), (0xFEEA, 1, 0x647), (0xFEEB, 1, 0x647),
   (0xFEEC, 2, 0x647), (0xFEEE, 2, 0x648), (0xFEF0, 2, 0x649), (0xFEF2, 1, 0x64A),
   (0xFEF3, 1, 0x64A), (0xFEF4, 1, 0x64A), (0xFF01, 94, 0x21), (0xFF5F, 2, 0x2985),
   (0xFF61, 1, 0x3002), (0xFF62, 2, 0x300C), (0xFF64, 1, 0x3001), (0xFF65, 1, 0x30FB),
   (0xFF66, 1, 0x30F2), (0xFF67, 1, 0x30A1), (0xFF68, 1, 0x30A3), (0xFF69, 1, 0x30A5),
   (0xFF6A, 1, 0x30A7), (0xFF6B, 1, 0x30A9), (0xFF6C, 1, 0x30E3), (0xFF6D, 1, 0x30E5),
   (0xFF6E, 1, 0x30E7), (0xFF6F, 1, 0x30C3), (0xFF70, 1, 0x30FC), (0xFF71, 1, 0x30A2),
   (0xFF72, 1, 0x30A4), (0xFF73, 1, 0x30A6), (0xFF74, 1, 0x30A8), (0xFF75, 2, 0x30AA),
   (0xFF77, 1, 0x30AD), (0xFF78, 1, 0x30AF), (0xFF79, 1, 0x30B1), (0xFF7A, 1, 0x30B3),
   (0xFF7B, 1, 0x30B5), (0xFF7C, 1, 0x30B7), (0xFF7D, 1, 0x30B9), (0xFF7E, 1, 0x30BB),
   (0xFF7F, 1, 0x30BD), (0xFF80, 1, 0x30BF), (0xFF81, 1, 0x30C1), (0xFF82, 1, 0x30C4),
   (0xFF83, 1, 0x30C6), (0xFF84, 1, 0x30C8), (0xFF85, 6, 0x30CA), (0xFF8B, 1, 0x30D2),
   (0xFF8C, 1, 0x30D5), (0xFF8D, 1, 0x30D8), (0xFF8E, 1, 0x30DB), (0xFF8F, 5, 0x30DE),
   (0xFF94, 1, 0x30E4), (0xFF95, 1, 0x30E6), (0xFF96, 6, 0x30E8), (0xFF9C, 1, 0x30EF),
   (0xFF9D, 1, 0x30F3), (0xFF9E, 2, 0x3099), (0xFFA0, 1, 0x1160), (0xFFA1, 2, 0x1100),
   (0xFFA3, 1, 0x11AA), (0xFFA4, 1, 0x1102), (0xFFA5, 2, 0x11AC), (0xFFA7, 3, 0x1103),
   (0xFFAA, 6, 0x11B0), (0xFFB0, 1, 0x111A), (0xFFB1, 3, 0x1106), (0xFFB4, 1, 0x1121),
   (0xFFB5, 10, 0x1109), (0xFFC2, 6, 0x1161), (0xFFCA, 6, 0x1167), (0xFFD2, 6, 0x116D),
   (0xFFDA, 3, 0x1173), (0xFFE0, 2, 0xA2), (0xFFE2, 1, 0xAC), (0xFFE4, 1, 0xA6), (0xFFE5, 1, 0xA5),
   (0xFFE6, 1, 0x20A9), (0xFFE8, 1, 0x2502), (0xFFE9, 4, 0x2190), (0xFFED, 1, 0x25A0),
   (0xFFEE, 1, 0x25CB), (0x10781, 2, 0x2D0), (0x10783, 1, 0xE6), (0x10784, 1, 0x299),
   (0x10785, 1, 0x253), (0x10787, 1, 0x2A3), (0x10788, 1, 0xAB66), (0x10789, 1, 0x2A5),
   (0x1078A, 1, 0x2A4), (0x1078B, 2, 0x256), (0x1078D, 1, 0x1D91), (0x1078E, 1, 0x258),
   (0x1078F, 1, 0x25E), (0x10790, 1, 0x2A9), (0x10791, 1, 0x264), (0x10792, 1, 0x262),
   (0x10793, 1, 0x260), (0x10794, 1, 0x29B), (0x10795, 1, 0x127), (0x10796, 1, 0x29C),
   (0x10797, 1, 0x267), (0x10798, 1, 0x284), (0x10799, 2, 0x2AA), (0x1079B, 1, 0x26C),
   (0x1079C, 1, 0x1DF04), (0x1079D, 1, 0xA78E), (0x1079E, 1, 0x26E), (0x1079F, 1, 0x1DF05),
   (0x107A0, 1, 0x28E), (0x107A1, 1, 0x1DF06), (0x107A2, 1, 0xF8), (0x107A3, 2, 0x276),
   (0x107A5, 1, 0x71), (0x107A6, 1, 0x27A), (0x107A7, 1, 0x1DF08), (0x107A8, 2, 0x27D),
   (0x107AA, 1, 0x280), (0x107AB, 1, 0x2A8), (0x107AC, 1, 0x2A6), (0x107AD, 1, 0xAB67),
   (0x107AE, 1, 0x2A7), (0x107AF, 1, 0x288), (0x107B0, 1, 0x2C71), (0x107B2, 1, 0x28F),
   (0x107B3, 2, 0x2A1), (0x107B5, 1, 0x298)]

private def singleDecompositions7 : List (Nat × Nat × Nat) :=
  [(0x107B6, 3, 0x1C0), (0x107B9, 1, 0x1DF0A), (0x107BA, 1, 0x1DF1E), (0x1CCD6, 26, 0x41),
   (0x1CCF0, 10, 0x30), (0x1D400, 26, 0x41), (0x1D41A, 26, 0x61), (0x1D434, 26, 0x41),
   (0x1D44E, 7, 0x61), (0x1D456, 18, 0x69), (0x1D468, 26, 0x41), (0x1D482, 26, 0x61),
   (0x1D49C, 1, 0x41), (0x1D49E, 2, 0x43), (0x1D4A2, 1, 0x47), (0x1D4A5, 2, 0x4A),
   (0x1D4A9, 4, 0x4E), (0x1D4AE, 8, 0x53), (0x1D4B6, 4, 0x61), (0x1D4BB, 1, 0x66),
   (0x1D4BD, 7, 0x68), (0x1D4C5, 11, 0x70), (0x1D4D0, 26, 0x41), (0x1D4EA, 26, 0x61),
   (0x1D504, 2, 0x41), (0x1D507, 4, 0x44), (0x1D50D, 8, 0x4A), (0x1D516, 7, 0x53),
   (0x1D51E, 26, 0x61), (0x1D538, 2, 0x41), (0x1D53B, 4, 0x44), (0x1D540, 5, 0x49),
   (0x1D546, 1, 0x4F), (0x1D54A, 7, 0x53), (0x1D552, 26, 0x61), (0x1D56C, 26, 0x41),
   (0x1D586, 26, 0x61), (0x1D5A0, 26, 0x41), (0x1D5BA, 26, 0x61), (0x1D5D4, 26, 0x41),
   (0x1D5EE, 26, 0x61), (0x1D608, 26, 0x41), (0x1D622, 26, 0x61), (0x1D63C, 26, 0x41),
   (0x1D656, 26, 0x61), (0x1D670, 26, 0x41), (0x1D68A, 26, 0x61), (0x1D6A4, 1, 0x131),
   (0x1D6A5, 1, 0x237), (0x1D6A8, 17, 0x391), (0x1D6B9, 1, 0x398), (0x1D6BA, 7, 0x3A3),
   (0x1D6C1, 1, 0x2207), (0x1D6C2, 25, 0x3B1), (0x1D6DB, 1, 0x2202), (0x1D6DC, 1, 0x3B5),
   (0x1D6DD, 1, 0x3B8), (0x1D6DE, 1, 0x3BA), (0x1D6DF, 1, 0x3C6), (0x1D6E0, 1, 0x3C1),
   (0x1D6E1, 1, 0x3C0), (0x1D6E2, 17, 0x391), (0x1D6F3, 1, 0x398), (0x1D6F4, 7, 0x3A3),
   (0x1D6FB, 1, 0x2207), (0x1D6FC, 25, 0x3B1), (0x1D715, 1, 0x2202), (0x1D716, 1, 0x3B5),
   (0x1D717, 1, 0x3B8), (0x1D718, 1, 0x3BA), (0x1D719, 1, 0x3C6), (0x1D71A, 1, 0x3C1),
   (0x1D71B, 1, 0x3C0), (0x1D71C, 17, 0x391), (0x1D72D, 1, 0x398), (0x1D72E, 7, 0x3A3),
   (0x1D735, 1, 0x2207), (0x1D736, 25, 0x3B1), (0x1D74F, 1, 0x2202), (0x1D750, 1, 0x3B5),
   (0x1D751, 1, 0x3B8), (0x1D752, 1, 0x3BA), (0x1D753, 1, 0x3C6), (0x1D754, 1, 0x3C1),
   (0x1D755, 1, 0x3C0), (0x1D756, 17, 0x391), (0x1D767, 1, 0x398), (0x1D768, 7, 0x3A3),
   (0x1D76F, 1, 0x2207), (0x1D770, 25, 0x3B1), (0x1D789, 1, 0x2202), (0x1D78A, 1, 0x3B5),
   (0x1D78B, 1, 0x3B8), (0x1D78C, 1, 0x3BA), (0x1D78D, 1, 0x3C6), (0x1D78E, 1, 0x3C1),
   (0x1D78F, 1, 0x3C0), (0x1D790, 17, 0x391), (0x1D7A1, 1, 0x398), (0x1D7A2, 7, 0x3A3),
   (0x1D7A9, 1, 0x2207), (0x1D7AA, 25, 0x3B1), (0x1D7C3, 1, 0x2202), (0x1D7C4, 1, 0x3B5),
   (0x1D7C5, 1, 0x3B8), (0x1D7C6, 1, 0x3BA), (0x1D7C7, 1, 0x3C6), (0x1D7C8, 1, 0x3C1),
   (0x1D7C9, 1, 0x3C0), (0x1D7CA, 2, 0x3DC), (0x1D7CE, 10, 0x30), (0x1D7D8, 10, 0x30),
   (0x1D7E2, 10, 0x30), (0x1D7EC, 10, 0x30), (0x1D7F6, 10, 0x30), (0x1E030, 9, 0x430),
   (0x1E039, 3, 0x43A), (0x1E03C, 11, 0x43E), (0x1E047, 1, 0x44B), (0x1E048, 2, 0x44D),
   (0x1E04A, 1, 0xA689), (0x1E04B, 1, 0x4D9), (0x1E04C, 1, 0x456), (0x1E04D, 1, 0x458),
   (0x1E04E, 1, 0x4E9), (0x1E04F, 1, 0x4AF), (0x1E050, 1, 0x4CF), (0x1E051, 9, 0x430),
   (0x1E05A, 2, 0x43A), (0x1E05C, 2, 0x43E), (0x1E05E, 1, 0x441), (0x1E05F, 6, 0x443),
   (0x1E065, 2, 0x44A), (0x1E067, 1, 0x491), (0x1E068, 1, 0x456), (0x1E069, 1, 0x455),
   (0x1E06A, 1, 0x45F), (0x1E06B, 1, 0x4AB), (0x1E06C, 1, 0xA651), (0x1E06D, 1, 0x4B1),
   (0x1EE00, 2, 0x627), (0x1EE02, 1, 0x62C), (0x1EE03, 1, 0x62F), (0x1EE05, 1, 0x648),
   (0x1EE06, 1, 0x632), (0x1EE07, 1, 0x62D), (0x1EE08, 1, 0x637), (0x1EE09, 1, 0x64A),
   (0x1EE0A, 4, 0x643), (0x1EE0E, 1, 0x633), (0x1EE0F, 1, 0x639), (0x1EE10, 1, 0x641),
   (0x1EE11, 1, 0x635), (0x1EE12, 1, 0x642), (0x1EE13, 1, 0x631), (0x1EE14, 1, 0x634),
   (0x1EE15, 2, 0x62A), (0x1EE17, 1, 0x62E), (0x1EE18, 1, 0x630), (0x1EE19, 1, 0x636),
   (0x1EE1A, 1, 0x638), (0x1EE1B, 1, 0x63A), (0x1EE1C, 1, 0x66E), (0x1EE1D, 1, 0x6BA),
   (0x1EE1E, 1, 0x6A1), (0x1EE1F, 1, 0x66F), (0x1EE21, 1, 0x628), (0x1EE22, 1, 0x62C),
   (0x1EE24, 1, 0x647), (0x1EE27, 1, 0x62D), (0x1EE29, 1, 0x64A), (0x1EE2A, 4, 0x643),
   (0x1EE2E, 1, 0x633), (0x1EE2F, 1, 0x639), (0x1EE30, 1, 0x641), (0x1EE31, 1, 0x635),
   (0x1EE32, 1, 0x642), (0x1EE34, 1, 0x634), (0x1EE35, 2, 0x62A), (0x1EE37, 1, 0x62E),
   (0x1EE39, 1, 0x636), (0x1EE3B, 1, 0x63A), (0x1EE42, 1, 0x62C), (0x1EE47, 1, 0x62D),
   (0x1EE49, 1, 0x64A), (0x1EE4B, 1, 0x644), (0x1EE4D, 1, 0x646), (0x1EE4E, 1, 0x633),
   (0x1EE4F, 1, 0x639), (0x1EE51, 1, 0x635), (0x1EE52, 1, 0x642), (0x1EE54, 1, 0x634),
   (0x1EE57, 1, 0x62E), (0x1EE59, 1, 0x636), (0x1EE5B, 1, 0x63A), (0x1EE5D, 1, 0x6BA),
   (0x1EE5F, 1, 0x66F), (0x1EE61, 1, 0x628), (0x1EE62, 1, 0x62C), (0x1EE64, 1, 0x647)]

private def singleDecompositions8 : List (Nat × Nat × Nat) :=
  [(0x1EE67, 1, 0x62D), (0x1EE68, 1, 0x637), (0x1EE69, 1, 0x64A), (0x1EE6A, 1, 0x643),
   (0x1EE6C, 2, 0x645), (0x1EE6E, 1, 0x633), (0x1EE6F, 1, 0x639), (0x1EE70, 1, 0x641),
   (0x1EE71, 1, 0x635), (0x1EE72, 1, 0x642), (0x1EE74, 1, 0x634), (0x1EE75, 2, 0x62A),
   (0x1EE77, 1, 0x62E), (0x1EE79, 1, 0x636), (0x1EE7A, 1, 0x638), (0x1EE7B, 1, 0x63A),
   (0x1EE7C, 1, 0x66E), (0x1EE7E, 1, 0x6A1), (0x1EE80, 2, 0x627), (0x1EE82, 1, 0x62C),
   (0x1EE83, 1, 0x62F), (0x1EE84, 2, 0x647), (0x1EE86, 1, 0x632), (0x1EE87, 1, 0x62D),
   (0x1EE88, 1, 0x637), (0x1EE89, 1, 0x64A), (0x1EE8B, 3, 0x644), (0x1EE8E, 1, 0x633),
   (0x1EE8F, 1, 0x639), (0x1EE90, 1, 0x641), (0x1EE91, 1, 0x635), (0x1EE92, 1, 0x642),
   (0x1EE93, 1, 0x631), (0x1EE94, 1, 0x634), (0x1EE95, 2, 0x62A), (0x1EE97, 1, 0x62E),
   (0x1EE98, 1, 0x630), (0x1EE99, 1, 0x636), (0x1EE9A, 1, 0x638), (0x1EE9B, 1, 0x63A),
   (0x1EEA1, 1, 0x628), (0x1EEA2, 1, 0x62C), (0x1EEA3, 1, 0x62F), (0x1EEA5, 1, 0x648),
   (0x1EEA6, 1, 0x632), (0x1EEA7, 1, 0x62D), (0x1EEA8, 1, 0x637), (0x1EEA9, 1, 0x64A),
   (0x1EEAB, 3, 0x644), (0x1EEAE, 1, 0x633), (0x1EEAF, 1, 0x639), (0x1EEB0, 1, 0x641),
   (0x1EEB1, 1, 0x635), (0x1EEB2, 1, 0x642), (0x1EEB3, 1, 0x631), (0x1EEB4, 1, 0x634),
   (0x1EEB5, 2, 0x62A), (0x1EEB7, 1, 0x62E), (0x1EEB8, 1, 0x630), (0x1EEB9, 1, 0x636),
   (0x1EEBA, 1, 0x638), (0x1EEBB, 1, 0x63A), (0x1F12B, 1, 0x43), (0x1F12C, 1, 0x52),
   (0x1F130, 26, 0x41), (0x1F202, 1, 0x30B5), (0x1F210, 1, 0x624B), (0x1F211, 1, 0x5B57),
   (0x1F212, 1, 0x53CC), (0x1F214, 1, 0x4E8C), (0x1F215, 1, 0x591A), (0x1F216, 1, 0x89E3),
   (0x1F217, 1, 0x5929), (0x1F218, 1, 0x4EA4), (0x1F219, 1, 0x6620), (0x1F21A, 1, 0x7121),
   (0x1F21B, 1, 0x6599), (0x1F21C, 1, 0x524D), (0x1F21D, 1, 0x5F8C), (0x1F21E, 1, 0x518D),
   (0x1F21F, 1, 0x65B0), (0x1F220, 1, 0x521D), (0x1F221, 1, 0x7D42), (0x1F222, 1, 0x751F),
   (0x1F223, 1, 0x8CA9), (0x1F224, 1, 0x58F0), (0x1F225, 1, 0x5439), (0x1F226, 1, 0x6F14),
   (0x1F227, 1, 0x6295), (0x1F228, 1, 0x6355), (0x1F229, 1, 0x4E00), (0x1F22A, 1, 0x4E09),
   (0x1F22B, 1, 0x904A), (0x1F22C, 1, 0x5DE6), (0x1F22D, 1, 0x4E2D), (0x1F22E, 1, 0x53F3),
   (0x1F22F, 1, 0x6307), (0x1F230, 1, 0x8D70), (0x1F231, 1, 0x6253), (0x1F232, 1, 0x7981),
   (0x1F233, 1, 0x7A7A), (0x1F234, 1, 0x5408), (0x1F235, 1, 0x6E80), (0x1F236, 1, 0x6709),
   (0x1F237, 1, 0x6708), (0x1F238, 1, 0x7533), (0x1F239, 1, 0x5272), (0x1F23A, 1, 0x55B6),
   (0x1F23B, 1, 0x914D), (0x1F250, 1, 0x5F97), (0x1F251, 1, 0x53EF), (0x1FBF0, 10, 0x30),
   (0x2F800, 1, 0x4E3D), (0x2F801, 1, 0x4E38), (0x2F802, 1, 0x4E41), (0x2F803, 1, 0x20122),
   (0x2F804, 1, 0x4F60), (0x2F805, 1, 0x4FAE), (0x2F806, 1, 0x4FBB), (0x2F807, 1, 0x5002),
   (0x2F808, 1, 0x507A), (0x2F809, 1, 0x5099), (0x2F80A, 1, 0x50E7), (0x2F80B, 1, 0x50CF),
   (0x2F80C, 1, 0x349E), (0x2F80D, 1, 0x2063A), (0x2F80E, 1, 0x514D), (0x2F80F, 1, 0x5154),
   (0x2F810, 1, 0x5164), (0x2F811, 1, 0x5177), (0x2F812, 1, 0x2051C), (0x2F813, 1, 0x34B9),
   (0x2F814, 1, 0x5167), (0x2F815, 1, 0x518D), (0x2F816, 1, 0x2054B), (0x2F817, 1, 0x5197),
   (0x2F818, 1, 0x51A4), (0x2F819, 1, 0x4ECC), (0x2F81A, 1, 0x51AC), (0x2F81B, 1, 0x51B5),
   (0x2F81C, 1, 0x291DF), (0x2F81D, 1, 0x51F5), (0x2F81E, 1, 0x5203), (0x2F81F, 1, 0x34DF),
   (0x2F820, 1, 0x523B), (0x2F821, 1, 0x5246), (0x2F822, 1, 0x5272), (0x2F823, 1, 0x5277),
   (0x2F824, 1, 0x3515), (0x2F825, 1, 0x52C7), (0x2F826, 1, 0x52C9), (0x2F827, 1, 0x52E4),
   (0x2F828, 1, 0x52FA), (0x2F829, 2, 0x5305), (0x2F82B, 1, 0x5317), (0x2F82C, 1, 0x5349),
   (0x2F82D, 1, 0x5351), (0x2F82E, 1, 0x535A), (0x2F82F, 1, 0x5373), (0x2F830, 1, 0x537D),
   (0x2F831, 1, 0x537F), (0x2F832, 1, 0x537F), (0x2F833, 1, 0x537F), (0x2F834, 1, 0x20A2C),
   (0x2F835, 1, 0x7070), (0x2F836, 1, 0x53CA), (0x2F837, 1, 0x53DF), (0x2F838, 1, 0x20B63),
   (0x2F839, 1, 0x53EB), (0x2F83A, 1, 0x53F1), (0x2F83B, 1, 0x5406), (0x2F83C, 1, 0x549E),
   (0x2F83D, 1, 0x5438), (0x2F83E, 1, 0x5448), (0x2F83F, 1, 0x5468), (0x2F840, 1, 0x54A2),
   (0x2F841, 1, 0x54F6), (0x2F842, 1, 0x5510), (0x2F843, 1, 0x5553), (0x2F844, 1, 0x5563),
   (0x2F845, 1, 0x5584), (0x2F846, 1, 0x5584), (0x2F847, 1, 0x5599), (0x2F848, 1, 0x55AB),
   (0x2F849, 1, 0x55B3), (0x2F84A, 1, 0x55C2), (0x2F84B, 1, 0x5716), (0x2F84C, 1, 0x5606),
   (0x2F84D, 1, 0x5717), (0x2F84E, 1, 0x5651), (0x2F84F, 1, 0x5674), (0x2F850, 1, 0x5207),
   (0x2F851, 1, 0x58EE), (0x2F852, 1, 0x57CE), (0x2F853, 1, 0x57F4), (0x2F854, 1, 0x580D),
   (0x2F855, 1, 0x578B), (0x2F856, 1, 0x5832), (0x2F857, 1, 0x5831), (0x2F858, 1, 0x58AC)]

private def singleDecompositions9 : List (Nat × Nat × Nat) :=
  [(0x2F859, 1, 0x214E4), (0x2F85A, 1, 0x58F2), (0x2F85B, 1, 0x58F7), (0x2F85C, 1, 0x5906),
   (0x2F85D, 1, 0x591A), (0x2F85E, 1, 0x5922), (0x2F85F, 1, 0x5962), (0x2F860, 1, 0x216A8),
   (0x2F861, 1, 0x216EA), (0x2F862, 1, 0x59EC), (0x2F863, 1, 0x5A1B), (0x2F864, 1, 0x5A27),
   (0x2F865, 1, 0x59D8), (0x2F866, 1, 0x5A66), (0x2F867, 1, 0x36EE), (0x2F868, 1, 0x36FC),
   (0x2F869, 1, 0x5B08), (0x2F86A, 1, 0x5B3E), (0x2F86B, 1, 0x5B3E), (0x2F86C, 1, 0x219C8),
   (0x2F86D, 1, 0x5BC3), (0x2F86E, 1, 0x5BD8), (0x2F86F, 1, 0x5BE7), (0x2F870, 1, 0x5BF3),
   (0x2F871, 1, 0x21B18), (0x2F872, 1, 0x5BFF), (0x2F873, 1, 0x5C06), (0x2F874, 1, 0x5F53),
   (0x2F875, 1, 0x5C22), (0x2F876, 1, 0x3781), (0x2F877, 1, 0x5C60), (0x2F878, 1, 0x5C6E),
   (0x2F879, 1, 0x5CC0), (0x2F87A, 1, 0x5C8D), (0x2F87B, 1, 0x21DE4), (0x2F87C, 1, 0x5D43),
   (0x2F87D, 1, 0x21DE6), (0x2F87E, 1, 0x5D6E), (0x2F87F, 1, 0x5D6B), (0x2F880, 1, 0x5D7C),
   (0x2F881, 2, 0x5DE1), (0x2F883, 1, 0x382F), (0x2F884, 1, 0x5DFD), (0x2F885, 1, 0x5E28),
   (0x2F886, 1, 0x5E3D), (0x2F887, 1, 0x5E69), (0x2F888, 1, 0x3862), (0x2F889, 1, 0x22183),
   (0x2F88A, 1, 0x387C), (0x2F88B, 1, 0x5EB0), (0x2F88C, 1, 0x5EB3), (0x2F88D, 1, 0x5EB6),
   (0x2F88E, 1, 0x5ECA), (0x2F88F, 1, 0x2A392), (0x2F890, 1, 0x5EFE), (0x2F891, 1, 0x22331),
   (0x2F892, 1, 0x22331), (0x2F893, 1, 0x8201), (0x2F894, 1, 0x5F22), (0x2F895, 1, 0x5F22),
   (0x2F896, 1, 0x38C7), (0x2F897, 1, 0x232B8), (0x2F898, 1, 0x261DA), (0x2F899, 1, 0x5F62),
   (0x2F89A, 1, 0x5F6B), (0x2F89B, 1, 0x38E3), (0x2F89C, 1, 0x5F9A), (0x2F89D, 1, 0x5FCD),
   (0x2F89E, 1, 0x5FD7), (0x2F89F, 1, 0x5FF9), (0x2F8A0, 1, 0x6081), (0x2F8A1, 1, 0x393A),
   (0x2F8A2, 1, 0x391C), (0x2F8A3, 1, 0x6094), (0x2F8A4, 1, 0x226D4), (0x2F8A5, 1, 0x60C7),
   (0x2F8A6, 1, 0x6148), (0x2F8A7, 1, 0x614C), (0x2F8A8, 1, 0x614E), (0x2F8A9, 1, 0x614C),
   (0x2F8AA, 1, 0x617A), (0x2F8AB, 1, 0x618E), (0x2F8AC, 1, 0x61B2), (0x2F8AD, 1, 0x61A4),
   (0x2F8AE, 1, 0x61AF), (0x2F8AF, 1, 0x61DE), (0x2F8B0, 1, 0x61F2), (0x2F8B1, 1, 0x61F6),
   (0x2F8B2, 1, 0x6210), (0x2F8B3, 1, 0x621B), (0x2F8B4, 1, 0x625D), (0x2F8B5, 1, 0x62B1),
   (0x2F8B6, 1, 0x62D4), (0x2F8B7, 1, 0x6350), (0x2F8B8, 1, 0x22B0C), (0x2F8B9, 1, 0x633D),
   (0x2F8BA, 1, 0x62FC), (0x2F8BB, 1, 0x6368), (0x2F8BC, 1, 0x6383), (0x2F8BD, 1, 0x63E4),
   (0x2F8BE, 1, 0x22BF1), (0x2F8BF, 1, 0x6422), (0x2F8C0, 1, 0x63C5), (0x2F8C1, 1, 0x63A9),
   (0x2F8C2, 1, 0x3A2E), (0x2F8C3, 1, 0x6469), (0x2F8C4, 1, 0x647E), (0x2F8C5, 1, 0x649D),
   (0x2F8C6, 1, 0x6477), (0x2F8C7, 1, 0x3A6C), (0x2F8C8, 1, 0x654F), (0x2F8C9, 1, 0x656C),
   (0x2F8CA, 1, 0x2300A), (0x2F8CB, 1, 0x65E3), (0x2F8CC, 1, 0x66F8), (0x2F8CD, 1, 0x6649),
   (0x2F8CE, 1, 0x3B19), (0x2F8CF, 1, 0x6691), (0x2F8D0, 1, 0x3B08), (0x2F8D1, 1, 0x3AE4),
   (0x2F8D2, 1, 0x5192), (0x2F8D3, 1, 0x5195), (0x2F8D4, 1, 0x6700), (0x2F8D5, 1, 0x669C),
   (0x2F8D6, 1, 0x80AD), (0x2F8D7, 1, 0x43D9), (0x2F8D8, 1, 0x6717), (0x2F8D9, 1, 0x671B),
   (0x2F8DA, 1, 0x6721), (0x2F8DB, 1, 0x675E), (0x2F8DC, 1, 0x6753), (0x2F8DD, 1, 0x233C3),
   (0x2F8DE, 1, 0x3B49), (0x2F8DF, 1, 0x67FA), (0x2F8E0, 1, 0x6785), (0x2F8E1, 1, 0x6852),
   (0x2F8E2, 1, 0x6885), (0x2F8E3, 1, 0x2346D), (0x2F8E4, 1, 0x688E), (0x2F8E5, 1, 0x681F),
   (0x2F8E6, 1, 0x6914), (0x2F8E7, 1, 0x3B9D), (0x2F8E8, 1, 0x6942), (0x2F8E9, 1, 0x69A3),
   (0x2F8EA, 1, 0x69EA), (0x2F8EB, 1, 0x6AA8), (0x2F8EC, 1, 0x236A3), (0x2F8ED, 1, 0x6ADB),
   (0x2F8EE, 1, 0x3C18), (0x2F8EF, 1, 0x6B21), (0x2F8F0, 1, 0x238A7), (0x2F8F1, 1, 0x6B54),
   (0x2F8F2, 1, 0x3C4E), (0x2F8F3, 1, 0x6B72), (0x2F8F4, 1, 0x6B9F), (0x2F8F5, 2, 0x6BBA),
   (0x2F8F7, 1, 0x23A8D), (0x2F8F8, 1, 0x21D0B), (0x2F8F9, 1, 0x23AFA), (0x2F8FA, 1, 0x6C4E),
   (0x2F8FB, 1, 0x23CBC), (0x2F8FC, 1, 0x6CBF), (0x2F8FD, 1, 0x6CCD), (0x2F8FE, 1, 0x6C67),
   (0x2F8FF, 1, 0x6D16), (0x2F900, 1, 0x6D3E), (0x2F901, 1, 0x6D77), (0x2F902, 1, 0x6D41),
   (0x2F903, 1, 0x6D69), (0x2F904, 1, 0x6D78), (0x2F905, 1, 0x6D85), (0x2F906, 1, 0x23D1E),
   (0x2F907, 1, 0x6D34), (0x2F908, 1, 0x6E2F), (0x2F909, 1, 0x6E6E), (0x2F90A, 1, 0x3D33),
   (0x2F90B, 1, 0x6ECB), (0x2F90C, 1, 0x6EC7), (0x2F90D, 1, 0x23ED1), (0x2F90E, 1, 0x6DF9),
   (0x2F90F, 1, 0x6F6E), (0x2F910, 1, 0x23F5E), (0x2F911, 1, 0x23F8E), (0x2F912, 1, 0x6FC6),
   (0x2F913, 1, 0x7039), (0x2F914, 1, 0x701E), (0x2F915, 1, 0x701B), (0x2F916, 1, 0x3D96),
   (0x2F917, 1, 0x704A), (0x2F918, 1, 0x707D), (0x2F919, 1, 0x7077), (0x2F91A, 1, 0x70AD),
   (0x2F91B, 1, 0x20525), (0x2F91C, 1, 0x7145), (0x2F91D, 1, 0x24263), (0x2F91E, 1, 0x719C),
   (0x2F91F, 1, 0x243AB), (0x2F920, 1, 0x7228), (0x2F921, 1, 0x7235), (0x2F922, 1, 0x7250)]

private def singleDecompositions10 : List (Nat × Nat × Nat) :=
  [(0x2F923, 1, 0x24608), (0x2F924, 1, 0x7280), (0x2F925, 1, 0x7295), (0x2F926, 1, 0x24735),
   (0x2F927, 1, 0x24814), (0x2F928, 1, 0x737A), (0x2F929, 1, 0x738B), (0x2F92A, 1, 0x3EAC),
   (0x2F92B, 1, 0x73A5), (0x2F92C, 1, 0x3EB8), (0x2F92D, 1, 0x3EB8), (0x2F92E, 1, 0x7447),
   (0x2F92F, 1, 0x745C), (0x2F930, 1, 0x7471), (0x2F931, 1, 0x7485), (0x2F932, 1, 0x74CA),
   (0x2F933, 1, 0x3F1B), (0x2F934, 1, 0x7524), (0x2F935, 1, 0x24C36), (0x2F936, 1, 0x753E),
   (0x2F937, 1, 0x24C92), (0x2F938, 1, 0x7570), (0x2F939, 1, 0x2219F), (0x2F93A, 1, 0x7610),
   (0x2F93B, 1, 0x24FA1), (0x2F93C, 1, 0x24FB8), (0x2F93D, 1, 0x25044), (0x2F93E, 1, 0x3FFC),
   (0x2F93F, 1, 0x4008), (0x2F940, 1, 0x76F4), (0x2F941, 1, 0x250F3), (0x2F942, 1, 0x250F2),
   (0x2F943, 1, 0x25119), (0x2F944, 1, 0x25133), (0x2F945, 2, 0x771E), (0x2F947, 1, 0x771F),
   (0x2F948, 1, 0x774A), (0x2F949, 1, 0x4039), (0x2F94A, 1, 0x778B), (0x2F94B, 1, 0x4046),
   (0x2F94C, 1, 0x4096), (0x2F94D, 1, 0x2541D), (0x2F94E, 1, 0x784E), (0x2F94F, 1, 0x788C),
   (0x2F950, 1, 0x78CC), (0x2F951, 1, 0x40E3), (0x2F952, 1, 0x25626), (0x2F953, 1, 0x7956),
   (0x2F954, 1, 0x2569A), (0x2F955, 1, 0x256C5), (0x2F956, 1, 0x798F), (0x2F957, 1, 0x79EB),
   (0x2F958, 1, 0x412F), (0x2F959, 1, 0x7A40), (0x2F95A, 1, 0x7A4A), (0x2F95B, 1, 0x7A4F),
   (0x2F95C, 1, 0x2597C), (0x2F95D, 1, 0x25AA7), (0x2F95E, 1, 0x25AA7), (0x2F95F, 1, 0x7AEE),
   (0x2F960, 1, 0x4202), (0x2F961, 1, 0x25BAB), (0x2F962, 1, 0x7BC6), (0x2F963, 1, 0x7BC9),
   (0x2F964, 1, 0x4227), (0x2F965, 1, 0x25C80), (0x2F966, 1, 0x7CD2), (0x2F967, 1, 0x42A0),
   (0x2F968, 1, 0x7CE8), (0x2F969, 1, 0x7CE3), (0x2F96A, 1, 0x7D00), (0x2F96B, 1, 0x25F86),
   (0x2F96C, 1, 0x7D63), (0x2F96D, 1, 0x4301), (0x2F96E, 1, 0x7DC7), (0x2F96F, 1, 0x7E02),
   (0x2F970, 1, 0x7E45), (0x2F971, 1, 0x4334), (0x2F972, 1, 0x26228), (0x2F973, 1, 0x26247),
   (0x2F974, 1, 0x4359), (0x2F975, 1, 0x262D9), (0x2F976, 1, 0x7F7A), (0x2F977, 1, 0x2633E),
   (0x2F978, 1, 0x7F95), (0x2F979, 1, 0x7FFA), (0x2F97A, 1, 0x8005), (0x2F97B, 1, 0x264DA),
   (0x2F97C, 1, 0x26523), (0x2F97D, 1, 0x8060), (0x2F97E, 1, 0x265A8), (0x2F97F, 1, 0x8070),
   (0x2F980, 1, 0x2335F), (0x2F981, 1, 0x43D5), (0x2F982, 1, 0x80B2), (0x2F983, 1, 0x8103),
   (0x2F984, 1, 0x440B), (0x2F985, 1, 0x813E), (0x2F986, 1, 0x5AB5), (0x2F987, 1, 0x267A7),
   (0x2F988, 1, 0x267B5), (0x2F989, 1, 0x23393), (0x2F98A, 1, 0x2339C), (0x2F98B, 1, 0x8201),
   (0x2F98C, 1, 0x8204), (0x2F98D, 1, 0x8F9E), (0x2F98E, 1, 0x446B), (0x2F98F, 1, 0x8291),
   (0x2F990, 1, 0x828B), (0x2F991, 1, 0x829D), (0x2F992, 1, 0x52B3), (0x2F993, 1, 0x82B1),
   (0x2F994, 1, 0x82B3), (0x2F995, 1, 0x82BD), (0x2F996, 1, 0x82E6), (0x2F997, 1, 0x26B3C),
   (0x2F998, 1, 0x82E5), (0x2F999, 1, 0x831D), (0x2F99A, 1, 0x8363), (0x2F99B, 1, 0x83AD),
   (0x2F99C, 1, 0x8323), (0x2F99D, 1, 0x83BD), (0x2F99E, 1, 0x83E7), (0x2F99F, 1, 0x8457),
   (0x2F9A0, 1, 0x8353), (0x2F9A1, 1, 0x83CA), (0x2F9A2, 1, 0x83CC), (0x2F9A3, 1, 0x83DC),
   (0x2F9A4, 1, 0x26C36), (0x2F9A5, 1, 0x26D6B), (0x2F9A6, 1, 0x26CD5), (0x2F9A7, 1, 0x452B),
   (0x2F9A8, 1, 0x84F1), (0x2F9A9, 1, 0x84F3), (0x2F9AA, 1, 0x8516), (0x2F9AB, 1, 0x273CA),
   (0x2F9AC, 1, 0x8564), (0x2F9AD, 1, 0x26F2C), (0x2F9AE, 1, 0x455D), (0x2F9AF, 1, 0x4561),
   (0x2F9B0, 1, 0x26FB1), (0x2F9B1, 1, 0x270D2), (0x2F9B2, 1, 0x456B), (0x2F9B3, 1, 0x8650),
   (0x2F9B4, 1, 0x865C), (0x2F9B5, 1, 0x8667), (0x2F9B6, 1, 0x8669), (0x2F9B7, 1, 0x86A9),
   (0x2F9B8, 1, 0x8688), (0x2F9B9, 1, 0x870E), (0x2F9BA, 1, 0x86E2), (0x2F9BB, 1, 0x8779),
   (0x2F9BC, 1, 0x8728), (0x2F9BD, 1, 0x876B), (0x2F9BE, 1, 0x8786), (0x2F9BF, 1, 0x45D7),
   (0x2F9C0, 1, 0x87E1), (0x2F9C1, 1, 0x8801), (0x2F9C2, 1, 0x45F9), (0x2F9C3, 1, 0x8860),
   (0x2F9C4, 1, 0x8863), (0x2F9C5, 1, 0x27667), (0x2F9C6, 1, 0x88D7), (0x2F9C7, 1, 0x88DE),
   (0x2F9C8, 1, 0x4635), (0x2F9C9, 1, 0x88FA), (0x2F9CA, 1, 0x34BB), (0x2F9CB, 1, 0x278AE),
   (0x2F9CC, 1, 0x27966), (0x2F9CD, 1, 0x46BE), (0x2F9CE, 1, 0x46C7), (0x2F9CF, 1, 0x8AA0),
   (0x2F9D0, 1, 0x8AED), (0x2F9D1, 1, 0x8B8A), (0x2F9D2, 1, 0x8C55), (0x2F9D3, 1, 0x27CA8),
   (0x2F9D4, 1, 0x8CAB), (0x2F9D5, 1, 0x8CC1), (0x2F9D6, 1, 0x8D1B), (0x2F9D7, 1, 0x8D77),
   (0x2F9D8, 1, 0x27F2F), (0x2F9D9, 1, 0x20804), (0x2F9DA, 1, 0x8DCB), (0x2F9DB, 1, 0x8DBC),
   (0x2F9DC, 1, 0x8DF0), (0x2F9DD, 1, 0x208DE), (0x2F9DE, 1, 0x8ED4), (0x2F9DF, 1, 0x8F38),
   (0x2F9E0, 1, 0x285D2), (0x2F9E1, 1, 0x285ED), (0x2F9E2, 1, 0x9094), (0x2F9E3, 1, 0x90F1),
   (0x2F9E4, 1, 0x9111), (0x2F9E5, 1, 0x2872E), (0x2F9E6, 1, 0x911B), (0x2F9E7, 1, 0x9238),
   (0x2F9E8, 2, 0x92D7), (0x2F9EA, 1, 0x927C), (0x2F9EB, 1, 0x93F9), (0x2F9EC, 1, 0x9415)]

private def singleDecompositions11 : List (Nat × Nat × Nat) :=
  [(0x2F9ED, 1, 0x28BFA), (0x2F9EE, 1, 0x958B), (0x2F9EF, 1, 0x4995), (0x2F9F0, 1, 0x95B7),
   (0x2F9F1, 1, 0x28D77), (0x2F9F2, 1, 0x49E6), (0x2F9F3, 1, 0x96C3), (0x2F9F4, 1, 0x5DB2),
   (0x2F9F5, 1, 0x9723), (0x2F9F6, 1, 0x29145), (0x2F9F7, 1, 0x2921A), (0x2F9F8, 1, 0x4A6E),
   (0x2F9F9, 1, 0x4A76), (0x2F9FA, 1, 0x97E0), (0x2F9FB, 1, 0x2940A), (0x2F9FC, 1, 0x4AB2),
   (0x2F9FD, 1, 0x29496), (0x2F9FE, 1, 0x980B), (0x2F9FF, 1, 0x980B), (0x2FA00, 1, 0x9829),
   (0x2FA01, 1, 0x295B6), (0x2FA02, 1, 0x98E2), (0x2FA03, 1, 0x4B33), (0x2FA04, 1, 0x9929),
   (0x2FA05, 1, 0x99A7), (0x2FA06, 1, 0x99C2), (0x2FA07, 1, 0x99FE), (0x2FA08, 1, 0x4BCE),
   (0x2FA09, 1, 0x29B30), (0x2FA0A, 1, 0x9B12), (0x2FA0B, 1, 0x9C40), (0x2FA0C, 1, 0x9CFD),
   (0x2FA0D, 1, 0x4CCE), (0x2FA0E, 1, 0x4CED), (0x2FA0F, 1, 0x9D67), (0x2FA10, 1, 0x2A0CE),
   (0x2FA11, 1, 0x4CF8), (0x2FA12, 1, 0x2A105), (0x2FA13, 1, 0x2A20E), (0x2FA14, 1, 0x2A291),
   (0x2FA15, 1, 0x9EBB), (0x2FA16, 1, 0x4D56), (0x2FA17, 1, 0x9EF9), (0x2FA18, 1, 0x9EFE),
   (0x2FA19, 1, 0x9F05), (0x2FA1A, 1, 0x9F0F), (0x2FA1B, 1, 0x9F16), (0x2FA1C, 1, 0x9F3B),
   (0x2FA1D, 1, 0x2A600)]

/-- The runs, block by block. -/
def singleDecompositions : List (Nat × List (Nat × Nat × Nat)) :=
  [(0x2D6F, singleDecompositions0), (0x2FC5, singleDecompositions1),
   (0xF916, singleDecompositions2), (0xF9DE, singleDecompositions3),
   (0xFAB5, singleDecompositions4), (0xFE63, singleDecompositions5),
   (0x107B5, singleDecompositions6), (0x1EE64, singleDecompositions7),
   (0x2F858, singleDecompositions8), (0x2F922, singleDecompositions9),
   (0x2F9EC, singleDecompositions10), (0x2FA1D, singleDecompositions11)]

end SqlAdapter.Text
