import CallWatch.Text.CodeRanges

/-!
# Code points in domain names

What becomes of the code points beyond ASCII when a domain name is brought into its plain form:
some are refused, some are dropped, some are replaced by other text.  Letters in upper case, for
instance, are replaced by those in lower case, and wide or raised letters by plain ones.
-/

namespace CallWatch.Url

/-- Code points that no domain name may hold. -/
def refusedRanges : CodeRanges := #[
  (0x80, 0x9F), (0x378, 0x379), (0x380, 0x383), (0x38B, 0x38B), (0x38D, 0x38D), (0x3A2, 0x3A2),
  (0x530, 0x530), (0x557, 0x557), (0x590, 0x590), (0x5EB, 0x5EE), (0x5F5, 0x605), (0x61C, 0x61C),
  (0x6DD, 0x6DD), (0x70E, 0x70F), (0x74B, 0x74C), (0x7B2, 0x7BF), (0x7FB, 0x7FC), (0x82E, 0x82F),
  (0x83F, 0x83F), (0x85C, 0x85D), (0x85F, 0x85F), (0x86B, 0x86F), (0x890, 0x896), (0x8E2, 0x8E2),
  (0x984, 0x984), (0x98D, 0x98E), (0x991, 0x992), (0x9A9, 0x9A9), (0x9B1, 0x9B1), (0x9B3, 0x9B5),
  (0x9BA, 0x9BB), (0x9C5, 0x9C6), (0x9C9, 0x9CA), (0x9CF, 0x9D6), (0x9D8, 0x9DB), (0x9DE, 0x9DE),
  (0x9E4, 0x9E5), (0x9FF, 0xA00), (0xA04, 0xA04), (0xA0B, 0xA0E), (0xA11, 0xA12), (0xA29, 0xA29),
  (0xA31, 0xA31), (0xA34, 0xA34), (0xA37, 0xA37), (0xA3A, 0xA3B), (0xA3D, 0xA3D), (0xA43, 0xA46),
  (0xA49, 0xA4A), (0xA4E, 0xA50), (0xA52, 0xA58), (0xA5D, 0xA5D), (0xA5F, 0xA65), (0xA77, 0xA80),
  (0xA84, 0xA84), (0xA8E, 0xA8E), (0xA92, 0xA92), (0xAA9, 0xAA9), (0xAB1, 0xAB1), (0xAB4, 0xAB4),
  (0xABA, 0xABB), (0xAC6, 0xAC6), (0xACA, 0xACA), (0xACE, 0xACF), (0xAD1, 0xADF), (0xAE4, 0xAE5),
  (0xAF2, 0xAF8), (0xB00, 0xB00), (0xB04, 0xB04), (0xB0D, 0xB0E), (0xB11, 0xB12), (0xB29, 0xB29),
  (0xB31, 0xB31), (0xB34, 0xB34), (0xB3A, 0xB3B), (0xB45, 0xB46), (0xB49, 0xB4A), (0xB4E, 0xB54),
  (0xB58, 0xB5B), (0xB5E, 0xB5E), (0xB64, 0xB65), (0xB78, 0xB81), (0xB84, 0xB84), (0xB8B, 0xB8D),
  (0xB91, 0xB91), (0xB96, 0xB98), (0xB9B, 0xB9B), (0xB9D, 0xB9D), (0xBA0, 0xBA2), (0xBA5, 0xBA7),
  (0xBAB, 0xBAD), (0xBBA, 0xBBD), (0xBC3, 0xBC5), (0xBC9, 0xBC9), (0xBCE, 0xBCF), (0xBD1, 0xBD6),
  (0xBD8, 0xBE5), (0xBFB, 0xBFF), (0xC0D, 0xC0D), (0xC11, 0xC11), (0xC29, 0xC29), (0xC3A, 0xC3B),
  (0xC45, 0xC45), (0xC49, 0xC49), (0xC4E, 0xC54), (0xC57, 0xC57), (0xC5B, 0xC5B), (0xC5E, 0xC5F),
  (0xC64, 0xC65), (0xC70, 0xC76), (0xC8D, 0xC8D), (0xC91, 0xC91), (0xCA9, 0xCA9), (0xCB4, 0xCB4),
  (0xCBA, 0xCBB), (0xCC5, 0xCC5), (0xCC9, 0xCC9), (0xCCE, 0xCD4), (0xCD7, 0xCDB), (0xCDF, 0xCDF),
  (0xCE4, 0xCE5), (0xCF0, 0xCF0), (0xCF4, 0xCFF), (0xD0D, 0xD0D), (0xD11, 0xD11), (0xD45, 0xD45),
  (0xD49, 0xD49), (0xD50, 0xD53), (0xD64, 0xD65), (0xD80, 0xD80), (0xD84, 0xD84), (0xD97, 0xD99),
  (0xDB2, 0xDB2), (0xDBC, 0xDBC), (0xDBE, 0xDBF), (0xDC7, 0xDC9), (0xDCB, 0xDCE), (0xDD5, 0xDD5),
  (0xDD7, 0xDD7), (0xDE0, 0xDE5), (0xDF0, 0xDF1), (0xDF5, 0xE00), (0xE3B, 0xE3E), (0xE5C, 0xE80),
  (0xE83, 0xE83), (0xE85, 0xE85), (0xE8B, 0xE8B), (0xEA4, 0xEA4), (0xEA6, 0xEA6), (0xEBE, 0xEBF),
  (0xEC5, 0xEC5), (0xEC7, 0xEC7), (0xECF, 0xECF), (0xEDA, 0xEDB), (0xEE0, 0xEFF), (0xF48, 0xF48),
  (0xF6D, 0xF70), (0xF98, 0xF98), (0xFBD, 0xFBD), (0xFCD, 0xFCD), (0xFDB, 0xFFF), (0x10C6, 0x10C6),
  (0x10C8, 0x10CC), (0x10CE, 0x10CF), (0x1249, 0x1249), (0x124E, 0x124F), (0x1257, 0x1257),
  (0x1259, 0x1259), (0x125E, 0x125F), (0x1289, 0x1289), (0x128E, 0x128F), (0x12B1, 0x12B1),
  (0x12B6, 0x12B7), (0x12BF, 0x12BF), (0x12C1, 0x12C1), (0x12C6, 0x12C7), (0x12D7, 0x12D7),
  (0x1311, 0x1311), (0x1316, 0x1317), (0x135B, 0x135C), (0x137D, 0x137F), (0x139A, 0x139F),
  (0x13F6, 0x13F7), (0x13FE, 0x13FF), (0x1680, 0x1680), (0x169D, 0x169F), (0x16F9, 0x16FF),
  (0x1716, 0x171E), (0x1737, 0x173F), (0x1754, 0x175F), (0x176D, 0x176D), (0x1771, 0x1771),
  (0x1774, 0x177F), (0x17DE, 0x17DF), (0x17EA, 0x17EF), (0x17FA, 0x17FF), (0x181A, 0x181F),
  (0x1879, 0x187F), (0x18AB, 0x18AF), (0x18F6, 0x18FF), (0x191F, 0x191F), (0x192C, 0x192F),
  (0x193C, 0x193F), (0x1941, 0x1943), (0x196E, 0x196F), (0x1975, 0x197F), (0x19AC, 0x19AF),
  (0x19CA, 0x19CF), (0x19DB, 0x19DD), (0x1A1C, 0x1A1D), (0x1A5F, 0x1A5F), (0x1A7D, 0x1A7E),
  (0x1A8A, 0x1A8F), (0x1A9A, 0x1A9F), (0x1AAE, 0x1AAF), (0x1ADE, 0x1ADF), (0x1B4D, 0x1B4D),
  (0x1BF4, 0x1BFB), (0x1C38, 0x1C3A), (0x1C4A, 0x1C4C), (0x1C8B, 0x1C8F), (0x1CBB, 0x1CBC),
  (0x1CC8, 0x1CCF), (0x1CFB, 0x1CFF), (0x1F16, 0x1F17), (0x1F1E, 0x1F1F), (0x1F46, 0x1F47),
  (0x1F4E, 0x1F4F), (0x1F58, 0x1F58), (0x1F5A, 0x1F5A), (0x1F5C, 0x1F5C), (0x1F5E, 0x1F5E),
  (0x1F7E, 0x1F7F), (0x1FB5, 0x1FB5), (0x1FC5, 0x1FC5), (0x1FD4, 0x1FD5), (0x1FDC, 0x1FDC),
  (0x1FF0, 0x1FF1), (0x1FF5, 0x1FF5), (0x1FFF, 0x1FFF), (0x200E, 0x200F), (0x2024, 0x2026),
  (0x2028, 0x202E), (0x2065, 0x2069), (0x2072, 0x2073), (0x208F, 0x208F), (0x209D, 0x209F),
  (0x20F1, 0x20FF), (0x218C, 0x218F), (0x242A, 0x243F), (0x244B, 0x245F), (0x2488, 0x249B),
  (0x2B74, 0x2B75), (0x2CF4, 0x2CF8), (0x2D26, 0x2D26), (0x2D28, 0x2D2C), (0x2D2E, 0x2D2F),
  (0x2D68, 0x2D6E), (0x2D71, 0x2D7E), (0x2D97, 0x2D9F), (0x2DA7, 0x2DA7), (0x2DAF, 0x2DAF),
  (0x2DB7, 0x2DB7), (0x2DBF, 0x2DBF), (0x2DC7, 0x2DC7), (0x2DCF, 0x2DCF), (0x2DD7, 0x2DD7),
  (0x2DDF, 0x2DDF), (0x2E5E, 0x2E7F), (0x2E9A, 0x2E9A), (0x2EF4, 0x2EFF), (0x2FD6, 0x2FFF),
  (0x3040, 0x3040), (0x3097, 0x3098), (0x3100, 0x3104), (0x3130, 0x3130), (0x318F, 0x318F),
  (0x31E6, 0x31EF), (0x321F, 0x321F), (0x33C2, 0x33C2), (0x33C7, 0x33C7), (0x33D8, 0x33D8),
  (0xA48D, 0xA48F), (0xA4C7, 0xA4CF), (0xA62C, 0xA63F), (0xA6F8, 0xA6FF), (0xA82D, 0xA82F),
  (0xA83A, 0xA83F), (0xA878, 0xA87F), (0xA8C6, 0xA8CD), (0xA8DA, 0xA8DF), (0xA954, 0xA95E),
  (0xA97D, 0xA97F), (0xA9CE, 0xA9CE), (0xA9DA, 0xA9DD), (0xA9FF, 0xA9FF), (0xAA37, 0xAA3F),
  (0xAA4E, 0xAA4F), (0xAA5A, 0xAA5B), (0xAAC3, 0xAADA), (0xAAF7, 0xAB00), (0xAB07, 0xAB08),
  (0xAB0F, 0xAB10), (0xAB17, 0xAB1F), (0xAB27, 0xAB27), (0xAB2F, 0xAB2F), (0xABEE, 0xABEF),
  (0xABFA, 0xABFF), (0xD7A4, 0xD7AF), (0xD7C7, 0xD7CA), (0xD7FC, 0xD7FF), (0xE000, 0xF8FF),
  (0xFA6E, 0xFA6F), (0xFADA, 0xFAFF), (0xFB07, 0xFB12), (0xFB18, 0xFB1C), (0xFB37, 0xFB37),
  (0xFB3D, 0xFB3D), (0xFB3F, 0xFB3F), (0xFB42, 0xFB42), (0xFB45, 0xFB45), (0xFDD0, 0xFDEF),
  (0xFE12, 0xFE12), (0xFE19, 0xFE1F), (0xFE30, 0xFE30), (0xFE52, 0xFE53), (0xFE67, 0xFE67),
  (0xFE6C, 0xFE6F), (0xFE75, 0xFE75), (0xFEFD, 0xFEFE), (0xFF00, 0xFF00), (0xFFBF, 0xFFC1),
  (0xFFC8, 0xFFC9), (0xFFD0, 0xFFD1), (0xFFD8, 0xFFD9), (0xFFDD, 0xFFDF), (0xFFE7, 0xFFE7),
  (0xFFEF, 0xFFFF), (0x1000C, 0x1000C), (0x10027, 0x10027), (0x1003B, 0x1003B), (0x1003E, 0x1003E),
  (0x1004E, 0x1004F), (0x1005E, 0x1007F), (0x100FB, 0x100FF), (0x10103, 0x10106),
  (0x10134, 0x10136), (0x1018F, 0x1018F), (0x1019D, 0x1019F), (0x101A1, 0x101CF),
  (0x101FE, 0x1027F), (0x1029D, 0x1029F), (0x102D1, 0x102DF), (0x102FC, 0x102FF),
  (0x10324, 0x1032C), (0x1034B, 0x1034F), (0x1037B, 0x1037F), (0x1039E, 0x1039E),
  (0x103C4, 0x103C7), (0x103D6, 0x103FF), (0x1049E, 0x1049F), (0x104AA, 0x104AF),
  (0x104D4, 0x104D7), (0x104FC, 0x104FF), (0x10528, 0x1052F), (0x10564, 0x1056E),
  (0x1057B, 0x1057B), (0x1058B, 0x1058B), (0x10593, 0x10593), (0x10596, 0x10596),
  (0x105A2, 0x105A2), (0x105B2, 0x105B2), (0x105BA, 0x105BA), (0x105BD, 0x105BF),
  (0x105F4, 0x105FF), (0x10737, 0x1073F), (0x10756, 0x1075F), (0x10768, 0x1077F),
  (0x10786, 0x10786), (0x107B1, 0x107B1), (0x107BB, 0x107FF), (0x10806, 0x10807),
  (0x10809, 0x10809), (0x10836, 0x10836), (0x10839, 0x1083B), (0x1083D, 0x1083E),
  (0x10856, 0x10856), (0x1089F, 0x108A6), (0x108B0, 0x108DF), (0x108F3, 0x108F3),
  (0x108F6, 0x108FA), (0x1091C, 0x1091E), (0x1093A, 0x1093E), (0x1095A, 0x1097F),
  (0x109B8, 0x109BB), (0x109D0, 0x109D1), (0x10A04, 0x10A04), (0x10A07, 0x10A0B),
  (0x10A14, 0x10A14), (0x10A18, 0x10A18), (0x10A36, 0x10A37), (0x10A3B, 0x10A3E),
  (0x10A49, 0x10A4F), (0x10A59, 0x10A5F), (0x10AA0, 0x10ABF), (0x10AE7, 0x10AEA),
  (0x10AF7, 0x10AFF), (0x10B36, 0x10B38), (0x10B56, 0x10B57), (0x10B73, 0x10B77),
  (0x10B92, 0x10B98), (0x10B9D, 0x10BA8), (0x10BB0, 0x10BFF), (0x10C49, 0x10C7F),
  (0x10CB3, 0x10CBF), (0x10CF3, 0x10CF9), (0x10D28, 0x10D2F), (0x10D3A, 0x10D3F),
  (0x10D66, 0x10D68), (0x10D86, 0x10D8D), (0x10D90, 0x10E5F), (0x10E7F, 0x10E7F),
  (0x10EAA, 0x10EAA), (0x10EAE, 0x10EAF), (0x10EB2, 0x10EC1), (0x10EC8, 0x10ECF),
  (0x10ED9, 0x10EF9), (0x10F28, 0x10F2F), (0x10F5A, 0x10F6F), (0x10F8A, 0x10FAF),
  (0x10FCC, 0x10FDF), (0x10FF7, 0x10FFF), (0x1104E, 0x11051), (0x11076, 0x1107E),
  (0x110BD, 0x110BD), (0x110C3, 0x110CF), (0x110E9, 0x110EF), (0x110FA, 0x110FF),
  (0x11135, 0x11135), (0x11148, 0x1114F), (0x11177, 0x1117F), (0x111E0, 0x111E0),
  (0x111F5, 0x111FF), (0x11212, 0x11212), (0x11242, 0x1127F), (0x11287, 0x11287),
  (0x11289, 0x11289), (0x1128E, 0x1128E), (0x1129E, 0x1129E), (0x112AA, 0x112AF),
  (0x112EB, 0x112EF), (0x112FA, 0x112FF), (0x11304, 0x11304), (0x1130D, 0x1130E),
  (0x11311, 0x11312), (0x11329, 0x11329), (0x11331, 0x11331), (0x11334, 0x11334),
  (0x1133A, 0x1133A), (0x11345, 0x11346), (0x11349, 0x1134A), (0x1134E, 0x1134F),
  (0x11351, 0x11356), (0x11358, 0x1135C), (0x11364, 0x11365), (0x1136D, 0x1136F),
  (0x11375, 0x1137F), (0x1138A, 0x1138A), (0x1138C, 0x1138D), (0x1138F, 0x1138F),
  (0x113B6, 0x113B6), (0x113C1, 0x113C1), (0x113C3, 0x113C4), (0x113C6, 0x113C6),
  (0x113CB, 0x113CB), (0x113D6, 0x113D6), (0x113D9, 0x113E0), (0x113E3, 0x113FF),
  (0x1145C, 0x1145C), (0x11462, 0x1147F), (0x114C8, 0x114CF), (0x114DA, 0x1157F),
  (0x115B6, 0x115B7), (0x115DE, 0x115FF), (0x11645, 0x1164F), (0x1165A, 0x1165F),
  (0x1166D, 0x1167F), (0x116BA, 0x116BF), (0x116CA, 0x116CF), (0x116E4, 0x116FF),
  (0x1171B, 0x1171C), (0x1172C, 0x1172F), (0x11747, 0x117FF), (0x1183C, 0x1189F),
  (0x118F3, 0x118FE), (0x11907, 0x11908), (0x1190A, 0x1190B), (0x11914, 0x11914),
  (0x11917, 0x11917), (0x11936, 0x11936), (0x11939, 0x1193A), (0x11947, 0x1194F),
  (0x1195A, 0x1199F), (0x119A8, 0x119A9), (0x119D8, 0x119D9), (0x119E5, 0x119FF),
  (0x11A48, 0x11A4F), (0x11AA3, 0x11AAF), (0x11AF9, 0x11AFF), (0x11B0A, 0x11B5F),
  (0x11B68, 0x11BBF), (0x11BE2, 0x11BEF), (0x11BFA, 0x11BFF), (0x11C09, 0x11C09),
  (0x11C37, 0x11C37), (0x11C46, 0x11C4F), (0x11C6D, 0x11C6F), (0x11C90, 0x11C91),
  (0x11CA8, 0x11CA8), (0x11CB7, 0x11CFF), (0x11D07, 0x11D07), (0x11D0A, 0x11D0A),
  (0x11D37, 0x11D39), (0x11D3B, 0x11D3B), (0x11D3E, 0x11D3E), (0x11D48, 0x11D4F),
  (0x11D5A, 0x11D5F), (0x11D66, 0x11D66), (0x11D69, 0x11D69), (0x11D8F, 0x11D8F),
  (0x11D92, 0x11D92), (0x11D99, 0x11D9F), (0x11DAA, 0x11DAF), (0x11DDC, 0x11DDF),
  (0x11DEA, 0x11EDF), (0x11EF9, 0x11EFF), (0x11F11, 0x11F11), (0x11F3B, 0x11F3D),
  (0x11F5B, 0x11FAF), (0x11FB1, 0x11FBF), (0x11FF2, 0x11FFE), (0x1239A, 0x123FF),
  (0x1246F, 0x1246F), (0x12475, 0x1247F), (0x12544, 0x1254F), (0x12690, 0x12F8F),
  (0x12FF3, 0x12FFF), (0x13430, 0x1343F), (0x13456, 0x1345F), (0x143FB, 0x143FF),
  (0x14647, 0x160FF), (0x1613A, 0x167FF), (0x16A39, 0x16A3F), (0x16A5F, 0x16A5F),
  (0x16A6A, 0x16A6D), (0x16ABF, 0x16ABF), (0x16ACA, 0x16ACF), (0x16AEE, 0x16AEF),
  (0x16AF6, 0x16AFF), (0x16B46, 0x16B4F), (0x16B5A, 0x16B5A), (0x16B62, 0x16B62),
  (0x16B78, 0x16B7C), (0x16B90, 0x16D3F), (0x16D7A, 0x16D7F), (0x16DB0, 0x16E3F),
  (0x16E9B, 0x16E9F), (0x16EB9, 0x16EBA), (0x16ED4, 0x16EFF), (0x16F4B, 0x16F4E),
  (0x16F88, 0x16F8E), (0x16FA0, 0x16FDF), (0x16FE5, 0x16FEF), (0x16FF7, 0x16FFF),
  (0x18CD6, 0x18CFE), (0x18D1F, 0x18D7F), (0x18DF3, 0x18DFF), (0x19400, 0x1AFEF),
  (0x1AFF4, 0x1AFF4), (0x1AFFC, 0x1AFFC), (0x1AFFF, 0x1AFFF), (0x1B123, 0x1B131),
  (0x1B133, 0x1B14F), (0x1B153, 0x1B154), (0x1B156, 0x1B163), (0x1B168, 0x1B16F),
  (0x1B2FC, 0x1BBFF), (0x1BC6B, 0x1BC6F), (0x1BC7D, 0x1BC7F), (0x1BC89, 0x1BC8F),
  (0x1BC9A, 0x1BC9B), (0x1BCA4, 0x1CBFF), (0x1CCFD, 0x1CCFF), (0x1CEB4, 0x1CEB9),
  (0x1CED1, 0x1CEDF), (0x1CEF1, 0x1CEFF), (0x1CF2E, 0x1CF2F), (0x1CF47, 0x1CF4F),
  (0x1CFC4, 0x1CFFF), (0x1D0F6, 0x1D0FF), (0x1D127, 0x1D128), (0x1D290, 0x1D2BF),
  (0x1D2D4, 0x1D2DF), (0x1D2F4, 0x1D2FF), (0x1D357, 0x1D35F), (0x1D379, 0x1D3FF),
  (0x1D455, 0x1D455), (0x1D49D, 0x1D49D), (0x1D4A0, 0x1D4A1), (0x1D4A3, 0x1D4A4),
  (0x1D4A7, 0x1D4A8), (0x1D4AD, 0x1D4AD), (0x1D4BA, 0x1D4BA), (0x1D4BC, 0x1D4BC),
  (0x1D4C4, 0x1D4C4), (0x1D506, 0x1D506), (0x1D50B, 0x1D50C), (0x1D515, 0x1D515),
  (0x1D51D, 0x1D51D), (0x1D53A, 0x1D53A), (0x1D53F, 0x1D53F), (0x1D545, 0x1D545),
  (0x1D547, 0x1D549), (0x1D551, 0x1D551), (0x1D6A6, 0x1D6A7), (0x1D7CC, 0x1D7CD),
  (0x1DA8C, 0x1DA9A), (0x1DAA0, 0x1DAA0), (0x1DAB0, 0x1DAFF), (0x1DC00, 0x1DEFF),
  (0x1DF1F, 0x1DF24), (0x1DF2B, 0x1DFFF), (0x1E007, 0x1E007), (0x1E019, 0x1E01A),
  (0x1E022, 0x1E022), (0x1E025, 0x1E025), (0x1E02B, 0x1E02F), (0x1E06E, 0x1E08E),
  (0x1E090, 0x1E0FF), (0x1E12D, 0x1E12F), (0x1E13E, 0x1E13F), (0x1E14A, 0x1E14D),
  (0x1E150, 0x1E28F), (0x1E2AF, 0x1E2BF), (0x1E2FA, 0x1E2FE), (0x1E300, 0x1E4CF),
  (0x1E4FA, 0x1E5CF), (0x1E5FB, 0x1E5FE), (0x1E600, 0x1E6BF), (0x1E6DF, 0x1E6DF),
  (0x1E6F6, 0x1E6FD), (0x1E700, 0x1E7DF), (0x1E7E7, 0x1E7E7), (0x1E7EC, 0x1E7EC),
  (0x1E7EF, 0x1E7EF), (0x1E7FF, 0x1E7FF), (0x1E8C5, 0x1E8C6), (0x1E8D7, 0x1E8FF),
  (0x1E94C, 0x1E94F), (0x1E95A, 0x1E95D), (0x1E960, 0x1EC70), (0x1ECB5, 0x1ED00),
  (0x1ED3E, 0x1EDFF), (0x1EE04, 0x1EE04), (0x1EE20, 0x1EE20), (0x1EE23, 0x1EE23),
  (0x1EE25, 0x1EE26), (0x1EE28, 0x1EE28), (0x1EE33, 0x1EE33), (0x1EE38, 0x1EE38),
  (0x1EE3A, 0x1EE3A), (0x1EE3C, 0x1EE41), (0x1EE43, 0x1EE46), (0x1EE48, 0x1EE48),
  (0x1EE4A, 0x1EE4A), (0x1EE4C, 0x1EE4C), (0x1EE50, 0x1EE50), (0x1EE53, 0x1EE53),
  (0x1EE55, 0x1EE56), (0x1EE58, 0x1EE58), (0x1EE5A, 0x1EE5A), (0x1EE5C, 0x1EE5C),
  (0x1EE5E, 0x1EE5E), (0x1EE60, 0x1EE60), (0x1EE63, 0x1EE63), (0x1EE65, 0x1EE66),
  (0x1EE6B, 0x1EE6B), (0x1EE73, 0x1EE73), (0x1EE78, 0x1EE78), (0x1EE7D, 0x1EE7D),
  (0x1EE7F, 0x1EE7F), (0x1EE8A, 0x1EE8A), (0x1EE9C, 0x1EEA0), (0x1EEA4, 0x1EEA4),
  (0x1EEAA, 0x1EEAA), (0x1EEBC, 0x1EEEF), (0x1EEF2, 0x1EFFF), (0x1F02C, 0x1F02F),
  (0x1F094, 0x1F09F), (0x1F0AF, 0x1F0B0), (0x1F0C0, 0x1F0C0), (0x1F0D0, 0x1F0D0),
  (0x1F0F6, 0x1F100), (0x1F1AE, 0x1F1E5), (0x1F203, 0x1F20F), (0x1F23C, 0x1F23F),
  (0x1F249, 0x1F24F), (0x1F252, 0x1F25F), (0x1F266, 0x1F2FF), (0x1F6ED, 0x1F6EF),
  (0x1F6FD, 0x1F6FF), (0x1F7DA, 0x1F7DF), (0x1F7EC, 0x1F7EF), (0x1F7F1, 0x1F7FF),
  (0x1F80C, 0x1F80F), (0x1F848, 0x1F84F), (0x1F85A, 0x1F85F), (0x1F888, 0x1F88F),
  (0x1F8AE, 0x1F8AF), (0x1F8BC, 0x1F8BF), (0x1F8C2, 0x1F8CF), (0x1F8D9, 0x1F8FF),
  (0x1FA58, 0x1FA5F), (0x1FA6E, 0x1FA6F), (0x1FB93, 0x1FB93), (0x1FBFB, 0x1FFFF),
  (0x2A6E0, 0x2A6FF), (0x2B81E, 0x2B81F), (0x2CEAE, 0x2CEAF), (0x2EBE1, 0x2EBEF),
  (0x2EE5E, 0x2F7FF), (0x2FA1E, 0x2FFFF), (0x3134B, 0x3134F), (0x3347A, 0x3CFFF),
  (0x3FC40, 0xE00FF), (0xE01F0, 0x10FFFF)]

/-- Code points that mean nothing in a domain name. -/
def droppedRanges : CodeRanges := #[
  (0xAD, 0xAD), (0x34F, 0x34F), (0x115F, 0x1160), (0x17B4, 0x17B5), (0x180B, 0x180F),
  (0x200B, 0x200B), (0x2060, 0x2064), (0x206A, 0x206F), (0x3164, 0x3164), (0xFE00, 0xFE0F),
  (0xFEFF, 0xFEFF), (0xFFA0, 0xFFA0), (0x1BCA0, 0x1BCA3), (0x1D173, 0x1D17A), (0xE0100, 0xE01EF)]

/-- Ranges of code points that are replaced by one character each: the first and the last code
point, and the text that the whole range becomes. -/
def letterTable : Array (Nat × Nat × String) := #[
  (0xA0, 0xA0, " "), (0xAA, 0xAA, "a"), (0xB2, 0xB3, "23"), (0xB5, 0xB5, "μ"), (0xB9, 0xBA, "1o"),
  (0xC0, 0xDE, "àáâãäåæçèéêëìíîïðñòóôõö×øùúûüýþ"),
  (0x100, 0x12E, "āāăăąąććĉĉċċččďďđđēēĕĕėėęęěěĝĝğğġġģģĥĥħħĩĩīīĭĭį"), (0x134, 0x13D, "ĵĵķķĸĺĺļļľ"),
  (0x141, 0x147, "łłńńņņň"),
  (0x14A, 0x190, "ŋŋōōŏŏőőœœŕŕŗŗřřśśŝŝşşššţţťťŧŧũũūūŭŭůůűűųųŵŵŷŷÿźźżżžžsƀɓƃƃƅƅɔƈƈɖɗƌƌƍǝəɛ"),
  (0x191, 0x1BC, "ƒƒɠɣƕɩɨƙƙƚƛɯɲƞɵơơƣƣƥƥʀƨƨʃƪƫƭƭʈưưʊʋƴƴƶƶʒƹƹƺƻƽ"),
  (0x1CD, 0x1EE, "ǎǎǐǐǒǒǔǔǖǖǘǘǚǚǜǜǝǟǟǡǡǣǣǥǥǧǧǩǩǫǫǭǭǯ"),
  (0x1F4, 0x232, "ǵǵƕƿǹǹǻǻǽǽǿǿȁȁȃȃȅȅȇȇȉȉȋȋȍȍȏȏȑȑȓȓȕȕȗȗșșțțȝȝȟȟƞȡȣȣȥȥȧȧȩȩȫȫȭȭȯȯȱȱȳ"),
  (0x23A, 0x24E, "ⱥȼȼƚⱦȿɀɂɂƀʉʌɇɇɉɉɋɋɍɍɏ"), (0x2B0, 0x2B8, "hɦjrɹɻʁwy"), (0x2E0, 0x2E4, "ɣlsxʕ"),
  (0x340, 0x341, "\u0300\u0301"), (0x343, 0x343, "\u0313"), (0x345, 0x345, "ι"),
  (0x370, 0x376, "ͱͱͳͳʹ͵ͷ"), (0x37E, 0x37F, ";ϳ"), (0x386, 0x38A, "ά·έήί"), (0x38C, 0x38C, "ό"),
  (0x38E, 0x3A1, "ύώΐαβγδεζηθικλμνξοπρ"), (0x3A3, 0x3AB, "στυφχψωϊϋ"),
  (0x3CF, 0x415, "ϗβθυύϋφπϗϙϙϛϛϝϝϟϟϡϡϣϣϥϥϧϧϩϩϫϫϭϭϯϯκρσϳθε϶ϸϸσϻϻϼͻͼͽѐёђѓєѕіїјљњћќѝўџабвгде"),
  (0x416, 0x42F, "жзийклмнопрстуфхцчшщъыьэюя"), (0x460, 0x480, "ѡѡѣѣѥѥѧѧѩѩѫѫѭѭѯѯѱѱѳѳѵѵѷѷѹѹѻѻѽѽѿѿҁ"),
  (0x48A, 0x4D0, "ҋҋҍҍҏҏґґғғҕҕҗҗҙҙққҝҝҟҟҡҡңңҥҥҧҧҩҩҫҫҭҭүүұұҳҳҵҵҷҷҹҹһһҽҽҿҿӏӂӂӄӄӆӆӈӈӊӊӌӌӎӎӏӑ"),
  (0x4D2, 0x518, "ӓӓӕӕӗӗәәӛӛӝӝӟӟӡӡӣӣӥӥӧӧөөӫӫӭӭӯӯӱӱӳӳӵӵӷӷӹӹӻӻӽӽӿӿԁԁԃԃԅԅԇԇԉԉԋԋԍԍԏԏԑԑԓԓԕԕԗԗԙ"),
  (0x51A, 0x52E, "ԛԛԝԝԟԟԡԡԣԣԥԥԧԧԩԩԫԫԭԭԯ"), (0x531, 0x556, "աբգդեզէըթժիլխծկհձղճմյնշոչպջռսվտրցւփքօֆ"),
  (0xF0C, 0xF0C, "་"), (0x10A0, 0x10C5, "ⴀⴁⴂⴃⴄⴅⴆⴇⴈⴉⴊⴋⴌⴍⴎⴏⴐⴑⴒⴓⴔⴕⴖⴗⴘⴙⴚⴛⴜⴝⴞⴟⴠⴡⴢⴣⴤⴥ"),
  (0x10C7, 0x10C7, "ⴧ"), (0x10CD, 0x10CD, "ⴭ"), (0x10FC, 0x10FC, "ნ"), (0x13F8, 0x13FD, "ᏰᏱᏲᏳᏴᏵ"),
  (0x1C80, 0x1C89, "вдосттъѣꙋᲊ"), (0x1C90, 0x1CBA, "აბგდევზთიკლმნოპჟრსტუფქღყშჩცძწჭხჯჰჱჲჳჴჵჶჷჸჹჺ"),
  (0x1CBD, 0x1CBF, "ჽჾჿ"),
  (0x1D2C, 0x1D6A, "aæbᴯdeǝghijklmnᴻoȣprtuwaɐɑᴂbdeəɛɜgᵎkmŋoɔᴖᴗptuᴝɯvᴥβγδφχiruvβγρφχ"),
  (0x1D78, 0x1D78, "н"), (0x1D9B, 0x1DBF, "ɒcɕðɜfɟɡɥɨɩɪᵻʝɭᶅʟɱɰɲɳɴɵɸʂʃƫʉʊᴜʋʌzʐʑʒθ"),
  (0x1E00, 0x1E46, "ḁḁḃḃḅḅḇḇḉḉḋḋḍḍḏḏḑḑḓḓḕḕḗḗḙḙḛḛḝḝḟḟḡḡḣḣḥḥḧḧḩḩḫḫḭḭḯḯḱḱḳḳḵḵḷḷḹḹḻḻḽḽḿḿṁṁṃṃṅṅṇ"),
  (0x1E48, 0x1E8E, "ṉṉṋṋṍṍṏṏṑṑṓṓṕṕṗṗṙṙṛṛṝṝṟṟṡṡṣṣṥṥṧṧṩṩṫṫṭṭṯṯṱṱṳṳṵṵṷṷṹṹṻṻṽṽṿṿẁẁẃẃẅẅẇẇẉẉẋẋẍẍẏ"),
  (0x1E90, 0x1E94, "ẑẑẓẓẕ"),
  (0x1E9B, 0x1EE2, "ṡẜẝßẟạạảảấấầầẩẩẫẫậậắắằằẳẳẵẵặặẹẹẻẻẽẽếếềềểểễễệệỉỉịịọọỏỏốốồồổổỗỗộộớớờờởởỡỡợ"),
  (0x1EE4, 0x1EFE, "ụụủủứứừừửửữữựựỳỳỵỵỷỷỹỹỻỻỽỽỿ"), (0x1F08, 0x1F0F, "ἀἁἂἃἄἅἆἇ"),
  (0x1F18, 0x1F1D, "ἐἑἒἓἔἕ"), (0x1F28, 0x1F2F, "ἠἡἢἣἤἥἦἧ"), (0x1F38, 0x1F3F, "ἰἱἲἳἴἵἶἷ"),
  (0x1F48, 0x1F4D, "ὀὁὂὃὄὅ"), (0x1F59, 0x1F59, "ὑ"), (0x1F5B, 0x1F5B, "ὓ"), (0x1F5D, 0x1F5D, "ὕ"),
  (0x1F5F, 0x1F5F, "ὗ"), (0x1F68, 0x1F7D, "ὠὡὢὣὤὥὦὧὰάὲέὴήὶίὸόὺύὼώ"), (0x1FB8, 0x1FBB, "ᾰᾱὰά"),
  (0x1FBE, 0x1FBE, "ι"), (0x1FC8, 0x1FCB, "ὲέὴή"), (0x1FD3, 0x1FD3, "ΐ"), (0x1FD8, 0x1FDB, "ῐῑὶί"),
  (0x1FE3, 0x1FEC, "ΰῤῥῦῧῠῡὺύῥ"), (0x1FEF, 0x1FEF, "`"), (0x1FF8, 0x1FFB, "ὸόὼώ"),
  (0x2000, 0x200A, "           "), (0x2011, 0x2011, "‐"), (0x202F, 0x202F, " "),
  (0x205F, 0x205F, " "), (0x2070, 0x2071, "0i"), (0x2074, 0x208E, "456789+−=()n0123456789+−=()"),
  (0x2090, 0x209C, "aeoxəhklmnpst"), (0x2102, 0x2102, "c"), (0x2107, 0x2107, "ɛ"),
  (0x210A, 0x2115, "ghhhhħiill℔n"), (0x2119, 0x211D, "pqrrr"),
  (0x2124, 0x2139, "z℥ω℧z℩kåbc℮eefⅎmoאבגדi"), (0x213C, 0x2149, "πγγπ∑⅁⅂⅃⅄ddeij"),
  (0x2160, 0x2160, "i"), (0x2164, 0x2164, "v"), (0x2169, 0x2169, "x"), (0x216C, 0x2170, "lcdmi"),
  (0x2174, 0x2174, "v"), (0x2179, 0x2179, "x"), (0x217C, 0x2183, "lcdmↀↁↂↄ"),
  (0x2329, 0x232A, "〈〉"), (0x2460, 0x2468, "123456789"),
  (0x24B6, 0x24EA, "abcdefghijklmnopqrstuvwxyzabcdefghijklmnopqrstuvwxyz0"),
  (0x2C00, 0x2C2F, "ⰰⰱⰲⰳⰴⰵⰶⰷⰸⰹⰺⰻⰼⰽⰾⰿⱀⱁⱂⱃⱄⱅⱆⱇⱈⱉⱊⱋⱌⱍⱎⱏⱐⱑⱒⱓⱔⱕⱖⱗⱘⱙⱚⱛⱜⱝⱞⱟ"),
  (0x2C60, 0x2C75, "ⱡⱡɫᵽɽⱥⱦⱨⱨⱪⱪⱬⱬɑɱɐɒⱱⱳⱳⱴⱶ"),
  (0x2C7C, 0x2CC2, "jvȿɀⲁⲁⲃⲃⲅⲅⲇⲇⲉⲉⲋⲋⲍⲍⲏⲏⲑⲑⲓⲓⲕⲕⲗⲗⲙⲙⲛⲛⲝⲝⲟⲟⲡⲡⲣⲣⲥⲥⲧⲧⲩⲩⲫⲫⲭⲭⲯⲯⲱⲱⲳⲳⲵⲵⲷⲷⲹⲹⲻⲻⲽⲽⲿⲿⳁⳁⳃ"),
  (0x2CC4, 0x2CE2, "ⳅⳅⳇⳇⳉⳉⳋⳋⳍⳍⳏⳏⳑⳑⳓⳓⳕⳕⳗⳗⳙⳙⳛⳛⳝⳝⳟⳟⳡⳡⳣ"), (0x2CEB, 0x2CED, "ⳬⳬⳮ"),
  (0x2CF2, 0x2CF2, "ⳳ"), (0x2D6F, 0x2D6F, "ⵡ"), (0x2E9F, 0x2E9F, "母"), (0x2EF3, 0x2EF3, "龟"),
  (0x2F00, 0x2F46, "一丨丶丿乙亅二亠人儿入八冂冖冫几凵刀力勹匕匚匸十卜卩厂厶又口囗土士夂夊夕大女子宀寸小尢尸屮山巛工己巾干幺广廴廾弋弓彐彡彳心戈戶手支攴文斗斤方无"),
  (0x2F47, 0x2F8D, "日曰月木欠止歹殳毋比毛氏气水火爪父爻爿片牙牛犬玄玉瓜瓦甘生用田疋疒癶白皮皿目矛矢石示禸禾穴立竹米糸缶网羊羽老而耒耳聿肉臣自至臼舌舛舟艮色艸虍虫"),
  (0x2F8E, 0x2FD4, "血行衣襾見角言谷豆豕豸貝赤走足身車辛辰辵邑酉釆里金長門阜隶隹雨靑非面革韋韭音頁風飛食首香馬骨高髟鬥鬯鬲鬼魚鳥鹵鹿麥麻黃黍黑黹黽鼎鼓鼠鼻齊齒龍龜"),
  (0x2FD5, 0x2FD5, "龠"), (0x3000, 0x3002, " 、."), (0x3036, 0x303A, "〒〷十卄卅"),
  (0x3131, 0x3163, "ᄀᄁᆪᄂᆬᆭᄃᄄᄅᆰᆱᆲᆳᆴᆵᄚᄆᄇᄈᄡᄉᄊᄋᄌᄍᄎᄏᄐᄑ하ᅢᅣᅤᅥᅦᅧᅨᅩᅪᅫᅬᅭᅮᅯᅰᅱᅲᅳᅴᅵ"),
  (0x3165, 0x318E, "ᄔᄕᇇᇈᇌᇎᇓᇗᇙᄜᇝᇟᄝᄞᄠᄢᄣᄧᄩᄫᄬᄭᄮᄯᄲᄶᅀᅇᅌᇱᇲᅗᅘᅙᆄᆅᆈᆑᆒᆔᆞᆡ"),
  (0x3192, 0x319F, "一二三四上中下甲乙丙丁天地人"), (0x3244, 0x3247, "問幼文箏"),
  (0x3260, 0x327B, "ᄀᄂᄃᄅᄆᄇᄉᄋᄌᄎᄏᄐᄑᄒ가나다라마바사아자차카타파하"),
  (0x327E, 0x32B0, "우㉿一二三四五六七八九十月火水木金土日株有社名特財祝労秘男女適優印注項休写正上中下左右医宗学監企資協夜"),
  (0x32D0, 0x32FE, "アイウエオカキクケコサシスセソタチツテトナニヌネノハヒフヘホマミムメモヤユヨラリルレロワヰヱヲ"),
  (0xA640, 0xA66C, "ꙁꙁꙃꙃꙅꙅꙇꙇꙉꙉꙋꙋꙍꙍꙏꙏꙑꙑꙓꙓꙕꙕꙗꙗꙙꙙꙛꙛꙝꙝꙟꙟꙡꙡꙣꙣꙥꙥꙧꙧꙩꙩꙫꙫꙭ"),
  (0xA680, 0xA69D, "ꚁꚁꚃꚃꚅꚅꚇꚇꚉꚉꚋꚋꚍꚍꚏꚏꚑꚑꚓꚓꚕꚕꚗꚗꚙꚙꚛꚛъь"),
  (0xA722, 0xA768, "ꜣꜣꜥꜥꜧꜧꜩꜩꜫꜫꜭꜭꜯꜯꜰꜱꜳꜳꜵꜵꜷꜷꜹꜹꜻꜻꜽꜽꜿꜿꝁꝁꝃꝃꝅꝅꝇꝇꝉꝉꝋꝋꝍꝍꝏꝏꝑꝑꝓꝓꝕꝕꝗꝗꝙꝙꝛꝛꝝꝝꝟꝟꝡꝡꝣꝣꝥꝥꝧꝧꝩ"),
  (0xA76A, 0xA770, "ꝫꝫꝭꝭꝯꝯꝯ"),
  (0xA779, 0xA7C0, "ꝺꝺꝼꝼᵹꝿꝿꞁꞁꞃꞃꞅꞅꞇꞇꞈ꞉꞊ꞌꞌɥꞎꞏꞑꞑꞓꞓꞔꞕꞗꞗꞙꞙꞛꞛꞝꞝꞟꞟꞡꞡꞣꞣꞥꞥꞧꞧꞩꞩɦɜɡɬɪꞯʞʇʝꭓꞵꞵꞷꞷꞹꞹꞻꞻꞽꞽꞿꞿꟁ"),
  (0xA7C2, 0xA7DC, "ꟃꟃꞔʂᶎꟈꟈꟊꟊɤꟍꟍ꟏꟏ꟑꟑꟓꟓꟕꟕꟗꟗꟙꟙꟛꟛƛ"), (0xA7F1, 0xA7F9, "scfqꟶꟶꟷħœ"),
  (0xAB5C, 0xAB5F, "ꜧꬷɫꭒ"), (0xAB69, 0xAB69, "ʍ"),
  (0xAB70, 0xABB6, "ᎠᎡᎢᎣᎤᎥᎦᎧᎨᎩᎪᎫᎬᎭᎮᎯᎰᎱᎲᎳᎴᎵᎶᎷᎸᎹᎺᎻᎼᎽᎾᎿᏀᏁᏂᏃᏄᏅᏆᏇᏈᏉᏊᏋᏌᏍᏎᏏᏐᏑᏒᏓᏔᏕᏖᏗᏘᏙᏚᏛᏜᏝᏞᏟᏠᏡᏢᏣᏤᏥᏦ"),
  (0xABB7, 0xABBF, "ᏧᏨᏩᏪᏫᏬᏭᏮᏯ"),
  (0xF900, 0xF946, "豈更車賈滑串句龜龜契金喇奈懶癩羅蘿螺裸邏樂洛烙珞落酪駱亂卵欄爛蘭鸞嵐濫藍襤拉臘蠟廊朗浪狼郎來冷勞擄櫓爐盧老蘆虜路露魯鷺碌祿綠菉錄鹿論壟弄籠聾牢"),
  (0xF947, 0xF98D, "磊賂雷壘屢樓淚漏累縷陋勒肋凜凌稜綾菱陵讀拏樂諾丹寧怒率異北磻便復不泌數索參塞省葉說殺辰沈拾若掠略亮兩凉梁糧良諒量勵呂女廬旅濾礪閭驪麗黎力曆歷轢"),
  (0xF98E, 0xF9D4, "年憐戀撚漣煉璉秊練聯輦蓮連鍊列劣咽烈裂說廉念捻殮簾獵令囹寧嶺怜玲瑩羚聆鈴零靈領例禮醴隸惡了僚寮尿料樂燎療蓼遼龍暈阮劉杻柳流溜琉留硫紐類六戮陸倫"),
  (0xF9D5, 0xFA1B, "崙淪輪律慄栗率隆利吏履易李梨泥理痢罹裏裡里離匿溺吝燐璘藺隣鱗麟林淋臨立笠粒狀炙識什茶刺切度拓糖宅洞暴輻行降見廓兀嗀﨎﨏塚﨑晴﨓﨔凞猪益礼神祥福"),
  (0xFA1C, 0xFA62, "靖精羽﨟蘒﨡諸﨣﨤逸都﨧﨨﨩飯飼館鶴郞隷侮僧免勉勤卑喝嘆器塀墨層屮悔慨憎懲敏既暑梅海渚漢煮爫琢碑社祉祈祐祖祝禍禎穀突節練縉繁署者臭艹艹著褐視謁"),
  (0xFA63, 0xFA6D, "謹賓贈辶逸難響頻恵𤋮舘"),
  (0xFA70, 0xFAB6, "並况全侀充冀勇勺喝啕喙嗢塚墳奄奔婢嬨廒廙彩徭惘慎愈憎慠懲戴揄搜摒敖晴朗望杖歹殺流滛滋漢瀞煮瞧爵犯猪瑱甆画瘝瘟益盛直睊着磌窱節类絛練缾者荒華蝹襁"),
  (0xFAB7, 0xFAD9, "覆視調諸請謁諾諭謹變贈輸遲醙鉶陼難靖韛響頋頻鬒龜𢡊𢡄𣏕㮝䀘䀹𥉉𥳐𧻓齃龎"), (0xFB20, 0xFB29, "עאדהכלםרת+"),
  (0xFB50, 0xFB96, "ٱٱٻٻٻٻپپپپڀڀڀڀٺٺٺٺٿٿٿٿٹٹٹٹڤڤڤڤڦڦڦڦڄڄڄڄڃڃڃڃچچچچڇڇڇڇڍڍڌڌڎڎڈڈژژڑڑککککگگگگڳ"),
  (0xFB97, 0xFBB1, "ڳڳڳڱڱڱڱںںڻڻڻڻۀۀہہہہھھھھےےۓۓ"), (0xFBD3, 0xFBDC, "ڭڭڭڭۇۇۆۆۈۈ"),
  (0xFBDE, 0xFBE9, "ۋۋۅۅۉۉېېېېىى"), (0xFBFC, 0xFBFF, "یییی"), (0xFE10, 0xFE11, ",、"),
  (0xFE13, 0xFE18, ":;!?〖〗"), (0xFE31, 0xFE48, "—–__()\x7b\x7d〔〕【】《》〈〉「」『』﹅﹆[]"),
  (0xFE4D, 0xFE51, "___,、"), (0xFE54, 0xFE66, ";:?!—()\x7b\x7d〔〕#&*+-<>="),
  (0xFE68, 0xFE6B, "\\$%@"),
  (0xFE80, 0xFEC6, "ءآآأأؤؤإإئئئئااببببةةتتتتثثثثججججححححخخخخددذذررززسسسسششششصصصصضضضضططططظظ"),
  (0xFEC7, 0xFEF4, "ظظععععغغغغففففققققككككللللممممننننههههووىىيييي"),
  (0xFF01, 0xFF47, "!\"#$%&'()*+,-./0123456789:;<=>?@abcdefghijklmnopqrstuvwxyz[\\]^_`abcdefg"),
  (0xFF48, 0xFF8E, "hijklmnopqrstuvwxyz\x7b|\x7d~⦅⦆.「」、・ヲァィゥェォャュョッーアイウエオカキクケコサシスセソタチツテトナニヌネノハヒフヘホ"),
  (0xFF8F, 0xFF9F, "マミムメモヤユヨラリルレロワン\u3099\u309a"),
  (0xFFA1, 0xFFBE, "ᄀᄁᆪᄂᆬᆭᄃᄄᄅᆰᆱᆲᆳᆴᆵᄚᄆᄇᄈᄡᄉᄊᄋᄌᄍᄎᄏᄐᄑᄒ"), (0xFFC2, 0xFFC7, "ᅡᅢᅣᅤᅥᅦ"),
  (0xFFCA, 0xFFCF, "ᅧᅨᅩᅪᅫᅬ"), (0xFFD2, 0xFFD7, "ᅭᅮᅯᅰᅱᅲ"), (0xFFDA, 0xFFDC, "ᅳᅴᅵ"),
  (0xFFE0, 0xFFE2, "¢£¬"), (0xFFE4, 0xFFE6, "¦¥₩"), (0xFFE8, 0xFFEE, "│←↑→↓■○"),
  (0x10400, 0x10427, "𐐨𐐩𐐪𐐫𐐬𐐭𐐮𐐯𐐰𐐱𐐲𐐳𐐴𐐵𐐶𐐷𐐸𐐹𐐺𐐻𐐼𐐽𐐾𐐿𐑀𐑁𐑂𐑃𐑄𐑅𐑆𐑇𐑈𐑉𐑊𐑋𐑌𐑍𐑎𐑏"),
  (0x104B0, 0x104D3, "𐓘𐓙𐓚𐓛𐓜𐓝𐓞𐓟𐓠𐓡𐓢𐓣𐓤𐓥𐓦𐓧𐓨𐓩𐓪𐓫𐓬𐓭𐓮𐓯𐓰𐓱𐓲𐓳𐓴𐓵𐓶𐓷𐓸𐓹𐓺𐓻"), (0x10570, 0x1057A, "𐖗𐖘𐖙𐖚𐖛𐖜𐖝𐖞𐖟𐖠𐖡"),
  (0x1057C, 0x1058A, "𐖣𐖤𐖥𐖦𐖧𐖨𐖩𐖪𐖫𐖬𐖭𐖮𐖯𐖰𐖱"), (0x1058C, 0x10592, "𐖳𐖴𐖵𐖶𐖷𐖸𐖹"), (0x10594, 0x10595, "𐖻𐖼"),
  (0x10781, 0x10785, "ːˑæʙɓ"), (0x10787, 0x107B0, "ʣꭦʥʤɖɗᶑɘɞʩɤɢɠʛħʜɧʄʪʫɬ𝼄ꞎɮ𝼅ʎ𝼆øɶɷqɺ𝼈ɽɾʀʨʦꭧʧʈⱱ"),
  (0x107B2, 0x107BA, "ʏʡʢʘǀǁǂ𝼊𝼞"),
  (0x10C80, 0x10CB2, "𐳀𐳁𐳂𐳃𐳄𐳅𐳆𐳇𐳈𐳉𐳊𐳋𐳌𐳍𐳎𐳏𐳐𐳑𐳒𐳓𐳔𐳕𐳖𐳗𐳘𐳙𐳚𐳛𐳜𐳝𐳞𐳟𐳠𐳡𐳢𐳣𐳤𐳥𐳦𐳧𐳨𐳩𐳪𐳫𐳬𐳭𐳮𐳯𐳰𐳱𐳲"),
  (0x10D50, 0x10D65, "𐵰𐵱𐵲𐵳𐵴𐵵𐵶𐵷𐵸𐵹𐵺𐵻𐵼𐵽𐵾𐵿𐶀𐶁𐶂𐶃𐶄𐶅"),
  (0x118A0, 0x118BF, "𑣀𑣁𑣂𑣃𑣄𑣅𑣆𑣇𑣈𑣉𑣊𑣋𑣌𑣍𑣎𑣏𑣐𑣑𑣒𑣓𑣔𑣕𑣖𑣗𑣘𑣙𑣚𑣛𑣜𑣝𑣞𑣟"),
  (0x16E40, 0x16E5F, "𖹠𖹡𖹢𖹣𖹤𖹥𖹦𖹧𖹨𖹩𖹪𖹫𖹬𖹭𖹮𖹯𖹰𖹱𖹲𖹳𖹴𖹵𖹶𖹷𖹸𖹹𖹺𖹻𖹼𖹽𖹾𖹿"),
  (0x16EA0, 0x16EB8, "𖺻𖺼𖺽𖺾𖺿𖻀𖻁𖻂𖻃𖻄𖻅𖻆𖻇𖻈𖻉𖻊𖻋𖻌𖻍𖻎𖻏𖻐𖻑𖻒𖻓"),
  (0x1CCD6, 0x1CCF9, "abcdefghijklmnopqrstuvwxyz0123456789"),
  (0x1D400, 0x1D446, "abcdefghijklmnopqrstuvwxyzabcdefghijklmnopqrstuvwxyzabcdefghijklmnopqrs"),
  (0x1D447, 0x1D454, "tuvwxyzabcdefg"),
  (0x1D456, 0x1D49C, "ijklmnopqrstuvwxyzabcdefghijklmnopqrstuvwxyzabcdefghijklmnopqrstuvwxyza"),
  (0x1D49E, 0x1D49F, "cd"), (0x1D4A2, 0x1D4A2, "g"), (0x1D4A5, 0x1D4A6, "jk"),
  (0x1D4A9, 0x1D4AC, "nopq"), (0x1D4AE, 0x1D4B9, "stuvwxyzabcd"), (0x1D4BB, 0x1D4BB, "f"),
  (0x1D4BD, 0x1D4C3, "hijklmn"),
  (0x1D4C5, 0x1D505, "pqrstuvwxyzabcdefghijklmnopqrstuvwxyzabcdefghijklmnopqrstuvwxyzab"),
  (0x1D507, 0x1D50A, "defg"), (0x1D50D, 0x1D514, "jklmnopq"), (0x1D516, 0x1D51C, "stuvwxy"),
  (0x1D51E, 0x1D539, "abcdefghijklmnopqrstuvwxyzab"), (0x1D53B, 0x1D53E, "defg"),
  (0x1D540, 0x1D544, "ijklm"), (0x1D546, 0x1D546, "o"), (0x1D54A, 0x1D550, "stuvwxy"),
  (0x1D552, 0x1D598, "abcdefghijklmnopqrstuvwxyzabcdefghijklmnopqrstuvwxyzabcdefghijklmnopqrs"),
  (0x1D599, 0x1D5DF, "tuvwxyzabcdefghijklmnopqrstuvwxyzabcdefghijklmnopqrstuvwxyzabcdefghijkl"),
  (0x1D5E0, 0x1D626, "mnopqrstuvwxyzabcdefghijklmnopqrstuvwxyzabcdefghijklmnopqrstuvwxyzabcde"),
  (0x1D627, 0x1D66D, "fghijklmnopqrstuvwxyzabcdefghijklmnopqrstuvwxyzabcdefghijklmnopqrstuvwx"),
  (0x1D66E, 0x1D6A5, "yzabcdefghijklmnopqrstuvwxyzabcdefghijklmnopqrstuvwxyzıȷ"),
  (0x1D6A8, 0x1D6EE, "αβγδεζηθικλμνξοπρθστυφχψω∇αβγδεζηθικλμνξοπρσστυφχψω∂εθκφρπαβγδεζηθικλμν"),
  (0x1D6EF, 0x1D735, "ξοπρθστυφχψω∇αβγδεζηθικλμνξοπρσστυφχψω∂εθκφρπαβγδεζηθικλμνξοπρθστυφχψω∇"),
  (0x1D736, 0x1D77C, "αβγδεζηθικλμνξοπρσστυφχψω∂εθκφρπαβγδεζηθικλμνξοπρθστυφχψω∇αβγδεζηθικλμν"),
  (0x1D77D, 0x1D7C3, "ξοπρσστυφχψω∂εθκφρπαβγδεζηθικλμνξοπρθστυφχψω∇αβγδεζηθικλμνξοπρσστυφχψω∂"),
  (0x1D7C4, 0x1D7CB, "εθκφρπϝϝ"),
  (0x1D7CE, 0x1D7FF, "01234567890123456789012345678901234567890123456789"),
  (0x1E030, 0x1E06D, "абвгдежзиклмопрстуфхцчшыэюꚉәіјөүӏабвгдежзиклопсуфхцчшъыґіѕџҫꙑұ"),
  (0x1E900, 0x1E921, "𞤢𞤣𞤤𞤥𞤦𞤧𞤨𞤩𞤪𞤫𞤬𞤭𞤮𞤯𞤰𞤱𞤲𞤳𞤴𞤵𞤶𞤷𞤸𞤹𞤺𞤻𞤼𞤽𞤾𞤿𞥀𞥁𞥂𞥃"), (0x1EE00, 0x1EE03, "ابجد"),
  (0x1EE05, 0x1EE1F, "وزحطيكلمنسعفصقرشتثخذضظغٮںڡٯ"), (0x1EE21, 0x1EE22, "بج"),
  (0x1EE24, 0x1EE24, "ه"), (0x1EE27, 0x1EE27, "ح"), (0x1EE29, 0x1EE32, "يكلمنسعفصق"),
  (0x1EE34, 0x1EE37, "شتثخ"), (0x1EE39, 0x1EE39, "ض"), (0x1EE3B, 0x1EE3B, "غ"),
  (0x1EE42, 0x1EE42, "ج"), (0x1EE47, 0x1EE47, "ح"), (0x1EE49, 0x1EE49, "ي"),
  (0x1EE4B, 0x1EE4B, "ل"), (0x1EE4D, 0x1EE4F, "نسع"), (0x1EE51, 0x1EE52, "صق"),
  (0x1EE54, 0x1EE54, "ش"), (0x1EE57, 0x1EE57, "خ"), (0x1EE59, 0x1EE59, "ض"),
  (0x1EE5B, 0x1EE5B, "غ"), (0x1EE5D, 0x1EE5D, "ں"), (0x1EE5F, 0x1EE5F, "ٯ"),
  (0x1EE61, 0x1EE62, "بج"), (0x1EE64, 0x1EE64, "ه"), (0x1EE67, 0x1EE6A, "حطيك"),
  (0x1EE6C, 0x1EE72, "منسعفصق"), (0x1EE74, 0x1EE77, "شتثخ"), (0x1EE79, 0x1EE7C, "ضظغٮ"),
  (0x1EE7E, 0x1EE7E, "ڡ"), (0x1EE80, 0x1EE89, "ابجدهوزحطي"),
  (0x1EE8B, 0x1EE9B, "لمنسعفصقرشتثخذضظغ"), (0x1EEA1, 0x1EEA3, "بجد"), (0x1EEA5, 0x1EEA9, "وزحطي"),
  (0x1EEAB, 0x1EEBB, "لمنسعفصقرشتثخذضظغ"), (0x1F12B, 0x1F12C, "cr"),
  (0x1F130, 0x1F149, "abcdefghijklmnopqrstuvwxyz"), (0x1F202, 0x1F202, "サ"),
  (0x1F210, 0x1F23B, "手字双デ二多解天交映無料前後再新初終生販声吹演投捕一三遊左中右指走打禁空合満有月申割営配"), (0x1F250, 0x1F251, "得可"),
  (0x1FBF0, 0x1FBF9, "0123456789"),
  (0x2F800, 0x2F846, "丽丸乁𠄢你侮侻倂偺備僧像㒞𠘺免兔兤具𠔜㒹內再𠕋冗冤仌冬况𩇟凵刃㓟刻剆割剷㔕勇勉勤勺包匆北卉卑博即卽卿卿卿𠨬灰及叟𠭣叫叱吆咞吸呈周咢哶唐啓啣善善"),
  (0x2F847, 0x2F88D, "喙喫喳嗂圖嘆圗噑噴切壮城埴堍型堲報墬𡓤売壷夆多夢奢𡚨𡛪姬娛娧姘婦㛮㛼嬈嬾嬾𡧈寃寘寧寳𡬘寿将当尢㞁屠屮峀岍𡷤嵃𡷦嵮嵫嵼巡巢㠯巽帨帽幩㡢𢆃㡼庰庳庶"),
  (0x2F88E, 0x2F8D4, "廊𪎒廾𢌱𢌱舁弢弢㣇𣊸𦇚形彫㣣徚忍志忹悁㤺㤜悔𢛔惇慈慌慎慌慺憎憲憤憯懞懲懶成戛扝抱拔捐𢬌挽拼捨掃揤𢯱搢揅掩㨮摩摾撝摷㩬敏敬𣀊旣書晉㬙暑㬈㫤冒冕最"),
  (0x2F8D5, 0x2F91B, "暜肭䏙朗望朡杞杓𣏃㭉柺枅桒梅𣑭梎栟椔㮝楂榣槪檨𣚣櫛㰘次𣢧歔㱎歲殟殺殻𣪍𡴋𣫺汎𣲼沿泍汧洖派海流浩浸涅𣴞洴港湮㴳滋滇𣻑淹潮𣽞𣾎濆瀹瀞瀛㶖灊災灷炭𠔥"),
  (0x2F91C, 0x2F962, "煅𤉣熜𤎫爨爵牐𤘈犀犕𤜵𤠔獺王㺬玥㺸㺸瑇瑜瑱璅瓊㼛甤𤰶甾𤲒異𢆟瘐𤾡𤾸𥁄㿼䀈直𥃳𥃲𥄙𥄳眞真真睊䀹瞋䁆䂖𥐝硎碌磌䃣𥘦祖𥚚𥛅福秫䄯穀穊穏𥥼𥪧𥪧竮䈂𥮫篆"),
  (0x2F963, 0x2F9A9, "築䈧𥲀糒䊠糨糣紀𥾆絣䌁緇縂繅䌴𦈨𦉇䍙𦋙罺𦌾羕翺者𦓚𦔣聠𦖨聰𣍟䏕育脃䐋脾媵𦞧𦞵𣎓𣎜舁舄辞䑫芑芋芝劳花芳芽苦𦬼若茝荣莭茣莽菧著荓菊菌菜𦰶𦵫𦳕䔫蓱蓳"),
  (0x2F9AA, 0x2F9F0, "蔖𧏊蕤𦼬䕝䕡𦾱𧃒䕫虐虜虧虩蚩蚈蜎蛢蝹蜨蝫螆䗗蟡蠁䗹衠衣𧙧裗裞䘵裺㒻𧢮𧥦䚾䛇誠諭變豕𧲨貫賁贛起𧼯𠠄跋趼跰𠣞軔輸𨗒𨗭邔郱鄑𨜮鄛鈸鋗鋘鉼鏹鐕𨯺開䦕閷"),
  (0x2F9F1, 0x2FA1D, "𨵷䧦雃嶲霣𩅅𩈚䩮䩶韠𩐊䪲𩒖頋頋頩𩖶飢䬳餩馧駂駾䯎𩬰鬒鱀鳽䳎䳭鵧𪃎䳸𪄅𪈎𪊑麻䵖黹黾鼅鼏鼖鼻𪘀")]

/-- Ranges of code points that are replaced by several characters each: the first and the last code
point, and what each of them becomes. -/
def wordTable : Array (Nat × Nat × List String) := #[
  (0xA8, 0xA8, [" \u0308"]), (0xAF, 0xAF, [" \u0304"]), (0xB4, 0xB4, [" \u0301"]),
  (0xB8, 0xB8, [" \u0327"]), (0xBC, 0xBE, ["1⁄4", "1⁄2", "3⁄4"]), (0x130, 0x130, ["i\u0307"]),
  (0x132, 0x133, ["ij", "ij"]), (0x13F, 0x140, ["l·", "l·"]), (0x149, 0x149, ["ʼn"]),
  (0x1C4, 0x1CB, ["dž", "dž", "dž", "lj", "lj", "lj", "nj", "nj"]), (0x1CC, 0x1CC, ["nj"]),
  (0x1F1, 0x1F3, ["dz", "dz", "dz"]),
  (0x2D8, 0x2DD, [" \u0306", " \u0307", " \u030a", " \u0328", " \u0303", " \u030b"]),
  (0x344, 0x344, ["\u0308\u0301"]), (0x37A, 0x37A, [" ι"]),
  (0x384, 0x385, [" \u0301", " \u0308\u0301"]), (0x587, 0x587, ["եւ"]),
  (0x675, 0x678, ["اٴ", "وٴ", "ۇٴ", "يٴ"]),
  (0x958, 0x95B, ["क\u093c", "ख\u093c", "ग\u093c", "ज\u093c"]),
  (0x95C, 0x95F, ["ड\u093c", "ढ\u093c", "फ\u093c", "य\u093c"]),
  (0x9DC, 0x9DD, ["ড\u09bc", "ঢ\u09bc"]), (0x9DF, 0x9DF, ["য\u09bc"]), (0xA33, 0xA33, ["ਲ\u0a3c"]),
  (0xA36, 0xA36, ["ਸ\u0a3c"]), (0xA59, 0xA5B, ["ਖ\u0a3c", "ਗ\u0a3c", "ਜ\u0a3c"]),
  (0xA5E, 0xA5E, ["ਫ\u0a3c"]), (0xB5C, 0xB5D, ["ଡ\u0b3c", "ଢ\u0b3c"]), (0xE33, 0xE33, ["\u0e4dา"]),
  (0xEB3, 0xEB3, ["\u0ecdາ"]), (0xEDC, 0xEDD, ["ຫນ", "ຫມ"]), (0xF43, 0xF43, ["ག\u0fb7"]),
  (0xF4D, 0xF4D, ["ཌ\u0fb7"]), (0xF52, 0xF52, ["ད\u0fb7"]), (0xF57, 0xF57, ["བ\u0fb7"]),
  (0xF5C, 0xF5C, ["ཛ\u0fb7"]), (0xF69, 0xF69, ["ཀ\u0fb5"]), (0xF73, 0xF73, ["\u0f71\u0f72"]),
  (0xF75, 0xF77, ["\u0f71\u0f74", "\u0fb2\u0f80", "\u0fb2\u0f71\u0f80"]),
  (0xF78, 0xF79, ["\u0fb3\u0f80", "\u0fb3\u0f71\u0f80"]), (0xF81, 0xF81, ["\u0f71\u0f80"]),
  (0xF93, 0xF93, ["\u0f92\u0fb7"]), (0xF9D, 0xF9D, ["\u0f9c\u0fb7"]),
  (0xFA2, 0xFA2, ["\u0fa1\u0fb7"]), (0xFA7, 0xFA7, ["\u0fa6\u0fb7"]),
  (0xFAC, 0xFAC, ["\u0fab\u0fb7"]), (0xFB9, 0xFB9, ["\u0f90\u0fb5"]), (0x1E9A, 0x1E9A, ["aʾ"]),
  (0x1F80, 0x1F87, ["ἀι", "ἁι", "ἂι", "ἃι", "ἄι", "ἅι", "ἆι", "ἇι"]),
  (0x1F88, 0x1F8F, ["ἀι", "ἁι", "ἂι", "ἃι", "ἄι", "ἅι", "ἆι", "ἇι"]),
  (0x1F90, 0x1F97, ["ἠι", "ἡι", "ἢι", "ἣι", "ἤι", "ἥι", "ἦι", "ἧι"]),
  (0x1F98, 0x1F9F, ["ἠι", "ἡι", "ἢι", "ἣι", "ἤι", "ἥι", "ἦι", "ἧι"]),
  (0x1FA0, 0x1FA7, ["ὠι", "ὡι", "ὢι", "ὣι", "ὤι", "ὥι", "ὦι", "ὧι"]),
  (0x1FA8, 0x1FAF, ["ὠι", "ὡι", "ὢι", "ὣι", "ὤι", "ὥι", "ὦι", "ὧι"]),
  (0x1FB2, 0x1FB4, ["ὰι", "αι", "άι"]), (0x1FB7, 0x1FB7, ["ᾶι"]),
  (0x1FBC, 0x1FBD, ["αι", " \u0313"]),
  (0x1FBF, 0x1FC4, [" \u0313", " \u0342", " \u0308\u0342", "ὴι", "ηι", "ήι"]),
  (0x1FC7, 0x1FC7, ["ῆι"]),
  (0x1FCC, 0x1FCF, ["ηι", " \u0313\u0300", " \u0313\u0301", " \u0313\u0342"]),
  (0x1FDD, 0x1FDF, [" \u0314\u0300", " \u0314\u0301", " \u0314\u0342"]),
  (0x1FED, 0x1FEE, [" \u0308\u0300", " \u0308\u0301"]), (0x1FF2, 0x1FF4, ["ὼι", "ωι", "ώι"]),
  (0x1FF7, 0x1FF7, ["ῶι"]), (0x1FFC, 0x1FFE, ["ωι", " \u0301", " \u0314"]),
  (0x2017, 0x2017, [" \u0333"]), (0x2033, 0x2034, ["′′", "′′′"]), (0x2036, 0x2037, ["‵‵", "‵‵‵"]),
  (0x203C, 0x203C, ["!!"]), (0x203E, 0x203E, [" \u0305"]), (0x2047, 0x2049, ["??", "?!", "!?"]),
  (0x2057, 0x2057, ["′′′′"]), (0x20A8, 0x20A8, ["rs"]), (0x2100, 0x2101, ["a/c", "a/s"]),
  (0x2103, 0x2103, ["°c"]), (0x2105, 0x2106, ["c/o", "c/u"]), (0x2109, 0x2109, ["°f"]),
  (0x2116, 0x2116, ["no"]), (0x2120, 0x2122, ["sm", "tel", "tm"]), (0x213B, 0x213B, ["fax"]),
  (0x2150, 0x2157, ["1⁄7", "1⁄9", "1⁄10", "1⁄3", "2⁄3", "1⁄5", "2⁄5", "3⁄5"]),
  (0x2158, 0x215F, ["4⁄5", "1⁄6", "5⁄6", "1⁄8", "3⁄8", "5⁄8", "7⁄8", "1⁄"]),
  (0x2161, 0x2163, ["ii", "iii", "iv"]), (0x2165, 0x2168, ["vi", "vii", "viii", "ix"]),
  (0x216A, 0x216B, ["xi", "xii"]), (0x2171, 0x2173, ["ii", "iii", "iv"]),
  (0x2175, 0x2178, ["vi", "vii", "viii", "ix"]), (0x217A, 0x217B, ["xi", "xii"]),
  (0x2189, 0x2189, ["0⁄3"]), (0x222C, 0x222D, ["∫∫", "∫∫∫"]), (0x222F, 0x2230, ["∮∮", "∮∮∮"]),
  (0x2469, 0x2470, ["10", "11", "12", "13", "14", "15", "16", "17"]),
  (0x2471, 0x2478, ["18", "19", "20", "(1)", "(2)", "(3)", "(4)", "(5)"]),
  (0x2479, 0x2480, ["(6)", "(7)", "(8)", "(9)", "(10)", "(11)", "(12)", "(13)"]),
  (0x2481, 0x2487, ["(14)", "(15)", "(16)", "(17)", "(18)", "(19)", "(20)"]),
  (0x249C, 0x24A3, ["(a)", "(b)", "(c)", "(d)", "(e)", "(f)", "(g)", "(h)"]),
  (0x24A4, 0x24AB, ["(i)", "(j)", "(k)", "(l)", "(m)", "(n)", "(o)", "(p)"]),
  (0x24AC, 0x24B3, ["(q)", "(r)", "(s)", "(t)", "(u)", "(v)", "(w)", "(x)"]),
  (0x24B4, 0x24B5, ["(y)", "(z)"]), (0x2A0C, 0x2A0C, ["∫∫∫∫"]),
  (0x2A74, 0x2A76, ["::=", "==", "==="]), (0x2ADC, 0x2ADC, ["⫝\u0338"]),
  (0x309B, 0x309C, [" \u3099", " \u309a"]), (0x309F, 0x309F, ["より"]), (0x30FF, 0x30FF, ["コト"]),
  (0x3200, 0x3207, ["(ᄀ)", "(ᄂ)", "(ᄃ)", "(ᄅ)", "(ᄆ)", "(ᄇ)", "(ᄉ)", "(ᄋ)"]),
  (0x3208, 0x320F, ["(ᄌ)", "(ᄎ)", "(ᄏ)", "(ᄐ)", "(ᄑ)", "(ᄒ)", "(가)", "(나)"]),
  (0x3210, 0x3217, ["(다)", "(라)", "(마)", "(바)", "(사)", "(아)", "(자)", "(차)"]),
  (0x3218, 0x321E, ["(카)", "(타)", "(파)", "(하)", "(주)", "(오전)", "(오후)"]),
  (0x3220, 0x3227, ["(一)", "(二)", "(三)", "(四)", "(五)", "(六)", "(七)", "(八)"]),
  (0x3228, 0x322F, ["(九)", "(十)", "(月)", "(火)", "(水)", "(木)", "(金)", "(土)"]),
  (0x3230, 0x3237, ["(日)", "(株)", "(有)", "(社)", "(名)", "(特)", "(財)", "(祝)"]),
  (0x3238, 0x323F, ["(労)", "(代)", "(呼)", "(学)", "(監)", "(企)", "(資)", "(協)"]),
  (0x3240, 0x3243, ["(祭)", "(休)", "(自)", "(至)"]),
  (0x3250, 0x3257, ["pte", "21", "22", "23", "24", "25", "26", "27"]),
  (0x3258, 0x325F, ["28", "29", "30", "31", "32", "33", "34", "35"]),
  (0x327C, 0x327D, ["참고", "주의"]),
  (0x32B1, 0x32B8, ["36", "37", "38", "39", "40", "41", "42", "43"]),
  (0x32B9, 0x32C0, ["44", "45", "46", "47", "48", "49", "50", "1月"]),
  (0x32C1, 0x32C8, ["2月", "3月", "4月", "5月", "6月", "7月", "8月", "9月"]),
  (0x32C9, 0x32CF, ["10月", "11月", "12月", "hg", "erg", "ev", "ltd"]),
  (0x32FF, 0x3306, ["令和", "アパート", "アルファ", "アンペア", "アール", "イニング", "インチ", "ウォン"]),
  (0x3307, 0x330E, ["エスクード", "エーカー", "オンス", "オーム", "カイリ", "カラット", "カロリー", "ガロン"]),
  (0x330F, 0x3316, ["ガンマ", "ギガ", "ギニー", "キュリー", "ギルダー", "キロ", "キログラム", "キロメートル"]),
  (0x3317, 0x331E, ["キロワット", "グラム", "グラムトン", "クルゼイロ", "クローネ", "ケース", "コルナ", "コーポ"]),
  (0x331F, 0x3326, ["サイクル", "サンチーム", "シリング", "センチ", "セント", "ダース", "デシ", "ドル"]),
  (0x3327, 0x332E, ["トン", "ナノ", "ノット", "ハイツ", "パーセント", "パーツ", "バーレル", "ピアストル"]),
  (0x332F, 0x3336, ["ピクル", "ピコ", "ビル", "ファラッド", "フィート", "ブッシェル", "フラン", "ヘクタール"]),
  (0x3337, 0x333E, ["ペソ", "ペニヒ", "ヘルツ", "ペンス", "ページ", "ベータ", "ポイント", "ボルト"]),
  (0x333F, 0x3346, ["ホン", "ポンド", "ホール", "ホーン", "マイクロ", "マイル", "マッハ", "マルク"]),
  (0x3347, 0x334E, ["マンション", "ミクロン", "ミリ", "ミリバール", "メガ", "メガトン", "メートル", "ヤード"]),
  (0x334F, 0x3356, ["ヤール", "ユアン", "リットル", "リラ", "ルピー", "ルーブル", "レム", "レントゲン"]),
  (0x3357, 0x335E, ["ワット", "0点", "1点", "2点", "3点", "4点", "5点", "6点"]),
  (0x335F, 0x3366, ["7点", "8点", "9点", "10点", "11点", "12点", "13点", "14点"]),
  (0x3367, 0x336E, ["15点", "16点", "17点", "18点", "19点", "20点", "21点", "22点"]),
  (0x336F, 0x3376, ["23点", "24点", "hpa", "da", "au", "bar", "ov", "pc"]),
  (0x3377, 0x337E, ["dm", "dm2", "dm3", "iu", "平成", "昭和", "大正", "明治"]),
  (0x337F, 0x3386, ["株式会社", "pa", "na", "μa", "ma", "ka", "kb", "mb"]),
  (0x3387, 0x338E, ["gb", "cal", "kcal", "pf", "nf", "μf", "μg", "mg"]),
  (0x338F, 0x3396, ["kg", "hz", "khz", "mhz", "ghz", "thz", "μl", "ml"]),
  (0x3397, 0x339E, ["dl", "kl", "fm", "nm", "μm", "mm", "cm", "km"]),
  (0x339F, 0x33A6, ["mm2", "cm2", "m2", "km2", "mm3", "cm3", "m3", "km3"]),
  (0x33A7, 0x33AE, ["m∕s", "m∕s2", "pa", "kpa", "mpa", "gpa", "rad", "rad∕s"]),
  (0x33AF, 0x33B6, ["rad∕s2", "ps", "ns", "μs", "ms", "pv", "nv", "μv"]),
  (0x33B7, 0x33BE, ["mv", "kv", "mv", "pw", "nw", "μw", "mw", "kw"]),
  (0x33BF, 0x33C1, ["mw", "kω", "mω"]), (0x33C3, 0x33C6, ["bq", "cc", "cd", "c∕kg"]),
  (0x33C8, 0x33CF, ["db", "gy", "ha", "hp", "in", "kk", "km", "kt"]),
  (0x33D0, 0x33D7, ["lm", "ln", "log", "lx", "mb", "mil", "mol", "ph"]),
  (0x33D9, 0x33E0, ["ppm", "pr", "sr", "sv", "wb", "v∕m", "a∕m", "1日"]),
  (0x33E1, 0x33E8, ["2日", "3日", "4日", "5日", "6日", "7日", "8日", "9日"]),
  (0x33E9, 0x33F0, ["10日", "11日", "12日", "13日", "14日", "15日", "16日", "17日"]),
  (0x33F1, 0x33F8, ["18日", "19日", "20日", "21日", "22日", "23日", "24日", "25日"]),
  (0x33F9, 0x33FF, ["26日", "27日", "28日", "29日", "30日", "31日", "gal"]),
  (0xFB00, 0xFB06, ["ff", "fi", "fl", "ffi", "ffl", "st", "st"]),
  (0xFB13, 0xFB17, ["մն", "մե", "մի", "վն", "մխ"]), (0xFB1D, 0xFB1D, ["י\u05b4"]),
  (0xFB1F, 0xFB1F, ["ײ\u05b7"]),
  (0xFB2A, 0xFB2D, ["ש\u05c1", "ש\u05c2", "ש\u05bc\u05c1", "ש\u05bc\u05c2"]),
  (0xFB2E, 0xFB31, ["א\u05b7", "א\u05b8", "א\u05bc", "ב\u05bc"]),
  (0xFB32, 0xFB36, ["ג\u05bc", "ד\u05bc", "ה\u05bc", "ו\u05bc", "ז\u05bc"]),
  (0xFB38, 0xFB3C, ["ט\u05bc", "י\u05bc", "ך\u05bc", "כ\u05bc", "ל\u05bc"]),
  (0xFB3E, 0xFB3E, ["מ\u05bc"]), (0xFB40, 0xFB41, ["נ\u05bc", "ס\u05bc"]),
  (0xFB43, 0xFB44, ["ף\u05bc", "פ\u05bc"]),
  (0xFB46, 0xFB49, ["צ\u05bc", "ק\u05bc", "ר\u05bc", "ש\u05bc"]),
  (0xFB4A, 0xFB4D, ["ת\u05bc", "ו\u05b9", "ב\u05bf", "כ\u05bf"]),
  (0xFB4E, 0xFB4F, ["פ\u05bf", "אל"]), (0xFBDD, 0xFBDD, ["ۇٴ"]),
  (0xFBEA, 0xFBF1, ["ئا", "ئا", "ئە", "ئە", "ئو", "ئو", "ئۇ", "ئۇ"]),
  (0xFBF2, 0xFBF9, ["ئۆ", "ئۆ", "ئۈ", "ئۈ", "ئې", "ئې", "ئې", "ئى"]),
  (0xFBFA, 0xFBFB, ["ئى", "ئى"]),
  (0xFC00, 0xFC07, ["ئج", "ئح", "ئم", "ئى", "ئي", "بج", "بح", "بخ"]),
  (0xFC08, 0xFC0F, ["بم", "بى", "بي", "تج", "تح", "تخ", "تم", "تى"]),
  (0xFC10, 0xFC17, ["تي", "ثج", "ثم", "ثى", "ثي", "جح", "جم", "حج"]),
  (0xFC18, 0xFC1F, ["حم", "خج", "خح", "خم", "سج", "سح", "سخ", "سم"]),
  (0xFC20, 0xFC27, ["صح", "صم", "ضج", "ضح", "ضخ", "ضم", "طح", "طم"]),
  (0xFC28, 0xFC2F, ["ظم", "عج", "عم", "غج", "غم", "فج", "فح", "فخ"]),
  (0xFC30, 0xFC37, ["فم", "فى", "في", "قح", "قم", "قى", "قي", "كا"]),
  (0xFC38, 0xFC3F, ["كج", "كح", "كخ", "كل", "كم", "كى", "كي", "لج"]),
  (0xFC40, 0xFC47, ["لح", "لخ", "لم", "لى", "لي", "مج", "مح", "مخ"]),
  (0xFC48, 0xFC4F, ["مم", "مى", "مي", "نج", "نح", "نخ", "نم", "نى"]),
  (0xFC50, 0xFC57, ["ني", "هج", "هم", "هى", "هي", "يج", "يح", "يخ"]),
  (0xFC58, 0xFC5B, ["يم", "يى", "يي", "ذ\u0670"]),
  (0xFC5C, 0xFC5F, ["ر\u0670", "ى\u0670", " \u064c\u0651", " \u064d\u0651"]),
  (0xFC60, 0xFC63, [" \u064e\u0651", " \u064f\u0651", " \u0650\u0651", " \u0651\u0670"]),
  (0xFC64, 0xFC67, ["ئر", "ئز", "ئم", "ئن"]),
  (0xFC68, 0xFC6F, ["ئى", "ئي", "بر", "بز", "بم", "بن", "بى", "بي"]),
  (0xFC70, 0xFC77, ["تر", "تز", "تم", "تن", "تى", "تي", "ثر", "ثز"]),
  (0xFC78, 0xFC7F, ["ثم", "ثن", "ثى", "ثي", "فى", "في", "قى", "قي"]),
  (0xFC80, 0xFC87, ["كا", "كل", "كم", "كى", "كي", "لم", "لى", "لي"]),
  (0xFC88, 0xFC8F, ["ما", "مم", "نر", "نز", "نم", "نن", "نى", "ني"]),
  (0xFC90, 0xFC97, ["ى\u0670", "ير", "يز", "يم", "ين", "يى", "يي", "ئج"]),
  (0xFC98, 0xFC9F, ["ئح", "ئخ", "ئم", "ئه", "بج", "بح", "بخ", "بم"]),
  (0xFCA0, 0xFCA7, ["به", "تج", "تح", "تخ", "تم", "ته", "ثم", "جح"]),
  (0xFCA8, 0xFCAF, ["جم", "حج", "حم", "خج", "خم", "سج", "سح", "سخ"]),
  (0xFCB0, 0xFCB7, ["سم", "صح", "صخ", "صم", "ضج", "ضح", "ضخ", "ضم"]),
  (0xFCB8, 0xFCBF, ["طح", "ظم", "عج", "عم", "غج", "غم", "فج", "فح"]),
  (0xFCC0, 0xFCC7, ["فخ", "فم", "قح", "قم", "كج", "كح", "كخ", "كل"]),
  (0xFCC8, 0xFCCF, ["كم", "لج", "لح", "لخ", "لم", "له", "مج", "مح"]),
  (0xFCD0, 0xFCD7, ["مخ", "مم", "نج", "نح", "نخ", "نم", "نه", "هج"]),
  (0xFCD8, 0xFCDF, ["هم", "ه\u0670", "يج", "يح", "يخ", "يم", "يه", "ئم"]),
  (0xFCE0, 0xFCE7, ["ئه", "بم", "به", "تم", "ته", "ثم", "ثه", "سم"]),
  (0xFCE8, 0xFCEF, ["سه", "شم", "شه", "كل", "كم", "لم", "نم", "نه"]),
  (0xFCF0, 0xFCF3, ["يم", "يه", "ـ\u064e\u0651", "ـ\u064f\u0651"]),
  (0xFCF4, 0xFCF7, ["ـ\u0650\u0651", "طى", "طي", "عى"]),
  (0xFCF8, 0xFCFF, ["عي", "غى", "غي", "سى", "سي", "شى", "شي", "حى"]),
  (0xFD00, 0xFD07, ["حي", "جى", "جي", "خى", "خي", "صى", "صي", "ضى"]),
  (0xFD08, 0xFD0F, ["ضي", "شج", "شح", "شخ", "شم", "شر", "سر", "صر"]),
  (0xFD10, 0xFD17, ["ضر", "طى", "طي", "عى", "عي", "غى", "غي", "سى"]),
  (0xFD18, 0xFD1F, ["سي", "شى", "شي", "حى", "حي", "جى", "جي", "خى"]),
  (0xFD20, 0xFD27, ["خي", "صى", "صي", "ضى", "ضي", "شج", "شح", "شخ"]),
  (0xFD28, 0xFD2F, ["شم", "شر", "سر", "صر", "ضر", "شج", "شح", "شخ"]),
  (0xFD30, 0xFD37, ["شم", "سه", "شه", "طم", "سج", "سح", "سخ", "شج"]),
  (0xFD38, 0xFD3D, ["شح", "شخ", "طم", "ظم", "ا\u064b", "ا\u064b"]),
  (0xFD50, 0xFD57, ["تجم", "تحج", "تحج", "تحم", "تخم", "تمج", "تمح", "تمخ"]),
  (0xFD58, 0xFD5F, ["جمح", "جمح", "حمي", "حمى", "سحج", "سجح", "سجى", "سمح"]),
  (0xFD60, 0xFD67, ["سمح", "سمج", "سمم", "سمم", "صحح", "صحح", "صمم", "شحم"]),
  (0xFD68, 0xFD6F, ["شحم", "شجي", "شمخ", "شمخ", "شمم", "شمم", "ضحى", "ضخم"]),
  (0xFD70, 0xFD77, ["ضخم", "طمح", "طمح", "طمم", "طمي", "عجم", "عمم", "عمم"]),
  (0xFD78, 0xFD7F, ["عمى", "غمم", "غمي", "غمى", "فخم", "فخم", "قمح", "قمم"]),
  (0xFD80, 0xFD87, ["لحم", "لحي", "لحى", "لجج", "لجج", "لخم", "لخم", "لمح"]),
  (0xFD88, 0xFD8F, ["لمح", "محج", "محم", "محي", "مجح", "مجم", "مخج", "مخم"]),
  (0xFD92, 0xFD99, ["مجخ", "همج", "همم", "نحم", "نحى", "نجم", "نجم", "نجى"]),
  (0xFD9A, 0xFDA1, ["نمي", "نمى", "يمم", "يمم", "بخي", "تجي", "تجى", "تخي"]),
  (0xFDA2, 0xFDA9, ["تخى", "تمي", "تمى", "جمي", "جحى", "جمى", "سخى", "صحي"]),
  (0xFDAA, 0xFDB1, ["شحي", "ضحي", "لجي", "لمي", "يحي", "يجي", "يمي", "ممي"]),
  (0xFDB2, 0xFDB9, ["قمي", "نحي", "قمح", "لحم", "عمي", "كمي", "نجح", "مخي"]),
  (0xFDBA, 0xFDC1, ["لجم", "كمم", "لجم", "نجح", "جحي", "حجي", "مجي", "فمي"]),
  (0xFDC2, 0xFDC7, ["بحي", "كمم", "عجم", "صمم", "سخي", "نجي"]),
  (0xFDF0, 0xFDF7, ["صلے", "قلے", "الله", "اكبر", "محمد", "صلعم", "رسول", "عليه"]),
  (0xFDF8, 0xFDFC, ["وسلم", "صلى", "صلى الله عليه وسلم", "جل جلاله", "ریال"]),
  (0xFE49, 0xFE4C, [" \u0305", " \u0305", " \u0305", " \u0305"]),
  (0xFE70, 0xFE72, [" \u064b", "ـ\u064b", " \u064c"]), (0xFE74, 0xFE74, [" \u064d"]),
  (0xFE76, 0xFE79, [" \u064e", "ـ\u064e", " \u064f", "ـ\u064f"]),
  (0xFE7A, 0xFE7D, [" \u0650", "ـ\u0650", " \u0651", "ـ\u0651"]),
  (0xFE7E, 0xFE7F, [" \u0652", "ـ\u0652"]),
  (0xFEF5, 0xFEFC, ["لآ", "لآ", "لأ", "لأ", "لإ", "لإ", "لا", "لا"]), (0xFFE3, 0xFFE3, [" \u0304"]),
  (0x1D15E, 0x1D164, ["𝅗𝅥", "𝅘𝅥", "𝅘𝅥𝅮", "𝅘𝅥𝅯", "𝅘𝅥𝅰", "𝅘𝅥𝅱", "𝅘𝅥𝅲"]),
  (0x1D1BB, 0x1D1C0, ["𝆹𝅥", "𝆺𝅥", "𝆹𝅥𝅮", "𝆺𝅥𝅮", "𝆹𝅥𝅯", "𝆺𝅥𝅯"]),
  (0x1F101, 0x1F108, ["0,", "1,", "2,", "3,", "4,", "5,", "6,", "7,"]),
  (0x1F109, 0x1F10A, ["8,", "9,"]),
  (0x1F110, 0x1F117, ["(a)", "(b)", "(c)", "(d)", "(e)", "(f)", "(g)", "(h)"]),
  (0x1F118, 0x1F11F, ["(i)", "(j)", "(k)", "(l)", "(m)", "(n)", "(o)", "(p)"]),
  (0x1F120, 0x1F127, ["(q)", "(r)", "(s)", "(t)", "(u)", "(v)", "(w)", "(x)"]),
  (0x1F128, 0x1F12A, ["(y)", "(z)", "〔s〕"]), (0x1F12D, 0x1F12E, ["cd", "wz"]),
  (0x1F14A, 0x1F14F, ["hv", "mv", "sd", "ss", "ppv", "wc"]), (0x1F16A, 0x1F16C, ["mc", "md", "mr"]),
  (0x1F190, 0x1F190, ["dj"]), (0x1F200, 0x1F201, ["ほか", "ココ"]),
  (0x1F240, 0x1F247, ["〔本〕", "〔三〕", "〔二〕", "〔安〕", "〔点〕", "〔打〕", "〔盗〕", "〔勝〕"]),
  (0x1F248, 0x1F248, ["〔敗〕"])]

/-- What a code point beyond ASCII is replaced by. -/
def replacement? (c : Char) : Option (List Char) :=
  match letterTable.find? fun r => r.1 ≤ c.toNat && c.toNat ≤ r.2.1 with
  | some (first, _, text) => (text.toList[c.toNat - first]?).map ([·])
  | none =>
    match wordTable.find? fun r => r.1 ≤ c.toNat && c.toNat ≤ r.2.1 with
    | some (first, _, words) => (words[c.toNat - first]?).map String.toList
    | none => none

/-- What a character becomes in the plain form of a name; nothing, if no name may hold it. -/
def plain? (c : Char) : Option (List Char) :=
  if c.toNat < 0x80 then some [c.toLower]
  else if refusedRanges.holds c then none
  else if droppedRanges.holds c then some []
  else some ((replacement? c).getD [c])

end CallWatch.Url
