import ShapeMatch.Text.CodePoints

/-! Upper and lower case letters, and the texts that are wholly upper case. -/
namespace ShapeMatch.Text

/-- The letters that are upper case. -/
def upperCase : CodePoints := .ofHex
  "41-5A C0-D6 D8-DE 100:136 139:147 14A:178 179:17D 181-182 184:186 187:189 18A-18B 18E-191
   193-194 196-198 19C-19D 19F-1A0 1A2:1A6 1A7:1A9 1AC:1AE 1AF:1B1 1B2-1B3 1B5:1B7 1B8 1BC 1C4
   1C7 1CA 1CD:1DB 1DE:1EE 1F1 1F4:1F6 1F7-1F8 1FA:232 23A-23B 23D-23E 241:243 244-246 248:24E
   370:372 376 37F 386:388 389-38A 38C:38E 38F:391 392-3A1 3A3-3AB 3CF 3D2-3D4 3D8:3EE 3F4
   3F7:3F9 3FA 3FD-42F 460:480 48A:4C0 4C1:4CD 4D0:52E 531-556 10A0-10C5 10C7 10CD 13A0-13F5
   1C90-1CBA 1CBD-1CBF 1E00:1E94 1E9E:1EFE 1F08-1F0F 1F18-1F1D 1F28-1F2F 1F38-1F3F 1F48-1F4D
   1F59:1F5F 1F68-1F6F 1FB8-1FBB 1FC8-1FCB 1FD8-1FDB 1FE8-1FEC 1FF8-1FFB 2102 2107 210B-210D
   2110-2112 2115 2119-211D 2124:212A 212B-212D 2130-2133 213E-213F 2145 2160-216F 2183
   24B6-24CF 2C00-2C2F 2C60:2C62 2C63-2C64 2C67:2C6D 2C6E-2C70 2C72 2C75 2C7E-2C80 2C82:2CE2
   2CEB:2CED 2CF2 A640:A66C A680:A69A A722:A72E A732:A76E A779:A77D A77E:A786 A78B:A78D
   A790:A792 A796:A7AA A7AB-A7AE A7B0-A7B4 A7B6:A7C4 A7C5-A7C7 A7C9 A7D0 A7D6:A7D8 A7F5
   FF21-FF3A 10400-10427 104B0-104D3 10570-1057A 1057C-1058A 1058C-10592 10594-10595
   10C80-10CB2 118A0-118BF 16E40-16E5F 1D400-1D419 1D434-1D44D 1D468-1D481 1D49C:1D49E 1D49F
   1D4A2 1D4A5-1D4A6 1D4A9-1D4AC 1D4AE-1D4B5 1D4D0-1D4E9 1D504-1D505 1D507-1D50A 1D50D-1D514
   1D516-1D51C 1D538-1D539 1D53B-1D53E 1D540-1D544 1D546 1D54A-1D550 1D56C-1D585 1D5A0-1D5B9
   1D5D4-1D5ED 1D608-1D621 1D63C-1D655 1D670-1D689 1D6A8-1D6C0 1D6E2-1D6FA 1D71C-1D734
   1D756-1D76E 1D790-1D7A8 1D7CA 1E900-1E921 1F130-1F149 1F150-1F169 1F170-1F189"

/-- The letters that are lower case, or written as a capital before small letters. -/
def lowerCase : CodePoints := .ofHex
  "61-7A AA B5 BA DF-F6 F8-FF 101:137 138:148 149:177 17A:17E 17F-180 183:185 188 18C-18D 192
   195 199-19B 19E 1A1:1A5 1A8:1AA 1AB:1AD 1B0 1B4:1B6 1B9-1BA 1BD-1BF 1C5-1C6 1C8-1C9 1CB-1CC
   1CE:1DC 1DD:1EF 1F0:1F2 1F3:1F5 1F9:233 234-239 23C 23F-240 242 247:24F 250-293 295-2B8
   2C0-2C1 2E0-2E4 345 371:373 377 37A-37D 390 3AC-3CE 3D0-3D1 3D5-3D7 3D9:3EF 3F0-3F3 3F5 3F8
   3FB-3FC 430-45F 461:481 48B:4BF 4C2:4CE 4CF:52F 560-588 10D0-10FA 10FD-10FF 13F8-13FD
   1C80-1C88 1D00-1DBF 1E01:1E95 1E96-1E9D 1E9F:1EFF 1F00-1F07 1F10-1F15 1F20-1F27 1F30-1F37
   1F40-1F45 1F50-1F57 1F60-1F67 1F70-1F7D 1F80-1FB4 1FB6-1FB7 1FBC:1FBE 1FC2-1FC4 1FC6-1FC7
   1FCC 1FD0-1FD3 1FD6-1FD7 1FE0-1FE7 1FF2-1FF4 1FF6-1FF7 1FFC 2071 207F 2090-209C 210A
   210E-210F 2113 212F 2134 2139 213C-213D 2146-2149 214E 2170-217F 2184 24D0-24E9 2C30-2C5F
   2C61 2C65-2C66 2C68:2C6C 2C71:2C73 2C74:2C76 2C77-2C7D 2C81:2CE3 2CE4 2CEC:2CEE 2CF3
   2D00-2D25 2D27 2D2D A641:A66D A681:A69B A69C-A69D A723:A72F A730-A731 A733:A76F A770-A778
   A77A:A77C A77F:A787 A78C:A78E A791:A793 A794-A795 A797:A7A9 A7AF A7B5:A7C3 A7C8:A7CA
   A7D1:A7D9 A7F6:A7F8 A7F9-A7FA AB30-AB5A AB5C-AB68 AB70-ABBF FB00-FB06 FB13-FB17 FF41-FF5A
   10428-1044F 104D8-104FB 10597-105A1 105A3-105B1 105B3-105B9 105BB-105BC 10780 10783-10785
   10787-107B0 107B2-107BA 10CC0-10CF2 118C0-118DF 16E60-16E7F 1D41A-1D433 1D44E-1D454
   1D456-1D467 1D482-1D49B 1D4B6-1D4B9 1D4BB:1D4BD 1D4BE-1D4C3 1D4C5-1D4CF 1D4EA-1D503
   1D51E-1D537 1D552-1D56B 1D586-1D59F 1D5BA-1D5D3 1D5EE-1D607 1D622-1D63B 1D656-1D66F
   1D68A-1D6A5 1D6C2-1D6DA 1D6DC-1D6E1 1D6FC-1D714 1D716-1D71B 1D736-1D74E 1D750-1D755
   1D770-1D788 1D78A-1D78F 1D7AA-1D7C2 1D7C4-1D7C9 1D7CB 1DF00-1DF09 1DF0B-1DF1E 1E922-1E943"

/-- A text with an upper case letter in it and none that is lower case. Characters
without case do not count. -/
def isUpperCase (s : String) : Bool :=
  s.toList.any (upperCase.contains ·.toNat) && !s.toList.any (lowerCase.contains ·.toNat)

end ShapeMatch.Text
