/-!
# Case mappings of all characters

Data of the Unicode standard, version 16.0. A run `first,last,step,target` maps every character from
the first to the last that lies a multiple of the step behind the first, each by the distance from
the first to the target. All numbers but the step are hexadecimal.
-/

namespace AccessRules.Text

/-- The runs that map a character outside ASCII to one uppercase character. -/
def uppercaseTable : String :=
"B5,B5,1,39C E0,F6,1,C0 F8,FE,1,D8 FF,FF,1,178 101,12F,2,100 131,131,1,49 133,137,2,132
13A,148,2,139 14B,177,2,14A 17A,17E,2,179 17F,17F,1,53 180,180,1,243 183,185,2,182 188,188,1,187
18C,18C,1,18B 192,192,1,191 195,195,1,1F6 199,199,1,198 19A,19A,1,23D 19B,19B,1,A7DC
19E,19E,1,220 1A1,1A5,2,1A0 1A8,1A8,1,1A7 1AD,1AD,1,1AC 1B0,1B0,1,1AF 1B4,1B6,2,1B3
1B9,1B9,1,1B8 1BD,1BD,1,1BC 1BF,1BF,1,1F7 1C5,1C5,1,1C4 1C6,1C6,1,1C4 1C8,1C8,1,1C7
1C9,1C9,1,1C7 1CB,1CB,1,1CA 1CC,1CC,1,1CA 1CE,1DC,2,1CD 1DD,1DD,1,18E 1DF,1EF,2,1DE
1F2,1F2,1,1F1 1F3,1F3,1,1F1 1F5,1F5,1,1F4 1F9,21F,2,1F8 223,233,2,222 23C,23C,1,23B
23F,240,1,2C7E 242,242,1,241 247,24F,2,246 250,250,1,2C6F 251,251,1,2C6D 252,252,1,2C70
253,253,1,181 254,254,1,186 256,257,1,189 259,259,1,18F 25B,25B,1,190 25C,25C,1,A7AB
260,260,1,193 261,261,1,A7AC 263,263,1,194 264,264,1,A7CB 265,265,1,A78D 266,266,1,A7AA
268,268,1,197 269,269,1,196 26A,26A,1,A7AE 26B,26B,1,2C62 26C,26C,1,A7AD 26F,26F,1,19C
271,271,1,2C6E 272,272,1,19D 275,275,1,19F 27D,27D,1,2C64 280,280,1,1A6 282,282,1,A7C5
283,283,1,1A9 287,287,1,A7B1 288,288,1,1AE 289,289,1,244 28A,28B,1,1B1 28C,28C,1,245
292,292,1,1B7 29D,29D,1,A7B2 29E,29E,1,A7B0 345,345,1,399 371,373,2,370 377,377,1,376
37B,37D,1,3FD 3AC,3AC,1,386 3AD,3AF,1,388 3B1,3C1,1,391 3C2,3C2,1,3A3 3C3,3CB,1,3A3
3CC,3CC,1,38C 3CD,3CE,1,38E 3D0,3D0,1,392 3D1,3D1,1,398 3D5,3D5,1,3A6 3D6,3D6,1,3A0
3D7,3D7,1,3CF 3D9,3EF,2,3D8 3F0,3F0,1,39A 3F1,3F1,1,3A1 3F2,3F2,1,3F9 3F3,3F3,1,37F
3F5,3F5,1,395 3F8,3F8,1,3F7 3FB,3FB,1,3FA 430,44F,1,410 450,45F,1,400 461,481,2,460
48B,4BF,2,48A 4C2,4CE,2,4C1 4CF,4CF,1,4C0 4D1,52F,2,4D0 561,586,1,531 10D0,10FA,1,1C90
10FD,10FF,1,1CBD 13F8,13FD,1,13F0 1C80,1C80,1,412 1C81,1C81,1,414 1C82,1C82,1,41E
1C83,1C84,1,421 1C85,1C85,1,422 1C86,1C86,1,42A 1C87,1C87,1,462 1C88,1C88,1,A64A
1C8A,1C8A,1,1C89 1D79,1D79,1,A77D 1D7D,1D7D,1,2C63 1D8E,1D8E,1,A7C6 1E01,1E95,2,1E00
1E9B,1E9B,1,1E60 1EA1,1EFF,2,1EA0 1F00,1F07,1,1F08 1F10,1F15,1,1F18 1F20,1F27,1,1F28
1F30,1F37,1,1F38 1F40,1F45,1,1F48 1F51,1F57,2,1F59 1F60,1F67,1,1F68 1F70,1F71,1,1FBA
1F72,1F75,1,1FC8 1F76,1F77,1,1FDA 1F78,1F79,1,1FF8 1F7A,1F7B,1,1FEA 1F7C,1F7D,1,1FFA
1FB0,1FB1,1,1FB8 1FBE,1FBE,1,399 1FD0,1FD1,1,1FD8 1FE0,1FE1,1,1FE8 1FE5,1FE5,1,1FEC
214E,214E,1,2132 2170,217F,1,2160 2184,2184,1,2183 24D0,24E9,1,24B6 2C30,2C5F,1,2C00
2C61,2C61,1,2C60 2C65,2C65,1,23A 2C66,2C66,1,23E 2C68,2C6C,2,2C67 2C73,2C73,1,2C72
2C76,2C76,1,2C75 2C81,2CE3,2,2C80 2CEC,2CEE,2,2CEB 2CF3,2CF3,1,2CF2 2D00,2D25,1,10A0
2D27,2D27,1,10C7 2D2D,2D2D,1,10CD A641,A66D,2,A640 A681,A69B,2,A680 A723,A72F,2,A722
A733,A76F,2,A732 A77A,A77C,2,A779 A77F,A787,2,A77E A78C,A78C,1,A78B A791,A793,2,A790
A794,A794,1,A7C4 A797,A7A9,2,A796 A7B5,A7C3,2,A7B4 A7C8,A7CA,2,A7C7 A7CD,A7CD,2,A7CC
A7D1,A7D1,2,A7D0 A7D7,A7DB,2,A7D6 A7F6,A7F6,1,A7F5 AB53,AB53,1,A7B3 AB70,ABBF,1,13A0
FF41,FF5A,1,FF21 10428,1044F,1,10400 104D8,104FB,1,104B0 10597,105A1,1,10570 105A3,105B1,1,1057C
105B3,105B9,1,1058C 105BB,105BC,1,10594 10CC0,10CF2,1,10C80 10D70,10D85,1,10D50
118C0,118DF,1,118A0 16E60,16E7F,1,16E40 1E922,1E943,1,1E900"

/-- The characters whose uppercase is several characters. -/
def longUppercaseTable : String :=
"DF:53,53 149:2BC,4E 1F0:4A,30C 390:399,308,301 3B0:3A5,308,301 587:535,552 1E96:48,331
1E97:54,308 1E98:57,30A 1E99:59,30A 1E9A:41,2BE 1F50:3A5,313 1F52:3A5,313,300 1F54:3A5,313,301
1F56:3A5,313,342 1F80:1F08,399 1F81:1F09,399 1F82:1F0A,399 1F83:1F0B,399 1F84:1F0C,399
1F85:1F0D,399 1F86:1F0E,399 1F87:1F0F,399 1F88:1F08,399 1F89:1F09,399 1F8A:1F0A,399
1F8B:1F0B,399 1F8C:1F0C,399 1F8D:1F0D,399 1F8E:1F0E,399 1F8F:1F0F,399 1F90:1F28,399
1F91:1F29,399 1F92:1F2A,399 1F93:1F2B,399 1F94:1F2C,399 1F95:1F2D,399 1F96:1F2E,399
1F97:1F2F,399 1F98:1F28,399 1F99:1F29,399 1F9A:1F2A,399 1F9B:1F2B,399 1F9C:1F2C,399
1F9D:1F2D,399 1F9E:1F2E,399 1F9F:1F2F,399 1FA0:1F68,399 1FA1:1F69,399 1FA2:1F6A,399
1FA3:1F6B,399 1FA4:1F6C,399 1FA5:1F6D,399 1FA6:1F6E,399 1FA7:1F6F,399 1FA8:1F68,399
1FA9:1F69,399 1FAA:1F6A,399 1FAB:1F6B,399 1FAC:1F6C,399 1FAD:1F6D,399 1FAE:1F6E,399
1FAF:1F6F,399 1FB2:1FBA,399 1FB3:391,399 1FB4:386,399 1FB6:391,342 1FB7:391,342,399 1FBC:391,399
1FC2:1FCA,399 1FC3:397,399 1FC4:389,399 1FC6:397,342 1FC7:397,342,399 1FCC:397,399
1FD2:399,308,300 1FD3:399,308,301 1FD6:399,342 1FD7:399,308,342 1FE2:3A5,308,300
1FE3:3A5,308,301 1FE4:3A1,313 1FE6:3A5,342 1FE7:3A5,308,342 1FF2:1FFA,399 1FF3:3A9,399
1FF4:38F,399 1FF6:3A9,342 1FF7:3A9,342,399 1FFC:3A9,399 FB00:46,46 FB01:46,49 FB02:46,4C
FB03:46,46,49 FB04:46,46,4C FB05:53,54 FB06:53,54 FB13:544,546 FB14:544,535 FB15:544,53B
FB16:54E,546 FB17:544,53D"

/-- The runs that map a character outside ASCII to one lowercase character. -/
def lowercaseTable : String :=
"C0,D6,1,E0 D8,DE,1,F8 100,12E,2,101 132,136,2,133 139,147,2,13A 14A,176,2,14B 178,178,1,FF
179,17D,2,17A 181,181,1,253 182,184,2,183 186,186,1,254 187,187,1,188 189,18A,1,256
18B,18B,1,18C 18E,18E,1,1DD 18F,18F,1,259 190,190,1,25B 191,191,1,192 193,193,1,260
194,194,1,263 196,196,1,269 197,197,1,268 198,198,1,199 19C,19C,1,26F 19D,19D,1,272
19F,19F,1,275 1A0,1A4,2,1A1 1A6,1A6,1,280 1A7,1A7,1,1A8 1A9,1A9,1,283 1AC,1AC,1,1AD
1AE,1AE,1,288 1AF,1AF,1,1B0 1B1,1B2,1,28A 1B3,1B5,2,1B4 1B7,1B7,1,292 1B8,1B8,1,1B9
1BC,1BC,1,1BD 1C4,1C4,1,1C6 1C5,1C5,1,1C6 1C7,1C7,1,1C9 1C8,1C8,1,1C9 1CA,1CA,1,1CC
1CB,1DB,2,1CC 1DE,1EE,2,1DF 1F1,1F1,1,1F3 1F2,1F4,2,1F3 1F6,1F6,1,195 1F7,1F7,1,1BF
1F8,21E,2,1F9 220,220,1,19E 222,232,2,223 23A,23A,1,2C65 23B,23B,1,23C 23D,23D,1,19A
23E,23E,1,2C66 241,241,1,242 243,243,1,180 244,244,1,289 245,245,1,28C 246,24E,2,247
370,372,2,371 376,376,1,377 37F,37F,1,3F3 386,386,1,3AC 388,38A,1,3AD 38C,38C,1,3CC
38E,38F,1,3CD 391,3A1,1,3B1 3A3,3AB,1,3C3 3CF,3CF,1,3D7 3D8,3EE,2,3D9 3F4,3F4,1,3B8
3F7,3F7,1,3F8 3F9,3F9,1,3F2 3FA,3FA,1,3FB 3FD,3FF,1,37B 400,40F,1,450 410,42F,1,430
460,480,2,461 48A,4BE,2,48B 4C0,4C0,1,4CF 4C1,4CD,2,4C2 4D0,52E,2,4D1 531,556,1,561
10A0,10C5,1,2D00 10C7,10C7,1,2D27 10CD,10CD,1,2D2D 13A0,13EF,1,AB70 13F0,13F5,1,13F8
1C89,1C89,1,1C8A 1C90,1CBA,1,10D0 1CBD,1CBF,1,10FD 1E00,1E94,2,1E01 1E9E,1E9E,1,DF
1EA0,1EFE,2,1EA1 1F08,1F0F,1,1F00 1F18,1F1D,1,1F10 1F28,1F2F,1,1F20 1F38,1F3F,1,1F30
1F48,1F4D,1,1F40 1F59,1F5F,2,1F51 1F68,1F6F,1,1F60 1F88,1F8F,1,1F80 1F98,1F9F,1,1F90
1FA8,1FAF,1,1FA0 1FB8,1FB9,1,1FB0 1FBA,1FBB,1,1F70 1FBC,1FBC,1,1FB3 1FC8,1FCB,1,1F72
1FCC,1FCC,1,1FC3 1FD8,1FD9,1,1FD0 1FDA,1FDB,1,1F76 1FE8,1FE9,1,1FE0 1FEA,1FEB,1,1F7A
1FEC,1FEC,1,1FE5 1FF8,1FF9,1,1F78 1FFA,1FFB,1,1F7C 1FFC,1FFC,1,1FF3 2126,2126,1,3C9
212A,212A,1,6B 212B,212B,1,E5 2132,2132,1,214E 2160,216F,1,2170 2183,2183,1,2184
24B6,24CF,1,24D0 2C00,2C2F,1,2C30 2C60,2C60,1,2C61 2C62,2C62,1,26B 2C63,2C63,1,1D7D
2C64,2C64,1,27D 2C67,2C6B,2,2C68 2C6D,2C6D,1,251 2C6E,2C6E,1,271 2C6F,2C6F,1,250 2C70,2C70,1,252
2C72,2C72,1,2C73 2C75,2C75,1,2C76 2C7E,2C7F,1,23F 2C80,2CE2,2,2C81 2CEB,2CED,2,2CEC
2CF2,2CF2,1,2CF3 A640,A66C,2,A641 A680,A69A,2,A681 A722,A72E,2,A723 A732,A76E,2,A733
A779,A77B,2,A77A A77D,A77D,1,1D79 A77E,A786,2,A77F A78B,A78B,1,A78C A78D,A78D,1,265
A790,A792,2,A791 A796,A7A8,2,A797 A7AA,A7AA,1,266 A7AB,A7AB,1,25C A7AC,A7AC,1,261
A7AD,A7AD,1,26C A7AE,A7AE,1,26A A7B0,A7B0,1,29E A7B1,A7B1,1,287 A7B2,A7B2,1,29D A7B3,A7B3,1,AB53
A7B4,A7C2,2,A7B5 A7C4,A7C4,1,A794 A7C5,A7C5,1,282 A7C6,A7C6,1,1D8E A7C7,A7C9,2,A7C8
A7CB,A7CB,1,264 A7CC,A7CC,2,A7CD A7D0,A7D0,2,A7D1 A7D6,A7DA,2,A7D7 A7DC,A7DC,1,19B
A7F5,A7F5,1,A7F6 FF21,FF3A,1,FF41 10400,10427,1,10428 104B0,104D3,1,104D8 10570,1057A,1,10597
1057C,1058A,1,105A3 1058C,10592,1,105B3 10594,10595,1,105BB 10C80,10CB2,1,10CC0
10D50,10D65,1,10D70 118A0,118BF,1,118C0 16E40,16E5F,1,16E60 1E900,1E921,1,1E922"

/-- The characters whose lowercase is several characters. -/
def longLowercaseTable : String :=
"130:69,307"

/-- The runs that map a character to another one, of a greater code, that differs from it in case
only. -/
def caseVariantTable : String :=
"41,5A,1,61 4B,4B,1,212A 53,53,1,17F 6B,6B,1,212A 73,73,1,17F B5,B5,1,39C B5,B5,1,3BC C0,D6,1,E0
C5,C5,1,212B D8,DE,1,F8 DF,DF,1,1E9E E5,E5,1,212B FF,FF,1,178 100,12E,2,101 132,136,2,133
139,147,2,13A 14A,176,2,14B 179,17D,2,17A 180,180,1,243 181,181,1,253 182,184,2,183
186,186,1,254 187,187,1,188 189,18A,1,256 18B,18B,1,18C 18E,18E,1,1DD 18F,18F,1,259
190,190,1,25B 191,191,1,192 193,193,1,260 194,194,1,263 195,195,1,1F6 196,196,1,269
197,197,1,268 198,198,1,199 19A,19A,1,23D 19B,19B,1,A7DC 19C,19C,1,26F 19D,19D,1,272
19E,19E,1,220 19F,19F,1,275 1A0,1A4,2,1A1 1A6,1A6,1,280 1A7,1A7,1,1A8 1A9,1A9,1,283
1AC,1AC,1,1AD 1AE,1AE,1,288 1AF,1AF,1,1B0 1B1,1B2,1,28A 1B3,1B5,2,1B4 1B7,1B7,1,292
1B8,1B8,1,1B9 1BC,1BC,1,1BD 1BF,1BF,1,1F7 1C4,1C5,1,1C5 1C4,1C4,1,1C6 1C7,1C8,1,1C8
1C7,1C7,1,1C9 1CA,1CB,1,1CB 1CA,1CA,1,1CC 1CD,1DB,2,1CE 1DE,1EE,2,1DF 1F1,1F2,1,1F2
1F1,1F1,1,1F3 1F4,1F4,1,1F5 1F8,21E,2,1F9 222,232,2,223 23A,23A,1,2C65 23B,23B,1,23C
23E,23E,1,2C66 23F,240,1,2C7E 241,241,1,242 244,244,1,289 245,245,1,28C 246,24E,2,247
250,250,1,2C6F 251,251,1,2C6D 252,252,1,2C70 25C,25C,1,A7AB 261,261,1,A7AC 264,264,1,A7CB
265,265,1,A78D 266,266,1,A7AA 26A,26A,1,A7AE 26B,26B,1,2C62 26C,26C,1,A7AD 271,271,1,2C6E
27D,27D,1,2C64 282,282,1,A7C5 287,287,1,A7B1 29D,29D,1,A7B2 29E,29E,1,A7B0 345,345,1,399
345,345,1,3B9 345,345,1,1FBE 370,372,2,371 376,376,1,377 37B,37D,1,3FD 37F,37F,1,3F3
386,386,1,3AC 388,38A,1,3AD 38C,38C,1,3CC 38E,38F,1,3CD 390,390,1,1FD3 391,3A1,1,3B1
392,392,1,3D0 395,395,1,3F5 398,398,1,3D1 398,398,1,3F4 399,399,1,1FBE 39A,39A,1,3F0
3A0,3A0,1,3D6 3A1,3A1,1,3F1 3A3,3AB,1,3C3 3A3,3A3,1,3C2 3A6,3A6,1,3D5 3A9,3A9,1,2126
3B0,3B0,1,1FE3 3B2,3B2,1,3D0 3B5,3B5,1,3F5 3B8,3B8,1,3D1 3B8,3B8,1,3F4 3B9,3B9,1,1FBE
3BA,3BA,1,3F0 3C0,3C0,1,3D6 3C1,3C1,1,3F1 3C2,3C2,1,3C3 3C6,3C6,1,3D5 3C9,3C9,1,2126
3CF,3CF,1,3D7 3D1,3D1,1,3F4 3D8,3EE,2,3D9 3F2,3F2,1,3F9 3F7,3F7,1,3F8 3FA,3FA,1,3FB
400,40F,1,450 410,42F,1,430 412,412,1,1C80 414,414,1,1C81 41E,41E,1,1C82 421,422,1,1C83
422,422,1,1C85 42A,42A,1,1C86 432,432,1,1C80 434,434,1,1C81 43E,43E,1,1C82 441,442,1,1C83
442,442,1,1C85 44A,44A,1,1C86 460,480,2,461 462,462,1,1C87 463,463,1,1C87 48A,4BE,2,48B
4C0,4C0,1,4CF 4C1,4CD,2,4C2 4D0,52E,2,4D1 531,556,1,561 10A0,10C5,1,2D00 10C7,10C7,1,2D27
10CD,10CD,1,2D2D 10D0,10FA,1,1C90 10FD,10FF,1,1CBD 13A0,13EF,1,AB70 13F0,13F5,1,13F8
1C84,1C84,1,1C85 1C88,1C88,1,A64A 1C88,1C88,1,A64B 1C89,1C89,1,1C8A 1D79,1D79,1,A77D
1D7D,1D7D,1,2C63 1D8E,1D8E,1,A7C6 1E00,1E94,2,1E01 1E60,1E60,1,1E9B 1E61,1E61,1,1E9B
1EA0,1EFE,2,1EA1 1F00,1F07,1,1F08 1F10,1F15,1,1F18 1F20,1F27,1,1F28 1F30,1F37,1,1F38
1F40,1F45,1,1F48 1F51,1F57,2,1F59 1F60,1F67,1,1F68 1F70,1F71,1,1FBA 1F72,1F75,1,1FC8
1F76,1F77,1,1FDA 1F78,1F79,1,1FF8 1F7A,1F7B,1,1FEA 1F7C,1F7D,1,1FFA 1F80,1F87,1,1F88
1F90,1F97,1,1F98 1FA0,1FA7,1,1FA8 1FB0,1FB1,1,1FB8 1FB3,1FB3,1,1FBC 1FC3,1FC3,1,1FCC
1FD0,1FD1,1,1FD8 1FE0,1FE1,1,1FE8 1FE5,1FE5,1,1FEC 1FF3,1FF3,1,1FFC 2132,2132,1,214E
2160,216F,1,2170 2183,2183,1,2184 24B6,24CF,1,24D0 2C00,2C2F,1,2C30 2C60,2C60,1,2C61
2C67,2C6B,2,2C68 2C72,2C72,1,2C73 2C75,2C75,1,2C76 2C80,2CE2,2,2C81 2CEB,2CED,2,2CEC
2CF2,2CF2,1,2CF3 A640,A66C,2,A641 A680,A69A,2,A681 A722,A72E,2,A723 A732,A76E,2,A733
A779,A77B,2,A77A A77E,A786,2,A77F A78B,A78B,1,A78C A790,A792,2,A791 A794,A794,1,A7C4
A796,A7A8,2,A797 A7B3,A7B3,1,AB53 A7B4,A7C2,2,A7B5 A7C7,A7C9,2,A7C8 A7CC,A7CC,2,A7CD
A7D0,A7D0,2,A7D1 A7D6,A7DA,2,A7D7 A7F5,A7F5,1,A7F6 FB05,FB05,1,FB06 FF21,FF3A,1,FF41
10400,10427,1,10428 104B0,104D3,1,104D8 10570,1057A,1,10597 1057C,1058A,1,105A3
1058C,10592,1,105B3 10594,10595,1,105BB 10C80,10CB2,1,10CC0 10D50,10D65,1,10D70
118A0,118BF,1,118C0 16E40,16E5F,1,16E60 1E900,1E921,1,1E922"

end AccessRules.Text
