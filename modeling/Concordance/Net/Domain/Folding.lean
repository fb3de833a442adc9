/-
# Concordance.Net.Domain.Folding -- names that differ in spelling only

Names are compared without regard to case, width and presentation.  `foldName` maps
each character to what it stands for, in lower case, leaves out characters that do
not show, and composes the result.

The mapping is that of the compatibility processing of names (UTS 46) for Unicode 17, with
the capitals and subscripts that came after it.
-/
import Concordance.Text.Composed
import Concordance.Text.Lowercase

namespace Concordance.Net

open Concordance.Text

set_option autoImplicit false

/-- Characters that do not show and are left out of a name. -/
def ignoredRanges : List (Nat × Nat) := [
  (173, 173), (847, 847), (4447, 4448), (6068, 6069), (6155, 6159), (8203, 8203), (8288, 8292),
  (8298, 8303), (12644, 12644), (65024, 65039), (65279, 65279), (65440, 65440), (113824, 113827),
  (119155, 119162), (917760, 917999)]

/-- Neighbouring characters that stand for neighbouring characters, from the third code point on. -/
def shiftRanges : List (Nat × Nat × Nat) := [
  (5112, 5117, 5104), (7475, 7482, 103), (8308, 8313, 52), (8320, 8329, 48), (9312, 9320, 49),
  (9398, 9423, 97), (9424, 9449, 97), (12602, 12607, 4528), (12613, 12622, 4361),
  (12623, 12643, 4449), (13028, 13033, 12490), (13045, 13050, 12520), (43888, 43967, 5024),
  (65281, 65312, 33), (65313, 65338, 97), (65339, 65374, 91), (65413, 65418, 12490),
  (65430, 65435, 12520), (65450, 65455, 4528), (65461, 65470, 4361), (65474, 65479, 4449),
  (65482, 65487, 4455), (65490, 65495, 4461), (117974, 117999, 97), (118000, 118009, 48),
  (119808, 119833, 97), (119834, 119859, 97), (119860, 119885, 97), (119886, 119892, 97),
  (119894, 119911, 105), (119912, 119937, 97), (119938, 119963, 97), (119982, 119989, 115),
  (119997, 120003, 104), (120005, 120015, 112), (120016, 120041, 97), (120042, 120067, 97),
  (120077, 120084, 106), (120086, 120092, 115), (120094, 120119, 97), (120138, 120144, 115),
  (120146, 120171, 97), (120172, 120197, 97), (120198, 120223, 97), (120224, 120249, 97),
  (120250, 120275, 97), (120276, 120301, 97), (120302, 120327, 97), (120328, 120353, 97),
  (120354, 120379, 97), (120380, 120405, 97), (120406, 120431, 97), (120432, 120457, 97),
  (120458, 120483, 97), (120488, 120504, 945), (120506, 120512, 963), (120514, 120530, 945),
  (120532, 120538, 963), (120546, 120562, 945), (120564, 120570, 963), (120572, 120588, 945),
  (120590, 120596, 963), (120604, 120620, 945), (120622, 120628, 963), (120630, 120646, 945),
  (120648, 120654, 963), (120662, 120678, 945), (120680, 120686, 963), (120688, 120704, 945),
  (120706, 120712, 963), (120720, 120736, 945), (120738, 120744, 963), (120746, 120762, 945),
  (120764, 120770, 963), (120782, 120791, 48), (120792, 120801, 48), (120802, 120811, 48),
  (120812, 120821, 48), (120822, 120831, 48), (122928, 122936, 1072), (122940, 122950, 1086),
  (122961, 122969, 1072), (122975, 122980, 1091), (127280, 127305, 97), (130032, 130041, 48)]

/-- All other characters that stand for something else than their lower-case form. -/
def foldTable : Table := [
  .read 0xaa "61",
  .read 0xb2 "32 33 - 3bc - - - 31 6f - 31+2044+34 31+2044+32 33+2044+34",
  .read 0x130 "69+307 - 69+6a 69+6a",
  .read 0x13f "6c+b7 6c+b7",
  .read 0x149 "2bc+6e",
  .read 0x17f "73",
  .read 0x1c4 "64+17e 64+17e 64+17e 6c+6a 6c+6a 6c+6a 6e+6a 6e+6a 6e+6a",
  .read 0x1f1 "64+7a 64+7a 64+7a",
  .read 0x2b0 "68 266 6a 72 279 27b 281 77 79",
  .read 0x2e0 "263 6c 73 78 295",
  .read 0x345 "3b9",
  .read 0x3d0 "3b2 3b8 3c5 3cd 3cb 3c6 3c0",
  .read 0x3f0 "3ba 3c1 3c3 - - 3b5 - - - 3c3",
  .read 0x558 "588",
  .read 0x587 "565+582 - - - 560",
  .read 0x675 "627+674 648+674 6c7+674 64a+674",
  .read 0xe33 "e4d+e32",
  .read 0xeb3 "ecd+eb2",
  .read 0xedc "eab+e99 eab+ea1",
  .read 0xf0c "f0b",
  .read 0xf77 "fb2+f71+f80 - fb3+f71+f80",
  .read 0x10fc "10dc",
  .read 0x1c80 "432 434 43e 441 442 442 44a 463 a64b",
  .read 0x1d2c "61 e6 62 - 64 65 1dd",
  .read 0x1d3c "
    6f 223 70 72 74 75 77 61 250 251 1d02 62 64 65 259 25b 25c 67 - 6b 6d 14b 6f 254 1d16 1d17 70 74
    75 1d1d 26f 76 1d25 3b2 3b3 3b4 3c6 3c7 69 72 75 76 3b2 3b3 3c1 3c6 3c7",
  .read 0x1d78 "43d",
  .read 0x1d9b "
    252 63 255 f0 25c 66 25f 261 265 268 269 26a 1d7b 29d 26d 1d85 29f 271 270 272 273 274 275 278
    282 283 1ab 289 28a 1d1c 28b 28c 7a 290 291 292 3b8",
  .read 0x1e9a "61+2be 1e61",
  .read 0x1f80 "
    1f00+3b9 1f01+3b9 1f02+3b9 1f03+3b9 1f04+3b9 1f05+3b9 1f06+3b9 1f07+3b9 1f00+3b9 1f01+3b9
    1f02+3b9 1f03+3b9 1f04+3b9 1f05+3b9 1f06+3b9 1f07+3b9 1f20+3b9 1f21+3b9 1f22+3b9 1f23+3b9
    1f24+3b9 1f25+3b9 1f26+3b9 1f27+3b9 1f20+3b9 1f21+3b9 1f22+3b9 1f23+3b9 1f24+3b9 1f25+3b9
    1f26+3b9 1f27+3b9 1f60+3b9 1f61+3b9 1f62+3b9 1f63+3b9 1f64+3b9 1f65+3b9 1f66+3b9 1f67+3b9
    1f60+3b9 1f61+3b9 1f62+3b9 1f63+3b9 1f64+3b9 1f65+3b9 1f66+3b9 1f67+3b9 - - 1f70+3b9 3b1+3b9
    3ac+3b9 - - 1fb6+3b9 - - - 3ac 3b1+3b9",
  .read 0x1fc2 "1f74+3b9 3b7+3b9 3ae+3b9 - - 1fc6+3b9 - 3ad - 3ae 3b7+3b9",
  .read 0x1fdb "3af",
  .read 0x1feb "3cd",
  .read 0x1ff2 "1f7c+3b9 3c9+3b9 3ce+3b9 - - 1ff6+3b9 - 3cc - 3ce 3c9+3b9",
  .read 0x2011 "2010",
  .read 0x2033 "2032+2032 2032+2032+2032 - 2035+2035 2035+2035+2035",
  .read 0x203c "21+21",
  .read 0x2057 "2032+2032+2032+2032",
  .read 0x2070 "30 69",
  .read 0x207a "2b 2212 3d 28 29 6e",
  .read 0x208a "2b 2212 3d 28 29 - 61 65 6f 78 259 68 6b 6c 6d 6e 70 73 74 77 79 7a",
  .read 0x20a8 "72+73",
  .read 0x2102 "
    63 b0+63 - - - 25b - b0+66 67 68 68 68 68 127 69 69 6c 6c - 6e 6e+6f - - 70 71 72 72 72 - -
    73+6d 74+65+6c 74+6d - 7a - - - 7a - - - 62 63 - 65 65 66 - 6d 6f 5d0 5d1 5d2 5d3 69 - 66+61+78
    3c0 3b3 3b3 3c0 2211",
  .read 0x2145 "64 64 65 69 6a",
  .read 0x2150 "
    31+2044+37 31+2044+39 31+2044+31+30 31+2044+33 32+2044+33 31+2044+35 32+2044+35 33+2044+35
    34+2044+35 31+2044+36 35+2044+36 31+2044+38 33+2044+38 35+2044+38 37+2044+38 31+2044 69 69+69
    69+69+69 69+76 76 76+69 76+69+69 76+69+69+69 69+78 78 78+69 78+69+69 6c 63 64 6d 69 69+69
    69+69+69 69+76 76 76+69 76+69+69 76+69+69+69 69+78 78 78+69 78+69+69 6c 63 64 6d",
  .read 0x2189 "30+2044+33",
  .read 0x222c "222b+222b 222b+222b+222b - 222e+222e 222e+222e+222e",
  .read 0x2469 "
    31+30 31+31 31+32 31+33 31+34 31+35 31+36 31+37 31+38 31+39 32+30 28+31+29 28+32+29 28+33+29
    28+34+29 28+35+29 28+36+29 28+37+29 28+38+29 28+39+29 28+31+30+29 28+31+31+29 28+31+32+29
    28+31+33+29 28+31+34+29 28+31+35+29 28+31+36+29 28+31+37+29 28+31+38+29 28+31+39+29 28+32+30+29",
  .read 0x249c "
    28+61+29 28+62+29 28+63+29 28+64+29 28+65+29 28+66+29 28+67+29 28+68+29 28+69+29 28+6a+29
    28+6b+29 28+6c+29 28+6d+29 28+6e+29 28+6f+29 28+70+29 28+71+29 28+72+29 28+73+29 28+74+29
    28+75+29 28+76+29 28+77+29 28+78+29 28+79+29 28+7a+29",
  .read 0x24ea "30",
  .read 0x2a0c "222b+222b+222b+222b",
  .read 0x2a75 "3d+3d 3d+3d+3d",
  .read 0x2c7c "6a 76",
  .read 0x2d6f "2d61",
  .read 0x2e9f "6bcd",
  .read 0x2ef3 "9f9f",
  .read 0x2f00 "
    4e00 4e28 4e36 4e3f 4e59 4e85 4e8c 4ea0 4eba 513f 5165 516b 5182 5196 51ab 51e0 51f5 5200 529b
    52f9 5315 531a 5338 5341 535c 5369 5382 53b6 53c8 53e3 56d7 571f 58eb 5902 590a 5915 5927 5973
    5b50 5b80 5bf8 5c0f 5c22 5c38 5c6e 5c71 5ddb 5de5 5df1 5dfe 5e72 5e7a 5e7f 5ef4 5efe 5f0b 5f13
    5f50 5f61 5f73 5fc3 6208 6236 624b 652f 6534 6587 6597 65a4 65b9 65e0 65e5 66f0 6708 6728 6b20
    6b62 6b79 6bb3 6bcb 6bd4 6bdb 6c0f 6c14 6c34 706b 722a 7236 723b 723f 7247 7259 725b 72ac 7384
    7389 74dc 74e6 7518 751f 7528 7530 758b 7592 7676 767d 76ae 76bf 76ee 77db 77e2 77f3 793a 79b8
    79be 7a74 7acb 7af9 7c73 7cf8 7f36 7f51 7f8a 7fbd 8001 800c 8012 8033 807f 8089 81e3 81ea 81f3
    81fc 820c 821b 821f 826e 8272 8278 864d 866b 8840 884c 8863 897e 898b 89d2 8a00 8c37 8c46 8c55
    8c78 8c9d 8d64 8d70 8db3 8eab 8eca 8f9b 8fb0 8fb5 9091 9149 91c6 91cc 91d1 9577 9580 961c 96b6
    96b9 96e8 9751 975e 9762 9769 97cb 97ed 97f3 9801 98a8 98db 98df 9996 9999 99ac 9aa8 9ad8 9adf
    9b25 9b2f 9b32 9b3c 9b5a 9ce5 9e75 9e7f 9ea5 9ebb 9ec3 9ecd 9ed1 9ef9 9efd 9f0e 9f13 9f20 9f3b
    9f4a 9f52 9f8d 9f9c 9fa0",
  .read 0x3002 "2e",
  .read 0x3036 "3012 - 5341 5344 5345",
  .read 0x309f "3088+308a",
  .read 0x30ff "30b3+30c8",
  .read 0x3131 "1100 1101 11aa 1102 11ac 11ad 1103 1104 1105",
  .read 0x3140 "111a 1106 1107 1108 1121",
  .read 0x3165 "
    1114 1115 11c7 11c8 11cc 11ce 11d3 11d7 11d9 111c 11dd 11df 111d 111e 1120 1122 1123 1127 1129
    112b 112c 112d 112e 112f 1132 1136 1140 1147 114c 11f1 11f2 1157 1158 1159 1184 1185 1188 1191
    1192 1194 119e 11a1 - - - 4e00 4e8c 4e09 56db 4e0a 4e2d 4e0b 7532 4e59 4e19 4e01 5929 5730 4eba",
  .read 0x3200 "
    28+1100+29 28+1102+29 28+1103+29 28+1105+29 28+1106+29 28+1107+29 28+1109+29 28+110b+29
    28+110c+29 28+110e+29 28+110f+29 28+1110+29 28+1111+29 28+1112+29 28+ac00+29 28+b098+29
    28+b2e4+29 28+b77c+29 28+b9c8+29 28+bc14+29 28+c0ac+29 28+c544+29 28+c790+29 28+cc28+29
    28+ce74+29 28+d0c0+29 28+d30c+29 28+d558+29 28+c8fc+29 28+c624+c804+29 28+c624+d6c4+29 -
    28+4e00+29 28+4e8c+29 28+4e09+29 28+56db+29 28+4e94+29 28+516d+29 28+4e03+29 28+516b+29
    28+4e5d+29 28+5341+29 28+6708+29 28+706b+29 28+6c34+29 28+6728+29 28+91d1+29 28+571f+29
    28+65e5+29 28+682a+29 28+6709+29 28+793e+29 28+540d+29 28+7279+29 28+8ca1+29 28+795d+29
    28+52b4+29 28+4ee3+29 28+547c+29 28+5b66+29 28+76e3+29 28+4f01+29 28+8cc7+29 28+5354+29
    28+796d+29 28+4f11+29 28+81ea+29 28+81f3+29 554f 5e7c 6587 7b8f",
  .read 0x3250 "
    70+74+65 32+31 32+32 32+33 32+34 32+35 32+36 32+37 32+38 32+39 33+30 33+31 33+32 33+33 33+34
    33+35 1100 1102 1103 1105 1106 1107 1109 110b 110c 110e 110f 1110 1111 1112 ac00 b098 b2e4 b77c
    b9c8 bc14 c0ac c544 c790 cc28 ce74 d0c0 d30c d558 cc38+ace0 c8fc+c758 c6b0 - 4e00 4e8c 4e09 56db
    4e94 516d 4e03 516b 4e5d 5341 6708 706b 6c34 6728 91d1 571f 65e5 682a 6709 793e 540d 7279 8ca1
    795d 52b4 79d8 7537 5973 9069 512a 5370 6ce8 9805 4f11 5199 6b63 4e0a 4e2d 4e0b 5de6 53f3 533b
    5b97 5b66 76e3 4f01 8cc7 5354 591c 33+36 33+37 33+38 33+39 34+30 34+31 34+32 34+33 34+34 34+35
    34+36 34+37 34+38 34+39 35+30 31+6708 32+6708 33+6708 34+6708 35+6708 36+6708 37+6708 38+6708
    39+6708 31+30+6708 31+31+6708 31+32+6708 68+67 65+72+67 65+76 6c+74+64 30a2 30a4 30a6 30a8 30aa
    30ab 30ad 30af 30b1 30b3 30b5 30b7 30b9 30bb 30bd 30bf 30c1 30c4 30c6 30c8",
  .read 0x32ea "30d2 30d5 30d8 30db 30de 30df 30e0 30e1 30e2 30e4 30e6",
  .read 0x32fb "
    30ef 30f0 30f1 30f2 4ee4+548c 30a2+30d1+30fc+30c8 30a2+30eb+30d5+30a1 30a2+30f3+30da+30a2
    30a2+30fc+30eb 30a4+30cb+30f3+30b0 30a4+30f3+30c1 30a6+30a9+30f3 30a8+30b9+30af+30fc+30c9
    30a8+30fc+30ab+30fc 30aa+30f3+30b9 30aa+30fc+30e0 30ab+30a4+30ea 30ab+30e9+30c3+30c8
    30ab+30ed+30ea+30fc 30ac+30ed+30f3 30ac+30f3+30de 30ae+30ac 30ae+30cb+30fc 30ad+30e5+30ea+30fc
    30ae+30eb+30c0+30fc 30ad+30ed 30ad+30ed+30b0+30e9+30e0 30ad+30ed+30e1+30fc+30c8+30eb
    30ad+30ed+30ef+30c3+30c8 30b0+30e9+30e0 30b0+30e9+30e0+30c8+30f3 30af+30eb+30bc+30a4+30ed
    30af+30ed+30fc+30cd 30b1+30fc+30b9 30b3+30eb+30ca 30b3+30fc+30dd 30b5+30a4+30af+30eb
    30b5+30f3+30c1+30fc+30e0 30b7+30ea+30f3+30b0 30bb+30f3+30c1 30bb+30f3+30c8 30c0+30fc+30b9
    30c7+30b7 30c9+30eb 30c8+30f3 30ca+30ce 30ce+30c3+30c8 30cf+30a4+30c4 30d1+30fc+30bb+30f3+30c8
    30d1+30fc+30c4 30d0+30fc+30ec+30eb 30d4+30a2+30b9+30c8+30eb 30d4+30af+30eb 30d4+30b3 30d3+30eb
    30d5+30a1+30e9+30c3+30c9 30d5+30a3+30fc+30c8 30d6+30c3+30b7+30a7+30eb 30d5+30e9+30f3
    30d8+30af+30bf+30fc+30eb 30da+30bd 30da+30cb+30d2 30d8+30eb+30c4 30da+30f3+30b9 30da+30fc+30b8
    30d9+30fc+30bf 30dd+30a4+30f3+30c8 30dc+30eb+30c8 30db+30f3 30dd+30f3+30c9 30db+30fc+30eb
    30db+30fc+30f3 30de+30a4+30af+30ed 30de+30a4+30eb 30de+30c3+30cf 30de+30eb+30af
    30de+30f3+30b7+30e7+30f3 30df+30af+30ed+30f3 30df+30ea 30df+30ea+30d0+30fc+30eb 30e1+30ac
    30e1+30ac+30c8+30f3 30e1+30fc+30c8+30eb 30e4+30fc+30c9 30e4+30fc+30eb 30e6+30a2+30f3
    30ea+30c3+30c8+30eb 30ea+30e9 30eb+30d4+30fc 30eb+30fc+30d6+30eb 30ec+30e0
    30ec+30f3+30c8+30b2+30f3 30ef+30c3+30c8 30+70b9 31+70b9 32+70b9 33+70b9 34+70b9 35+70b9 36+70b9
    37+70b9 38+70b9 39+70b9 31+30+70b9 31+31+70b9 31+32+70b9 31+33+70b9 31+34+70b9 31+35+70b9
    31+36+70b9 31+37+70b9 31+38+70b9 31+39+70b9 32+30+70b9 32+31+70b9 32+32+70b9 32+33+70b9
    32+34+70b9 68+70+61 64+61 61+75 62+61+72 6f+76 70+63 64+6d 64+6d+32 64+6d+33 69+75 5e73+6210
    662d+548c 5927+6b63 660e+6cbb 682a+5f0f+4f1a+793e 70+61 6e+61 3bc+61 6d+61 6b+61 6b+62 6d+62
    67+62 63+61+6c 6b+63+61+6c 70+66 6e+66 3bc+66 3bc+67 6d+67 6b+67 68+7a 6b+68+7a 6d+68+7a
    67+68+7a 74+68+7a 3bc+6c 6d+6c 64+6c 6b+6c 66+6d 6e+6d 3bc+6d 6d+6d 63+6d 6b+6d 6d+6d+32
    63+6d+32 6d+32 6b+6d+32 6d+6d+33 63+6d+33 6d+33 6b+6d+33 6d+2215+73 6d+2215+73+32 70+61 6b+70+61
    6d+70+61 67+70+61 72+61+64 72+61+64+2215+73 72+61+64+2215+73+32 70+73 6e+73 3bc+73 6d+73 70+76
    6e+76 3bc+76 6d+76 6b+76 6d+76 70+77 6e+77 3bc+77 6d+77 6b+77 6d+77 6b+3c9 6d+3c9 - 62+71 63+63
    63+64 63+2215+6b+67 - 64+62 67+79 68+61 68+70 69+6e 6b+6b 6b+6d 6b+74 6c+6d 6c+6e 6c+6f+67 6c+78
    6d+62 6d+69+6c 6d+6f+6c 70+68 - 70+70+6d 70+72 73+72 73+76 77+62 76+2215+6d 61+2215+6d 31+65e5
    32+65e5 33+65e5 34+65e5 35+65e5 36+65e5 37+65e5 38+65e5 39+65e5 31+30+65e5 31+31+65e5 31+32+65e5
    31+33+65e5 31+34+65e5 31+35+65e5 31+36+65e5 31+37+65e5 31+38+65e5 31+39+65e5 32+30+65e5
    32+31+65e5 32+32+65e5 32+33+65e5 32+34+65e5 32+35+65e5 32+36+65e5 32+37+65e5 32+38+65e5
    32+39+65e5 33+30+65e5 33+31+65e5 67+61+6c",
  .read 0xa69c "44a 44c",
  .read 0xa770 "a76f",
  .read 0xa7f1 "73 63 66 71 - - - 127 153",
  .read 0xab5c "a727 ab37 26b ab52",
  .read 0xab69 "28d",
  .read 0xfb00 "66+66 66+69 66+6c 66+66+69 66+66+6c 73+74 73+74",
  .read 0xfb13 "574+576 574+565 574+56b 57e+576 574+56d",
  .read 0xfb20 "5e2 5d0 5d3 5d4 5db 5dc 5dd 5e8 5ea 2b",
  .read 0xfb4f "
    5d0+5dc 671 671 67b 67b 67b 67b 67e 67e 67e 67e 680 680 680 680 67a 67a 67a 67a 67f 67f 67f 67f
    679 679 679 679 6a4 6a4 6a4 6a4 6a6 6a6 6a6 6a6 684 684 684 684 683 683 683 683 686 686 686 686
    687 687 687 687 68d 68d 68c 68c 68e 68e 688 688 698 698 691 691 6a9 6a9 6a9 6a9 6af 6af 6af 6af
    6b3 6b3 6b3 6b3 6b1 6b1 6b1 6b1 6ba 6ba 6bb 6bb 6bb 6bb 6c0 6c0 6c1 6c1 6c1 6c1 6be 6be 6be 6be
    6d2 6d2 6d3 6d3",
  .read 0xfbd3 "
    6ad 6ad 6ad 6ad 6c7 6c7 6c6 6c6 6c8 6c8 6c7+674 6cb 6cb 6c5 6c5 6c9 6c9 6d0 6d0 6d0 6d0 649 649
    626+627 626+627 626+6d5 626+6d5 626+648 626+648 626+6c7 626+6c7 626+6c6 626+6c6 626+6c8 626+6c8
    626+6d0 626+6d0 626+6d0 626+649 626+649 626+649 6cc 6cc 6cc 6cc 626+62c 626+62d 626+645 626+649
    626+64a 628+62c 628+62d 628+62e 628+645 628+649 628+64a 62a+62c 62a+62d 62a+62e 62a+645 62a+649
    62a+64a 62b+62c 62b+645 62b+649 62b+64a 62c+62d 62c+645 62d+62c 62d+645 62e+62c 62e+62d 62e+645
    633+62c 633+62d 633+62e 633+645 635+62d 635+645 636+62c 636+62d 636+62e 636+645 637+62d 637+645
    638+645 639+62c 639+645 63a+62c 63a+645 641+62c 641+62d 641+62e 641+645 641+649 641+64a 642+62d
    642+645 642+649 642+64a 643+627 643+62c 643+62d 643+62e 643+644 643+645 643+649 643+64a 644+62c
    644+62d 644+62e 644+645 644+649 644+64a 645+62c 645+62d 645+62e 645+645 645+649 645+64a 646+62c
    646+62d 646+62e 646+645 646+649 646+64a 647+62c 647+645 647+649 647+64a 64a+62c 64a+62d 64a+62e
    64a+645 64a+649 64a+64a 630+670 631+670 649+670",
  .read 0xfc64 "
    626+631 626+632 626+645 626+646 626+649 626+64a 628+631 628+632 628+645 628+646 628+649 628+64a
    62a+631 62a+632 62a+645 62a+646 62a+649 62a+64a 62b+631 62b+632 62b+645 62b+646 62b+649 62b+64a
    641+649 641+64a 642+649 642+64a 643+627 643+644 643+645 643+649 643+64a 644+645 644+649 644+64a
    645+627 645+645 646+631 646+632 646+645 646+646 646+649 646+64a 649+670 64a+631 64a+632 64a+645
    64a+646 64a+649 64a+64a 626+62c 626+62d 626+62e 626+645 626+647 628+62c 628+62d 628+62e 628+645
    628+647 62a+62c 62a+62d 62a+62e 62a+645 62a+647 62b+645 62c+62d 62c+645 62d+62c 62d+645 62e+62c
    62e+645 633+62c 633+62d 633+62e 633+645 635+62d 635+62e 635+645 636+62c 636+62d 636+62e 636+645
    637+62d 638+645 639+62c 639+645 63a+62c 63a+645 641+62c 641+62d 641+62e 641+645 642+62d 642+645
    643+62c 643+62d 643+62e 643+644 643+645 644+62c 644+62d 644+62e 644+645 644+647 645+62c 645+62d
    645+62e 645+645 646+62c 646+62d 646+62e 646+645 646+647 647+62c 647+645 647+670 64a+62c 64a+62d
    64a+62e 64a+645 64a+647 626+645 626+647 628+645 628+647 62a+645 62a+647 62b+645 62b+647 633+645
    633+647 634+645 634+647 643+644 643+645 644+645 646+645 646+647 64a+645 64a+647 640+64e+651
    640+64f+651 640+650+651 637+649 637+64a 639+649 639+64a 63a+649 63a+64a 633+649 633+64a 634+649
    634+64a 62d+649 62d+64a 62c+649 62c+64a 62e+649 62e+64a 635+649 635+64a 636+649 636+64a 634+62c
    634+62d 634+62e 634+645 634+631 633+631 635+631 636+631 637+649 637+64a 639+649 639+64a 63a+649
    63a+64a 633+649 633+64a 634+649 634+64a 62d+649 62d+64a 62c+649 62c+64a 62e+649 62e+64a 635+649
    635+64a 636+649 636+64a 634+62c 634+62d 634+62e 634+645 634+631 633+631 635+631 636+631 634+62c
    634+62d 634+62e 634+645 633+647 634+647 637+645 633+62c 633+62d 633+62e 634+62c 634+62d 634+62e
    637+645 638+645 627+64b 627+64b",
  .read 0xfd50 "
    62a+62c+645 62a+62d+62c 62a+62d+62c 62a+62d+645 62a+62e+645 62a+645+62c 62a+645+62d 62a+645+62e
    62c+645+62d 62c+645+62d 62d+645+64a 62d+645+649 633+62d+62c 633+62c+62d 633+62c+649 633+645+62d
    633+645+62d 633+645+62c 633+645+645 633+645+645 635+62d+62d 635+62d+62d 635+645+645 634+62d+645
    634+62d+645 634+62c+64a 634+645+62e 634+645+62e 634+645+645 634+645+645 636+62d+649 636+62e+645
    636+62e+645 637+645+62d 637+645+62d 637+645+645 637+645+64a 639+62c+645 639+645+645 639+645+645
    639+645+649 63a+645+645 63a+645+64a 63a+645+649 641+62e+645 641+62e+645 642+645+62d 642+645+645
    644+62d+645 644+62d+64a 644+62d+649 644+62c+62c 644+62c+62c 644+62e+645 644+62e+645 644+645+62d
    644+645+62d 645+62d+62c 645+62d+645 645+62d+64a 645+62c+62d 645+62c+645 645+62e+62c 645+62e+645
    - - 645+62c+62e 647+645+62c 647+645+645 646+62d+645 646+62d+649 646+62c+645 646+62c+645
    646+62c+649 646+645+64a 646+645+649 64a+645+645 64a+645+645 628+62e+64a 62a+62c+64a 62a+62c+649
    62a+62e+64a 62a+62e+649 62a+645+64a 62a+645+649 62c+645+64a 62c+62d+649 62c+645+649 633+62e+649
    635+62d+64a 634+62d+64a 636+62d+64a 644+62c+64a 644+645+64a 64a+62d+64a 64a+62c+64a 64a+645+64a
    645+645+64a 642+645+64a 646+62d+64a 642+645+62d 644+62d+645 639+645+64a 643+645+64a 646+62c+62d
    645+62e+64a 644+62c+645 643+645+645 644+62c+645 646+62c+62d 62c+62d+64a 62d+62c+64a 645+62c+64a
    641+645+64a 628+62d+64a 643+645+645 639+62c+645 635+645+645 633+62e+64a 646+62c+64a",
  .read 0xfdf0 "
    635+644+6d2 642+644+6d2 627+644+644+647 627+643+628+631 645+62d+645+62f 635+644+639+645
    631+633+648+644 639+644+64a+647 648+633+644+645 635+644+649 - - 631+6cc+627+644",
  .read 0xfe10 "2c 3001 - - 3b 21 - 3016 3017",
  .read 0xfe31 "
    2014 2013 5f 5f 28 29 7b 7d 3014 3015 3010 3011 300a 300b 3008 3009 300c 300d 300e 300f",
  .read 0xfe4d "
    5f 5f 5f 2c 3001 - - 3b - - 21 2014 28 29 7b 7d 3014 3015 - 26 2a 2b 2d 3c 3e 3d - - 24",
  .read 0xfe71 "640+64b",
  .read 0xfe77 "
    640+64e - 640+64f - 640+650 - 640+651 - 640+652 621 622 622 623 623 624 624 625 625 626 626 626
    626 627 627 628 628 628 628 629 629 62a 62a 62a 62a 62b 62b 62b 62b 62c 62c 62c 62c 62d 62d 62d
    62d 62e 62e 62e 62e 62f 62f 630 630 631 631 632 632 633 633 633 633 634 634 634 634 635 635 635
    635 636 636 636 636 637 637 637 637 638 638 638 638 639 639 639 639 63a 63a 63a 63a 641 641 641
    641 642 642 642 642 643 643 643 643 644 644 644 644 645 645 645 645 646 646 646 646 647 647 647
    647 648 648 649 649 64a 64a 64a 64a 644+622 644+622 644+623 644+623 644+625 644+625 644+627
    644+627",
  .read 0xff5f "
    2985 2986 2e 300c 300d 3001 30fb 30f2 30a1 30a3 30a5 30a7 30a9 30e3 30e5 30e7 30c3 30fc 30a2
    30a4 30a6 30a8 30aa 30ab 30ad 30af 30b1 30b3 30b5 30b7 30b9 30bb 30bd 30bf 30c1 30c4 30c6 30c8",
  .read 0xff8b "30d2 30d5 30d8 30db 30de 30df 30e0 30e1 30e2 30e4 30e6",
  .read 0xff9c "30ef 30f3 3099 309a - 1100 1101 11aa 1102 11ac 11ad 1103 1104 1105",
  .read 0xffb0 "111a 1106 1107 1108 1121",
  .read 0xffda "
    1173 1174 1175 - - - a2 a3 ac - a6 a5 20a9 - 2502 2190 2191 2192 2193 25a0 25cb",
  .read 0x10781 "
    2d0 2d1 e6 299 253 - 2a3 ab66 2a5 2a4 256 257 1d91 258 25e 2a9 264 262 260 29b 127 29c 267 284
    2aa 2ab 26c 1df04 a78e 26e 1df05 28e 1df06 f8 276 277 71 27a 1df08 27d 27e 280 2a8 2a6 ab67 2a7
    288 2c71 - 28f 2a1 2a2 298 1c0 1c1 1c2 1df0a 1df1e",
  .read 0x1d49c "61 - 63 64 - - 67 - - 6a 6b - - 6e 6f 70 71",
  .read 0x1d4b6 "61 62 63 64 - 66",
  .read 0x1d504 "61 62 - 64 65 66 67",
  .read 0x1d538 "61 62 - 64 65 66 67 - 69 6a 6b 6c 6d - 6f",
  .read 0x1d6a4 "131 237",
  .read 0x1d6b9 "3b8",
  .read 0x1d6c1 "2207",
  .read 0x1d6d3 "3c3",
  .read 0x1d6db "2202 3b5 3b8 3ba 3c6 3c1 3c0",
  .read 0x1d6f3 "3b8",
  .read 0x1d6fb "2207",
  .read 0x1d70d "3c3",
  .read 0x1d715 "2202 3b5 3b8 3ba 3c6 3c1 3c0",
  .read 0x1d72d "3b8",
  .read 0x1d735 "2207",
  .read 0x1d747 "3c3",
  .read 0x1d74f "2202 3b5 3b8 3ba 3c6 3c1 3c0",
  .read 0x1d767 "3b8",
  .read 0x1d76f "2207",
  .read 0x1d781 "3c3",
  .read 0x1d789 "2202 3b5 3b8 3ba 3c6 3c1 3c0",
  .read 0x1d7a1 "3b8",
  .read 0x1d7a9 "2207",
  .read 0x1d7bb "3c3",
  .read 0x1d7c3 "2202 3b5 3b8 3ba 3c6 3c1 3c0 3dd 3dd",
  .read 0x1e039 "43a 43b 43c",
  .read 0x1e047 "44b 44d 44e a689 4d9 456 458 4e9 4af 4cf",
  .read 0x1e05a "43a 43b 43e 43f 441",
  .read 0x1e065 "44a 44b 491 456 455 45f 4ab a651 4b1",
  .read 0x1ee00 "
    627 628 62c 62f - 648 632 62d 637 64a 643 644 645 646 633 639 641 635 642 631 634 62a 62b 62e
    630 636 638 63a 66e 6ba 6a1 66f - 628 62c - 647 - - 62d - 64a 643 644 645 646 633 639 641 635
    642 - 634 62a 62b 62e - 636 - 63a",
  .read 0x1ee42 "62c",
  .read 0x1ee47 "
    62d - 64a - 644 - 646 633 639 - 635 642 - 634 - - 62e - 636 - 63a - 6ba - 66f - 628 62c - 647 -
    - 62d 637 64a 643 - 645 646 633 639 641 635 642 - 634 62a 62b 62e - 636 638 63a 66e - 6a1 - 627
    628 62c 62f 647 648 632 62d 637 64a - 644 645 646 633 639 641 635 642 631 634 62a 62b 62e 630
    636 638 63a",
  .read 0x1eea1 "
    628 62c 62f - 648 632 62d 637 64a - 644 645 646 633 639 641 635 642 631 634 62a 62b 62e 630 636
    638 63a",
  .read 0x1f101 "30+2c 31+2c 32+2c 33+2c 34+2c 35+2c 36+2c 37+2c 38+2c 39+2c",
  .read 0x1f110 "
    28+61+29 28+62+29 28+63+29 28+64+29 28+65+29 28+66+29 28+67+29 28+68+29 28+69+29 28+6a+29
    28+6b+29 28+6c+29 28+6d+29 28+6e+29 28+6f+29 28+70+29 28+71+29 28+72+29 28+73+29 28+74+29
    28+75+29 28+76+29 28+77+29 28+78+29 28+79+29 28+7a+29 3014+73+3015 63 72 63+64 77+7a",
  .read 0x1f14a "68+76 6d+76 73+64 73+73 70+70+76 77+63",
  .read 0x1f16a "6d+63 6d+64 6d+72",
  .read 0x1f190 "64+6a",
  .read 0x1f200 "307b+304b 30b3+30b3 30b5",
  .read 0x1f210 "
    624b 5b57 53cc 30c7 4e8c 591a 89e3 5929 4ea4 6620 7121 6599 524d 5f8c 518d 65b0 521d 7d42 751f
    8ca9 58f0 5439 6f14 6295 6355 4e00 4e09 904a 5de6 4e2d 53f3 6307 8d70 6253 7981 7a7a 5408 6e80
    6709 6708 7533 5272 55b6 914d",
  .read 0x1f240 "
    3014+672c+3015 3014+4e09+3015 3014+4e8c+3015 3014+5b89+3015 3014+70b9+3015 3014+6253+3015
    3014+76d7+3015 3014+52dd+3015 3014+6557+3015",
  .read 0x1f250 "5f97 53ef"]

/-- Capitals that are kept: they are as old as the script, and the small letters stand for them. -/
def isKeptCapital (c : Char) : Bool := 0x13a0 ≤ c.toNat && c.toNat ≤ 0x13f5

/-- Where the ranges put a code point. -/
def shiftIn : List (Nat × Nat × Nat) → Nat → Option Nat
  | [], _ => none
  | (lo, hi, target) :: rest, c =>
      if c < lo then none else if c ≤ hi then some (target + (c - lo)) else shiftIn rest c

/-- What a character of a name stands for. -/
def foldChar (c : Char) : List Char :=
  if c.toNat < 128 then [c.toLower]
  else
    match shiftIn shiftRanges c.toNat, foldTable.find? c with
    | some code, _ => [Char.ofNat code]
    | none, some text => text
    | none, none => if isKeptCapital c then [c] else [lowerChar c]

/-- A name as it is compared. -/
def foldName (s : List Char) : List Char :=
  composed ((s.filter (fun c => !covered ignoredRanges c.toNat)).flatMap foldChar)

end Concordance.Net
