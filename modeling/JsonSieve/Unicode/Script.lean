/-
# Scripts

The writing system that each code point belongs to, by edition 16 of the standard.  Signs that
several systems share belong to the script `common` or `inherited`; the extensions of a script are
the shared signs that are in use with it, beside its own.
-/
import JsonSieve.Unicode.CodeSet

namespace JsonSieve.Unicode.Script

/-! ## 1. The scripts -/

/-- Every script: its names, the code points of its own, and the shared ones in use with it. -/
structure Entry where
  names : List String
  own : CodeSet
  shared : CodeSet

/-- The scripts in alphabetical order of their short names. -/
def entries : List Entry :=
  [⟨["adlm", "adlam"],
    .ofRuns
      ["125184 76 4 10 4 2 "],
    .ofRuns
      ["1567 1 32 1 6670 1 3569 1 "]⟩,
   ⟨["aghb", "caucasianalbanian"],
    .ofRanges [(0x10530, 0x10563), (0x1056F, 0x1056F)],
    .ofRuns
      ["772 1 44 1 44 1 "]⟩,
   ⟨["ahom"],
    .ofRuns
      ["71424 27 2 15 4 23 "],
    .empty⟩,
   ⟨["arab", "arabic"],
    .ofRuns
      ["1536 5 1 6 1 14 1 3 1 32 1 10 11 26 1 108 1 34 80 48 240 31 1 2 5 75 1 29 62032 115 ",
       "16 363 2 80 2 54 7 1 32 16 112 5 1 135 3939 31 67 3 55 4 57088 4 1 27 1 2 1 1 2 1 1 ",
       "10 1 4 1 1 1 1 6 1 4 1 1 1 1 1 1 3 1 2 1 1 2 1 1 1 1 1 1 1 1 1 1 2 1 1 2 4 1 7 1 4 1 ",
       "4 1 1 1 10 1 17 5 3 1 5 1 17 52 2 "],
    .ofRuns
      ["1548 1 14 1 3 1 32 1 10 11 26 1 6622 1 3569 1 52988 2 1440 28 "]⟩,
   ⟨["armi", "imperialaramaic"],
    .ofRanges [(0x10840, 0x10855), (0x10857, 0x1085F)],
    .empty⟩,
   ⟨["armn", "armenian"],
    .ofRuns
      ["1329 38 2 50 2 3 62851 5 "],
    .ofRanges [(0x308, 0x308)]⟩,
   ⟨["avst", "avestan"],
    .ofRanges [(0x10B00, 0x10B35), (0x10B39, 0x10B3F)],
    .ofRanges [(0xB7, 0xB7), (0x2E30, 0x2E31)]⟩,
   ⟨["bali", "balinese"],
    .ofRanges [(0x1B00, 0x1B4C), (0x1B4E, 0x1B7F)],
    .empty⟩,
   ⟨["bamu", "bamum"],
    .ofRanges [(0xA6A0, 0xA6F7), (0x16800, 0x16A38)],
    .empty⟩,
   ⟨["bass", "bassavah"],
    .ofRanges [(0x16AD0, 0x16AED), (0x16AF0, 0x16AF5)],
    .empty⟩,
   ⟨["batk", "batak"],
    .ofRanges [(0x1BC0, 0x1BF3), (0x1BFC, 0x1BFF)],
    .empty⟩,
   ⟨["beng", "bengali"],
    .ofRuns
      ["2432 4 1 8 2 2 2 22 1 7 1 1 3 4 2 9 2 2 2 4 8 1 4 2 1 5 2 25 "],
    .ofRuns
      ["700 1 1684 2 17 2 4970 1 1 1 2 2 1 1 8 1 8 1 2 1 4 1 2 3 35833 1 "]⟩,
   ⟨["bhks", "bhaiksuki"],
    .ofRuns
      ["72704 9 1 45 1 14 10 29 "],
    .empty⟩,
   ⟨["bopo", "bopomofo"],
    .ofRuns
      ["746 2 11801 43 112 32 "],
    .ofRuns
      ["711 1 1 3 13 1 11559 3 4 10 1 13 10 4 2 1 6 1 195 1 52553 2 282 5 "]⟩,
   ⟨["brah", "brahmi"],
    .ofRuns
      ["69632 78 4 36 9 1 "],
    .empty⟩,
   ⟨["brai", "braille"],
    .ofRanges [(0x2800, 0x28FF)],
    .empty⟩,
   ⟨["bugi", "buginese"],
    .ofRanges [(0x1A00, 0x1A1B), (0x1A1E, 0x1A1F)],
    .ofRanges [(0xA9CF, 0xA9CF)]⟩,
   ⟨["buhd", "buhid"],
    .ofRanges [(0x1740, 0x1753)],
    .ofRanges [(0x1735, 0x1736)]⟩,
   ⟨["cakm", "chakma"],
    .ofRanges [(0x11100, 0x11134), (0x11136, 0x11147)],
    .ofRanges [(0x9E6, 0x9EF), (0x1040, 0x1049)]⟩,
   ⟨["cans", "canadianaboriginal"],
    .ofRuns
      ["5120 640 560 70 65978 16 "],
    .empty⟩,
   ⟨["cari", "carian"],
    .ofRanges [(0x102A0, 0x102D0)],
    .ofRuns
      ["183 1 8098 1 2 1 3539 1 "]⟩,
   ⟨["cham"],
    .ofRuns
      ["43520 55 9 14 2 10 2 4 "],
    .empty⟩,
   ⟨["cher", "cherokee"],
    .ofRuns
      ["5024 86 2 6 38770 80 "],
    .ofRuns
      ["768 3 1 1 6 2 22 2 11 2 "]⟩,
   ⟨["chrs", "chorasmian"],
    .ofRanges [(0x10FB0, 0x10FCB)],
    .empty⟩,
   ⟨["copt", "coptic", "qaac"],
    .ofRuns
      ["994 14 10384 116 5 7 "],
    .ofRuns
      ["183 1 584 1 3 2 1 1 108 2 10913 1 54472 28 "]⟩,
   ⟨["cpmn", "cyprominoan"],
    .ofRanges [(0x12F90, 0x12FF2)],
    .ofRanges [(0x10100, 0x10101)]⟩,
   ⟨["cprt", "cypriot"],
    .ofRuns
      ["67584 6 2 1 1 44 1 2 3 1 2 1 "],
    .ofRuns
      ["65792 3 4 45 3 9 "]⟩,
   ⟨["cyrl", "cyrillic"],
    .ofRuns
      ["1024 133 2 169 5968 11 160 1 76 1 4199 32 30784 96 22414 2 57856 62 33 1 "],
    .ofRuns
      ["700 1 67 3 1 1 1 1 1 1 2 1 5 1 371 2 6513 1 4170 1 "]⟩,
   ⟨["deva", "devanagari"],
    .ofRuns
      ["2304 81 4 15 2 26 40800 32 29184 10 "],
    .ofRuns
      ["700 1 1684 2 17 2 4970 39 1 2 1014 1 34623 10 "]⟩,
   ⟨["diak", "divesakuru"],
    .ofRuns
      ["71936 7 2 1 2 8 1 2 1 30 1 2 2 12 9 10 "],
    .empty⟩,
   ⟨["dogr", "dogra"],
    .ofRanges [(0x11800, 0x1183B)],
    .ofRanges [(0x964, 0x96F), (0xA830, 0xA839)]⟩,
   ⟨["dsrt", "deseret"],
    .ofRanges [(0x10400, 0x1044F)],
    .empty⟩,
   ⟨["dupl", "duployan"],
    .ofRuns
      ["113664 107 5 13 3 9 7 10 2 4 "],
    .ofRuns
      ["183 1 591 2 1 1 24 2 11031 1 101987 4 "]⟩,
   ⟨["egyp", "egyptianhieroglyphs"],
    .ofRanges [(0x13000, 0x13455), (0x13460, 0x143FA)],
    .empty⟩,
   ⟨["elba", "elbasan"],
    .ofRanges [(0x10500, 0x10527)],
    .ofRanges [(0xB7, 0xB7), (0x305, 0x305)]⟩,
   ⟨["elym", "elymaic"],
    .ofRanges [(0x10FE0, 0x10FF6)],
    .empty⟩,
   ⟨["ethi", "ethiopic"],
    .ofRuns
      ["4608 73 1 4 2 7 1 1 1 4 2 41 1 4 2 33 1 4 2 7 1 1 1 4 2 15 1 57 1 4 2 67 2 32 3 26 ",
       "6630 23 9 7 1 7 1 7 1 7 1 7 1 7 1 7 1 7 32034 6 2 6 2 6 9 7 1 7 81073 7 1 4 1 2 1 15 "],
    .ofRanges [(0x30E, 0x30E)]⟩,
   ⟨["gara", "garay"],
    .ofRuns
      ["68928 38 3 29 8 2 "],
    .ofRuns
      ["1548 1 14 1 3 1 "]⟩,
   ⟨["geor", "georgian"],
    .ofRuns
      ["4256 38 1 1 5 1 2 43 1 4 2960 43 2 3 4160 38 1 1 5 1 "],
    .ofRuns
      ["183 1 1233 1 2929 1 3934 1 3542 1 "]⟩,
   ⟨["glag", "glagolitic"],
    .ofRuns
      ["11264 96 111520 7 1 17 2 7 1 2 1 5 "],
    .ofRuns
      ["183 1 587 1 1 1 382 1 2 1 257 1 2929 1 3934 1 3560 1 30763 1 "]⟩,
   ⟨["gong", "gunjalagondi"],
    .ofRuns
      ["73056 6 1 2 1 37 1 2 1 6 7 10 "],
    .ofRanges [(0xB7, 0xB7), (0x964, 0x965)]⟩,
   ⟨["gonm", "masaramgondi"],
    .ofRuns
      ["72960 7 1 2 1 44 3 1 1 2 1 9 8 10 "],
    .ofRanges [(0x964, 0x965)]⟩,
   ⟨["goth", "gothic"],
    .ofRanges [(0x10330, 0x1034A)],
    .ofRuns
      ["183 1 588 2 2 1 40 1 "]⟩,
   ⟨["gran", "grantha"],
    .ofRuns
      ["70400 4 1 8 2 2 2 22 1 7 1 2 1 5 2 9 2 2 2 3 2 1 6 1 5 7 2 7 3 5 "],
    .ofRuns
      ["2385 2 17 2 640 14 4316 1 1 2 30 3 3 2 1014 1 62026 1 3220 2 1 1 "]⟩,
   ⟨["grek", "greek"],
    .ofRuns
      ["880 4 1 3 2 4 1 1 4 1 1 1 1 3 1 1 1 20 1 63 14 16 6438 5 50 5 4 5 84 1 320 22 2 6 2 ",
       "38 2 6 2 8 1 1 1 1 1 1 1 31 2 53 1 15 1 14 2 6 1 19 2 3 1 9 295 1 35390 1 21978 79 ",
       "17 1 53343 70 "],
    .ofRuns
      ["183 1 584 2 2 1 1 1 1 1 10 1 46 1 2 1 46 1 6731 2 667 1 "]⟩,
   ⟨["gujr", "gujarati"],
    .ofRuns
      ["2689 3 1 9 1 3 1 22 1 7 1 2 1 5 2 10 1 3 1 3 2 1 15 4 2 12 7 7 "],
    .ofRuns
      ["2385 2 17 2 40650 10 "]⟩,
   ⟨["gukh", "gurungkhema"],
    .ofRanges [(0x16100, 0x16139)],
    .ofRanges [(0x965, 0x965)]⟩,
   ⟨["guru", "gurmukhi"],
    .ofRuns
      ["2561 3 1 6 4 2 2 22 1 7 1 2 1 2 1 2 2 1 1 5 4 2 2 3 3 1 7 4 1 1 7 17 "],
    .ofRuns
      ["2385 2 17 2 40650 10 "]⟩,
   ⟨["hang", "hangul"],
    .ofRuns
      ["4352 256 7726 2 257 94 113 31 65 31 30433 29 643 11172 12 23 4 49 10148 31 3 6 2 6 2 ",
       "6 2 3 "],
    .ofRuns
      ["12289 3 4 10 1 13 16 1 6 1 195 1 52553 2 282 5 "]⟩,
   ⟨["hani", "han"],
    .ofRuns
      ["11904 26 1 89 12 214 47 1 1 1 25 9 14 4 964 6592 64 20992 22784 366 2 106 29960 2 12 ",
       "2 36878 42720 32 4154 6 222 2 5762 14 7473 15 622 2466 542 1506 4939 5 4192 "],
    .ofRuns
      ["183 1 12088 16 1 3 2 1 1 10 1 13 10 4 2 1 6 1 4 4 187 1 148 16 32 38 9 1 48 40 56 49 ",
       "15 12 51 1 88 25 10 5 96 31 29441 8 22333 2 282 5 54266 18 7902 2 "]⟩,
   ⟨["hano", "hanunoo"],
    .ofRanges [(0x1720, 0x1734)],
    .ofRanges [(0x1735, 0x1736)]⟩,
   ⟨["hatr", "hatran"],
    .ofRuns
      ["67808 19 1 2 5 5 "],
    .empty⟩,
   ⟨["hebr", "hebrew"],
    .ofRuns
      ["1425 55 8 27 4 6 62760 26 1 5 1 1 1 2 1 2 1 10 "],
    .ofRanges [(0x307, 0x308)]⟩,
   ⟨["hira", "hiragana"],
    .ofRuns
      ["12353 86 6 3 98145 287 18 1 29 3 16557 1 "],
    .ofRuns
      ["12289 3 4 10 1 13 16 6 1 1 4 2 91 4 3 1 90 2 52552 2 282 5 10 1 45 2 "]⟩,
   ⟨["hluw", "anatolianhieroglyphs"],
    .ofRanges [(0x14400, 0x14646)],
    .empty⟩,
   ⟨["hmng", "pahawhhmong"],
    .ofRuns
      ["92928 70 10 10 1 7 1 21 5 19 "],
    .empty⟩,
   ⟨["hmnp", "nyiakengpuachuehmong"],
    .ofRuns
      ["123136 45 3 14 2 10 4 2 "],
    .empty⟩,
   ⟨["hung", "oldhungarian"],
    .ofRuns
      ["68736 51 13 51 7 6 "],
    .ofRuns
      ["8282 1 2 1 3539 1 15 1 "]⟩,
   ⟨["ital", "olditalic"],
    .ofRanges [(0x10300, 0x10323), (0x1032D, 0x1032F)],
    .empty⟩,
   ⟨["java", "javanese"],
    .ofRuns
      ["43392 78 2 10 4 2 "],
    .ofRanges [(0xA9CF, 0xA9CF)]⟩,
   ⟨["kali", "kayahli"],
    .ofRanges [(0xA900, 0xA92D), (0xA92F, 0xA92F)],
    .ofRanges [(0xA92E, 0xA92E)]⟩,
   ⟨["kana", "katakana"],
    .ofRuns
      ["12449 90 2 3 240 16 208 47 1 88 52238 10 1 45 45138 4 1 7 1 2 1 1 287 3 50 1 14 4 "],
    .ofRuns
      ["773 1 29 1 11485 3 4 10 1 13 16 6 1 1 4 2 91 4 3 1 90 2 52552 2 282 5 10 1 45 2 "]⟩,
   ⟨["kawi"],
    .ofRuns
      ["73472 17 1 41 3 29 "],
    .empty⟩,
   ⟨["khar", "kharoshthi"],
    .ofRuns
      ["68096 4 1 2 5 8 1 3 1 29 2 3 4 10 7 9 "],
    .empty⟩,
   ⟨["khmr", "khmer"],
    .ofRuns
      ["6016 94 2 10 6 10 486 32 "],
    .empty⟩,
   ⟨["khoj", "khojki"],
    .ofRanges [(0x11200, 0x11211), (0x11213, 0x11241)],
    .ofRanges [(0xAE6, 0xAEF), (0xA830, 0xA839)]⟩,
   ⟨["kits", "khitansmallscript"],
    .ofRuns
      ["94180 1 6939 470 41 1 "],
    .empty⟩,
   ⟨["knda", "kannada"],
    .ofRuns
      ["3200 13 1 3 1 23 1 10 1 5 2 9 1 3 1 4 7 2 6 2 1 4 2 10 1 3 "],
    .ofRuns
      ["2385 2 17 2 4970 1 1 2 6 1 23 1 1 1 35643 6 "]⟩,
   ⟨["krai", "kiratrai"],
    .ofRanges [(0x16D40, 0x16D79)],
    .empty⟩,
   ⟨["kthi", "kaithi"],
    .ofRanges [(0x11080, 0x110C2), (0x110CD, 0x110CD)],
    .ofRuns
      ["2406 10 9409 1 31230 10 "]⟩,
   ⟨["lana", "taitham"],
    .ofRuns
      ["6688 63 1 29 2 11 6 10 6 14 "],
    .empty⟩,
   ⟨["laoo", "lao"],
    .ofRuns
      ["3713 2 1 1 1 5 1 24 1 1 1 23 2 5 1 1 1 7 1 10 2 4 "],
    .empty⟩,
   ⟨["latn", "latin"],
    .ofRuns
      ["65 26 6 26 47 1 15 1 5 23 1 31 1 449 39 5 6683 38 6 49 5 4 5 13 1 70 65 256 369 1 13 ",
       "1 16 13 141 2 6 1 27 1 17 41 2775 32 31394 102 3 67 2 2 1 1 1 8 21 14 816 43 1 9 1 4 ",
       "20374 7 1050 26 6 26 2085 6 1 42 1 9 55109 31 6 6 "],
    .ofRuns
      ["183 1 516 1 10 1 1 3 1 1 9 1 1 1 38 15 1 2 1 1 12 1 2 3 7 2 1 2 38 1 5 1 4 13 277 2 ",
       "1226 2 1960 1 3324 1 566 1 192 1 3366 1 30952 8 550 1 "]⟩,
   ⟨["lepc", "lepcha"],
    .ofRuns
      ["7168 56 3 15 3 3 "],
    .empty⟩,
   ⟨["limb", "limbu"],
    .ofRuns
      ["6400 31 1 12 4 12 4 1 3 12 "],
    .ofRanges [(0x965, 0x965)]⟩,
   ⟨["lina", "lineara"],
    .ofRuns
      ["67072 311 9 22 10 8 "],
    .ofRanges [(0x10107, 0x10133)]⟩,
   ⟨["linb", "linearb"],
    .ofRuns
      ["65536 12 1 26 1 19 1 2 1 15 2 14 34 123 "],
    .ofRuns
      ["65792 3 4 45 3 9 "]⟩,
   ⟨["lisu"],
    .ofRanges [(0xA4D0, 0xA4FF), (0x11FB0, 0x11FB0)],
    .ofRuns
      ["700 1 16 1 11580 2 "]⟩,
   ⟨["lyci", "lycian"],
    .ofRanges [(0x10280, 0x1029C)],
    .ofRanges [(0x205A, 0x205A)]⟩,
   ⟨["lydi", "lydian"],
    .ofRanges [(0x10920, 0x10939), (0x1093F, 0x1093F)],
    .ofRanges [(0xB7, 0xB7), (0x2E31, 0x2E31)]⟩,
   ⟨["mahj", "mahajani"],
    .ofRanges [(0x11150, 0x11176)],
    .ofRuns
      ["183 1 2220 12 40640 10 "]⟩,
   ⟨["maka", "makasar"],
    .ofRanges [(0x11EE0, 0x11EF8)],
    .empty⟩,
   ⟨["mand", "mandaic"],
    .ofRanges [(0x840, 0x85B), (0x85E, 0x85E)],
    .ofRanges [(0x640, 0x640)]⟩,
   ⟨["mani", "manichaean"],
    .ofRanges [(0x10AC0, 0x10AE6), (0x10AEB, 0x10AF6)],
    .ofRanges [(0x640, 0x640)]⟩,
   ⟨["marc", "marchen"],
    .ofRuns
      ["72816 32 2 22 1 14 "],
    .empty⟩,
   ⟨["medf", "medefaidrin"],
    .ofRanges [(0x16E40, 0x16E9A)],
    .empty⟩,
   ⟨["mend", "mendekikakui"],
    .ofRanges [(0x1E800, 0x1E8C4), (0x1E8C7, 0x1E8D6)],
    .empty⟩,
   ⟨["merc", "meroiticcursive"],
    .ofRuns
      ["68000 24 4 20 2 46 "],
    .empty⟩,
   ⟨["mero", "meroitichieroglyphs"],
    .ofRanges [(0x10980, 0x1099F)],
    .ofRanges [(0x205D, 0x205D)]⟩,
   ⟨["mlym", "malayalam"],
    .ofRuns
      ["3328 13 1 3 1 51 1 3 1 6 4 16 2 26 "],
    .ofRuns
      ["2385 2 17 2 4980 1 23 1 35645 3 "]⟩,
   ⟨["modi"],
    .ofRanges [(0x11600, 0x11644), (0x11650, 0x11659)],
    .ofRanges [(0xA830, 0xA839)]⟩,
   ⟨["mong", "mongolian"],
    .ofRuns
      ["6144 2 2 1 1 20 6 89 7 43 64949 13 "],
    .ofRuns
      ["6146 2 1 1 2089 1 4049 2 5 4 "]⟩,
   ⟨["mroo", "mro"],
    .ofRuns
      ["92736 31 1 10 4 2 "],
    .empty⟩,
   ⟨["mtei", "meeteimayek"],
    .ofRuns
      ["43744 23 201 46 2 10 "],
    .empty⟩,
   ⟨["mult", "multani"],
    .ofRuns
      ["70272 7 1 1 1 4 1 15 1 11 "],
    .ofRanges [(0xA66, 0xA6F)]⟩,
   ⟨["mymr", "myanmar"],
    .ofRuns
      ["4096 160 39232 31 97 32 27728 20 "],
    .ofRanges [(0xA92E, 0xA92E)]⟩,
   ⟨["nagm", "nagmundari"],
    .ofRanges [(0x1E4D0, 0x1E4F9)],
    .empty⟩,
   ⟨["nand", "nandinagari"],
    .ofRuns
      ["72096 8 2 46 2 11 "],
    .ofRuns
      ["2404 2 896 10 4089 1 8 1 7 1 35637 6 "]⟩,
   ⟨["narb", "oldnortharabian"],
    .ofRanges [(0x10A80, 0x10A9F)],
    .empty⟩,
   ⟨["nbat", "nabataean"],
    .ofRanges [(0x10880, 0x1089E), (0x108A7, 0x108AF)],
    .empty⟩,
   ⟨["newa"],
    .ofRanges [(0x11400, 0x1145B), (0x1145D, 0x11461)],
    .empty⟩,
   ⟨["nkoo", "nko"],
    .ofRanges [(0x7C0, 0x7FA), (0x7FD, 0x7FF)],
    .ofRuns
      ["1548 1 14 1 3 1 63262 2 "]⟩,
   ⟨["nshu", "nushu"],
    .ofRanges [(0x16FE1, 0x16FE1), (0x1B170, 0x1B2FB)],
    .empty⟩,
   ⟨["ogam", "ogham"],
    .ofRanges [(0x1680, 0x169C)],
    .empty⟩,
   ⟨["olck", "olchiki"],
    .ofRanges [(0x1C50, 0x1C7F)],
    .empty⟩,
   ⟨["onao", "olonal"],
    .ofRanges [(0x1E5D0, 0x1E5FA), (0x1E5FF, 0x1E5FF)],
    .ofRanges [(0x964, 0x965)]⟩,
   ⟨["orkh", "oldturkic"],
    .ofRanges [(0x10C00, 0x10C48)],
    .ofRanges [(0x205A, 0x205A), (0x2E30, 0x2E30)]⟩,
   ⟨["orya", "oriya"],
    .ofRuns
      ["2817 3 1 8 2 2 2 22 1 7 1 2 1 5 2 9 2 2 2 3 7 3 4 2 1 5 2 18 "],
    .ofRuns
      ["2385 2 17 2 4980 1 23 1 "]⟩,
   ⟨["osge", "osage"],
    .ofRanges [(0x104B0, 0x104D3), (0x104D8, 0x104FB)],
    .ofRuns
      ["769 1 2 1 6 1 76 1 "]⟩,
   ⟨["osma", "osmanya"],
    .ofRanges [(0x10480, 0x1049D), (0x104A0, 0x104A9)],
    .empty⟩,
   ⟨["ougr", "olduyghur"],
    .ofRanges [(0x10F70, 0x10F89)],
    .ofRanges [(0x640, 0x640), (0x10AF2, 0x10AF2)]⟩,
   ⟨["palm", "palmyrene"],
    .ofRanges [(0x10860, 0x1087F)],
    .empty⟩,
   ⟨["pauc", "paucinhau"],
    .ofRanges [(0x11AC0, 0x11AF8)],
    .empty⟩,
   ⟨["perm", "oldpermic"],
    .ofRanges [(0x10350, 0x1037A)],
    .ofRuns
      ["183 1 584 1 5 3 10 1 367 1 "]⟩,
   ⟨["phag", "phagspa"],
    .ofRanges [(0xA840, 0xA877)],
    .ofRuns
      ["6146 2 1 1 2089 1 4050 1 "]⟩,
   ⟨["phli", "inscriptionalpahlavi"],
    .ofRanges [(0x10B60, 0x10B72), (0x10B78, 0x10B7F)],
    .empty⟩,
   ⟨["phlp", "psalterpahlavi"],
    .ofRuns
      ["68480 18 7 4 12 7 "],
    .ofRanges [(0x640, 0x640)]⟩,
   ⟨["phnx", "phoenician"],
    .ofRanges [(0x10900, 0x1091B), (0x1091F, 0x1091F)],
    .empty⟩,
   ⟨["plrd", "miao"],
    .ofRuns
      ["93952 75 4 57 7 17 "],
    .empty⟩,
   ⟨["prti", "inscriptionalparthian"],
    .ofRanges [(0x10B40, 0x10B55), (0x10B58, 0x10B5F)],
    .empty⟩,
   ⟨["rjng", "rejang"],
    .ofRanges [(0xA930, 0xA953), (0xA95F, 0xA95F)],
    .empty⟩,
   ⟨["rohg", "hanifirohingya"],
    .ofRanges [(0x10D00, 0x10D27), (0x10D30, 0x10D39)],
    .ofRuns
      ["1548 1 14 1 3 1 32 1 147 1 "]⟩,
   ⟨["runr", "runic"],
    .ofRanges [(0x16A0, 0x16EA), (0x16EE, 0x16F8)],
    .ofRanges [(0x16EB, 0x16ED)]⟩,
   ⟨["samr", "samaritan"],
    .ofRanges [(0x800, 0x82D), (0x830, 0x83E)],
    .ofRanges [(0x2E31, 0x2E31)]⟩,
   ⟨["sarb", "oldsoutharabian"],
    .ofRanges [(0x10A60, 0x10A7F)],
    .empty⟩,
   ⟨["saur", "saurashtra"],
    .ofRanges [(0xA880, 0xA8C5), (0xA8CE, 0xA8D9)],
    .empty⟩,
   ⟨["sgnw", "signwriting"],
    .ofRuns
      ["120832 652 15 5 1 15 "],
    .empty⟩,
   ⟨["shaw", "shavian"],
    .ofRanges [(0x10450, 0x1047F)],
    .ofRanges [(0xB7, 0xB7)]⟩,
   ⟨["shrd", "sharada"],
    .ofRanges [(0x11180, 0x111DF)],
    .ofRuns
      ["2385 1 4997 1 1 1 2 2 2 1 35663 6 2 1 "]⟩,
   ⟨["sidd", "siddham"],
    .ofRanges [(0x11580, 0x115B5), (0x115B8, 0x115DD)],
    .empty⟩,
   ⟨["sind", "khudawadi"],
    .ofRanges [(0x112B0, 0x112EA), (0x112F0, 0x112F9)],
    .ofRanges [(0x964, 0x965), (0xA830, 0xA839)]⟩,
   ⟨["sinh", "sinhala"],
    .ofRuns
      ["3457 3 1 18 3 24 1 9 1 1 2 7 3 1 4 6 1 1 1 8 6 10 2 3 66540 20 "],
    .ofRanges [(0x964, 0x965), (0x1CF2, 0x1CF2)]⟩,
   ⟨["sogd", "sogdian"],
    .ofRanges [(0x10F30, 0x10F59)],
    .ofRanges [(0x640, 0x640)]⟩,
   ⟨["sogo", "oldsogdian"],
    .ofRanges [(0x10F00, 0x10F27)],
    .empty⟩,
   ⟨["sora", "sorasompeng"],
    .ofRanges [(0x110D0, 0x110E8), (0x110F0, 0x110F9)],
    .empty⟩,
   ⟨["soyo", "soyombo"],
    .ofRanges [(0x11A50, 0x11AA2)],
    .empty⟩,
   ⟨["sund", "sundanese"],
    .ofRanges [(0x1B80, 0x1BBF), (0x1CC0, 0x1CC7)],
    .empty⟩,
   ⟨["sunu", "sunuwar"],
    .ofRanges [(0x11BC0, 0x11BE1), (0x11BF0, 0x11BF9)],
    .ofRuns
      ["768 2 1 1 9 1 2 1 28 1 3 1 "]⟩,
   ⟨["sylo", "sylotinagri"],
    .ofRanges [(0xA800, 0xA82C)],
    .ofRanges [(0x964, 0x965), (0x9E6, 0x9EF)]⟩,
   ⟨["syrc", "syriac"],
    .ofRuns
      ["1792 14 1 60 2 3 272 11 "],
    .ofRuns
      ["771 2 2 2 1 1 21 1 2 3 7 2 1 1 731 1 14 2 2 1 32 1 10 11 26 1 6023 1 1 1 "]⟩,
   ⟨["tagb", "tagbanwa"],
    .ofRuns
      ["5984 13 1 3 1 2 "],
    .ofRanges [(0x1735, 0x1736)]⟩,
   ⟨["takr", "takri"],
    .ofRanges [(0x11680, 0x116B9), (0x116C0, 0x116C9)],
    .ofRanges [(0x964, 0x965), (0xA830, 0xA839)]⟩,
   ⟨["tale", "taile"],
    .ofRanges [(0x1950, 0x196D), (0x1970, 0x1974)],
    .ofRuns
      ["768 2 5 2 3 1 3379 10 "]⟩,
   ⟨["talu", "newtailue"],
    .ofRuns
      ["6528 44 4 26 6 11 3 2 "],
    .empty⟩,
   ⟨["taml", "tamil"],
    .ofRuns
      ["2946 2 1 6 3 3 1 4 3 2 1 1 1 2 3 2 3 3 3 12 4 5 3 3 1 4 2 1 6 1 14 21 70597 50 13 1 "],
    .ofRuns
      ["2385 2 17 2 4980 1 35864 1 27149 1 1 1 55 2 "]⟩,
   ⟨["tang", "tangut"],
    .ofRuns
      ["94176 1 31 6136 8 768 512 9 "],
    .ofRanges [(0x2FF0, 0x2FFF), (0x31EF, 0x31EF)]⟩,
   ⟨["tavt", "taiviet"],
    .ofRanges [(0xAA80, 0xAAC2), (0xAADB, 0xAADF)],
    .empty⟩,
   ⟨["telu", "telugu"],
    .ofRuns
      ["3072 13 1 3 1 23 1 16 2 9 1 3 1 4 7 2 1 3 2 1 2 4 2 10 7 9 "],
    .ofRuns
      ["2385 2 17 2 4980 1 23 1 "]⟩,
   ⟨["tfng", "tifinagh"],
    .ofRuns
      ["11568 56 7 2 14 1 "],
    .ofRuns
      ["770 1 1 1 2 1 1 1 "]⟩,
   ⟨["tglg", "tagalog"],
    .ofRanges [(0x1700, 0x1715), (0x171F, 0x171F)],
    .ofRanges [(0x1735, 0x1736)]⟩,
   ⟨["thaa", "thaana"],
    .ofRanges [(0x780, 0x7B1)],
    .ofRuns
      ["1548 1 14 2 2 1 64 10 63368 1 10 1 "]⟩,
   ⟨["thai"],
    .ofRanges [(0xE01, 0xE3A), (0xE40, 0xE5B)],
    .ofRuns
      ["700 1 26 1 43 1 45 1 "]⟩,
   ⟨["tibt", "tibetan"],
    .ofRuns
      ["3840 72 1 36 4 39 1 36 1 15 1 7 4 2 "],
    .ofRanges [(0x3008, 0x300B)]⟩,
   ⟨["tirh", "tirhuta"],
    .ofRanges [(0x11480, 0x114C7), (0x114D0, 0x114D9)],
    .ofRuns
      ["2385 2 17 2 5004 1 35645 10 "]⟩,
   ⟨["tnsa", "tangsa"],
    .ofRanges [(0x16A70, 0x16ABE), (0x16AC0, 0x16AC9)],
    .empty⟩,
   ⟨["todr", "todhri"],
    .ofRanges [(0x105C0, 0x105F3)],
    .ofRuns
      ["769 1 2 1 2 1 9 1 1 1 74 1 "]⟩,
   ⟨["toto"],
    .ofRanges [(0x1E290, 0x1E2AE)],
    .ofRanges [(0x2BC, 0x2BC)]⟩,
   ⟨["tutg", "tulutigalari"],
    .ofRuns
      ["70528 10 1 1 2 1 1 38 1 10 1 1 2 1 1 4 1 10 1 2 8 2 "],
    .ofRuns
      ["3302 10 4098 1 1 1 35643 6 187 1 "]⟩,
   ⟨["ugar", "ugaritic"],
    .ofRanges [(0x10380, 0x1039D), (0x1039F, 0x1039F)],
    .empty⟩,
   ⟨["vaii", "vai"],
    .ofRanges [(0xA500, 0xA62B)],
    .empty⟩,
   ⟨["vith", "vithkuqi"],
    .ofRuns
      ["66928 11 1 15 1 7 1 2 1 11 1 15 1 7 1 2 "],
    .empty⟩,
   ⟨["wara", "warangciti"],
    .ofRanges [(0x118A0, 0x118F2), (0x118FF, 0x118FF)],
    .empty⟩,
   ⟨["wcho", "wancho"],
    .ofRanges [(0x1E2C0, 0x1E2F9), (0x1E2FF, 0x1E2FF)],
    .empty⟩,
   ⟨["xpeo", "oldpersian"],
    .ofRanges [(0x103A0, 0x103C3), (0x103C8, 0x103D5)],
    .empty⟩,
   ⟨["xsux", "cuneiform"],
    .ofRuns
      ["73728 922 102 111 1 5 11 196 "],
    .empty⟩,
   ⟨["yezi", "yezidi"],
    .ofRuns
      ["69248 42 1 3 2 2 "],
    .ofRuns
      ["1548 1 14 1 3 1 64 10 "]⟩,
   ⟨["yiii", "yi"],
    .ofRanges [(0xA000, 0xA48C), (0xA490, 0xA4C6)],
    .ofRuns
      ["12289 2 5 10 2 8 223 1 52837 5 "]⟩,
   ⟨["zanb", "zanabazarsquare"],
    .ofRanges [(0x11A00, 0x11A47)],
    .empty⟩,
   ⟨["zinh", "inherited", "qaai"],
    .ofRuns
      ["768 112 277 2 452 11 26 1 736 4 4443 31 513 3 1 13 1 7 4 1 6 1 3 2 198 64 524 2 194 ",
       "33 3897 4 107 2 52581 16 16 14 975 1 226 1 4186 1 48068 46 2 23 544 3 17 8 2 7 30 4 ",
       "798546 240 "],
    .empty⟩,
   ⟨["zyyy", "common"],
    .ofRuns
      ["0 65 26 6 26 47 1 15 1 5 23 1 31 1 449 39 5 5 2 20 116 1 9 1 6 1 1 1 637 1 6 1 14 1 ",
       "3 1 32 1 156 1 516 1 129 2 1241 1 405 4 290 1 1519 3 71 2 203 2 1 1 1229 1 13 1 7 4 ",
       "1 6 1 3 2 1 773 12 2 87 1 11 3 11 1 15 17 33 63 38 1 3 2 6 1 27 1 17 41 3 4 666 22 ",
       "11 21 928 256 628 2 32 1 105 512 94 402 21 1 1 1 25 15 8 4 4 91 2 3 1 90 2 147 16 32 ",
       "38 9 1 48 64 31 81 47 1 88 168 6592 64 22784 34 102 3 165 10 244 1 160 1 395 1 14 2 ",
       "20946 2 208 10 22 35 1 19 1 4 147 1 1 32 26 6 26 11 10 1 45 2 64 7 1 7 10 5 258 3 4 ",
       "45 3 9 80 13 51 45 228 27 47524 4 3932 250 6 436 156 116 60 246 10 39 2 62 3 17 8 2 ",
       "7 30 4 61 213 20 12 20 12 87 9 25 135 85 1 71 1 2 2 1 2 2 2 4 1 12 1 1 1 7 1 65 1 4 ",
       "2 8 1 7 1 28 1 4 1 5 1 1 3 7 1 340 2 292 2 50 5233 68 76 61 706 44 4 100 12 15 2 15 ",
       "1 15 1 37 10 174 56 26 1 2 13 44 4 9 7 2 14 6 154 984 4 17 3 13 3 119 4 95 6 12 4 1 ",
       "15 12 4 56 8 10 6 40 8 30 2 12 4 2 62 340 12 14 2 13 3 10 5 56 7 15 2 11 6 9 7 147 1 ",
       "102 787463 1 30 96 "],
    .empty⟩]

/-! ## 2. Look-up -/

/-- The two scripts that hold what scripts share. -/
def isSharing (e : Entry) : Bool := e.names.contains "common" || e.names.contains "inherited"

/-- What is in use with some script that does not share. -/
def claimed : CodeSet := .unions ((entries.filter fun e => !isSharing e).map Entry.shared)

/-- The code points of a script. -/
def find? (name : String) : Option CodeSet :=
  (entries.find? fun e => e.names.contains name).map Entry.own

/-- The code points in use with a script; a sharing script has those that no other has. -/
def findExtended? (name : String) : Option CodeSet :=
  (entries.find? fun e => e.names.contains name).map fun e =>
    if isSharing e then e.own \ claimed else e.own ∪ e.shared

end JsonSieve.Unicode.Script
