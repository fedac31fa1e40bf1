import ProfileQuery.Unicode.CodeSet

/-!
# Scripts

The property Script: the script that a character belongs to. Names are in folded form, the short
one first.
-/

namespace ProfileQuery.Unicode

/-- The scripts, each with its names and its code points. -/
def scripts : List (List String × CodeSet) := [
  (["adlm", "adlam"], .ofLengths
    "125184 76 4 10 4 2"),
  (["aghb", "caucasianalbanian"], .ofLengths
    "66864 52 11 1"),
  (["ahom"], .ofLengths
    "71424 27 2 15 4 23"),
  (["arab", "arabic"], .ofLengths
    "1536 5 1 6 1 14 1 3 1 32 1 10 11 26 1 108 1 34 80 48 240 31 1 2 5 75 1 29 62032 115 16 363 2
    80 2 54 7 1 32 16 112 5 1 135 3939 31 67 3 55 4 57088 4 1 27 1 2 1 1 2 1 1 10 1 4 1 1 1 1 6
    1 4 1 1 1 1 1 1 3 1 2 1 1 2 1 1 1 1 1 1 1 1 1 1 2 1 1 2 4 1 7 1 4 1 4 1 1 1 10 1 17 5 3 1 5
    1 17 52 2"),
  (["armi", "imperialaramaic"], .ofLengths
    "67648 22 1 9"),
  (["armn", "armenian"], .ofLengths
    "1329 38 2 50 2 3 62851 5"),
  (["avst", "avestan"], .ofLengths
    "68352 54 3 7"),
  (["bali", "balinese"], .ofLengths
    "6912 77 1 50"),
  (["bamu", "bamum"], .ofLengths
    "42656 88 49416 569"),
  (["bass", "bassavah"], .ofLengths
    "92880 30 2 6"),
  (["batk", "batak"], .ofLengths
    "7104 52 8 4"),
  (["beng", "bengali"], .ofLengths
    "2432 4 1 8 2 2 2 22 1 7 1 1 3 4 2 9 2 2 2 4 8 1 4 2 1 5 2 25"),
  (["bhks", "bhaiksuki"], .ofLengths
    "72704 9 1 45 1 14 10 29"),
  (["bopo", "bopomofo"], .ofLengths
    "746 2 11801 43 112 32"),
  (["brah", "brahmi"], .ofLengths
    "69632 78 4 36 9 1"),
  (["brai", "braille"], .ofLengths
    "10240 256"),
  (["bugi", "buginese"], .ofLengths
    "6656 28 2 2"),
  (["buhd", "buhid"], .ofLengths
    "5952 20"),
  (["cakm", "chakma"], .ofLengths
    "69888 53 1 18"),
  (["cans", "canadianaboriginal"], .ofLengths
    "5120 640 560 70 65978 16"),
  (["cari", "carian"], .ofLengths
    "66208 49"),
  (["cham"], .ofLengths
    "43520 55 9 14 2 10 2 4"),
  (["cher", "cherokee"], .ofLengths
    "5024 86 2 6 38770 80"),
  (["chrs", "chorasmian"], .ofLengths
    "69552 28"),
  (["copt", "qaac", "coptic"], .ofLengths
    "994 14 10384 116 5 7"),
  (["cpmn", "cyprominoan"], .ofLengths
    "77712 99"),
  (["cprt", "cypriot"], .ofLengths
    "67584 6 2 1 1 44 1 2 3 1 2 1"),
  (["cyrl", "cyrillic"], .ofLengths
    "1024 133 2 169 5968 11 160 1 76 1 4199 32 30784 96 22414 2 57856 62 33 1"),
  (["deva", "devanagari"], .ofLengths
    "2304 81 4 15 2 26 40800 32 29184 10"),
  (["diak", "divesakuru"], .ofLengths
    "71936 7 2 1 2 8 1 2 1 30 1 2 2 12 9 10"),
  (["dogr", "dogra"], .ofLengths
    "71680 60"),
  (["dsrt", "deseret"], .ofLengths
    "66560 80"),
  (["dupl", "duployan"], .ofLengths
    "113664 107 5 13 3 9 7 10 2 4"),
  (["egyp", "egyptianhieroglyphs"], .ofLengths
    "77824 1110 10 3995"),
  (["elba", "elbasan"], .ofLengths
    "66816 40"),
  (["elym", "elymaic"], .ofLengths
    "69600 23"),
  (["ethi", "ethiopic"], .ofLengths
    "4608 73 1 4 2 7 1 1 1 4 2 41 1 4 2 33 1 4 2 7 1 1 1 4 2 15 1 57 1 4 2 67 2 32 3 26 6630 23 9
    7 1 7 1 7 1 7 1 7 1 7 1 7 1 7 32034 6 2 6 2 6 9 7 1 7 81073 7 1 4 1 2 1 15"),
  (["gara", "garay"], .ofLengths
    "68928 38 3 29 8 2"),
  (["geor", "georgian"], .ofLengths
    "4256 38 1 1 5 1 2 43 1 4 2960 43 2 3 4160 38 1 1 5 1"),
  (["glag", "glagolitic"], .ofLengths
    "11264 96 111520 7 1 17 2 7 1 2 1 5"),
  (["gong", "gunjalagondi"], .ofLengths
    "73056 6 1 2 1 37 1 2 1 6 7 10"),
  (["gonm", "masaramgondi"], .ofLengths
    "72960 7 1 2 1 44 3 1 1 2 1 9 8 10"),
  (["goth", "gothic"], .ofLengths
    "66352 27"),
  (["gran", "grantha"], .ofLengths
    "70400 4 1 8 2 2 2 22 1 7 1 2 1 5 2 9 2 2 2 3 2 1 6 1 5 7 2 7 3 5"),
  (["grek", "greek"], .ofLengths
    "880 4 1 3 2 4 1 1 4 1 1 1 1 3 1 1 1 20 1 63 14 16 6438 5 50 5 4 5 84 1 320 22 2 6 2 38 2 6 2
    8 1 1 1 1 1 1 1 31 2 53 1 15 1 14 2 6 1 19 2 3 1 9 295 1 35390 1 21978 79 17 1 53343 70"),
  (["gujr", "gujarati"], .ofLengths
    "2689 3 1 9 1 3 1 22 1 7 1 2 1 5 2 10 1 3 1 3 2 1 15 4 2 12 7 7"),
  (["gukh", "gurungkhema"], .ofLengths
    "90368 58"),
  (["guru", "gurmukhi"], .ofLengths
    "2561 3 1 6 4 2 2 22 1 7 1 2 1 2 1 2 2 1 1 5 4 2 2 3 3 1 7 4 1 1 7 17"),
  (["han", "hani"], .ofLengths
    "11904 26 1 89 12 214 47 1 1 1 25 9 14 4 964 6592 64 20992 22784 366 2 106 29960 2 12 2 36878
    42720 32 4154 6 222 2 5762 14 7473 15 622 2466 542 1506 4939 5 4192"),
  (["hang", "hangul"], .ofLengths
    "4352 256 7726 2 257 94 113 31 65 31 30433 29 643 11172 12 23 4 49 10148 31 3 6 2 6 2 6 2 3"),
  (["hano", "hanunoo"], .ofLengths
    "5920 21"),
  (["hatr", "hatran"], .ofLengths
    "67808 19 1 2 5 5"),
  (["hebr", "hebrew"], .ofLengths
    "1425 55 8 27 4 6 62760 26 1 5 1 1 1 2 1 2 1 10"),
  (["hira", "hiragana"], .ofLengths
    "12353 86 6 3 98145 287 18 1 29 3 16557 1"),
  (["hluw", "anatolianhieroglyphs"], .ofLengths
    "82944 583"),
  (["hmng", "pahawhhmong"], .ofLengths
    "92928 70 10 10 1 7 1 21 5 19"),
  (["hmnp", "nyiakengpuachuehmong"], .ofLengths
    "123136 45 3 14 2 10 4 2"),
  (["hung", "oldhungarian"], .ofLengths
    "68736 51 13 51 7 6"),
  (["ital", "olditalic"], .ofLengths
    "66304 36 9 3"),
  (["java", "javanese"], .ofLengths
    "43392 78 2 10 4 2"),
  (["kali", "kayahli"], .ofLengths
    "43264 46 1 1"),
  (["kana", "katakana"], .ofLengths
    "12449 90 2 3 240 16 208 47 1 88 52238 10 1 45 45138 4 1 7 1 2 1 1 287 3 50 1 14 4"),
  (["kawi"], .ofLengths
    "73472 17 1 41 3 29"),
  (["khar", "kharoshthi"], .ofLengths
    "68096 4 1 2 5 8 1 3 1 29 2 3 4 10 7 9"),
  (["khmr", "khmer"], .ofLengths
    "6016 94 2 10 6 10 486 32"),
  (["khoj", "khojki"], .ofLengths
    "70144 18 1 47"),
  (["kits", "khitansmallscript"], .ofLengths
    "94180 1 6939 470 41 1"),
  (["knda", "kannada"], .ofLengths
    "3200 13 1 3 1 23 1 10 1 5 2 9 1 3 1 4 7 2 6 2 1 4 2 10 1 3"),
  (["krai", "kiratrai"], .ofLengths
    "93504 58"),
  (["kthi", "kaithi"], .ofLengths
    "69760 67 10 1"),
  (["lana", "taitham"], .ofLengths
    "6688 63 1 29 2 11 6 10 6 14"),
  (["lao", "laoo"], .ofLengths
    "3713 2 1 1 1 5 1 24 1 1 1 23 2 5 1 1 1 7 1 10 2 4"),
  (["latn", "latin"], .ofLengths
    "65 26 6 26 47 1 15 1 5 23 1 31 1 449 39 5 6683 38 6 49 5 4 5 13 1 70 65 256 369 1 13 1 16 13
    141 2 6 1 27 1 17 41 2775 32 31394 102 3 67 2 2 1 1 1 8 21 14 816 43 1 9 1 4 20374 7 1050 26
    6 26 2085 6 1 42 1 9 55109 31 6 6"),
  (["lepc", "lepcha"], .ofLengths
    "7168 56 3 15 3 3"),
  (["limb", "limbu"], .ofLengths
    "6400 31 1 12 4 12 4 1 3 12"),
  (["lina", "lineara"], .ofLengths
    "67072 311 9 22 10 8"),
  (["linb", "linearb"], .ofLengths
    "65536 12 1 26 1 19 1 2 1 15 2 14 34 123"),
  (["lisu"], .ofLengths
    "42192 48 31408 1"),
  (["lyci", "lycian"], .ofLengths
    "66176 29"),
  (["lydi", "lydian"], .ofLengths
    "67872 26 5 1"),
  (["mahj", "mahajani"], .ofLengths
    "69968 39"),
  (["maka", "makasar"], .ofLengths
    "73440 25"),
  (["mand", "mandaic"], .ofLengths
    "2112 28 2 1"),
  (["mani", "manichaean"], .ofLengths
    "68288 39 4 12"),
  (["marc", "marchen"], .ofLengths
    "72816 32 2 22 1 14"),
  (["medf", "medefaidrin"], .ofLengths
    "93760 91"),
  (["mend", "mendekikakui"], .ofLengths
    "124928 197 2 16"),
  (["merc", "meroiticcursive"], .ofLengths
    "68000 24 4 20 2 46"),
  (["mero", "meroitichieroglyphs"], .ofLengths
    "67968 32"),
  (["miao", "plrd"], .ofLengths
    "93952 75 4 57 7 17"),
  (["mlym", "malayalam"], .ofLengths
    "3328 13 1 3 1 51 1 3 1 6 4 16 2 26"),
  (["modi"], .ofLengths
    "71168 69 11 10"),
  (["mong", "mongolian"], .ofLengths
    "6144 2 2 1 1 20 6 89 7 43 64949 13"),
  (["mro", "mroo"], .ofLengths
    "92736 31 1 10 4 2"),
  (["mtei", "meeteimayek"], .ofLengths
    "43744 23 201 46 2 10"),
  (["mult", "multani"], .ofLengths
    "70272 7 1 1 1 4 1 15 1 11"),
  (["mymr", "myanmar"], .ofLengths
    "4096 160 39232 31 97 32 27728 20"),
  (["nagm", "nagmundari"], .ofLengths
    "124112 42"),
  (["nand", "nandinagari"], .ofLengths
    "72096 8 2 46 2 11"),
  (["narb", "oldnortharabian"], .ofLengths
    "68224 32"),
  (["nbat", "nabataean"], .ofLengths
    "67712 31 8 9"),
  (["newa"], .ofLengths
    "70656 92 1 5"),
  (["nko", "nkoo"], .ofLengths
    "1984 59 2 3"),
  (["nshu", "nushu"], .ofLengths
    "94177 1 16782 396"),
  (["ogam", "ogham"], .ofLengths
    "5760 29"),
  (["olck", "olchiki"], .ofLengths
    "7248 48"),
  (["onao", "olonal"], .ofLengths
    "124368 43 4 1"),
  (["orkh", "oldturkic"], .ofLengths
    "68608 73"),
  (["orya", "oriya"], .ofLengths
    "2817 3 1 8 2 2 2 22 1 7 1 2 1 5 2 9 2 2 2 3 7 3 4 2 1 5 2 18"),
  (["osge", "osage"], .ofLengths
    "66736 36 4 36"),
  (["osma", "osmanya"], .ofLengths
    "66688 30 2 10"),
  (["ougr", "olduyghur"], .ofLengths
    "69488 26"),
  (["palm", "palmyrene"], .ofLengths
    "67680 32"),
  (["pauc", "paucinhau"], .ofLengths
    "72384 57"),
  (["perm", "oldpermic"], .ofLengths
    "66384 43"),
  (["phag", "phagspa"], .ofLengths
    "43072 56"),
  (["phli", "inscriptionalpahlavi"], .ofLengths
    "68448 19 5 8"),
  (["phlp", "psalterpahlavi"], .ofLengths
    "68480 18 7 4 12 7"),
  (["phnx", "phoenician"], .ofLengths
    "67840 28 3 1"),
  (["prti", "inscriptionalparthian"], .ofLengths
    "68416 22 2 8"),
  (["qaai", "zinh", "inherited"], .ofLengths
    "768 112 277 2 452 11 26 1 736 4 4443 31 513 3 1 13 1 7 4 1 6 1 3 2 198 64 524 2 194 33 3897
    4 107 2 52581 16 16 14 975 1 226 1 4186 1 48068 46 2 23 544 3 17 8 2 7 30 4 798546 240"),
  (["rjng", "rejang"], .ofLengths
    "43312 36 11 1"),
  (["rohg", "hanifirohingya"], .ofLengths
    "68864 40 8 10"),
  (["runr", "runic"], .ofLengths
    "5792 75 3 11"),
  (["samr", "samaritan"], .ofLengths
    "2048 46 2 15"),
  (["sarb", "oldsoutharabian"], .ofLengths
    "68192 32"),
  (["saur", "saurashtra"], .ofLengths
    "43136 70 8 12"),
  (["sgnw", "signwriting"], .ofLengths
    "120832 652 15 5 1 15"),
  (["shaw", "shavian"], .ofLengths
    "66640 48"),
  (["shrd", "sharada"], .ofLengths
    "70016 96"),
  (["sidd", "siddham"], .ofLengths
    "71040 54 2 38"),
  (["sind", "khudawadi"], .ofLengths
    "70320 59 5 10"),
  (["sinh", "sinhala"], .ofLengths
    "3457 3 1 18 3 24 1 9 1 1 2 7 3 1 4 6 1 1 1 8 6 10 2 3 66540 20"),
  (["sogd", "sogdian"], .ofLengths
    "69424 42"),
  (["sogo", "oldsogdian"], .ofLengths
    "69376 40"),
  (["sora", "sorasompeng"], .ofLengths
    "69840 25 7 10"),
  (["soyo", "soyombo"], .ofLengths
    "72272 83"),
  (["sund", "sundanese"], .ofLengths
    "7040 64 256 8"),
  (["sunu", "sunuwar"], .ofLengths
    "72640 34 14 10"),
  (["sylo", "sylotinagri"], .ofLengths
    "43008 45"),
  (["syrc", "syriac"], .ofLengths
    "1792 14 1 60 2 3 272 11"),
  (["tagb", "tagbanwa"], .ofLengths
    "5984 13 1 3 1 2"),
  (["takr", "takri"], .ofLengths
    "71296 58 6 10"),
  (["tale", "taile"], .ofLengths
    "6480 30 2 5"),
  (["talu", "newtailue"], .ofLengths
    "6528 44 4 26 6 11 3 2"),
  (["taml", "tamil"], .ofLengths
    "2946 2 1 6 3 3 1 4 3 2 1 1 1 2 3 2 3 3 3 12 4 5 3 3 1 4 2 1 6 1 14 21 70597 50 13 1"),
  (["tang", "tangut"], .ofLengths
    "94176 1 31 6136 8 768 512 9"),
  (["tavt", "taiviet"], .ofLengths
    "43648 67 24 5"),
  (["telu", "telugu"], .ofLengths
    "3072 13 1 3 1 23 1 16 2 9 1 3 1 4 7 2 1 3 2 1 2 4 2 10 7 9"),
  (["tfng", "tifinagh"], .ofLengths
    "11568 56 7 2 14 1"),
  (["tglg", "tagalog"], .ofLengths
    "5888 22 9 1"),
  (["thaa", "thaana"], .ofLengths
    "1920 50"),
  (["thai"], .ofLengths
    "3585 58 5 28"),
  (["tibt", "tibetan"], .ofLengths
    "3840 72 1 36 4 39 1 36 1 15 1 7 4 2"),
  (["tirh", "tirhuta"], .ofLengths
    "70784 72 8 10"),
  (["tnsa", "tangsa"], .ofLengths
    "92784 79 1 10"),
  (["todr", "todhri"], .ofLengths
    "67008 52"),
  (["toto"], .ofLengths
    "123536 31"),
  (["tutg", "tulutigalari"], .ofLengths
    "70528 10 1 1 2 1 1 38 1 10 1 1 2 1 1 4 1 10 1 2 8 2"),
  (["ugar", "ugaritic"], .ofLengths
    "66432 30 1 1"),
  (["vai", "vaii"], .ofLengths
    "42240 300"),
  (["vith", "vithkuqi"], .ofLengths
    "66928 11 1 15 1 7 1 2 1 11 1 15 1 7 1 2"),
  (["wara", "warangciti"], .ofLengths
    "71840 83 12 1"),
  (["wcho", "wancho"], .ofLengths
    "123584 58 5 1"),
  (["xpeo", "oldpersian"], .ofLengths
    "66464 36 4 14"),
  (["xsux", "cuneiform"], .ofLengths
    "73728 922 102 111 1 5 11 196"),
  (["yezi", "yezidi"], .ofLengths
    "69248 42 1 3 2 2"),
  (["yi", "yiii"], .ofLengths
    "40960 1165 3 55"),
  (["zanb", "zanabazarsquare"], .ofLengths
    "72192 72"),
  (["zyyy", "common"], .ofLengths
    "0 65 26 6 26 47 1 15 1 5 23 1 31 1 449 39 5 5 2 20 116 1 9 1 6 1 1 1 637 1 6 1 14 1 3 1 32 1
    156 1 516 1 129 2 1241 1 405 4 290 1 1519 3 71 2 203 2 1 1 1229 1 13 1 7 4 1 6 1 3 2 1 773
    12 2 87 1 11 3 11 1 15 17 33 63 38 1 3 2 6 1 27 1 17 41 3 4 666 22 11 21 928 256 628 2 32 1
    105 512 94 402 21 1 1 1 25 15 8 4 4 91 2 3 1 90 2 147 16 32 38 9 1 48 64 31 81 47 1 88 168
    6592 64 22784 34 102 3 165 10 244 1 160 1 395 1 14 2 20946 2 208 10 22 35 1 19 1 4 147 1 1
    32 26 6 26 11 10 1 45 2 64 7 1 7 10 5 258 3 4 45 3 9 80 13 51 45 228 27 47524 4 3932 250 6
    436 156 116 60 246 10 39 2 62 3 17 8 2 7 30 4 61 213 20 12 20 12 87 9 25 135 85 1 71 1 2 2 1
    2 2 2 4 1 12 1 1 1 7 1 65 1 4 2 8 1 7 1 28 1 4 1 5 1 1 3 7 1 340 2 292 2 50 5233 68 76 61
    706 44 4 100 12 15 2 15 1 15 1 37 10 174 56 26 1 2 13 44 4 9 7 2 14 6 154 984 4 17 3 13 3
    119 4 95 6 12 4 1 15 12 4 56 8 10 6 40 8 30 2 12 4 2 62 340 12 14 2 13 3 10 5 56 7 15 2 11 6
    9 7 147 1 102 787463 1 30 96")]

end ProfileQuery.Unicode
