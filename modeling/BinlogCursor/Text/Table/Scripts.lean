/-
The scripts of all characters, in runs, the names of the scripts, and the characters that several
scripts use.
-/

namespace BinlogCursor.Text.Table

def scriptNames : List (List String) := [
  ["zyyy", "common"], ["latn", "latin"], ["bopo", "bopomofo"], ["qaai", "zinh", "inherited"],
  ["grek", "greek"], ["copt", "qaac", "coptic"], ["cyrl", "cyrillic"], ["armn", "armenian"],
  ["hebr", "hebrew"], ["arab", "arabic"], ["syrc", "syriac"], ["thaa", "thaana"], ["nkoo", "nko"],
  ["samr", "samaritan"], ["mand", "mandaic"], ["deva", "devanagari"], ["beng", "bengali"],
  ["guru", "gurmukhi"], ["gujr", "gujarati"], ["orya", "oriya"], ["taml", "tamil"],
  ["telu", "telugu"], ["knda", "kannada"], ["mlym", "malayalam"], ["sinh", "sinhala"], ["thai"],
  ["laoo", "lao"], ["tibt", "tibetan"], ["mymr", "myanmar"], ["geor", "georgian"],
  ["hang", "hangul"], ["ethi", "ethiopic"], ["cher", "cherokee"], ["cans", "canadianaboriginal"],
  ["ogam", "ogham"], ["runr", "runic"], ["tglg", "tagalog"], ["hano", "hanunoo"],
  ["buhd", "buhid"], ["tagb", "tagbanwa"], ["khmr", "khmer"], ["mong", "mongolian"],
  ["limb", "limbu"], ["tale", "taile"], ["talu", "newtailue"], ["bugi", "buginese"],
  ["lana", "taitham"], ["bali", "balinese"], ["sund", "sundanese"], ["batk", "batak"],
  ["lepc", "lepcha"], ["olck", "olchiki"], ["brai", "braille"], ["glag", "glagolitic"],
  ["tfng", "tifinagh"], ["hani", "han"], ["hira", "hiragana"], ["kana", "katakana"],
  ["yiii", "yi"], ["lisu"], ["vaii", "vai"], ["bamu", "bamum"], ["sylo", "sylotinagri"],
  ["phag", "phagspa"], ["saur", "saurashtra"], ["kali", "kayahli"], ["rjng", "rejang"],
  ["java", "javanese"], ["cham"], ["tavt", "taiviet"], ["mtei", "meeteimayek"],
  ["linb", "linearb"], ["lyci", "lycian"], ["cari", "carian"], ["ital", "olditalic"],
  ["goth", "gothic"], ["perm", "oldpermic"], ["ugar", "ugaritic"], ["xpeo", "oldpersian"],
  ["dsrt", "deseret"], ["shaw", "shavian"], ["osma", "osmanya"], ["osge", "osage"],
  ["elba", "elbasan"], ["aghb", "caucasianalbanian"], ["vith", "vithkuqi"], ["todr", "todhri"],
  ["lina", "lineara"], ["cprt", "cypriot"], ["armi", "imperialaramaic"], ["palm", "palmyrene"],
  ["nbat", "nabataean"], ["hatr", "hatran"], ["phnx", "phoenician"], ["lydi", "lydian"],
  ["mero", "meroitichieroglyphs"], ["merc", "meroiticcursive"], ["khar", "kharoshthi"],
  ["sarb", "oldsoutharabian"], ["narb", "oldnortharabian"], ["mani", "manichaean"],
  ["avst", "avestan"], ["prti", "inscriptionalparthian"], ["phli", "inscriptionalpahlavi"],
  ["phlp", "psalterpahlavi"], ["orkh", "oldturkic"], ["hung", "oldhungarian"],
  ["rohg", "hanifirohingya"], ["gara", "garay"], ["yezi", "yezidi"], ["sogo", "oldsogdian"],
  ["sogd", "sogdian"], ["ougr", "olduyghur"], ["chrs", "chorasmian"], ["elym", "elymaic"],
  ["brah", "brahmi"], ["kthi", "kaithi"], ["sora", "sorasompeng"], ["cakm", "chakma"],
  ["mahj", "mahajani"], ["shrd", "sharada"], ["khoj", "khojki"], ["mult", "multani"],
  ["sind", "khudawadi"], ["gran", "grantha"], ["tutg", "tulutigalari"], ["newa"],
  ["tirh", "tirhuta"], ["sidd", "siddham"], ["modi"], ["takr", "takri"], ["ahom"],
  ["dogr", "dogra"], ["wara", "warangciti"], ["diak", "divesakuru"], ["nand", "nandinagari"],
  ["zanb", "zanabazarsquare"], ["soyo", "soyombo"], ["pauc", "paucinhau"], ["sunu", "sunuwar"],
  ["bhks", "bhaiksuki"], ["marc", "marchen"], ["gonm", "masaramgondi"], ["gong", "gunjalagondi"],
  ["maka", "makasar"], ["kawi"], ["xsux", "cuneiform"], ["cpmn", "cyprominoan"],
  ["egyp", "egyptianhieroglyphs"], ["hluw", "anatolianhieroglyphs"], ["gukh", "gurungkhema"],
  ["mroo", "mro"], ["tnsa", "tangsa"], ["bass", "bassavah"], ["hmng", "pahawhhmong"],
  ["krai", "kiratrai"], ["medf", "medefaidrin"], ["miao", "plrd"], ["tang", "tangut"],
  ["nshu", "nushu"], ["kits", "khitansmallscript"], ["dupl", "duployan"], ["sgnw", "signwriting"],
  ["hmnp", "nyiakengpuachuehmong"], ["toto"], ["wcho", "wancho"], ["nagm", "nagmundari"],
  ["onao", "olonal"], ["mend", "mendekikakui"], ["adlm", "adlam"]]

/-- Runs of code points of one script: the length of each run and the place of the script in the
list of names, both in base 36, from the code point 0 on. A place behind the list is no script. -/
def scripts : List String := [
  "1t 0 q 1 6 0 q 1 1b 0 1 1 f 0 1 1 5 0 n 1 1 0 v 1 1 0 ch 1 13 0 5 1 5 0 2 2 k 0 34 3 4 4 1",
  "0 3 4 2 4q 4 4 1 0 1 4 4 4q 1 4 1 0 1 4 1 0 3 4 1 4q 1 4 1 4q k 4 1 4q 1r 4 e 5 g 4 3p 6 2",
  "3 4p 6 1 4q 12 7 2 4q 1e 7 2 4q 3 7 1 4q 1j 8 8 4q r 8 4 4q 6 8 b 4q 5 9 1 0 6 9 1 0 e 9 1",
  "0 3 9 1 0 w 9 1 0 a 9 b 3 q 9 1 3 30 9 1 0 y 9 e a 1 4q 1o a 2 4q 3 a 1c 9 1e b e 4q 1n c 2",
  "4q 3 c 1a d 2 4q f d 1 4q s e 2 4q 1 e 1 4q b a 5 4q v 9 1 4q 2 9 5 4q 23 9 1 0 t 9 29 f 4",
  "3 f f 2 0 q f 4 g 1 4q 8 g 2 4q 2 g 2 4q m g 1 4q 7 g 1 4q 1 g 3 4q 4 g 2 4q 9 g 2 4q 2 g 2",
  "4q 4 g 8 4q 1 g 4 4q 2 g 1 4q 5 g 2 4q p g 2 4q 3 h 1 4q 6 h 4 4q 2 h 2 4q m h 1 4q 7 h 1",
  "4q 2 h 1 4q 2 h 1 4q 2 h 2 4q 1 h 1 4q 5 h 4 4q 2 h 2 4q 3 h 3 4q 1 h 7 4q 4 h 1 4q 1 h 7",
  "4q h h a 4q 3 i 1 4q 9 i 1 4q 3 i 1 4q m i 1 4q 7 i 1 4q 2 i 1 4q 5 i 2 4q a i 1 4q 3 i 1",
  "4q 3 i 2 4q 1 i f 4q 4 i 2 4q c i 7 4q 7 i 1 4q 3 j 1 4q 8 j 2 4q 2 j 2 4q m j 1 4q 7 j 1",
  "4q 2 j 1 4q 5 j 2 4q 9 j 2 4q 2 j 2 4q 3 j 7 4q 3 j 4 4q 2 j 1 4q 5 j 2 4q i j a 4q 2 k 1",
  "4q 6 k 3 4q 3 k 1 4q 4 k 3 4q 2 k 1 4q 1 k 1 4q 2 k 3 4q 2 k 3 4q 3 k 3 4q c k 4 4q 5 k 3",
  "4q 3 k 1 4q 4 k 2 4q 1 k 6 4q 1 k e 4q l k 5 4q d l 1 4q 3 l 1 4q n l 1 4q g l 2 4q 9 l 1",
  "4q 3 l 1 4q 4 l 7 4q 2 l 1 4q 3 l 2 4q 1 l 2 4q 4 l 2 4q a l 7 4q 9 l d m 1 4q 3 m 1 4q n m",
  "1 4q a m 1 4q 5 m 2 4q 9 m 1 4q 3 m 1 4q 4 m 7 4q 2 m 6 4q 2 m 1 4q 4 m 2 4q a m 1 4q 3 m c",
  "4q d n 1 4q 3 n 1 4q 1f n 1 4q 3 n 1 4q 6 n 4 4q g n 2 4q q n 1 4q 3 o 1 4q i o 3 4q o o 1",
  "4q 9 o 1 4q 1 o 2 4q 7 o 3 4q 1 o 4 4q 6 o 1 4q 1 o 1 4q 8 o 6 4q a o 2 4q 3 o c 4q 1m p 4",
  "4q 1 0 s p 11 4q 2 q 1 4q 1 q 1 4q 5 q 1 4q o q 1 4q 1 q 1 4q n q 2 4q 5 q 1 4q 1 q 1 4q 7",
  "q 1 4q a q 2 4q 4 q w 4q 20 r 1 4q 10 r 4 4q 13 r 1 4q 10 r 1 4q f r 1 4q 7 r 4 0 2 r 11 4q",
  "4g s 12 t 1 4q 1 t 5 4q 1 t 2 4q 17 t 1 0 4 t 74 u 21 v 1 4q 4 v 2 4q 7 v 1 4q 1 v 1 4q 4 v",
  "2 4q 15 v 1 4q 4 v 2 4q x v 1 4q 4 v 2 4q 7 v 1 4q 1 v 1 4q 4 v 2 4q f v 1 4q 1l v 1 4q 4 v",
  "2 4q 1v v 2 4q w v 3 4q q v 6 4q 2e w 2 4q 6 w 2 4q hs x t y 3 4q 23 z 3 0 b z 7 4q m 10 9",
  "4q 1 10 l 11 2 0 9 4q k 12 c 4q d 13 1 4q 3 13 1 4q 2 13 c 4q 2m 14 2 4q a 14 6 4q a 14 6",
  "4q 2 15 2 0 1 15 1 0 k 15 6 4q 2h 15 7 4q 17 15 5 4q 1y x a 4q v 16 1 4q c 16 4 4q c 16 4",
  "4q 1 16 3 4q c 16 u 17 2 4q 5 17 b 4q 18 18 4 4q q 18 6 4q b 18 3 4q 2 18 w 14 s 19 2 4q 2",
  "19 1r 1a 1 4q t 1a 2 4q b 1a 6 4q a 1a 6 4q e 1a 2 4q v 3 1d 4q 25 1b 1 4q 1e 1b 1s 1c 1g",
  "1d 8 4q 4 1d 1k 1e 3 4q f 1e 3 4q 3 1e 1c 1f b 6 5 4q 17 t 2 4q 3 t 8 1c 8 4q 3 3 1 0 d 3 1",
  "0 7 3 4 0 1 3 6 0 1 3 3 0 2 3 1 0 5 4q 12 1 5 4 1 6 1d 1 5 4 4 1 5 4 d 1 1 6 1y 1 1 4 1s 3",
  "74 1 m 4 2 4q 6 4 2 4q 12 4 2 4q 6 4 2 4q 8 4 1 4q 1 4 1 4q 1 4 1 4q 1 4 1 4q v 4 2 4q 1h 4",
  "1 4q f 4 1 4q e 4 2 4q 6 4 1 4q j 4 2 4q 3 4 1 4q 9 4 1 4q c 0 2 3 2f 0 1 4q b 0 1 1 2 4q b",
  "0 1 1 f 0 1 4q d 1 3 4q x 0 f 4q x 3 f 4q 12 0 1 4 3 0 2 1 6 0 1 1 r 0 1 1 h 0 15 1 3 0 4",
  "4q ii 0 m 4q b 0 l 4q ps 0 74 1g hg 0 2 4q w 0 1 4q 2x 0 2o 1h w 1 38 5 5 4q 7 5 12 t 1 4q",
  "1 t 5 4q 1 t 2 4q 1k 1i 7 4q 2 1i e 4q 1 1i n v 9 4q 7 v 1 4q 7 v 1 4q 7 v 1 4q 7 v 1 4q 7",
  "v 1 4q 7 v 1 4q 7 v 1 4q 7 v 1 4q w 6 2m 0 y 4q q 1j 1 4q 2h 1j c 4q 5y 1j q 4q l 0 1 1j 1",
  "0 1 1j p 0 9 1j 4 3 2 u 8 0 4 1j 4 0 1 4q 2e 1k 2 4q 2 3 2 0 3 1k 1 0 2i 1l 2 0 3 1l 5 4q",
  "17 2 1 4q 2m u 1 4q g 0 w 2 12 0 9 4q 1 0 g 1l v u 1 4q 1s 0 v u 29 0 1b 1l 1 0 2g 1l 4o 0",
  "534 1j 1s 0 g74 1j wd 1m 3 4q 1j 1m 9 4q 1c 1n 8c 1o k 4q 2o 6 2g 1p 8 4q y 0 2u 1 3 0 1v 1",
  "2 4q 2 1 1 4q 1 1 1 4q 8 1 l 4q e 1 19 1q 3 4q a 0 6 4q 1k 1r 8 4q 1y 1s 8 4q c 1s 6 4q w f",
  "1a 1t 1 0 1 1t 10 1u b 4q 1 1u t u 3 4q 26 1v 1 4q 1 0 a 1v 4 4q 2 1v v s 1 4q 1j 1w 9 4q e",
  "1w 2 4q a 1w 2 4q 4 1w w s 1v 1x o 4q 5 1x n 1y a 4q 6 v 2 4q 6 v 2 4q 6 v 9 4q 7 v 1 4q 7",
  "v 1 4q 17 1 1 0 9 1 1 4 4 1 2 0 4 4q 28 w 1a 1y 2 4q a 1y 6 4q 8mc u c 4q n u 4 4q 1d u 6is",
  "4q a6 1j 2 4q 2y 1j 12 4q 7 1 c 4q 5 7 5 4q q 8 1 4q 5 8 1 4q 1 8 1 4q 2 8 1 4q 2 8 1 4q a",
  "8 37 9 g 4q a3 9 2 0 28 9 2 4q 1i 9 7 4q 1 9 w 4q g 9 g 3 a 0 6 4q e 3 2 6 z 0 1 4q j 0 1",
  "4q 4 0 4 4q 5 9 1 4q 3r 9 2 4q 1 0 1 4q w 0 q 1 6 0 q 1 b 0 a 1l 1 0 19 1l 2 0 v u 3 4q 6 u",
  "2 4q 6 u 2 4q 6 u 2 4q 3 u 3 4q 7 0 1 4q 7 0 a 4q 5 0 2 4q c 1z 1 4q q 1z 1 4q j 1z 1 4q 2",
  "1z 1 4q f 1z 2 4q e 1z y 4q 3f 1z 5 4q 3 0 4 4q 19 0 3 4q 9 0 27 4 1 4q d 0 3 4q 1 4 1b 4q",
  "19 0 1 3 3m 4q t 20 3 4q 1d 21 f 4q 1 3 r 0 4 4q 10 22 9 4q 3 22 r 23 5 4q 17 24 5 4q u 25",
  "1 4q 1 25 10 26 4 4q e 26 16 4q 28 27 1c 28 u 29 2 4q a 29 6 4q 10 2a 4 4q 10 2a 4 4q 14 2b",
  "8 4q 1g 2c b 4q 1 2c b 2d 1 4q f 2d 1 4q 7 2d 1 4q 2 2d 1 4q b 2d 1 4q f 2d 1 4q 7 2d 1 4q",
  "2 2d 3 4q 1g 2e c 4q 8n 2f 9 4q m 2f a 4q 8 2f o 4q 6 1 1 4q 16 1 1 4q 9 1 1x 4q 6 2g 2 4q",
  "1 2g 1 4q 18 2g 1 4q 2 2g 3 4q 1 2g 2 4q 1 2g m 2h 1 4q 9 2h w 2i v 2j 8 4q 9 2j 1c 4q j 2k",
  "1 4q 2 2k 5 4q 5 2k s 2l 3 4q 1 2l q 2m 5 4q 1 2m 1s 4q w 2n o 2o 4 4q k 2o 2 4q 1a 2o 4 2p",
  "1 4q 2 2p 5 4q 8 2p 1 4q 3 2p 1 4q t 2p 2 4q 3 2p 4 4q a 2p 7 4q 9 2p 7 4q w 2q w 2r w 4q",
  "13 2s 4 4q c 2s 9 4q 1i 2t 3 4q 7 2t m 2u 2 4q 8 2u j 2v 5 4q 8 2v i 2w 7 4q 4 2w c 4q 7 2w",
  "28 4q 21 2x 1j 4q 1f 2y d 4q 1f 2y 7 4q 6 2y 14 2z 8 4q a 2z 6 4q 12 30 3 4q t 30 8 4q 2 30",
  "5s 4q v 9 1 4q 16 31 1 4q 3 31 2 4q 2 31 g 4q 3 9 1j 4q 4 9 14 32 8 4q 16 33 m 4q q 34 12",
  "4q s 35 k 4q n 36 9 4q 26 37 4 4q 10 37 9 4q 1 37 1v 38 a 4q 1 38 2 4q p 39 7 4q a 39 6 4q",
  "1h 3a 1 4q i 3a 8 4q 13 3b 9 4q 2o 3c 1 4q k o b 4q i 3d 1 4q 1b 3d 1q 4q 7 3e 1 4q 1 3e 1",
  "4q 4 3e 1 4q f 3e 1 4q b 3e 6 4q 1n 3f 5 4q a 3f 6 4q 4 3g 1 4q 8 3g 2 4q 2 3g 2 4q m 3g 1",
  "4q 7 3g 1 4q 2 3g 1 4q 5 3g 1 4q 1 3 9 3g 2 4q 2 3g 2 4q 3 3g 2 4q 1 3g 6 4q 1 3g 5 4q 7 3g",
  "2 4q 7 3g 3 4q 5 3g b 4q a 3h 1 4q 1 3h 2 4q 1 3h 1 4q 12 3h 1 4q a 3h 1 4q 1 3h 2 4q 1 3h",
  "1 4q 4 3h 1 4q a 3h 1 4q 2 3h 8 4q 2 3h t 4q 2k 3i 1 4q 5 3i u 4q 20 3j 8 4q a 3j 4m 4q 1i",
  "3k 2 4q 12 3k y 4q 1x 3l b 4q a 3l 6 4q d 15 j 4q 1m 3m 6 4q a 3m 6 4q k s s 4q r 3n 2 4q f",
  "3n 4 4q n 3n 55 4q 1o 3o 2s 4q 2b 3p c 4q 1 3p 7 3q 2 4q 1 3q 2 4q 8 3q 1 4q 2 3q 1 4q u 3q",
  "1 4q 2 3q 2 4q c 3q 9 4q a 3q 1y 4q 8 3r 2 4q 1a 3r 2 4q b 3r r 4q 20 3s 8 4q 2b 3t d 4q g",
  "x 1l 3u 7 4q a f 52 4q y 3v e 4q a 3v 6 4q 9 3w 1 4q 19 3w 1 4q e 3w a 4q t 3w 3 4q w 3x 2",
  "4q m 3x 1 4q e 3x 21 4q 7 3y 1 4q 2 3y 1 4q 18 3y 3 4q 1 3y 1 4q 2 3y 1 4q 9 3y 8 4q a 3y 6",
  "4q 6 3z 1 4q 2 3z 1 4q 11 3z 1 4q 2 3z 1 4q 6 3z 7 4q a 3z 8m 4q p 40 7 4q h 41 1 4q 15 41",
  "3 4q t 41 2d 4q 1 1n f 4q 1e k d 4q 1 k pm 42 2u 4q 33 42 1 4q 5 42 b 4q 5g 42 218 4q 2r 43",
  "d 4q uu 44 a 4q 32z 44 5 4q g7 45 5a1 4q 1m 46 1c6 4q ft 1p 7 4q v 47 1 4q a 47 4 4q 2 47",
  "27 48 1 4q a 48 6 4q u 49 2 4q 6 49 a 4q 1y 4a a 4q a 4a 1 4q 7 4a 1 4q l 4a 5 4q j 4a c0",
  "4q 1m 4b 5i 4q 2j 4c 2t 4q 23 4d 4 4q 1l 4d 7 4q h 4d 1s 4q 1 4e 1 4f 2 1j 1 4g b 4q 2 1j e",
  "4q 4qg 4e 8 4q lc 4e d2 4g 15 4q 1 4g 9 4e 6w7 4q 4 1l 1 4q 7 1l 1 4q 2 1l 1 4q 1 1l 7z 1k",
  "3 1l f 4q 1 1k t 4q 3 1k 2 4q 1 1l e 4q 4 1l 8 4q b0 4f 1s4 4q 2z 4h 5 4q d 4h 3 4q 9 4h 7",
  "4q a 4h 2 4q 4 4h 4 0 318 4q 6y 0 6 4q c4 0 24 4q 1a 3 2 4q n 3 9 4q 38 0 1o 4q 6u 0 a 4q",
  "13 0 2 4q 1q 0 3 3 h 0 8 3 2 0 7 3 u 0 4 3 1p 0 l 4q 1y 4 3e 4q k 0 c 4q k 0 c 4q 2f 0 9 4q",
  "p 0 3r 4q 2d 0 1 4q 1z 0 1 4q 2 0 2 4q 1 0 2 4q 2 0 2 4q 4 0 1 4q c 0 1 4q 1 0 1 4q 7 0 1",
  "4q 1t 0 1 4q 4 0 2 4q 8 0 1 4q 7 0 1 4q s 0 1 4q 4 0 1 4q 5 0 1 4q 1 0 3 4q 7 0 1 4q 9g 0 2",
  "4q 84 0 2 4q 1e 0 i4 4i f 4q 5 4i 1 4q f 4i uo 4q v 1 6 4q 6 1 5x 4q 7 1h 1 4q h 1h 2 4q 7",
  "1h 1 4q 2 1h 1 4q 5 1h 5 4q 1q 6 x 4q 1 6 34 4q 19 4j 3 4q e 4j 2 4q a 4j 4 4q 2 4j 8w 4q v",
  "4k h 4q 1m 4l 5 4q 1 4l cw 4q 16 4m 5y 4q 17 4n 4 4q 1 4n dc 4q 7 v 1 4q 4 v 1 4q 2 v 1 4q",
  "f v 1 4q 5h 4o 2 4q g 4o 15 4q 24 4p 4 4q a 4p 4 4q 2 4p lt 4q 1w 0 24 4q 1p 0 5e 4q 4 9 1",
  "4q r 9 1 4q 2 9 1 4q 1 9 2 4q 1 9 1 4q a 9 1 4q 4 9 1 4q 1 9 1 4q 1 9 6 4q 1 9 4 4q 1 9 1",
  "4q 1 9 1 4q 1 9 1 4q 3 9 1 4q 2 9 1 4q 1 9 2 4q 1 9 1 4q 1 9 1 4q 1 9 1 4q 1 9 1 4q 1 9 1",
  "4q 2 9 1 4q 1 9 2 4q 4 9 1 4q 7 9 1 4q 4 9 1 4q 4 9 1 4q 1 9 1 4q a 9 1 4q h 9 5 4q 3 9 1",
  "4q 5 9 1 4q h 9 1g 4q 2 9 7i 4q 18 0 4 4q 2s 0 c 4q f 0 2 4q f 0 1 4q f 0 1 4q 11 0 a 4q 4u",
  "0 1k 4q q 0 1 1k 2 0 d 4q 18 0 4 4q 9 0 7 4q 2 0 e 4q 6 0 4a 4q rc 0 4 4q h 0 3 4q d 0 3 4q",
  "3b 0 4 4q 2n 0 6 4q c 0 4 4q 1 0 f 4q c 0 4 4q 1k 0 8 4q a 0 6 4q 14 0 8 4q u 0 2 4q c 0 4",
  "4q 2 0 1q 4q 9g 0 c 4q e 0 2 4q d 0 3 4q a 0 5 4q 1k 0 7 4q f 0 2 4q b 0 6 4q 9 0 7 4q 43 0",
  "1 4q 2u 0 sm 4q wyo 1j w 4q 37e 1j 6 4q 66 1j 2 4q 4g2 1j e 4q 5rl 1j f 4q ha 1j 1wi 4q f2",
  "1j 15u 4q 3t7 1j 5 4q 38g 1j f975 4q 1 0 u 4q 2o 0 3k 4q 6o 3 47bk 4q"]

/-- Characters with the places of all scripts that use them. -/
structure SharedCharacters where
  scripts : List Nat
  ranges : List String

def sharedCharacters : List SharedCharacters := [
  ⟨[1, 4, 5, 29, 53, 55, 73, 75, 76, 80, 83, 94, 101, 119, 143, 161], ["53 1"]⟩,
  ⟨[1, 6, 15, 16, 25, 59, 164], ["jg 1"]⟩,
  ⟨[1, 2], ["jr 1 1 3 d 1"]⟩,
  ⟨[1, 59], ["jx 1"]⟩,
  ⟨[1, 25], ["k7 1"]⟩,
  ⟨[1, 4, 5, 6, 32, 43, 76, 139], ["lc 1"]⟩,
  ⟨[1, 4, 6, 32, 43, 82, 86, 139], ["ld 1"]⟩,
  ⟨[1, 6, 32, 54], ["le 1"]⟩,
  ⟨[1, 10, 25, 53, 139], ["lf 1"]⟩,
  ⟨[1, 4, 5, 6, 10, 32, 54, 75, 82, 84, 86], ["lg 1"]⟩,
  ⟨[1, 5, 53, 57, 75, 83], ["lh 1"]⟩,
  ⟨[1, 4, 6, 76], ["li 1"]⟩,
  ⟨[1, 5, 8, 10, 43, 54, 76, 86, 161], ["lj 1"]⟩,
  ⟨[1, 4, 6, 7, 8, 10, 43, 75, 76, 161], ["lk 1"]⟩,
  ⟨[1, 54], ["ll 1"]⟩,
  ⟨[1, 10, 161], ["lm 1"]⟩,
  ⟨[1, 6, 32, 82], ["ln 1"]⟩,
  ⟨[1, 32, 43], ["lo 1"]⟩,
  ⟨[1, 139], ["lp 1 2 1"]⟩,
  ⟨[1, 31], ["lq 1"]⟩,
  ⟨[1, 6, 86], ["lt 1"]⟩,
  ⟨[1, 4, 76, 86], ["lv 1"]⟩,
  ⟨[1, 10], ["m8 1 4 1 8 1"]⟩,
  ⟨[1, 10, 32, 57, 161], ["mb 1"]⟩,
  ⟨[1, 10, 32, 161], ["mc 1"]⟩,
  ⟨[1, 10, 139], ["ml 1"]⟩,
  ⟨[1, 10, 32], ["mo 1"]⟩,
  ⟨[1, 25, 32, 75, 84, 139], ["mp 1"]⟩,
  ⟨[4], ["n6 1 2 1 58a 2"]⟩,
  ⟨[1, 82], ["ns 1"]⟩,
  ⟨[1, 84, 86], ["ny 1"]⟩,
  ⟨[1], ["o3 d"]⟩,
  ⟨[4, 5], ["ok 2"]⟩,
  ⟨[6, 76], ["w3 1"]⟩,
  ⟨[6, 53], ["w4 1 2 1 88r 1 nqj 1"]⟩,
  ⟨[1, 6], ["w5 2"]⟩,
  ⟨[7, 29, 53], ["13d 1"]⟩,
  ⟨[9, 10, 11, 12, 107, 108, 109], ["170 1 e 1"]⟩,
  ⟨[9, 10, 11], ["17g 1"]⟩,
  ⟨[9, 10, 11, 12, 107, 108, 109, 169], ["17j 1"]⟩,
  ⟨[9, 10, 14, 100, 104, 107, 111, 112, 169], ["18g 1"]⟩,
  ⟨[9, 10], ["18r b q 1"]⟩,
  ⟨[9, 11, 109], ["19c a"]⟩,
  ⟨[9, 107], ["1ck 1"]⟩,
  ⟨[1, 15, 16, 17, 18, 19, 20, 21, 22, 23, 120, 124, 127], ["1u9 1"]⟩,
  ⟨[1, 15, 16, 17, 18, 19, 20, 21, 22, 23, 124, 127], ["1ua 1"]⟩,
  ⟨[15, 16, 17, 18, 19, 20, 21, 22, 23, 24, 62, 119, 123, 124, 127, 130, 132, 135, 142, 143, 167],
    [
      "1us 1"]⟩,
  ⟨[15, 16, 17, 18, 19, 20, 21, 22, 23, 24, 42, 62, 119, 123, 124, 127, 130, 132, 135, 142, 143, 150, 167],
    [
      "1ut 1"]⟩,
  ⟨[15, 116, 119, 132], ["1uu a"]⟩,
  ⟨[16, 62, 118], ["1ye a"]⟩,
  ⟨[17, 122], ["21y a"]⟩,
  ⟨[18, 121], ["25i a"]⟩,
  ⟨[20, 124], ["2cm e 1fyl 1 1 1 1j 2 2hf 2 1 1"]⟩,
  ⟨[22, 125, 135], ["2jq a"]⟩,
  ⟨[28, 43, 118], ["37k a"]⟩,
  ⟨[1, 29, 53], ["3cr 1"]⟩,
  ⟨[35], ["4iz 3"]⟩,
  ⟨[36, 37, 38, 39], ["4l1 2"]⟩,
  ⟨[41, 63], ["4qq 2 1 1"]⟩,
  ⟨[15, 16, 22, 124], ["5ow 1 1 1"]⟩,
  ⟨[15], ["5ox 1 2 1 6 1 2 2 2 7 2 2 1 4"]⟩,
  ⟨[15, 22, 124], ["5oz 1"]⟩,
  ⟨[15, 16], ["5p1 2 1 1 8 1 8 1 2 1 7 2"]⟩,
  ⟨[15, 120], ["5p3 1 1 1 2 2 2 1"]⟩,
  ⟨[15, 19, 20, 21, 22, 23], ["5p6 1"]⟩,
  ⟨[15, 135], ["5pl 1"]⟩,
  ⟨[15, 16, 19, 21, 22, 23, 24, 124, 125, 127, 135], ["5pu 1"]⟩,
  ⟨[15, 124], ["5pv 1 4 2"]⟩,
  ⟨[15, 22, 124, 125], ["5pw 1"]⟩,
  ⟨[16], ["5pz 1"]⟩,
  ⟨[135], ["5q2 1"]⟩,
  ⟨[1, 6, 10], ["5x4 1"]⟩,
  ⟨[10], ["5x6 1"]⟩,
  ⟨[1, 41, 63], ["6cv 1"]⟩,
  ⟨[9, 169], ["6dr 1"]⟩,
  ⟨[29, 53, 72, 73, 105, 106], ["6e2 1"]⟩,
  ⟨[4, 73, 95, 106], ["6e5 1"]⟩,
  ⟨[1, 15, 124], ["6i8 1"]⟩,
  ⟨[1, 5], ["93r 1"]⟩,
  ⟨[101, 105], ["94g 1"]⟩,
  ⟨[13, 29, 73, 94, 101, 106, 116], ["94h 1"]⟩,
  ⟨[161], ["94s 1 26oz 4"]⟩,
  ⟨[9, 106, 169], ["94x 1"]⟩,
  ⟨[55, 158], ["9gw g dr 1"]⟩,
  ⟨[2, 30, 41, 55, 56, 57, 58], ["9hd 1"]⟩,
  ⟨[2, 30, 41, 55, 56, 57, 58, 63], ["9he 1"]⟩,
  ⟨[2, 30, 55, 56, 57], ["9hf 1 f 1 8 4 g 1 6 1 14p9 2"]⟩,
  ⟨[55], ["9hi 1 1j 2 9c g w 12 1m 14 1k 1d f c 1f 1 2g p a 5 2o v 2a1t i 63i 2"]⟩,
  ⟨[2, 27, 30, 41, 55, 56, 57, 58], ["9hk 2"]⟩,
  ⟨[2, 27, 30, 41, 55, 56, 57, 58, 59], ["9hm 2"]⟩,
  ⟨[2, 30, 55, 56, 57, 58], ["9ho 6 2 8 67 1 14rp 5"]⟩,
  ⟨[2, 55], ["9ii 4"]⟩,
  ⟨[56, 57], ["9ip 5 2r 4 3 1 2j 1 14s3 1 19 2"]⟩,
  ⟨[55, 56, 57], ["9j0 2"]⟩,
  ⟨[1, 55], ["wzk 8"]⟩,
  ⟨[15, 17, 18, 22, 23, 116, 119, 120, 121, 123, 125, 127, 129, 130, 132, 135], ["x80 3"]⟩,
  ⟨[15, 17, 18, 22, 116, 119, 120, 121, 123, 125, 127, 129, 130, 132, 135], ["x83 3"]⟩,
  ⟨[15, 17, 18, 116, 119, 121, 123, 127, 129, 130, 132], ["x86 2 1 1"]⟩,
  ⟨[15, 17, 18, 116, 119, 120, 121, 123, 127, 129, 130, 132], ["x88 1"]⟩,
  ⟨[15, 16, 125], ["xdd 1"]⟩,
  ⟨[15, 20], ["xdf 1"]⟩,
  ⟨[1, 28, 65], ["xf2 1"]⟩,
  ⟨[45, 67], ["xjj 1"]⟩,
  ⟨[9, 12], ["1e0u 2"]⟩,
  ⟨[9, 11], ["1e5u 1 a 1"]⟩,
  ⟨[71, 88, 147], ["1erk 2"]⟩,
  ⟨[71, 88], ["1erm 1 1g 9"]⟩,
  ⟨[71, 87, 88], ["1err 19"]⟩,
  ⟨[5, 9], ["1f4w s"]⟩,
  ⟨[100, 112], ["1gqa 1"]⟩]

end BinlogCursor.Text.Table
