import DocQuery.Unicode.CharSet

/-!
Scripts. A character has one script; characters that several scripts share are in the extensions of
all of these.
-/
namespace DocQuery.Unicode.Script

def tables : Table :=
  [("adlm", ["1e900 4c 4 a 4 2"]),
   ("aghb", ["10530 34 b 1"]),
   ("ahom", ["11700 1b 2 f 4 17"]),
   ("arab",
    ["600 5 1 6 1 e 1 3 1 20 1 a b 1a 1 6c 1 22 50 30 f0 1f 1 2 5 4b 1 1d f250 73 10 16b 2 50 2 36",
     "7 1 20 10 70 5 1 87 f63 1f 43 3 37 4 df00 4 1 1b 1 2 1 1 2 1 1 a 1 4 1 1 1 1 6 1 4 1 1 1 1 1",
     "1 3 1 2 1 1 2 1 1 1 1 1 1 1 1 1 1 2 1 1 2 4 1 7 1 4 1 4 1 1 1 a 1 11 5 3 1 5 1 11 34 2"]),
   ("armi", ["10840 16 1 9"]),
   ("armn", ["531 26 2 32 2 3 f583 5"]),
   ("avst", ["10b00 36 3 7"]),
   ("bali", ["1b00 4d 1 32"]),
   ("bamu", ["a6a0 58 c108 239"]),
   ("bass", ["16ad0 1e 2 6"]),
   ("batk", ["1bc0 34 8 4"]),
   ("beng", ["980 4 1 8 2 2 2 16 1 7 1 1 3 4 2 9 2 2 2 4 8 1 4 2 1 5 2 19"]),
   ("bhks", ["11c00 9 1 2d 1 e a 1d"]),
   ("bopo", ["2ea 2 2e19 2b 70 20"]),
   ("brah", ["11000 4e 4 24 9 1"]),
   ("brai", ["2800 100"]),
   ("bugi", ["1a00 1c 2 2"]),
   ("buhd", ["1740 14"]),
   ("cakm", ["11100 35 1 12"]),
   ("cans", ["1400 280 230 46 101ba 10"]),
   ("cari", ["102a0 31"]),
   ("cham", ["aa00 37 9 e 2 a 2 4"]),
   ("cher", ["13a0 56 2 6 9772 50"]),
   ("chrs", ["10fb0 1c"]),
   ("copt", ["3e2 e 2890 74 5 7"]),
   ("cpmn", ["12f90 63"]),
   ("cprt", ["10800 6 2 1 1 2c 1 2 3 1 2 1"]),
   ("cyrl", ["400 85 2 a9 1750 b a0 1 4c 1 1067 20 7840 60 578e 2 e200 3e 21 1"]),
   ("deva", ["900 51 4 f 2 1a 9f60 20 7200 a"]),
   ("diak", ["11900 7 2 1 2 8 1 2 1 1e 1 2 2 c 9 a"]),
   ("dogr", ["11800 3c"]),
   ("dsrt", ["10400 50"]),
   ("dupl", ["1bc00 6b 5 d 3 9 7 a 2 4"]),
   ("egyp", ["13000 456 a f9b"]),
   ("elba", ["10500 28"]),
   ("elym", ["10fe0 17"]),
   ("ethi",
    ["1200 49 1 4 2 7 1 1 1 4 2 29 1 4 2 21 1 4 2 7 1 1 1 4 2 f 1 39 1 4 2 43 2 20 3 1a 19e6 17 9",
     "7 1 7 1 7 1 7 1 7 1 7 1 7 1 7 7d22 6 2 6 2 6 9 7 1 7 13cb1 7 1 4 1 2 1 f"]),
   ("gara", ["10d40 26 3 1d 8 2"]),
   ("geor", ["10a0 26 1 1 5 1 2 2b 1 4 b90 2b 2 3 1040 26 1 1 5 1"]),
   ("glag", ["2c00 60 1b3a0 7 1 11 2 7 1 2 1 5"]),
   ("gong", ["11d60 6 1 2 1 25 1 2 1 6 7 a"]),
   ("gonm", ["11d00 7 1 2 1 2c 3 1 1 2 1 9 8 a"]),
   ("goth", ["10330 1b"]),
   ("gran", ["11300 4 1 8 2 2 2 16 1 7 1 2 1 5 2 9 2 2 2 3 2 1 6 1 5 7 2 7 3 5"]),
   ("grek",
    ["370 4 1 3 2 4 1 1 4 1 1 1 1 3 1 1 1 14 1 3f e 10 1926 5 32 5 4 5 54 1 140 16 2 6 2 26 2 6 2",
     "8 1 1 1 1 1 1 1 1f 2 35 1 f 1 e 2 6 1 13 2 3 1 9 127 1 8a3e 1 55da 4f 11 1 d05f 46"]),
   ("gujr", ["a81 3 1 9 1 3 1 16 1 7 1 2 1 5 2 a 1 3 1 3 2 1 f 4 2 c 7 7"]),
   ("gukh", ["16100 3a"]),
   ("guru", ["a01 3 1 6 4 2 2 16 1 7 1 2 1 2 1 2 2 1 1 5 4 2 2 3 3 1 7 4 1 1 7 11"]),
   ("hang",
    ["1100 100 1e2e 2 101 5e 71 1f 41 1f 76e1 1d 283 2ba4 c 17 4 31 27a4 1f 3 6 2 6 2 6 2 3"]),
   ("hani",
    ["2e80 1a 1 59 c d6 2f 1 1 1 19 9 e 4 3c4 19c0 40 5200 5900 16e 2 6a 7508 2 c 2 900e a6e0 20",
     "103a 6 de 2 1682 e 1d31 f 26e 9a2 21e 5e2 134b 5 1060"]),
   ("hano", ["1720 15"]),
   ("hatr", ["108e0 13 1 2 5 5"]),
   ("hebr", ["591 37 8 1b 4 6 f528 1a 1 5 1 1 1 2 1 2 1 a"]),
   ("hira", ["3041 56 6 3 17f61 11f 12 1 1d 3 40ad 1"]),
   ("hluw", ["14400 247"]),
   ("hmng", ["16b00 46 a a 1 7 1 15 5 13"]),
   ("hmnp", ["1e100 2d 3 e 2 a 4 2"]),
   ("hung", ["10c80 33 d 33 7 6"]),
   ("ital", ["10300 24 9 3"]),
   ("java", ["a980 4e 2 a 4 2"]),
   ("kali", ["a900 2e 1 1"]),
   ("kana", ["30a1 5a 2 3 f0 10 d0 2f 1 58 cc0e a 1 2d b052 4 1 7 1 2 1 1 11f 3 32 1 e 4"]),
   ("kawi", ["11f00 11 1 29 3 1d"]),
   ("khar", ["10a00 4 1 2 5 8 1 3 1 1d 2 3 4 a 7 9"]),
   ("khmr", ["1780 5e 2 a 6 a 1e6 20"]),
   ("khoj", ["11200 12 1 2f"]),
   ("kits", ["16fe4 1 1b1b 1d6 29 1"]),
   ("knda", ["c80 d 1 3 1 17 1 a 1 5 2 9 1 3 1 4 7 2 6 2 1 4 2 a 1 3"]),
   ("krai", ["16d40 3a"]),
   ("kthi", ["11080 43 a 1"]),
   ("lana", ["1a20 3f 1 1d 2 b 6 a 6 e"]),
   ("laoo", ["e81 2 1 1 1 5 1 18 1 1 1 17 2 5 1 1 1 7 1 a 2 4"]),
   ("latn",
    ["41 1a 6 1a 2f 1 f 1 5 17 1 1f 1 1c1 27 5 1a1b 26 6 31 5 4 5 d 1 46 41 100 171 1 d 1 10 d 8d",
     "2 6 1 1b 1 11 29 ad7 20 7aa2 66 3 43 2 2 1 1 1 8 15 e 330 2b 1 9 1 4 4f96 7 41a 1a 6 1a 825",
     "6 1 2a 1 9 d745 1f 6 6"]),
   ("lepc", ["1c00 38 3 f 3 3"]),
   ("limb", ["1900 1f 1 c 4 c 4 1 3 c"]),
   ("lina", ["10600 137 9 16 a 8"]),
   ("linb", ["10000 c 1 1a 1 13 1 2 1 f 2 e 22 7b"]),
   ("lisu", ["a4d0 30 7ab0 1"]),
   ("lyci", ["10280 1d"]),
   ("lydi", ["10920 1a 5 1"]),
   ("mahj", ["11150 27"]),
   ("maka", ["11ee0 19"]),
   ("mand", ["840 1c 2 1"]),
   ("mani", ["10ac0 27 4 c"]),
   ("marc", ["11c70 20 2 16 1 e"]),
   ("medf", ["16e40 5b"]),
   ("mend", ["1e800 c5 2 10"]),
   ("merc", ["109a0 18 4 14 2 2e"]),
   ("mero", ["10980 20"]),
   ("mlym", ["d00 d 1 3 1 33 1 3 1 6 4 10 2 1a"]),
   ("modi", ["11600 45 b a"]),
   ("mong", ["1800 2 2 1 1 14 6 59 7 2b fdb5 d"]),
   ("mroo", ["16a40 1f 1 a 4 2"]),
   ("mtei", ["aae0 17 c9 2e 2 a"]),
   ("mult", ["11280 7 1 1 1 4 1 f 1 b"]),
   ("mymr", ["1000 a0 9940 1f 61 20 6c50 14"]),
   ("nagm", ["1e4d0 2a"]),
   ("nand", ["119a0 8 2 2e 2 b"]),
   ("narb", ["10a80 20"]),
   ("nbat", ["10880 1f 8 9"]),
   ("newa", ["11400 5c 1 5"]),
   ("nkoo", ["7c0 3b 2 3"]),
   ("nshu", ["16fe1 1 418e 18c"]),
   ("ogam", ["1680 1d"]),
   ("olck", ["1c50 30"]),
   ("onao", ["1e5d0 2b 4 1"]),
   ("orkh", ["10c00 49"]),
   ("orya", ["b01 3 1 8 2 2 2 16 1 7 1 2 1 5 2 9 2 2 2 3 7 3 4 2 1 5 2 12"]),
   ("osge", ["104b0 24 4 24"]),
   ("osma", ["10480 1e 2 a"]),
   ("ougr", ["10f70 1a"]),
   ("palm", ["10860 20"]),
   ("pauc", ["11ac0 39"]),
   ("perm", ["10350 2b"]),
   ("phag", ["a840 38"]),
   ("phli", ["10b60 13 5 8"]),
   ("phlp", ["10b80 12 7 4 c 7"]),
   ("phnx", ["10900 1c 3 1"]),
   ("plrd", ["16f00 4b 4 39 7 11"]),
   ("prti", ["10b40 16 2 8"]),
   ("rjng", ["a930 24 b 1"]),
   ("rohg", ["10d00 28 8 a"]),
   ("runr", ["16a0 4b 3 b"]),
   ("samr", ["800 2e 2 f"]),
   ("sarb", ["10a60 20"]),
   ("saur", ["a880 46 8 c"]),
   ("sgnw", ["1d800 28c f 5 1 f"]),
   ("shaw", ["10450 30"]),
   ("shrd", ["11180 60"]),
   ("sidd", ["11580 36 2 26"]),
   ("sind", ["112b0 3b 5 a"]),
   ("sinh", ["d81 3 1 12 3 18 1 9 1 1 2 7 3 1 4 6 1 1 1 8 6 a 2 3 103ec 14"]),
   ("sogd", ["10f30 2a"]),
   ("sogo", ["10f00 28"]),
   ("sora", ["110d0 19 7 a"]),
   ("soyo", ["11a50 53"]),
   ("sund", ["1b80 40 100 8"]),
   ("sunu", ["11bc0 22 e a"]),
   ("sylo", ["a800 2d"]),
   ("syrc", ["700 e 1 3c 2 3 110 b"]),
   ("tagb", ["1760 d 1 3 1 2"]),
   ("takr", ["11680 3a 6 a"]),
   ("tale", ["1950 1e 2 5"]),
   ("talu", ["1980 2c 4 1a 6 b 3 2"]),
   ("taml", ["b82 2 1 6 3 3 1 4 3 2 1 1 1 2 3 2 3 3 3 c 4 5 3 3 1 4 2 1 6 1 e 15 113c5 32 d 1"]),
   ("tang", ["16fe0 1 1f 17f8 8 300 200 9"]),
   ("tavt", ["aa80 43 18 5"]),
   ("telu", ["c00 d 1 3 1 17 1 10 2 9 1 3 1 4 7 2 1 3 2 1 2 4 2 a 7 9"]),
   ("tfng", ["2d30 38 7 2 e 1"]),
   ("tglg", ["1700 16 9 1"]),
   ("thaa", ["780 32"]),
   ("thai", ["e01 3a 5 1c"]),
   ("tibt", ["f00 48 1 24 4 27 1 24 1 f 1 7 4 2"]),
   ("tirh", ["11480 48 8 a"]),
   ("tnsa", ["16a70 4f 1 a"]),
   ("todr", ["105c0 34"]),
   ("toto", ["1e290 1f"]),
   ("tutg", ["11380 a 1 1 2 1 1 26 1 a 1 1 2 1 1 4 1 a 1 2 8 2"]),
   ("ugar", ["10380 1e 1 1"]),
   ("vaii", ["a500 12c"]),
   ("vith", ["10570 b 1 f 1 7 1 2 1 b 1 f 1 7 1 2"]),
   ("wara", ["118a0 53 c 1"]),
   ("wcho", ["1e2c0 3a 5 1"]),
   ("xpeo", ["103a0 24 4 e"]),
   ("xsux", ["12000 39a 66 6f 1 5 b c4"]),
   ("yezi", ["10e80 2a 1 3 2 2"]),
   ("yiii", ["a000 48d 3 37"]),
   ("zanb", ["11a00 48"]),
   ("zinh",
    ["300 70 115 2 1c4 b 1a 1 2e0 4 115b 1f 201 3 1 d 1 7 4 1 6 1 3 2 c6 40 20c 2 c2 21 f39 4 6b 2",
     "cd65 10 10 e 3cf 1 e2 1 105a 1 bbc4 2e 2 17 220 3 11 8 2 7 1e 4 c2f52 f0"]),
   ("zyyy",
    ["0 41 1a 6 1a 2f 1 f 1 5 17 1 1f 1 1c1 27 5 5 2 14 74 1 9 1 6 1 1 1 27d 1 6 1 e 1 3 1 20 1 9c",
     "1 204 1 81 2 4d9 1 195 4 122 1 5ef 3 47 2 cb 2 1 1 4cd 1 d 1 7 4 1 6 1 3 2 1 305 c 2 57 1 b",
     "3 b 1 f 11 21 3f 26 1 3 2 6 1 1b 1 11 29 3 4 29a 16 b 15 3a0 100 274 2 20 1 69 200 5e 192 15",
     "1 1 1 19 f 8 4 4 5b 2 3 1 5a 2 93 10 20 26 9 1 30 40 1f 51 2f 1 58 a8 19c0 40 5900 22 66 3",
     "a5 a f4 1 a0 1 18b 1 e 2 51d2 2 d0 a 16 23 1 13 1 4 93 1 1 20 1a 6 1a b a 1 2d 2 40 7 1 7 a",
     "5 102 3 4 2d 3 9 50 d 33 2d e4 1b b9a4 4 f5c fa 6 1b4 9c 74 3c f6 a 27 2 3e 3 11 8 2 7 1e 4",
     "3d d5 14 c 14 c 57 9 19 87 55 1 47 1 2 2 1 2 2 2 4 1 c 1 1 1 7 1 41 1 4 2 8 1 7 1 1c 1 4 1 5",
     "1 1 3 7 1 154 2 124 2 32 1471 44 4c 3d 2c2 2c 4 64 c f 2 f 1 f 1 25 a ae 38 1a 1 2 d 2c 4 9",
     "7 2 e 6 9a 3d8 4 11 3 d 3 77 4 5f 6 c 4 1 f c 4 38 8 a 6 28 8 1e 2 c 4 2 3e 154 c e 2 d 3 a",
     "5 38 7 f 2 b 6 9 7 93 1 66 c0407 1 1e 60"])]

/-- The members in which a script and its extension differ. -/
def shared : Table :=
  [("adlm", ["61f 1 20 1 1a0e 1 df1 1"]),
   ("aghb", ["304 1 2c 1 2c 1"]),
   ("arab", ["60c 1 e 1 3 1 20 1 a b 1a 1 19de 1 df1 1 cefc 2 5a0 1c"]),
   ("armn", ["308 1"]),
   ("avst", ["b7 1 2d78 2"]),
   ("beng", ["2bc 1 694 2 11 2 136a 1 1 1 2 2 1 1 8 1 8 1 2 1 4 1 2 3 8bf9 1"]),
   ("bopo", ["2c7 1 1 3 d 1 2d27 3 4 a 1 d a 4 2 1 6 1 c3 1 cd49 2 11a 5"]),
   ("bugi", ["a9cf 1"]),
   ("buhd", ["1735 2"]),
   ("cakm", ["9e6 a 650 a"]),
   ("cari", ["b7 1 1fa2 1 2 1 dd3 1"]),
   ("cher", ["300 3 1 1 6 2 16 2 b 2"]),
   ("copt", ["b7 1 248 1 3 2 1 1 6c 2 2aa1 1 d4c8 1c"]),
   ("cpmn", ["10100 2"]),
   ("cprt", ["10100 3 4 2d 3 9"]),
   ("cyrl", ["2bc 1 43 3 1 1 1 1 1 1 2 1 5 1 173 2 1971 1 104a 1"]),
   ("deva", ["2bc 1 694 2 11 2 136a 27 1 2 3f6 1 873f a"]),
   ("dogr", ["964 c 9ec0 a"]),
   ("dupl", ["b7 1 24f 2 1 1 18 2 2b17 1 18e63 4"]),
   ("elba", ["b7 1 24d 1"]),
   ("ethi", ["30e 1"]),
   ("gara", ["60c 1 e 1 3 1"]),
   ("geor", ["b7 1 4d1 1 b71 1 f5e 1 dd6 1"]),
   ("glag", ["b7 1 24b 1 1 1 17e 1 2 1 101 1 b71 1 f5e 1 de8 1 782b 1"]),
   ("gong", ["b7 1 8ac 2"]),
   ("gonm", ["964 2"]),
   ("goth", ["b7 1 24c 2 2 1 28 1"]),
   ("gran", ["951 2 11 2 280 e 10dc 1 1 2 1e 3 3 2 3f6 1 f24a 1 c94 2 1 1"]),
   ("grek", ["b7 1 248 2 2 1 1 1 1 1 a 1 2e 1 2 1 2e 1 1a4b 2 29b 1"]),
   ("gujr", ["951 2 11 2 9eca a"]),
   ("gukh", ["965 1"]),
   ("guru", ["951 2 11 2 9eca a"]),
   ("hang", ["3001 3 4 a 1 d 10 1 6 1 c3 1 cd49 2 11a 5"]),
   ("hani",
    ["b7 1 2f38 10 1 3 2 1 1 a 1 d a 4 2 1 6 1 4 4 bb 1 94 10 20 26 9 1 30 28 38 31 f c 33 1 58 19",
     "a 5 60 1f 7301 8 573d 2 11a 5 d3fa 12 1ede 2"]),
   ("hano", ["1735 2"]),
   ("hebr", ["307 2"]),
   ("hira", ["3001 3 4 a 1 d 10 6 1 1 4 2 5b 4 3 1 5a 2 cd48 2 11a 5 a 1 2d 2"]),
   ("hung", ["205a 1 2 1 dd3 1 f 1"]),
   ("java", ["a9cf 1"]),
   ("kali", ["a92e 1"]),
   ("kana", ["305 1 1d 1 2cdd 3 4 a 1 d 10 6 1 1 4 2 5b 4 3 1 5a 2 cd48 2 11a 5 a 1 2d 2"]),
   ("khoj", ["ae6 a 9d40 a"]),
   ("knda", ["951 2 11 2 136a 1 1 2 6 1 17 1 1 1 8b3b 6"]),
   ("kthi", ["966 a 24c1 1 79fe a"]),
   ("latn",
    ["b7 1 204 1 a 1 1 3 1 1 9 1 1 1 26 f 1 2 1 1 c 1 2 3 7 2 1 2 26 1 5 1 4 d 115 2 4ca 2 7a8 1",
     "cfc 1 236 1 c0 1 d26 1 78e8 8 226 1"]),
   ("limb", ["965 1"]),
   ("lina", ["10107 2d"]),
   ("linb", ["10100 3 4 2d 3 9"]),
   ("lisu", ["2bc 1 10 1 2d3c 2"]),
   ("lyci", ["205a 1"]),
   ("lydi", ["b7 1 2d79 1"]),
   ("mahj", ["b7 1 8ac c 9ec0 a"]),
   ("mand", ["640 1"]),
   ("mani", ["640 1"]),
   ("mero", ["205d 1"]),
   ("mlym", ["951 2 11 2 1374 1 17 1 8b3d 3"]),
   ("modi", ["a830 a"]),
   ("mong", ["1802 2 1 1 829 1 fd1 2 5 4"]),
   ("mult", ["a66 a"]),
   ("mymr", ["a92e 1"]),
   ("nand", ["964 2 380 a ff9 1 8 1 7 1 8b35 6"]),
   ("nkoo", ["60c 1 e 1 3 1 f71e 2"]),
   ("onao", ["964 2"]),
   ("orkh", ["205a 1 dd5 1"]),
   ("orya", ["951 2 11 2 1374 1 17 1"]),
   ("osge", ["301 1 2 1 6 1 4c 1"]),
   ("ougr", ["640 1 104b1 1"]),
   ("perm", ["b7 1 248 1 5 3 a 1 16f 1"]),
   ("phag", ["1802 2 1 1 829 1 fd2 1"]),
   ("phlp", ["640 1"]),
   ("rohg", ["60c 1 e 1 3 1 20 1 93 1"]),
   ("runr", ["16eb 3"]),
   ("samr", ["2e31 1"]),
   ("shaw", ["b7 1"]),
   ("shrd", ["951 1 1385 1 1 1 2 2 2 1 8b4f 6 2 1"]),
   ("sind", ["964 2 9eca a"]),
   ("sinh", ["964 2 138c 1"]),
   ("sogd", ["640 1"]),
   ("sunu", ["300 2 1 1 9 1 2 1 1c 1 3 1"]),
   ("sylo", ["964 2 80 a"]),
   ("syrc", ["303 2 2 2 1 1 15 1 2 3 7 2 1 1 2db 1 e 2 2 1 20 1 a b 1a 1 1787 1 1 1"]),
   ("tagb", ["1735 2"]),
   ("takr", ["964 2 9eca a"]),
   ("tale", ["300 2 5 2 3 1 d33 a"]),
   ("taml", ["951 2 11 2 1374 1 8c18 1 6a0d 1 1 1 37 2"]),
   ("tang", ["2ff0 10 1ef 1"]),
   ("telu", ["951 2 11 2 1374 1 17 1"]),
   ("tfng", ["302 1 1 1 2 1 1 1"]),
   ("tglg", ["1735 2"]),
   ("thaa", ["60c 1 e 2 2 1 40 a f788 1 a 1"]),
   ("thai", ["2bc 1 1a 1 2b 1 2d 1"]),
   ("tibt", ["3008 4"]),
   ("tirh", ["951 2 11 2 138c 1 8b3d a"]),
   ("todr", ["301 1 2 1 2 1 9 1 1 1 4a 1"]),
   ("toto", ["2bc 1"]),
   ("tutg", ["ce6 a 1002 1 1 1 8b3b 6 bb 1"]),
   ("yezi", ["60c 1 e 1 3 1 40 a"]),
   ("yiii", ["3001 2 5 a 2 8 df 1 ce65 5"]),
   ("zinh",
    ["300 f 1 2 1 1 c 1 2 3 7 2 1 2 10 1 2 1 12 1 5 1 4 d 115 2 1c4 b 1a 1 2e0 2 137d 3 1 d 1 7 4",
     "1 6 1 3 2 c6 2 36 1 1 1 2f5 1 f39 4 6b 2 d245 1 105a 1"]),
   ("zyyy",
    ["b7 1 204 1 a 1 1 3 1 1 9 1 1 1 9a 1 297 1 e 1 3 1 20 1 323 2 795 1 5ef 3 47 2 cb 2 1 1 4cd 1",
     "d 1 7 4 1 6 1 3 2 1 334 1 1f 1 a 1 2 1 db9 1 18 2 a 1 4 1 1 1 1ac 10 1 3 2 1 1 a 1 d 10 6 1",
     "1 4 4 5b 2 3 1 5a 2 93 10 20 26 9 1 30 28 38 31 f c 33 1 58 19 a 5 60 1f 7301 8 128 a f4 1",
     "a0 1 536e 2 105 2 11a 5 a 1 2d 2 160 3 4 2d 3 9 1a1 1b b9a4 4 16bc 12 1ede 2"])]

def names : List (String × String) :=
  [("adlam", "adlm"), ("anatolianhieroglyphs", "hluw"), ("arabic", "arab"), ("armenian", "armn"),
   ("avestan", "avst"), ("balinese", "bali"), ("bamum", "bamu"), ("bassavah", "bass"),
   ("batak", "batk"), ("bengali", "beng"), ("bhaiksuki", "bhks"), ("bopomofo", "bopo"),
   ("brahmi", "brah"), ("braille", "brai"), ("buginese", "bugi"), ("buhid", "buhd"),
   ("canadianaboriginal", "cans"), ("carian", "cari"), ("caucasianalbanian", "aghb"),
   ("chakma", "cakm"), ("cherokee", "cher"), ("chorasmian", "chrs"), ("common", "zyyy"),
   ("coptic", "copt"), ("qaac", "copt"), ("cuneiform", "xsux"), ("cypriot", "cprt"),
   ("cyprominoan", "cpmn"), ("cyrillic", "cyrl"), ("deseret", "dsrt"), ("devanagari", "deva"),
   ("divesakuru", "diak"), ("dogra", "dogr"), ("duployan", "dupl"), ("egyptianhieroglyphs", "egyp"),
   ("elbasan", "elba"), ("elymaic", "elym"), ("ethiopic", "ethi"), ("garay", "gara"),
   ("georgian", "geor"), ("glagolitic", "glag"), ("gothic", "goth"), ("grantha", "gran"),
   ("greek", "grek"), ("gujarati", "gujr"), ("gunjalagondi", "gong"), ("gurmukhi", "guru"),
   ("gurungkhema", "gukh"), ("han", "hani"), ("hangul", "hang"), ("hanifirohingya", "rohg"),
   ("hanunoo", "hano"), ("hatran", "hatr"), ("hebrew", "hebr"), ("hiragana", "hira"),
   ("imperialaramaic", "armi"), ("inherited", "zinh"), ("qaai", "zinh"),
   ("inscriptionalpahlavi", "phli"), ("inscriptionalparthian", "prti"), ("javanese", "java"),
   ("kaithi", "kthi"), ("kannada", "knda"), ("katakana", "kana"), ("kayahli", "kali"),
   ("kharoshthi", "khar"), ("khitansmallscript", "kits"), ("khmer", "khmr"), ("khojki", "khoj"),
   ("khudawadi", "sind"), ("kiratrai", "krai"), ("lao", "laoo"), ("latin", "latn"),
   ("lepcha", "lepc"), ("limbu", "limb"), ("lineara", "lina"), ("linearb", "linb"),
   ("lycian", "lyci"), ("lydian", "lydi"), ("mahajani", "mahj"), ("makasar", "maka"),
   ("malayalam", "mlym"), ("mandaic", "mand"), ("manichaean", "mani"), ("marchen", "marc"),
   ("masaramgondi", "gonm"), ("medefaidrin", "medf"), ("meeteimayek", "mtei"),
   ("mendekikakui", "mend"), ("meroiticcursive", "merc"), ("meroitichieroglyphs", "mero"),
   ("miao", "plrd"), ("mongolian", "mong"), ("mro", "mroo"), ("multani", "mult"),
   ("myanmar", "mymr"), ("nabataean", "nbat"), ("nagmundari", "nagm"), ("nandinagari", "nand"),
   ("newtailue", "talu"), ("nko", "nkoo"), ("nushu", "nshu"), ("nyiakengpuachuehmong", "hmnp"),
   ("ogham", "ogam"), ("olchiki", "olck"), ("olonal", "onao"), ("oldhungarian", "hung"),
   ("olditalic", "ital"), ("oldnortharabian", "narb"), ("oldpermic", "perm"),
   ("oldpersian", "xpeo"), ("oldsogdian", "sogo"), ("oldsoutharabian", "sarb"),
   ("oldturkic", "orkh"), ("olduyghur", "ougr"), ("oriya", "orya"), ("osage", "osge"),
   ("osmanya", "osma"), ("pahawhhmong", "hmng"), ("palmyrene", "palm"), ("paucinhau", "pauc"),
   ("phagspa", "phag"), ("phoenician", "phnx"), ("psalterpahlavi", "phlp"), ("rejang", "rjng"),
   ("runic", "runr"), ("samaritan", "samr"), ("saurashtra", "saur"), ("sharada", "shrd"),
   ("shavian", "shaw"), ("siddham", "sidd"), ("signwriting", "sgnw"), ("sinhala", "sinh"),
   ("sogdian", "sogd"), ("sorasompeng", "sora"), ("soyombo", "soyo"), ("sundanese", "sund"),
   ("sunuwar", "sunu"), ("sylotinagri", "sylo"), ("syriac", "syrc"), ("tagalog", "tglg"),
   ("tagbanwa", "tagb"), ("taile", "tale"), ("taitham", "lana"), ("taiviet", "tavt"),
   ("takri", "takr"), ("tamil", "taml"), ("tangsa", "tnsa"), ("tangut", "tang"), ("telugu", "telu"),
   ("thaana", "thaa"), ("tibetan", "tibt"), ("tifinagh", "tfng"), ("tirhuta", "tirh"),
   ("todhri", "todr"), ("tulutigalari", "tutg"), ("ugaritic", "ugar"), ("vai", "vaii"),
   ("vithkuqi", "vith"), ("wancho", "wcho"), ("warangciti", "wara"), ("yezidi", "yezi"),
   ("yi", "yiii"), ("zanabazarsquare", "zanb")]

def code (name : String) : String := (names.lookup name).getD name

def named? (name : String) : Option CharSet := tables.set? (code name)

def extension? (name : String) : Option CharSet :=
  (named? name).map fun s => s.symmDiff ((shared.set? (code name)).getD .empty)

end DocQuery.Unicode.Script
