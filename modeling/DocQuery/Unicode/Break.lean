import DocQuery.Unicode.Binary
import DocQuery.Unicode.Script

/-!
Classes of characters by which a text is broken into graphemes, words and sentences.
-/
namespace DocQuery.Unicode.Break

open Binary (listed except)
open Category (of)

def code (n : Nat) : CharSet := .ofEnds n n

def joiner : CharSet := code 0x200D

def regionalIndicator : CharSet := listed "regionalindicator"

def extending : CharSet := Binary.graphemeExtend.union (listed "emojimodifier")

namespace Grapheme

def control : CharSet :=
  (CharSet.join
    [of "Cc", of "Cf", of "Zl", of "Zp", (of "Cn").inter Binary.defaultIgnorable]).diff
    (.join
      [listed "prependedconcatenationmark", code 0xA, code 0xD, .ofEnds 0x200C 0x200D,
       .ofEnds 0xE0020 0xE007F])

def spacingMark : CharSet :=
  except ((of "Mc").diff Binary.graphemeExtend)
    ["e33 1 7f 1 177 2 b 1 29 3 2 7 15 1 3 6 2 1 a 3 9c4 1 1 2 9016 1 1 1 6ca2 2"]

/-- Syllables of two letters; each stands before those that have a third letter as well. -/
def pairs : CharSet :=
  .ofIntervals ((List.range 399).map fun k => (0xAC00 + 28 * k, 0xAC00 + 28 * k))

def syllables : CharSet := .ofEnds 0xAC00 0xD7A3

def tables : Table :=
  [("cr", ["d 1"]),
   ("lf", ["a 1"]),
   ("l", ["1100 60 9800 1d"]),
   ("v", ["1160 48 c608 17 959c 1 3 4"]),
   ("t", ["11a8 58 c5cb 31"]),
   ("prepend",
    ["600 6 d7 1 31 1 180 2 50 1 46b 1 1036e 1 f 1 f4 2 20d 1 56d 1 1 1 f8 1 49 6 2bc 1 1bb 1"])]

def named? (name : String) : Option CharSet :=
  match name with
  | "cn" | "control" => some control
  | "ex" | "extend" => some (extending.diff joiner)
  | "sm" | "spacingmark" => some spacingMark
  | "pp" => tables.set? "prepend"
  | "lv" => some pairs
  | "lvt" => some (syllables.diff pairs)
  | "ri" | "regionalindicator" => some regionalIndicator
  | "zwj" => some joiner
  | name => tables.set? name

end Grapheme

def marking : CharSet := extending.union (of "Mc")

namespace Word

def katakana : CharSet :=
  except ((Script.named? "kana").getD .empty) ["3031 5 65 2 3 1 5b 1 ce73 1"]

def hebrew : CharSet := ((Script.named? "hebr").getD .empty).inter (of "Lo")

def format : CharSet :=
  except ((of "Cf").diff (.ofEnds 0x200B 0x200D))
    ["600 6 d7 1 31 1 180 2 50 1 107da 1 f 1 cef52 60"]

def numeric : CharSet := except (of "Nd") ["600 6 65 1 71 1 1b2 2 50 1 10f7 1 f6e2 1 f 1"]

def letter : CharSet :=
  except
    (Binary.alphabetic.diff
      (.join
        [listed "ideographic", katakana, (Script.named? "hira").getD .empty, hebrew,
         marking.diff joiner]))
    ["2c2 4 c 6 6 2 5 7 1 1 1 11 25a 3 1 1 2b 1 68 1 11b 1 6f1 30 1 2 c 7 3a 2 1 1 1 5 1 18 1 1 1",
     "a 1 2 9 1 2 5 1 1 15 4 120 2b 14 1 10 6 4 4 3 1 3 2 7 3 4 d c 1 6f1 34 23 1 4 1 173 1e 2 5 b",
     "2c 4 1a 56 35 52 1 8c60 f 9 2 67 2 255 5 1 a a 5 61 17 3 1 3 32 1 1 3 2 2 5 2 1 1 1 18 3 7d",
     "1 6ba4 1b 25 7"]

def blank : CharSet := except (of "Zs") ["a0 1 1f66 1 27 1"]

def tables : Table :=
  [("cr", ["d 1"]),
   ("lf", ["a 1"]),
   ("newline", ["b 2 78 1 1fa2 2"]),
   ("doublequote", ["22 1"]),
   ("singlequote", ["27 1"]),
   ("midletter", ["3a 1 7c 1 2cf 1 1d7 1 94 1 1a32 1 ddeb 1 41 1 c4 1"]),
   ("midnum", ["2c 1 e 1 342 1 20a 1 82 2 5e 1 18b 1 184b 1 de0b 1 3 1 b7 1 e 1"]),
   ("midnumlet", ["2e 1 1fe9 2 a 1 de2d 1 b4 1 6 1"])]

def named? (name : String) : Option CharSet :=
  match name with
  | "le" | "aletter" => some letter
  | "dq" => tables.set? "doublequote"
  | "extend" => some (marking.diff joiner)
  | "ex" | "extendnumlet" => some ((of "Pc").union (code 0x202F))
  | "fo" | "format" => some format
  | "hl" | "hebrewletter" => some hebrew
  | "ka" | "katakana" => some katakana
  | "ml" => tables.set? "midletter"
  | "mn" => tables.set? "midnum"
  | "mb" => tables.set? "midnumlet"
  | "nl" => tables.set? "newline"
  | "nu" | "numeric" => some numeric
  | "ri" | "regionalindicator" => some regionalIndicator
  | "sq" => tables.set? "singlequote"
  | "wsegspace" => some blank
  | "zwj" => some joiner
  | name => tables.set? name

end Word

namespace Sentence

def format : CharSet :=
  except ((of "Cf").diff (.ofEnds 0x200C 0x200D)) ["600 6 d7 1 1b2 2 50 1 107da 1 f 1 cef52 60"]

def extend : CharSet := .join [Binary.graphemeExtend, of "Mc", joiner]

def lower : CharSet :=
  except (Binary.lowercase.diff Binary.graphemeExtend) ["10d0 2b 2 3"]

def upper : CharSet := except (Binary.uppercase.union (of "Lt")) ["1c90 2b 2 3"]

def letter : CharSet :=
  (Binary.alphabetic.union (code 0x5F3)).diff (.join [lower, upper, extend])

def numeric : CharSet := Word.numeric.union (code 0x66C)

def close : CharSet :=
  except (.join [of "Ps", of "Pe", of "Pi", of "Pf", listed "quotationmark"])
    ["275b 6 69f 2 4 3 2 1 d0f6 1 4 1 f76e 3"]

def tables : Table :=
  [("cr", ["d 1"]),
   ("lf", ["a 1"]),
   ("sep", ["85 1 1fa2 2"]),
   ("aterm", ["2e 1 1ff5 1 de2d 1 bb 1"]),
   ("scontinue",
    ["2c 2 c 2 342 1 1de 1 ae 2 1ea 1 1009 1 5 1 80a 2 fec 1 ce0e 2 1 2 1c 2 1d 2 2 2 2 1 a 1 a8 2",
     "c 2 48 1"])]

def stop : CharSet := (tables.set? "aterm").getD .empty

def blank : CharSet :=
  whiteSpace.diff (.join [code 0xA, code 0xD, code 0x85, .ofEnds 0x2028 0x2029])

def named? (name : String) : Option CharSet :=
  match name with
  | "at" => some stop
  | "cl" | "close" => some close
  | "ex" | "extend" => some extend
  | "fo" | "format" => some format
  | "lo" | "lower" => some lower
  | "nu" | "numeric" => some numeric
  | "le" | "oletter" => some letter
  | "sc" => tables.set? "scontinue"
  | "se" => tables.set? "sep"
  | "sp" => some blank
  | "st" | "sterm" => some ((listed "sentenceterminal").diff stop)
  | "up" | "upper" => some upper
  | name => tables.set? name

end Sentence

end DocQuery.Unicode.Break
