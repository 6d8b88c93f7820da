import Understudy.Text.Category

/-!
# Parts of texts

The classes of characters that decide where a text falls into graphemes, words and sentences, after
Unicode Standard Annex 29. Most are made of general categories and other properties. Characters in
no class have none that could be named.

## Main definitions

* `graphemeBreak?`, `wordBreak?`, `sentenceBreak?`: the classes by their names, given in lower case
  without separators
-/

namespace Understudy.Text

/-- The zero-width joiner. -/
def joiner : CharSet := CharSet.ofCodes [0x200d]

/-- The format characters in front of numbers. -/
def concatenationMarks : CharSet := listed "pcm"

/-- The modifiers of emoji. -/
def emojiModifiers : CharSet := listed "emod"

/-- The letters of flags. -/
def regionalIndicators : CharSet := listed "ri"

/-! ## Graphemes -/

/-- The spacing marks that start a grapheme. -/
def independentMarks : CharSet :=
  CharSet.ofRanges [(0x102b, 0x102c), (0x1038, 0x1038), (0x1062, 0x1064), (0x1067, 0x106d),
    (0x1083, 0x1083), (0x1087, 0x108c), (0x108f, 0x108f), (0x109a, 0x109c), (0x1a61, 0x1a61),
    (0x1a63, 0x1a64), (0xaa7b, 0xaa7b), (0xaa7d, 0xaa7d), (0x11720, 0x11721)]

/-- The first and the last Hangul syllable. -/
def syllables : Nat × Nat := (0xac00, 0xd7a3)

/-- The Hangul syllables that end in a vowel: one in twenty-eight. -/
def openSyllables : CharSet :=
  CharSet.ofCodes ((List.range ((syllables.2 - syllables.1) / 28 + 1)).map fun i =>
    syllables.1 + 28 * i)

/-- The characters that stand before the grapheme they belong to. -/
def prepended : CharSet :=
  concatenationMarks.union (CharSet.ofRanges [(0xd4e, 0xd4e), (0x111c2, 0x111c3),
    (0x113d1, 0x113d1), (0x1193f, 0x1193f), (0x11941, 0x11941), (0x11a3a, 0x11a3a),
    (0x11a84, 0x11a89), (0x11d46, 0x11d46), (0x11f02, 0x11f02)])

/-- The code points that are kept for invisible characters. -/
def reservedIgnorable : CharSet :=
  (categorySet ["Cn"]).inter (listed "odi")

/-- The control characters that stand alone. -/
def controls : CharSet :=
  ((categorySet ["Zl", "Zp", "Cc", "Cf"]).union reservedIgnorable).sdiff
    (((CharSet.ofCodes [10, 13, 0x200d]).union concatenationMarks).union graphemeExtenders)

/-- The characters of a class for graphemes. -/
def graphemeBreak? : String → Option CharSet
  | "cr" => some (CharSet.ofCodes [13])
  | "lf" => some (CharSet.ofCodes [10])
  | "cn" | "control" => some controls
  | "ex" | "extend" => some (graphemeExtenders.union emojiModifiers)
  | "pp" | "prepend" => some prepended
  | "sm" | "spacingmark" =>
    some (((categorySet ["Mc"]).union (CharSet.ofCodes [0xe33, 0xeb3])).sdiff
      (graphemeExtenders.union independentMarks))
  | "ri" | "regionalindicator" => some regionalIndicators
  | "l" => some (CharSet.ofRanges [(0x1100, 0x115f), (0xa960, 0xa97c)])
  | "v" =>
    some (CharSet.ofRanges [(0x1160, 0x11a7), (0xd7b0, 0xd7c6), (0x16d63, 0x16d63),
      (0x16d67, 0x16d6a)])
  | "t" => some (CharSet.ofRanges [(0x11a8, 0x11ff), (0xd7cb, 0xd7fb)])
  | "lv" => some openSyllables
  | "lvt" => some ((CharSet.ofRanges [syllables]).sdiff openSyllables)
  | "zwj" => some joiner
  | _ => none

/-! ## Words -/

/-- The marks and modifiers that go on a grapheme or stand beside it. -/
def attached : CharSet :=
  (graphemeExtenders.union (categorySet ["Mc"])).union emojiModifiers

/-- The signs inside words. -/
def midLetter : CharSet :=
  CharSet.ofCodes [0x3a, 0xb7, 0x387, 0x55f, 0x5f4, 0x2027, 0xfe13, 0xfe55, 0xff1a]

/-- The signs inside words and inside numbers. -/
def midNumLet : CharSet :=
  CharSet.ofCodes [0x2e, 0x2018, 0x2019, 0x2024, 0xfe52, 0xff07, 0xff0e]

/-- The signs inside numbers. -/
def midNum : CharSet :=
  CharSet.ofCodes [0x2c, 0x3b, 0x37e, 0x589, 0x60c, 0x60d, 0x66c, 0x7f8, 0x2044, 0xfe10, 0xfe14,
    0xfe50, 0xfe54, 0xff0c, 0xff1b]

/-- The digits, the Arabic decimal point and the marks in front of numbers. -/
def numerals : CharSet :=
  ((categorySet ["Nd"]).union (CharSet.ofCodes [0x66b])).union
    (concatenationMarks.sdiff (CharSet.ofCodes [0x70f]))

/-- The letters of Hebrew. -/
def hebrewLetters : CharSet :=
  (scriptSet "Hebr").inter (categorySet ["Lo"])

/-- The characters of Katakana words. -/
def katakana : CharSet :=
  (scriptSet "Kana").union (CharSet.ofRanges [(0x3031, 0x3035), (0x309b, 0x309c),
    (0x30a0, 0x30a0), (0x30fc, 0x30fc), (0xff70, 0xff70)])

/-- The characters that stand for letters without being alphabetic. -/
def letterLike : CharSet :=
  CharSet.ofRanges [(0xb8, 0xb8), (0x2c2, 0x2c5), (0x2d2, 0x2d7), (0x2de, 0x2df), (0x2e5, 0x2eb),
    (0x2ed, 0x2ed), (0x2ef, 0x2ff), (0x55a, 0x55c), (0x55e, 0x55e), (0x58a, 0x58a),
    (0x5f3, 0x5f3), (0x70f, 0x70f), (0xa708, 0xa716), (0xa720, 0xa721), (0xa789, 0xa78a),
    (0xab5b, 0xab5b)]

/-- The characters of words that are written with spaces between them. -/
def wordLetters : CharSet :=
  (alphabetic.union letterLike).sdiff
    (((((listed "ideo").union katakana).union (listedSet complexContext)).union
      (scriptSet "Hira")).union (attached.union hebrewLetters))

/-- The characters of a class for words. -/
def wordBreak? : String → Option CharSet
  | "cr" => some (CharSet.ofCodes [13])
  | "lf" => some (CharSet.ofCodes [10])
  | "nl" | "newline" => some (CharSet.ofCodes [0xb, 0xc, 0x85, 0x2028, 0x2029])
  | "extend" => some attached
  | "zwj" => some joiner
  | "fo" | "format" =>
    some ((categorySet ["Cf"]).sdiff
      (((CharSet.ofCodes [0x200b, 0x200c, 0x200d]).union concatenationMarks).union
        graphemeExtenders))
  | "ri" | "regionalindicator" => some regionalIndicators
  | "ka" | "katakana" => some katakana
  | "hl" | "hebrewletter" => some hebrewLetters
  | "le" | "aletter" => some wordLetters
  | "sq" | "singlequote" => some (CharSet.ofCodes [0x27])
  | "dq" | "doublequote" => some (CharSet.ofCodes [0x22])
  | "mb" | "midnumlet" => some midNumLet
  | "ml" | "midletter" => some midLetter
  | "mn" | "midnum" => some midNum
  | "nu" | "numeric" => some numerals
  | "ex" | "extendnumlet" => some ((categorySet ["Pc"]).union (CharSet.ofCodes [0x202f]))
  | "wsegspace" =>
    some (CharSet.ofRanges [(0x20, 0x20), (0x1680, 0x1680), (0x2000, 0x2006), (0x2008, 0x200a),
      (0x205f, 0x205f), (0x3000, 0x3000)])
  | _ => none

/-! ## Sentences -/

/-- The ends of paragraphs. -/
def separators : CharSet := CharSet.ofCodes [0x85, 0x2028, 0x2029]

/-- The small letters that start no sentence. -/
def sentenceLower : CharSet :=
  lowercase.sdiff (graphemeExtenders.union (CharSet.ofRanges [(0x10d0, 0x10fa), (0x10fd, 0x10ff)]))

/-- The capital letters that start a sentence. -/
def sentenceUpper : CharSet :=
  (uppercase.union (categorySet ["Lt"])).sdiff
    (CharSet.ofRanges [(0x1c90, 0x1cba), (0x1cbd, 0x1cbf)])

/-- The marks that go with the character before them. -/
def sentenceExtend : CharSet :=
  (graphemeExtenders.union (categorySet ["Mc"])).union joiner

/-- The points that may end a sentence or an abbreviation. -/
def points : CharSet := CharSet.ofCodes [0x2e, 0x2024, 0xfe52, 0xff0e]

/-- The white space inside a paragraph. -/
def sentenceSpaces : CharSet :=
  blank.sdiff (separators.union (CharSet.ofCodes [10, 13]))

/-- The characters of a class for sentences. -/
def sentenceBreak? : String → Option CharSet
  | "cr" => some (CharSet.ofCodes [13])
  | "lf" => some (CharSet.ofCodes [10])
  | "se" | "sep" => some separators
  | "ex" | "extend" => some sentenceExtend
  | "fo" | "format" =>
    some ((categorySet ["Cf"]).sdiff
      (((CharSet.ofCodes [0x200c, 0x200d]).union graphemeExtenders).union
        (concatenationMarks.sdiff (CharSet.ofCodes [0x70f]))))
  | "sp" => some sentenceSpaces
  | "lo" | "lower" => some sentenceLower
  | "up" | "upper" => some sentenceUpper
  | "le" | "oletter" =>
    some ((alphabetic.union (CharSet.ofCodes [0x5f3])).sdiff
      ((sentenceLower.union sentenceUpper).union sentenceExtend))
  | "nu" | "numeric" => some (numerals.union (CharSet.ofCodes [0x66c]))
  | "at" | "aterm" => some points
  | "st" | "sterm" => some ((listed "sterm").sdiff points)
  | "sc" | "scontinue" =>
    some (CharSet.ofCodes [0x2c, 0x2d, 0x3a, 0x3b, 0x37e, 0x55d, 0x60c, 0x60d, 0x7f8, 0x1802,
      0x1808, 0x2013, 0x2014, 0x3001, 0xfe10, 0xfe11, 0xfe13, 0xfe14, 0xfe31, 0xfe32, 0xfe50,
      0xfe51, 0xfe54, 0xfe55, 0xfe58, 0xfe63, 0xff0c, 0xff0d, 0xff1a, 0xff1b, 0xff64])
  | "cl" | "close" =>
    some ((categorySet ["Ps", "Pe", "Pi", "Pf"]).union (CharSet.ofRanges [(0x22, 0x22),
      (0x27, 0x27), (0x275b, 0x2760), (0x2e00, 0x2e01), (0x2e06, 0x2e08), (0x2e0b, 0x2e0b),
      (0x1f676, 0x1f678)]))
  | _ => none

end Understudy.Text
