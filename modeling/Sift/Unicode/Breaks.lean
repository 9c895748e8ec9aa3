import Sift.Unicode.Scripts
import Sift.Unicode.Traits

/-!
# Boundaries in text

Text is divided into graphemes (what readers take for one character), words and sentences. What a
character means for each of these divisions is a class of characters. The tables are those of
version 15.0 of Unicode.

## Main definitions

* `Sift.Breaks.graphemes`, `Sift.Breaks.words`, `Sift.Breaks.sentences`: the classes for the three
  divisions, with their names in lower case and without separators.
-/

set_option autoImplicit false

namespace Sift.Breaks

/-- A single code point. -/
def only (n : Nat) : CharSet := .ranges [(n, n)]

/-- The code points kept for controls. -/
def unassignedControls : Ranges :=
  [(0x2065, 0x2065), (0xFFF0, 0xFFF8), (0xE0000, 0xE0000), (0xE0002, 0xE001F), (0xE0080, 0xE00FF),
  (0xE01F0, 0xE0FFF)]

/-- The controls and formats that do not end a grapheme at once. -/
def joinedControls : Ranges :=
  [(0xA, 0xA), (0xD, 0xD), (0x600, 0x605), (0x6DD, 0x6DD), (0x70F, 0x70F), (0x890, 0x891),
  (0x8E2, 0x8E2), (0x200C, 0x200D), (0x110BD, 0x110BD), (0x110CD, 0x110CD), (0xE0020, 0xE007F)]

/-- The letters that belong to the grapheme behind them. -/
def prependedLetters : Ranges :=
  [(0xD4E, 0xD4E), (0x111C2, 0x111C3), (0x1193F, 0x1193F), (0x11941, 0x11941), (0x11A3A, 0x11A3A),
  (0x11A84, 0x11A89), (0x11D46, 0x11D46), (0x11F02, 0x11F02)]

/-- The marks with a width of their own that are no vowels of the grapheme in front. -/
def apartMarks : Ranges :=
  [(0x9BE, 0x9BE), (0x9D7, 0x9D7), (0xB3E, 0xB3E), (0xB57, 0xB57), (0xBBE, 0xBBE), (0xBD7, 0xBD7),
  (0xCC2, 0xCC2), (0xCD5, 0xCD6), (0xD3E, 0xD3E), (0xD57, 0xD57), (0xDCF, 0xDCF), (0xDDF, 0xDDF),
  (0x102B, 0x102C), (0x1038, 0x1038), (0x1062, 0x1064), (0x1067, 0x106D), (0x1083, 0x1083),
  (0x1087, 0x108C), (0x108F, 0x108F), (0x109A, 0x109C), (0x1A61, 0x1A61), (0x1A63, 0x1A64),
  (0x1B35, 0x1B35), (0x302E, 0x302F), (0xAA7B, 0xAA7B), (0xAA7D, 0xAA7D), (0x1133E, 0x1133E),
  (0x11357, 0x11357), (0x114B0, 0x114B0), (0x114BD, 0x114BD), (0x115AF, 0x115AF),
  (0x11720, 0x11721), (0x11930, 0x11930), (0x1D165, 0x1D165), (0x1D16E, 0x1D172)]

/-- Vowels that are letters but belong to the grapheme in front of them. -/
def vowelLetters : Ranges := [(0xE33, 0xE33), (0xEB3, 0xEB3)]

/-- The characters of words that are no letters. -/
def otherWordLetters : Ranges :=
  [(0x2C2, 0x2C5), (0x2D2, 0x2D7), (0x2DE, 0x2DF), (0x2E5, 0x2EB), (0x2ED, 0x2ED), (0x2EF, 0x2FF),
  (0x55A, 0x55C), (0x55E, 0x55E), (0x58A, 0x58A), (0x5F3, 0x5F3), (0xA708, 0xA716),
  (0xA720, 0xA721), (0xA789, 0xA78A), (0xAB5B, 0xAB5B)]

/-- The scripts written without blanks between words. -/
def unspaced : List String :=
  ["ahom", "hira", "khmr", "lana", "laoo", "mymr", "tale", "talu", "tavt", "thai"]

/-- The characters of a script with an abbreviation. -/
def script (name : String) : CharSet :=
  .ofRanges ((scripts.filter fun e => e.1.contains name).map Prod.snd)

/-- The letters of katakana, and the signs written with them. -/
def katakana : CharSet :=
  .union (script "kana") (.ranges [(0x3031, 0x3035), (0x309B, 0x309C), (0x30A0, 0x30A0),
    (0x30FC, 0x30FC), (0xFF70, 0xFF70)])

/-- The letters of Hebrew. -/
def hebrew : CharSet := .inter (script "hebr") (.ofRanges Category.letters)

/-- The characters that extend a word, apart from the colours of emoji. -/
def attached : CharSet := .union Trait.extending (.ranges Category.spacingMarks)

/-- The colours of emoji. -/
def colours : CharSet := .ranges Trait.emojiModifiers

/-- The letters of words. -/
def wordLetters : CharSet :=
  let apart := unspaced.foldr (fun name s => .union (script name) s)
    (.union (.union katakana hebrew) (.union attached (.ranges Category.ideographs)))
  .union (.except (.ofRanges Category.alphabetic) apart) (.ranges otherWordLetters)

/-- The numerals of words. -/
def numerals : CharSet := .ofRanges [Category.decimalDigits, [(0x66B, 0x66B)]]

/-- The syllables of Hangul of two sounds. -/
def openSyllables : Ranges :=
  (List.range 399).map fun i => (0xAC00 + 28 * i, 0xAC00 + 28 * i)

/-- The syllables of Hangul of three sounds. -/
def closedSyllables : Ranges :=
  (List.range 399).map fun i => (0xAC01 + 28 * i, 0xAC1B + 28 * i)

/-- The classes of characters in graphemes. -/
def graphemes : List (List String × CharSet) :=
  [(["cr"], only 0xD), (["lf"], only 0xA), (["zwj"], only 0x200D),
    (["control", "cn"],
      .union (.except (.ofRanges [Category.controls, Category.formats, Category.lineSeparators,
        Category.paragraphSeparators]) (.ranges joinedControls)) (.ranges unassignedControls)),
    (["extend", "ex"], .union Trait.extending colours),
    (["prepend", "pp"], .ofRanges [Trait.prependedMarks, prependedLetters]),
    (["regionalindicator", "ri"], .ranges Trait.regionalIndicators),
    (["spacingmark", "sm"],
      .union (.except (.ranges Category.spacingMarks) (.ranges apartMarks)) (.ranges vowelLetters)),
    (["l"], .ranges [(0x1100, 0x115F), (0xA960, 0xA97C)]),
    (["v"], .ranges [(0x1160, 0x11A7), (0xD7B0, 0xD7C6)]),
    (["t"], .ranges [(0x11A8, 0x11FF), (0xD7CB, 0xD7FB)]), (["lv"], .ranges openSyllables),
    (["lvt"], .ranges closedSyllables)]

/-- The classes of characters in words. -/
def words : List (List String × CharSet) :=
  [(["cr"], only 0xD), (["lf"], only 0xA), (["zwj"], only 0x200D),
    (["newline", "nl"], .ranges [(0xB, 0xC), (0x85, 0x85), (0x2028, 0x2029)]),
    (["doublequote", "dq"], only 0x22), (["singlequote", "sq"], only 0x27),
    (["hebrewletter", "hl"], hebrew), (["katakana", "ka"], katakana),
    (["aletter", "le"], wordLetters), (["numeric", "nu"], numerals),
    (["extendnumlet", "ex"], .ofRanges [Category.connectorPunctuation, [(0x202F, 0x202F)]]),
    (["extend"], .union attached colours),
    (["format", "fo"],
      .except (.ranges Category.formats) (.ranges [(0x200B, 0x200D), (0xE0020, 0xE007F)])),
    (["midletter", "ml"],
      .ranges [(0x3A, 0x3A), (0xB7, 0xB7), (0x387, 0x387), (0x55F, 0x55F), (0x5F4, 0x5F4),
        (0x2027, 0x2027), (0xFE13, 0xFE13), (0xFE55, 0xFE55), (0xFF1A, 0xFF1A)]),
    (["midnum", "mn"],
      .ranges [(0x2C, 0x2C), (0x3B, 0x3B), (0x37E, 0x37E), (0x589, 0x589), (0x60C, 0x60D),
        (0x66C, 0x66C), (0x7F8, 0x7F8), (0x2044, 0x2044), (0xFE10, 0xFE10), (0xFE14, 0xFE14),
        (0xFE50, 0xFE50), (0xFE54, 0xFE54), (0xFF0C, 0xFF0C), (0xFF1B, 0xFF1B)]),
    (["midnumlet", "mb"],
      .ranges [(0x2E, 0x2E), (0x2018, 0x2019), (0x2024, 0x2024), (0xFE52, 0xFE52),
        (0xFF07, 0xFF07), (0xFF0E, 0xFF0E)]),
    (["regionalindicator", "ri"], .ranges Trait.regionalIndicators),
    (["wsegspace"],
      .except (.ranges Category.spaceSeparators)
        (.ranges [(0xA0, 0xA0), (0x2007, 0x2007), (0x202F, 0x202F)]))]

/-- The lower-case letters of sentences. -/
def sentenceLower : CharSet :=
  .except Trait.lowercase (.ranges [(0x345, 0x345), (0x10D0, 0x10FA), (0x10FD, 0x10FF)])

/-- The letters of sentences that start them. -/
def sentenceUpper : CharSet :=
  .except (.union Trait.uppercase (.ranges Category.titlecaseLetters))
    (.ranges [(0x1C90, 0x1CBA), (0x1CBD, 0x1CBF)])

/-- What extends a character of a sentence. -/
def sentenceExtend : CharSet := .union attached (only 0x200D)

/-- The classes of characters in sentences. -/
def sentences : List (List String × CharSet) :=
  [(["cr"], only 0xD), (["lf"], only 0xA),
    (["sep", "se"], .ranges [(0x85, 0x85), (0x2028, 0x2029)]), (["extend", "ex"], sentenceExtend),
    (["format", "fo"],
      .except (.ranges Category.formats) (.ranges [(0x200C, 0x200D), (0xE0020, 0xE007F)])),
    (["sp"],
      .except (.ranges blankRanges)
        (.ranges [(0xA, 0xA), (0xD, 0xD), (0x85, 0x85), (0x2028, 0x2029)])),
    (["lower", "lo"], sentenceLower), (["upper", "up"], sentenceUpper),
    (["oletter", "le"],
      .union (.except (.ofRanges Category.alphabetic)
        (.union sentenceLower (.union sentenceUpper sentenceExtend))) (only 0x5F3)),
    (["numeric", "nu"], .union numerals (only 0x66C)),
    (["aterm", "at"],
      .ranges [(0x2E, 0x2E), (0x2024, 0x2024), (0xFE52, 0xFE52), (0xFF0E, 0xFF0E)]),
    (["scontinue", "sc"],
      .ranges [(0x2C, 0x2D), (0x3A, 0x3A), (0x55D, 0x55D), (0x60C, 0x60D), (0x7F8, 0x7F8),
        (0x1802, 0x1802), (0x1808, 0x1808), (0x2013, 0x2014), (0x3001, 0x3001), (0xFE10, 0xFE11),
        (0xFE13, 0xFE13), (0xFE31, 0xFE32), (0xFE50, 0xFE51), (0xFE55, 0xFE55), (0xFE58, 0xFE58),
        (0xFE63, 0xFE63), (0xFF0C, 0xFF0D), (0xFF1A, 0xFF1A), (0xFF64, 0xFF64)]),
    (["sterm", "st"],
      .except (.ranges Trait.sentenceTerminals)
        (.ranges [(0x2E, 0x2E), (0xFE52, 0xFE52), (0xFF0E, 0xFF0E)])),
    (["close", "cl"],
      .except (.ofRanges [Category.openPunctuation, Category.closePunctuation,
        Category.initialPunctuation, Category.finalPunctuation, Trait.quotationMarks,
        [(0x275B, 0x2760), (0x2E00, 0x2E01), (0x2E06, 0x2E08), (0x2E0B, 0x2E0B),
          (0x1F676, 0x1F678)]])
        (.ranges [(0xFF02, 0xFF02), (0xFF07, 0xFF07)]))]

end Sift.Breaks
