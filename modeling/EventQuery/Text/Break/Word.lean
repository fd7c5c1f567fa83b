import EventQuery.Text.Properties.Derived
import EventQuery.Text.Script

/-!
# Characters by their part in words

The values of the word break property: what a character does to the division of a text into words.
Most follow from categories, scripts and other properties, with a few characters put in or left out.
-/

namespace EventQuery.WordBreak

def newline : CodeSet := .ofRanges [(0xB, 0xC), (0x85, 0x85), (0x2028, 0x2029)]

def singleQuote : CodeSet := CodeSet.singleton '\''

def doubleQuote : CodeSet := CodeSet.singleton '"'

/-- Punctuation inside a word of letters. -/
def midLetter : CodeSet := .ofRanges
  [(0x3A, 0x3A), (0xB7, 0xB7), (0x387, 0x387), (0x55F, 0x55F), (0x5F4, 0x5F4), (0x2027, 0x2027),
   (0xFE13, 0xFE13), (0xFE55, 0xFE55), (0xFF1A, 0xFF1A)]

/-- Punctuation inside a number. -/
def midNum : CodeSet := .ofRanges
  [(0x2C, 0x2C), (0x3B, 0x3B), (0x37E, 0x37E), (0x589, 0x589), (0x60C, 0x60D), (0x66C, 0x66C),
   (0x7F8, 0x7F8), (0x2044, 0x2044), (0xFE50, 0xFE50), (0xFE54, 0xFE54), (0xFF0C, 0xFF0C),
   (0xFF1B, 0xFF1B)]

/-- Punctuation inside words of letters and inside numbers. -/
def midNumLet : CodeSet := .ofRanges
  [(0x2E, 0x2E), (0x2018, 0x2019), (0x2024, 0x2024), (0xFE52, 0xFE52), (0xFF07, 0xFF07),
   (0xFF0E, 0xFF0E)]

/-- Ties, among them the narrow space that groups digits. -/
def extendNumLet : CodeSet :=
  Category.connectorPunctuation.union (CodeSet.range 0x202F 0x202F)

/-- Spaces at which a line may be broken. -/
def segmentSpace : CodeSet :=
  Category.spaceSeparator.diff (.ofRanges [(0xA0, 0xA0), (0x2007, 0x2007), (0x202F, 0x202F)])

def zeroWidthJoiner : CodeSet := CodeSet.range 0x200D 0x200D

/-- What belongs to the character before it. -/
def extend : CodeSet :=
  CodeSet.unionAll [Property.graphemeExtend, Category.spacingMark, Property.emojiModifier]
    |>.diff zeroWidthJoiner

/-- Invisible characters that neither join nor part words. -/
def format : CodeSet :=
  Category.format.diff <| CodeSet.unionAll [Property.prependedConcatenationMark,
    CodeSet.range 0x200B 0x200D, CodeSet.range 0xE0020 0xE007F]

/-- Digits, and signs that stand with them. -/
def numeric : CodeSet :=
  Category.decimalNumber.union <| .ofRanges
    [(0x600, 0x605), (0x66B, 0x66B), (0x6DD, 0x6DD), (0x890, 0x891), (0x8E2, 0x8E2),
     (0x19DA, 0x19DA), (0x110BD, 0x110BD), (0x110CD, 0x110CD)]

/-- The characters of Katakana, and the marks it shares with Hiragana. -/
def katakana : CodeSet :=
  Script.katakana.characters.union <| .ofRanges
    [(0x3031, 0x3035), (0x309B, 0x309C), (0x30A0, 0x30A0), (0x30FC, 0x30FC), (0xFF70, 0xFF70)]

def hebrewLetter : CodeSet := Script.hebrew.characters.inter Category.otherLetter

/-- Modifiers and signs that count as letters of a word. -/
def letterlike : CodeSet := .ofRanges
  [(0x2C2, 0x2C5), (0x2D2, 0x2D7), (0x2DE, 0x2DF), (0x2E5, 0x2EB), (0x2ED, 0x2ED), (0x2EF, 0x2FF),
   (0x55A, 0x55C), (0x55E, 0x55E), (0x58A, 0x58A), (0x5F3, 0x5F3), (0x70F, 0x70F),
   (0xA708, 0xA716), (0xA720, 0xA721), (0xA789, 0xA78A), (0xAB5B, 0xAB5B)]

/-- Letters of scripts that are written without spaces between words. -/
def unspaced : CodeSet := .ofRanges
  [(0xE01, 0xE30), (0xE32, 0xE33), (0xE40, 0xE46), (0xE81, 0xE82), (0xE84, 0xE84), (0xE86, 0xE8A),
   (0xE8C, 0xEA3), (0xEA5, 0xEA5), (0xEA7, 0xEB0), (0xEB2, 0xEB3), (0xEBD, 0xEBD), (0xEC0, 0xEC4),
   (0xEC6, 0xEC6), (0xEDC, 0xEDF), (0x1000, 0x102A), (0x103F, 0x103F), (0x1050, 0x1055),
   (0x105A, 0x105D), (0x1061, 0x1061), (0x1065, 0x1066), (0x106E, 0x1070), (0x1075, 0x1081),
   (0x108E, 0x108E), (0x1780, 0x17B3), (0x17D7, 0x17D7), (0x17DC, 0x17DC), (0x1950, 0x196D),
   (0x1970, 0x1974), (0x1980, 0x19AB), (0x19B0, 0x19C9), (0x1A20, 0x1A54), (0x1AA7, 0x1AA7),
   (0xA9E0, 0xA9E4), (0xA9E6, 0xA9EF), (0xA9FA, 0xA9FE), (0xAA60, 0xAA76), (0xAA7A, 0xAA7A),
   (0xAA7E, 0xAAAF), (0xAAB1, 0xAAB1), (0xAAB5, 0xAAB6), (0xAAB9, 0xAABD), (0xAAC0, 0xAAC0),
   (0xAAC2, 0xAAC2), (0xAADB, 0xAADD), (0x11700, 0x1171A), (0x11740, 0x11746)]

/-- Letters of the scripts that put spaces between words. -/
def letter : CodeSet :=
  (Property.alphabetic.union letterlike).diff <| CodeSet.unionAll [Property.ideographic, katakana,
    hebrewLetter, extend, Script.hiragana.characters, unspaced]

/-- The values by name, in lower case and without separators. -/
def named : List (List String × CodeSet) :=
  [(["le", "aletter"], letter), (["cr"], CodeSet.singleton '\r'),
   (["dq", "doublequote"], doubleQuote), (["ex", "extendnumlet"], extendNumLet),
   (["extend"], extend), (["fo", "format"], format), (["hl", "hebrewletter"], hebrewLetter),
   (["ka", "katakana"], katakana), (["lf"], CodeSet.singleton '\n'),
   (["mb", "midnumlet"], midNumLet), (["ml", "midletter"], midLetter), (["mn", "midnum"], midNum),
   (["nl", "newline"], newline), (["nu", "numeric"], numeric),
   (["ri", "regionalindicator"], Property.regionalIndicator),
   (["sq", "singlequote"], singleQuote), (["wsegspace"], segmentSpace),
   (["zwj"], zeroWidthJoiner)]

end EventQuery.WordBreak

namespace EventQuery.Property

/-- Characters over which a search for the neighbouring cased letter passes. -/
def caseIgnorable : CodeSet :=
  CodeSet.unionAll [Category.nonspacingMark, Category.enclosingMark, Category.format,
    Category.modifierLetter, Category.modifierSymbol, WordBreak.midLetter, WordBreak.midNumLet,
    WordBreak.singleQuote]

end EventQuery.Property
