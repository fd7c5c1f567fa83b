import EventQuery.Text.Break.Word

/-!
# Characters by their part in sentences

The values of the sentence break property: what a character does to the division of a text into
sentences.
-/

namespace EventQuery.SentenceBreak

/-- The ends of paragraphs. -/
def separator : CodeSet := .ofRanges [(0x85, 0x85), (0x2028, 0x2029)]

/-- White space inside a paragraph. -/
def space : CodeSet :=
  Property.whiteSpace.diff (separator.union (.ofRanges [(0xA, 0xA), (0xD, 0xD)]))

/-- Full stops, which may also mark an abbreviation. -/
def ambiguousTerminal : CodeSet := .ofRanges
  [(0x2E, 0x2E), (0x2024, 0x2024), (0xFE52, 0xFE52), (0xFF0E, 0xFF0E)]

/-- Punctuation that always ends a sentence. -/
def terminal : CodeSet := Property.sentenceTerminal.diff ambiguousTerminal

/-- Punctuation after which a sentence goes on. -/
def continuation : CodeSet := .ofRanges
  [(0x2C, 0x2D), (0x3A, 0x3B), (0x37E, 0x37E), (0x55D, 0x55D), (0x60C, 0x60D), (0x7F8, 0x7F8),
   (0x1802, 0x1802), (0x1808, 0x1808), (0x2013, 0x2014), (0x3001, 0x3001), (0xFE10, 0xFE11),
   (0xFE13, 0xFE14), (0xFE31, 0xFE32), (0xFE50, 0xFE51), (0xFE54, 0xFE55), (0xFE58, 0xFE58),
   (0xFE63, 0xFE63), (0xFF0C, 0xFF0D), (0xFF1A, 0xFF1B), (0xFF64, 0xFF64)]

/-- Brackets and quotation marks. -/
def close : CodeSet :=
  CodeSet.unionAll [Category.openPunctuation, Category.closePunctuation,
      Category.initialPunctuation, Category.finalPunctuation, Property.quotationMark,
      .ofRanges [(0x275B, 0x2760), (0x2E00, 0x2E01), (0x2E06, 0x2E08), (0x2E0B, 0x2E0B),
        (0x1F676, 0x1F678)]]
    |>.diff (.ofRanges [(0xFF02, 0xFF02), (0xFF07, 0xFF07)])

/-- What belongs to the character before it. -/
def extend : CodeSet :=
  CodeSet.unionAll [Property.graphemeExtend, Category.spacingMark, WordBreak.zeroWidthJoiner]

def format : CodeSet :=
  WordBreak.format.union (.ofRanges [(0x70F, 0x70F), (0x200B, 0x200B)])

def numeric : CodeSet := WordBreak.numeric.union (CodeSet.range 0x66C 0x66C)

/-- The letters of Georgian that are neither small nor capital in a sentence. -/
def georgianSmall : CodeSet := .ofRanges [(0x10D0, 0x10FA), (0x10FD, 0x10FF)]

def lower : CodeSet :=
  Property.lowercase.diff (Property.graphemeExtend.union georgianSmall)

def upper : CodeSet :=
  (Property.uppercase.union Category.titlecaseLetter).diff
    (.ofRanges [(0x1C90, 0x1CBA), (0x1CBD, 0x1CBF)])

/-- Letters without case. -/
def otherLetter : CodeSet :=
  (Property.alphabetic.union (CodeSet.range 0x5F3 0x5F3)).diff <|
    CodeSet.unionAll [lower, upper, extend]

/-- The values by name, in lower case and without separators. -/
def named : List (List String × CodeSet) :=
  [(["at", "aterm"], ambiguousTerminal), (["cl", "close"], close),
   (["cr"], CodeSet.singleton '\r'), (["ex", "extend"], extend), (["fo", "format"], format),
   (["le", "oletter"], otherLetter), (["lf"], CodeSet.singleton '\n'), (["lo", "lower"], lower),
   (["nu", "numeric"], numeric), (["sc", "scontinue"], continuation), (["se", "sep"], separator),
   (["sp"], space), (["st", "sterm"], terminal), (["up", "upper"], upper)]

end EventQuery.SentenceBreak
