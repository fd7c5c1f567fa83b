import EventQuery.Text.Properties.Derived

/-!
# Characters by their part in what a reader takes for one character

The values of the grapheme cluster break property. A syllable of Hangul is built from letters that
lead, carry and follow the vowel; whole syllables stand in order, each one without a final letter
followed by its 27 forms with one.
-/

namespace EventQuery.GraphemeBreak

def zeroWidthJoiner : CodeSet := CodeSet.range 0x200D 0x200D

/-- What belongs to the character before it. -/
def extend : CodeSet := Property.graphemeExtend.union Property.emojiModifier

/-- What belongs to the character after it. -/
def prepend : CodeSet :=
  Property.prependedConcatenationMark.union <| .ofRanges
    [(0xD4E, 0xD4E), (0x111C2, 0x111C3), (0x113D1, 0x113D1), (0x1193F, 0x1193F),
     (0x11941, 0x11941), (0x11A3A, 0x11A3A), (0x11A84, 0x11A89), (0x11D46, 0x11D46),
     (0x11F02, 0x11F02)]

/-- Characters that are shown as nothing and stand alone. -/
def control : CodeSet :=
  CodeSet.unionAll [Category.lineSeparator, Category.paragraphSeparator, Category.control,
      Category.format, Category.unassigned.inter Property.defaultIgnorable]
    |>.diff (CodeSet.unionAll [Property.prependedConcatenationMark,
      .ofRanges [(0xA, 0xA), (0xD, 0xD), (0x200C, 0x200D), (0xE0020, 0xE007F)]])

/-- Marks that take room beside the character before them. -/
def spacingMark : CodeSet :=
  Category.spacingMark.union (.ofRanges [(0xE33, 0xE33), (0xEB3, 0xEB3)])
    |>.diff (extend.union <| .ofRanges
      [(0x102B, 0x102C), (0x1038, 0x1038), (0x1062, 0x1064), (0x1067, 0x106D), (0x1083, 0x1083),
       (0x1087, 0x108C), (0x108F, 0x108F), (0x109A, 0x109C), (0x1A61, 0x1A61), (0x1A63, 0x1A64),
       (0xAA7B, 0xAA7B), (0xAA7D, 0xAA7D), (0x11720, 0x11721)])

/-- Leading consonants. -/
def leading : CodeSet := .ofRanges [(0x1100, 0x115F), (0xA960, 0xA97C)]

/-- Vowels. -/
def vowel : CodeSet := .ofRanges
  [(0x1160, 0x11A7), (0xD7B0, 0xD7C6), (0x16D63, 0x16D63), (0x16D67, 0x16D6A)]

/-- Final consonants. -/
def trailing : CodeSet := .ofRanges [(0x11A8, 0x11FF), (0xD7CB, 0xD7FB)]

/-- Syllables without a final consonant. -/
def openSyllable : CodeSet :=
  .ofRanges ((List.range 399).map fun k => (0xAC00 + 28 * k, 0xAC00 + 28 * k))

/-- Syllables with a final consonant. -/
def closedSyllable : CodeSet := (CodeSet.range 0xAC00 0xD7A3).diff openSyllable

/-- The values by name, in lower case and without separators. -/
def named : List (List String × CodeSet) :=
  [(["cn", "control"], control), (["cr"], CodeSet.singleton '\r'), (["ex", "extend"], extend),
   (["l"], leading), (["lf"], CodeSet.singleton '\n'), (["lv"], openSyllable),
   (["lvt"], closedSyllable), (["pp", "prepend"], prepend),
   (["ri", "regionalindicator"], Property.regionalIndicator),
   (["sm", "spacingmark"], spacingMark), (["t"], trailing), (["v"], vowel),
   (["zwj"], zeroWidthJoiner)]

end EventQuery.GraphemeBreak
