import EventQuery.Text.Category
import EventQuery.Text.Properties

/-!
# Properties that follow from others

The character database defines these as unions and differences of general categories and of the
properties it lists (`EventQuery.Text.Properties`), and so they are defined here.
-/

namespace EventQuery.Property

/-! ## Case and letters -/

def uppercase : CodeSet := Category.uppercaseLetter.union otherUppercase

def lowercase : CodeSet := Category.lowercaseLetter.union otherLowercase

def cased : CodeSet := CodeSet.unionAll [uppercase, lowercase, Category.titlecaseLetter]

/-- Letters, letter numerals and what the database adds to them. -/
def alphabetic : CodeSet :=
  CodeSet.unionAll [Category.letter, Category.letterNumber, otherUppercase, otherLowercase,
    otherAlphabetic]

/-- The characters of words: alphabetic characters, marks, decimal digits, ties and joiners. -/
def word : CodeSet :=
  CodeSet.unionAll [alphabetic, Category.mark, Category.decimalNumber,
    Category.connectorPunctuation, joinControl]

def math : CodeSet := Category.mathSymbol.union otherMath

/-! ## What is shown -/

/-- Code points that are not shown unless supported: invisible characters, but neither white space
    nor signs that a reader can see. -/
def defaultIgnorable : CodeSet :=
  CodeSet.unionAll [otherDefaultIgnorable, Category.format, variationSelector]
    |>.diff (CodeSet.unionAll [whiteSpace, prependedConcatenationMark,
      .ofRanges [(0xFFF9, 0xFFFB), (0x13430, 0x13440)]])

def graphemeExtend : CodeSet :=
  CodeSet.unionAll [Category.nonspacingMark, Category.enclosingMark, otherGraphemeExtend]

def graphemeBase : CodeSet :=
  (CodeSet.range 0 0x10FFFF).diff <| CodeSet.unionAll [Category.other, Category.surrogate,
    Category.lineSeparator, Category.paragraphSeparator, graphemeExtend]

/-- Marks that are drawn onto the character before them. -/
def joiningMark : CodeSet := graphemeExtend.inter Category.mark

/-- What has no visible form: separators other than the space, everything not written, and what is
    not shown unless supported. -/
def unprintable : CodeSet :=
  CodeSet.unionAll [Category.other, Category.separator, defaultIgnorable]
    |>.diff (CodeSet.singleton ' ')

/-! ## Identifiers -/

def idStart : CodeSet :=
  CodeSet.unionAll [Category.letter, Category.letterNumber, otherIdStart]
    |>.diff (patternSyntax.union patternWhiteSpace)

def idContinue : CodeSet :=
  CodeSet.unionAll [idStart, Category.nonspacingMark, Category.spacingMark,
    Category.decimalNumber, Category.connectorPunctuation, otherIdContinue]
    |>.diff (patternSyntax.union patternWhiteSpace)

/-- Compatibility characters whose plain form could not stand where they may. -/
def unstable : CodeSet := .ofRanges
  [(0x37A, 0x37A), (0x309B, 0x309C), (0xFC5E, 0xFC63), (0xFDFA, 0xFDFB), (0xFE70, 0xFE70),
   (0xFE72, 0xFE72), (0xFE74, 0xFE74), (0xFE76, 0xFE76), (0xFE78, 0xFE78), (0xFE7A, 0xFE7A),
   (0xFE7C, 0xFE7C), (0xFE7E, 0xFE7E)]

/-- The start of an identifier that stays one in its plain form. -/
def xidStart : CodeSet :=
  idStart.diff <| unstable.union <|
    .ofRanges [(0xE33, 0xE33), (0xEB3, 0xEB3), (0xFF9E, 0xFF9F)]

/-- The inside of an identifier that stays one in its plain form. -/
def xidContinue : CodeSet := idContinue.diff unstable

/-- Mathematical characters that may stand inside an identifier: besides those that may start one,
    the raised and lowered digits and signs. -/
def idCompatMathContinue : CodeSet :=
  idCompatMathStart.union <| .ofRanges
    [(0xB2, 0xB3), (0xB9, 0xB9), (0x2070, 0x2070), (0x2074, 0x207E), (0x2080, 0x208E)]

end EventQuery.Property
