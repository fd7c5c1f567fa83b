import EventQuery.Text.CodeSet

/-!
# Separators

The general categories of spaces and separators, as ranges of code points.
-/

namespace EventQuery.Category

/-- Category `Zs`: spaces. -/
def spaceSeparator : CodeSet := .ofRanges
  [(0x20, 0x20), (0xA0, 0xA0), (0x1680, 0x1680), (0x2000, 0x200A), (0x202F, 0x202F),
   (0x205F, 0x205F), (0x3000, 0x3000)]

/-- Category `Zl`: the line separator. -/
def lineSeparator : CodeSet := .ofRanges [(0x2028, 0x2028)]

/-- Category `Zp`: the paragraph separator. -/
def paragraphSeparator : CodeSet := .ofRanges [(0x2029, 0x2029)]

end EventQuery.Category
