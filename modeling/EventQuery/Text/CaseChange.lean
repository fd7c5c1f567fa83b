import EventQuery.Text.CaseFolding
import EventQuery.Text.Properties.Derived

/-!
# Characters that a change of case changes

Whether a character is altered when a text is put into lower case, into upper case, into title case,
or into the form in which case is ignored. A letter with a variant of the other case is altered; so
are the few whose counterpart is a sequence of letters, and those are listed.
-/

namespace EventQuery.CaseFolding

/-- The characters that have a case variant besides themselves. -/
def variants : CodeSet :=
  .ofRanges ((orbits.flatten.mergeSort (· ≤ ·)).map fun n => (n, n))

end EventQuery.CaseFolding

namespace EventQuery.Property

open CaseFolding (variants)

/-- Capitals and title letters with a small variant, and the capital `I` with a dot, which becomes
    a letter and a mark. -/
def changesWhenLowercased : CodeSet :=
  ((uppercase.union Category.titlecaseLetter).inter variants).union (CodeSet.range 0x130 0x130)

/-- Small letters whose capital form is a sequence of letters, or has no way back. -/
def expandsWhenUppercased : CodeSet := .ofRanges
  [(0x131, 0x131), (0x149, 0x149), (0x1F0, 0x1F0), (0x587, 0x587), (0x1E96, 0x1E9A),
   (0x1F50, 0x1F50), (0x1F52, 0x1F52), (0x1F54, 0x1F54), (0x1F56, 0x1F56), (0x1FB2, 0x1FB2),
   (0x1FB4, 0x1FB4), (0x1FB6, 0x1FB7), (0x1FC2, 0x1FC2), (0x1FC4, 0x1FC4), (0x1FC6, 0x1FC7),
   (0x1FD2, 0x1FD2), (0x1FD6, 0x1FD7), (0x1FE2, 0x1FE2), (0x1FE4, 0x1FE4), (0x1FE6, 0x1FE7),
   (0x1FF2, 0x1FF2), (0x1FF4, 0x1FF4), (0x1FF6, 0x1FF7), (0xFB00, 0xFB04), (0xFB13, 0xFB17)]

/-- Small letters and title letters with a capital variant, and those that expand. -/
def changesWhenUppercased : CodeSet :=
  ((lowercase.union Category.titlecaseLetter).inter variants).union expandsWhenUppercased

/-- The small letters that change in upper case, but not those of Georgian, which has capitals for
    whole texts only; and the digraphs, whose title form is a letter of its own. -/
def changesWhenTitlecased : CodeSet :=
  CodeSet.unionAll [lowercase.inter variants, expandsWhenUppercased,
      .ofRanges [(0x1C4, 0x1C4), (0x1C7, 0x1C7), (0x1CA, 0x1CA), (0x1F1, 0x1F1)]]
    |>.diff (.ofRanges [(0x10D0, 0x10FA), (0x10FD, 0x10FF)])

/-- What changes in lower case, and the small letters that are not the first choice among their
    variants. The capitals of Cherokee are that, and stay. -/
def changesWhenCasefolded : CodeSet :=
  changesWhenLowercased.union (.ofRanges
      [(0xB5, 0xB5), (0xDF, 0xDF), (0x149, 0x149), (0x17F, 0x17F), (0x345, 0x345), (0x3C2, 0x3C2),
       (0x3D0, 0x3D1), (0x3D5, 0x3D6), (0x3F0, 0x3F1), (0x3F5, 0x3F5), (0x587, 0x587),
       (0x13F8, 0x13FD), (0x1C80, 0x1C88), (0x1E9A, 0x1E9B), (0x1F80, 0x1F87), (0x1F90, 0x1F97),
       (0x1FA0, 0x1FA7), (0x1FB2, 0x1FB4), (0x1FB7, 0x1FB7), (0x1FC2, 0x1FC4), (0x1FC7, 0x1FC7),
       (0x1FF2, 0x1FF4), (0x1FF7, 0x1FF7), (0xAB70, 0xABBF), (0xFB00, 0xFB06), (0xFB13, 0xFB17)])
    |>.diff (CodeSet.range 0x13A0 0x13F5)

/-- What changes in one case or another. -/
def changesWhenCasemapped : CodeSet :=
  CodeSet.unionAll [changesWhenLowercased, changesWhenUppercased, changesWhenTitlecased]

end EventQuery.Property
