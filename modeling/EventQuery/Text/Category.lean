import EventQuery.Text.Category.Letter
import EventQuery.Text.Category.Mark
import EventQuery.Text.Category.Numeral
import EventQuery.Text.Category.Punctuation
import EventQuery.Text.Category.Symbol
import EventQuery.Text.Category.Separator
import EventQuery.Text.Category.Other

/-!
# General categories

The groups of general categories, and the names by which a category is asked for.
-/

namespace EventQuery.Category

/-- Letters with case. -/
def casedLetter : CodeSet :=
  CodeSet.unionAll [uppercaseLetter, lowercaseLetter, titlecaseLetter]

def letter : CodeSet := CodeSet.unionAll [casedLetter, modifierLetter, otherLetter]

def mark : CodeSet := CodeSet.unionAll [nonspacingMark, spacingMark, enclosingMark]

def number : CodeSet := CodeSet.unionAll [decimalNumber, letterNumber, otherNumber]

def punctuation : CodeSet :=
  CodeSet.unionAll [connectorPunctuation, dashPunctuation, openPunctuation, closePunctuation,
    initialPunctuation, finalPunctuation, otherPunctuation]

def symbol : CodeSet :=
  CodeSet.unionAll [mathSymbol, currencySymbol, modifierSymbol, otherSymbol]

def separator : CodeSet :=
  CodeSet.unionAll [spaceSeparator, lineSeparator, paragraphSeparator]

/-- The code points that stand for no character: those of surrogates, which no text holds. -/
def surrogate : CodeSet := CodeSet.range 0xD800 0xDFFF

/-- Everything that has a category of its own. -/
def assigned : CodeSet :=
  CodeSet.unionAll [letter, mark, number, punctuation, symbol, separator, control, format,
    privateUse, surrogate]

def unassigned : CodeSet := assigned.compl.inter (CodeSet.range 0 0x10FFFF)

/-- The categories that are not written: control, format, private use and unassigned. -/
def other : CodeSet := CodeSet.unionAll [control, format, privateUse, unassigned]

/-- The names of the categories and of their groups, in lower case and without separators. -/
def named : List (List String × CodeSet) :=
  [(["c", "other"], other), (["cc", "control", "cntrl"], control), (["cf", "format"], format),
   (["cn", "unassigned"], unassigned), (["co", "privateuse"], privateUse),
   (["l", "letter"], letter), (["lc", "casedletter"], casedLetter),
   (["ll", "lowercaseletter"], lowercaseLetter), (["lm", "modifierletter"], modifierLetter),
   (["lo", "otherletter"], otherLetter), (["lt", "titlecaseletter"], titlecaseLetter),
   (["lu", "uppercaseletter"], uppercaseLetter), (["m", "mark", "combiningmark"], mark),
   (["mc", "spacingmark"], spacingMark), (["me", "enclosingmark"], enclosingMark),
   (["mn", "nonspacingmark"], nonspacingMark), (["n", "number"], number),
   (["nd", "decimalnumber", "digit"], decimalNumber), (["nl", "letternumber"], letterNumber),
   (["no", "othernumber"], otherNumber), (["p", "punctuation", "punct"], punctuation),
   (["pc", "connectorpunctuation"], connectorPunctuation),
   (["pd", "dashpunctuation"], dashPunctuation), (["pe", "closepunctuation"], closePunctuation),
   (["pf", "finalpunctuation"], finalPunctuation),
   (["pi", "initialpunctuation"], initialPunctuation),
   (["po", "otherpunctuation"], otherPunctuation), (["ps", "openpunctuation"], openPunctuation),
   (["s", "symbol"], symbol), (["sc", "currencysymbol"], currencySymbol),
   (["sk", "modifiersymbol"], modifierSymbol), (["sm", "mathsymbol"], mathSymbol),
   (["so", "othersymbol"], otherSymbol), (["z", "separator"], separator),
   (["zl", "lineseparator"], lineSeparator), (["zp", "paragraphseparator"], paragraphSeparator),
   (["zs", "spaceseparator"], spaceSeparator), (["any"], CodeSet.range 0 0x10FFFF),
   (["ascii"], CodeSet.range 0 0x7F), (["assigned"], assigned)]

end EventQuery.Category
