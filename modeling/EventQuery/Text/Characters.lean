import EventQuery.Text.Properties.Derived
import EventQuery.Text.Recent

/-!
# Classes of characters

The classes that reading and printing ask for: letters and digits of an identifier, white space,
and what may stand unescaped in a quotation, recent additions included. Each one decides the ASCII
characters without a table, so that facts about the characters of a grammar hold by computation
(`isAlphanumeric_eq_of_ascii`).
-/

namespace EventQuery

namespace Text

/-- Alphabetic characters. -/
def isAlphabetic (c : Char) : Bool :=
  if c.toNat < 128 then c.isAlpha
  else Property.alphabetic.contains c || Recent.alphabetic.contains c

/-- Numerals of every kind. -/
def isNumeral (c : Char) : Bool :=
  if c.toNat < 128 then c.isDigit
  else Category.number.contains c || Recent.numeral.contains c

/-- Alphabetic characters and numerals of every kind. -/
def isAlphanumeric (c : Char) : Bool := isAlphabetic c || isNumeral c

/-- White space: tab to carriage return, the space, and the separators above ASCII. -/
def isWhiteSpace (c : Char) : Bool :=
  if c.toNat < 128 then c == ' ' || (9 ≤ c.toNat && c.toNat ≤ 13)
  else Property.whiteSpace.contains c

/-- Characters that have a visible form. -/
def isPrintable (c : Char) : Bool :=
  if c.toNat < 128 then 32 ≤ c.toNat && c.toNat < 127
  else !Property.unprintable.contains c || Recent.printable.contains c

/-- Marks that are drawn onto the character before them. -/
def isJoiningMark (c : Char) : Bool :=
  if c.toNat < 128 then false
  else Property.joiningMark.contains c || Recent.mark.contains c

theorem isAlphanumeric_eq_of_ascii {c : Char} (h : c.toNat < 128) :
    isAlphanumeric c = c.isAlphanum := by
  simp [isAlphanumeric, isAlphabetic, isNumeral, Char.isAlphanum, h]

/-! ## Sizes in bytes -/

/-- The number of bytes of a text. -/
def byteLength : List Char → Nat
  | [] => 0
  | c :: cs => c.utf8Size + byteLength cs

@[simp] theorem byteLength_nil : byteLength [] = 0 := rfl

@[simp] theorem byteLength_cons (c : Char) (cs : List Char) :
    byteLength (c :: cs) = c.utf8Size + byteLength cs := rfl

@[simp] theorem byteLength_append (a b : List Char) :
    byteLength (a ++ b) = byteLength a + byteLength b := by
  induction a with
  | nil => simp
  | cons c cs ih => simp [ih, Nat.add_assoc]

/-- The text without the white space in front. -/
def trimStart (cs : List Char) : List Char := cs.dropWhile isWhiteSpace

/-- The last line that is not blank, without the white space at its ends. -/
def lastLine (cs : List Char) : List Char :=
  trimStart ((trimStart cs.reverse).takeWhile (· ≠ '\n')).reverse

end Text
end EventQuery
