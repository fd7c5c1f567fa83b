import EventQuery.Text.CodeSet

/-!
# Characters as bytes

A text is read byte by byte, in the encoding of one to four bytes for each character. A range of
characters is then a list of sequences of byte ranges (`Encoding.sequences`), each of which stands
for every character whose bytes lie in the ranges of the sequence one by one.
-/

namespace EventQuery.Encoding

/-- A range of bytes, both ends included. -/
abbrev ByteRange := Nat × Nat

/-- The code points that a text can hold: all but the surrogates. -/
def scalars : CodeSet := .ofRanges [(0, 0xD7FF), (0xE000, 0x10FFFF)]

/-- The ranges of a set, of those code points that a text can hold. -/
def ranges (s : CodeSet) : List (Nat × Nat) := (scalars.inter s).rangesUpTo 0x10FFFF

/-- A code point in so many bytes. -/
def encode (length : Nat) (n : Nat) : List Nat :=
  let tail (k : Nat) : Nat := 0x80 + (n >>> (6 * k)) % 64
  match length with
  | 1 => [n]
  | 2 => [0xC0 + n >>> 6, tail 0]
  | 3 => [0xE0 + n >>> 12, tail 1, tail 0]
  | _ => [0xF0 + n >>> 18, tail 2, tail 1, tail 0]

/-- The bytes of a character. -/
def bytes (c : Char) : List Nat := encode c.utf8Size c.toNat

/-- A range of code points that take equally many bytes, cut so that in each piece the bytes after
    the first that differs run through all their values. The last `level` bytes still have to be
    looked at. -/
def cut (length : Nat) : Nat → Nat → Nat → List (List ByteRange)
  | 0, lo, hi => if lo ≤ hi then [(encode length lo).zip (encode length hi)] else []
  | level + 1, lo, hi =>
    if hi < lo then []
    else
      let size := 1 <<< (6 * (level + 1))
      if lo / size = hi / size then cut length level lo hi
      else
        -- A ragged start, whole blocks, a ragged end.
        let first := if lo % size = 0 then lo else (lo / size + 1) * size
        let last := if hi % size = size - 1 then hi else hi / size * size - 1
        (if lo < first then cut length level lo (first - 1) else []) ++
          (if first ≤ last then [(encode length first).zip (encode length last)] else []) ++
          (if last < hi then cut length level (last + 1) hi else [])

/-- The ranges of code points by the number of their bytes, the surrogates left out. -/
def lengths : List (Nat × Nat × Nat) :=
  [(1, 0, 0x7F), (2, 0x80, 0x7FF), (3, 0x800, 0xD7FF), (3, 0xE000, 0xFFFF),
   (4, 0x10000, 0x10FFFF)]

/-- The sequences of byte ranges for a range of code points, in ascending order. -/
def sequences (lo hi : Nat) : List (List ByteRange) :=
  lengths.flatMap fun (length, first, last) =>
    cut length (length - 1) (max lo first) (min hi last)

end EventQuery.Encoding
