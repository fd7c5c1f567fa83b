/-!
# Draws

A source of draws is a stream of words and the number of those that have been used. A draw below a
bound is the high half of a word times the bound; where the low half is so large that the words do
not spread evenly, another word decides whether the result is carried up by one.
-/

namespace EventQuery

/-- A stream of words, of which some have been used. -/
structure Draws where
  word : Nat → UInt32
  used : Nat := 0

namespace Draws

/-- The next word. -/
def next : StateM Draws UInt32 := fun d => (d.word d.used, { d with used := d.used + 1 })

/-- A draw below a bound, which is not zero. -/
def below (bound : UInt32) : StateM Draws UInt32 := do
  let first ← next
  let product := first.toNat * bound.toNat
  let high := product / UInt32.size
  let low := product % UInt32.size
  if (UInt32.size - bound.toNat) % UInt32.size < low then
    let second ← next
    let carry := (low + second.toNat * bound.toNat / UInt32.size) / UInt32.size
    return UInt32.ofNat (high + carry)
  else return UInt32.ofNat high

end Draws
end EventQuery
