import EventQuery.Decimal.Layout

/-!
# Numbers of events

A number keeps the form it was written in, integer or double, and is compared by value across the
two. An integer is never rounded for that: within the range of integers it is compared with the
whole part of the double, and only at equality does what is left over decide.
-/

namespace EventQuery

/-- A number, in the form it was written in. -/
inductive Number where
  | int (i : Int64)
  | float (x : Binary64)
deriving DecidableEq, Repr, Inhabited

namespace Number

def isFloat : Number → Bool
  | int _ => false
  | float _ => true

/-- The integer form, if the number has it. -/
def toInt64? : Number → Option Int64
  | int i => some i
  | float _ => none

/-- The nearest double. -/
def toBinary64 : Number → Binary64
  | int i => Binary64.ofInt i.toInt
  | float x => x

/-- The first double above every integer. -/
def twoPow63 : Binary64 := Binary64.ofMagnitude false ((1023 + 63) * Binary64.leadingBit)

/-- The order of an integer and a double, by value; none with a NaN. -/
def compareIntFloat? (i : Int64) (x : Binary64) : Option Ordering :=
  if x.isNaN then none
  else if twoPow63.place ≤ x.place then some .lt
  else if x.place < -twoPow63.place then some .gt
  else
    match compare i.toInt x.whole with
    | .eq => some (compare 0 x.remainder)
    | order => some order

/-- The order of two numbers, by value; none where a NaN takes part. -/
def compare? : Number → Number → Option Ordering
  | int a, int b => some (compare a.toInt b.toInt)
  | int a, float b => compareIntFloat? a b
  | float a, int b => (compareIntFloat? b a).map Ordering.swap
  | float a, float b => a.compare? b

/-- Equality by value: `1` equals `1.0`, and a NaN equals nothing. -/
def equal (a b : Number) : Bool := a.compare? b == some .eq

/-- The text of a number shown by itself. -/
def displayText : Number → String
  | int i => toString i.toInt
  | float x => x.displayText

end Number
end EventQuery
