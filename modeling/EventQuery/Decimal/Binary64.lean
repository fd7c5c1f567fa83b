/-!
# Double-precision numbers

A double is kept as its 64 bits: a sign, eleven bits of exponent and 52 of fraction. Every finite
double is a whole multiple of `2 ^ (-1074)`, and `scaled` is that multiple, so order and rounding
are facts about integers. Infinities and NaN have the largest exponent.
-/

namespace EventQuery

/-- A double-precision number, by its bits. -/
structure Binary64 where
  bits : UInt64
deriving DecidableEq, Inhabited, Repr

namespace Binary64

/-- The value of the sign bit. -/
def signBit : Nat := 1 <<< 63

/-- The value of the leading bit of a significand, which the bits of a double leave out. -/
def leadingBit : Nat := 1 <<< 52

/-- The exponent and fraction bits together: the absolute value's place among the doubles. -/
def magnitude (x : Binary64) : Nat := x.bits.toNat % signBit

def isNegative (x : Binary64) : Bool := signBit ≤ x.bits.toNat

/-- The magnitude of the infinities; above it lie the NaNs. -/
def infiniteMagnitude : Nat := 2047 * leadingBit

def isNaN (x : Binary64) : Bool := infiniteMagnitude < x.magnitude
def isFinite (x : Binary64) : Bool := x.magnitude < infiniteMagnitude
def isInfinite (x : Binary64) : Bool := x.magnitude = infiniteMagnitude
def isZero (x : Binary64) : Bool := x.magnitude = 0

/-- The exponent field, 1 for the subnormal numbers, which share the scale of the smallest normal
    ones. -/
def exponentField (x : Binary64) : Nat := max (x.magnitude / leadingBit) 1

/-- The significand as an integer, with the leading bit of the normal numbers. -/
def significand (x : Binary64) : Nat :=
  if x.magnitude / leadingBit = 0 then x.magnitude else x.magnitude % leadingBit + leadingBit

/-- A finite double is `significand * 2 ^ exponent`, up to sign. -/
def exponent (x : Binary64) : Int := (x.exponentField : Int) - 1075

/-- A finite double is `scaled / 2 ^ 1074`. -/
def scaled (x : Binary64) : Int :=
  let m := x.significand <<< (x.exponentField - 1)
  if x.isNegative then -(m : Int) else m

/-- The place of a double that is not NaN in the order of all of them; both zeros are at 0. -/
def place (x : Binary64) : Int :=
  if x.isNegative then -(x.magnitude : Int) else x.magnitude

/-- The order of two doubles; a NaN stands in no order to anything. -/
def compare? (x y : Binary64) : Option Ordering :=
  if x.isNaN || y.isNaN then none else some (compare x.place y.place)

/-- The least positive doubles that make up one. -/
def unitsInOne : Nat := 1 <<< 1074

/-- The whole part, toward zero, of a finite double. -/
def whole (x : Binary64) : Int := x.scaled.tdiv unitsInOne

/-- What `whole` leaves over, in units of `2 ^ (-1074)`, with the sign of the double. -/
def remainder (x : Binary64) : Int := x.scaled.tmod unitsInOne

/-- The double of a sign and a magnitude below `2 ^ 63`. -/
def ofMagnitude (negative : Bool) (magnitude : Nat) : Binary64 :=
  ⟨UInt64.ofNat ((if negative then signBit else 0) + magnitude)⟩

def infinity (negative : Bool) : Binary64 := ofMagnitude negative infiniteMagnitude
def zero (negative : Bool) : Binary64 := ofMagnitude negative 0
def nan : Binary64 := ofMagnitude false (infiniteMagnitude + leadingBit / 2)

/-! ## Rounding -/

/-- The quotient rounded to the nearest integer, a half going to the even neighbour. -/
def divNearestEven (num den : Nat) : Nat :=
  let q := num / den
  let r := num % den
  if 2 * r < den then q
  else if den < 2 * r then q + 1
  else if q % 2 = 0 then q else q + 1

/-- The exponent of the unit in which the double nearest `num / den` is counted: such that the
    quotient has 53 bits, and -1074 at the least. -/
def unitExponent (num den : Nat) : Int :=
  let estimate : Int := (Nat.log2 num : Int) - Nat.log2 den - 52
  -- The quotient has 53 bits at the estimate or at the exponent below it.
  let tooSmall :=
    if 0 ≤ estimate then num < den <<< (52 + estimate.toNat)
    else num <<< (-estimate).toNat < den <<< 52
  max (if tooSmall then estimate - 1 else estimate) (-1074)

/-- The double nearest the quotient of two natural numbers, `den` not being zero: a half goes to
    the even neighbour, and what is too large to the infinity. -/
def nearest (negative : Bool) (num den : Nat) : Binary64 :=
  if num = 0 then zero negative
  else
    let e := unitExponent num den
    let count :=
      if 0 ≤ e then divNearestEven num (den <<< e.toNat)
      else divNearestEven (num <<< (-e).toNat) den
    -- The leading bit of a normal significand adds the one to the exponent field that is short.
    ofMagnitude negative (min ((e + 1074).toNat * leadingBit + count) infiniteMagnitude)

/-- The double nearest an integer. -/
def ofInt (i : Int) : Binary64 := nearest (i < 0) i.natAbs 1

/-- The double nearest `digits * 10 ^ exponent`. Exponents so far out that the value is certain to
    vanish or to overflow are not computed with. -/
def ofDecimal (negative : Bool) (digits : Nat) (exponent : Int) : Binary64 :=
  if digits = 0 then zero negative
  else
    let bits : Int := Nat.log2 digits + 1
    if 400 < exponent then infinity negative
    else if exponent < -400 - bits then zero negative
    else if 0 ≤ exponent then nearest negative (digits * Nat.pow 10 exponent.toNat) 1
    else nearest negative digits (Nat.pow 10 (-exponent).toNat)

end Binary64
end EventQuery
