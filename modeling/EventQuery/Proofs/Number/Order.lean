import EventQuery.Number
import Mathlib.Algebra.Order.Ring.Int
import Mathlib.Order.Monotone.Basic
import Mathlib.Tactic.Common

/-!
# The order of numbers

Integers and doubles are ordered by what they stand for. The least positive double is the common
unit: in it every integer and every finite double is a whole number (`Number.units?`), and an
infinity lies where the next power of two behind the largest double would be, beyond everything
else. A NaN has no place.

That the comparison is the one of these whole numbers (`Number.compare?_eq`) has two reasons. The
place of a double among the doubles goes with its value (`Binary64.compare_place`), and an integer
compared with the whole part of a double, and then with what that leaves over, is compared with the
double (`compare_whole_remainder`). Nothing is rounded on the way, so the order is transitive and
equality is an equivalence also where many integers share their nearest double.
-/

namespace EventQuery

/-- A comparison says no more than which of the two is less. -/
theorem compare_congr {a b c d : Int} (hlt : a < b ↔ c < d) (hgt : b < a ↔ d < c) :
    compare a b = compare c d := by
  rcases lt_trichotomy a b with h | h | h
  · rw [Int.compare_eq_lt.mpr h, Int.compare_eq_lt.mpr (hlt.mp h)]
  · rw [Int.compare_eq_eq.mpr h, Int.compare_eq_eq.mpr (by omega)]
  · rw [Int.compare_eq_gt.mpr h, Int.compare_eq_gt.mpr (hgt.mp h)]

namespace Binary64

theorem leadingBit_pos : 0 < leadingBit := by decide

/-! ## Signs -/

theorem magnitude_lt (x : Binary64) : x.magnitude < signBit := Nat.mod_lt _ (by decide)

theorem toNat_bits_ofMagnitude (negative : Bool) {magnitude : Nat} (h : magnitude < signBit) :
    (ofMagnitude negative magnitude).bits.toNat = (if negative then signBit else 0) + magnitude := by
  have hsize : signBit + signBit = UInt64.size := by decide
  refine UInt64.toNat_ofNat_of_lt' ?_
  split <;> omega

theorem magnitude_ofMagnitude (negative : Bool) {magnitude : Nat} (h : magnitude < signBit) :
    (ofMagnitude negative magnitude).magnitude = magnitude := by
  rw [Binary64.magnitude, toNat_bits_ofMagnitude negative h]
  split
  · rw [Nat.add_mod_left, Nat.mod_eq_of_lt h]
  · rw [Nat.zero_add, Nat.mod_eq_of_lt h]

theorem isNegative_ofMagnitude (negative : Bool) {magnitude : Nat} (h : magnitude < signBit) :
    (ofMagnitude negative magnitude).isNegative = negative := by
  rw [isNegative, toNat_bits_ofMagnitude negative h]
  cases negative
  · simpa using h
  · simp

/-! ## Magnitudes -/

/-- The absolute value of the double of a magnitude, in units of the least positive one. -/
def unitsOf (magnitude : Nat) : Nat :=
  (if magnitude / leadingBit = 0 then magnitude else magnitude % leadingBit + leadingBit) <<<
    (max (magnitude / leadingBit) 1 - 1)

theorem unitsOf_zero : unitsOf 0 = 0 := rfl

/-- Within the subnormal numbers a magnitude is its value. -/
theorem unitsOf_of_lt {m : Nat} (h : m < leadingBit) : unitsOf m = m := by
  rw [unitsOf, Nat.div_eq_of_lt h]
  simp

/-- A normal number has its leading bit as many places up as its exponent says. -/
theorem unitsOf_of_le {m : Nat} (h : leadingBit ≤ m) :
    unitsOf m = (m % leadingBit + leadingBit) * 2 ^ (m / leadingBit - 1) := by
  have hpos : 0 < m / leadingBit := Nat.div_pos h (by decide)
  rw [unitsOf, if_neg (by omega), Nat.shiftLeft_eq, Nat.max_eq_left hpos]

/-- The values of one exponent end where those of the next begin. -/
theorem unitsOf_lt (m : Nat) : unitsOf m < leadingBit * 2 ^ (m / leadingBit) := by
  rcases Nat.lt_or_ge m leadingBit with hsub | hnormal
  · rw [unitsOf_of_lt hsub, Nat.div_eq_of_lt hsub, pow_zero, Nat.mul_one]
    exact hsub
  · have hpos : 0 < m / leadingBit := Nat.div_pos hnormal leadingBit_pos
    have hlt : m % leadingBit + leadingBit < leadingBit * 2 := by
      have := Nat.mod_lt m leadingBit_pos
      omega
    rw [unitsOf_of_le hnormal, show m / leadingBit = m / leadingBit - 1 + 1 by omega, pow_succ',
      ← Nat.mul_assoc]
    exact Nat.mul_lt_mul_of_pos_right hlt (Nat.two_pow_pos _)

theorem le_unitsOf {m : Nat} (h : leadingBit ≤ m) :
    leadingBit * 2 ^ (m / leadingBit - 1) ≤ unitsOf m := by
  rw [unitsOf_of_le h]
  exact Nat.mul_le_mul_right _ (Nat.le_add_left _ _)

/-- The greater of two magnitudes has the greater value: it has the greater exponent, or the same
    and the greater fraction. -/
theorem unitsOf_strictMono : StrictMono unitsOf := by
  intro m n hmn
  rcases Nat.eq_or_lt_of_le (Nat.div_le_div_right hmn.le) with hsame | hless
  · -- The exponents agree, so what is left decides.
    have hm := Nat.div_add_mod m leadingBit
    have hn := Nat.div_add_mod n leadingBit
    rw [hsame] at hm
    have hfraction : m % leadingBit < n % leadingBit := by omega
    rcases Nat.lt_or_ge n leadingBit with hsub | hnormal
    · rwa [unitsOf_of_lt hsub, unitsOf_of_lt (hmn.trans hsub)]
    · have hpos : 0 < m / leadingBit := hsame ▸ Nat.div_pos hnormal leadingBit_pos
      have hm' : leadingBit ≤ m := (Nat.div_pos_iff.mp hpos).2
      rw [unitsOf_of_le hnormal, unitsOf_of_le hm', hsame]
      exact Nat.mul_lt_mul_of_pos_right (by omega) (Nat.two_pow_pos _)
  · have hnormal : leadingBit ≤ n := (Nat.div_pos_iff.mp (Nat.zero_lt_of_lt hless)).2
    calc unitsOf m < leadingBit * 2 ^ (m / leadingBit) := unitsOf_lt m
      _ ≤ leadingBit * 2 ^ (n / leadingBit - 1) :=
        Nat.mul_le_mul_left _ (Nat.pow_le_pow_right (by decide) (by omega))
      _ ≤ unitsOf n := le_unitsOf hnormal

/-! ## Doubles -/

theorem scaled_eq (x : Binary64) :
    x.scaled = if x.isNegative then -(unitsOf x.magnitude : Int) else unitsOf x.magnitude := rfl

/-- The value of a double goes with its place. -/
theorem scaled_lt_scaled_iff (x y : Binary64) : x.scaled < y.scaled ↔ x.place < y.place := by
  have hlt := unitsOf_strictMono.lt_iff_lt (a := x.magnitude) (b := y.magnitude)
  have hgt := unitsOf_strictMono.lt_iff_lt (a := y.magnitude) (b := x.magnitude)
  have hx := unitsOf_strictMono.lt_iff_lt (a := 0) (b := x.magnitude)
  have hy := unitsOf_strictMono.lt_iff_lt (a := 0) (b := y.magnitude)
  rw [unitsOf_zero] at hx hy
  simp only [scaled_eq, place]
  split <;> split <;> omega

/-- Doubles are compared by value. -/
theorem compare_place (x y : Binary64) : compare x.place y.place = compare x.scaled y.scaled :=
  compare_congr (scaled_lt_scaled_iff x y).symm (scaled_lt_scaled_iff y x).symm

end Binary64

/-! ## Integers and doubles -/

/-- Comparing with the whole part of a quotient first, and with what it leaves over where that does
    not decide, is comparing with the quotient. -/
theorem compare_whole_remainder (i n : Int) {unit : Int} (hunit : 0 < unit) :
    (match compare i (n.tdiv unit) with
      | .eq => some (compare 0 (n.tmod unit))
      | order => some order) = some (compare (i * unit) n) := by
  have hsplit : n.tdiv unit * unit + n.tmod unit = n := by
    rw [Int.mul_comm]
    exact Int.mul_tdiv_add_tmod n unit
  -- What is left over is less than a unit, in whatever direction.
  have hlow := Int.lt_tmod_of_pos n hunit
  have hhigh := Int.tmod_lt_of_pos n hunit
  rcases lt_trichotomy i (n.tdiv unit) with h | h | h
  · have hstep : (i + 1) * unit ≤ n.tdiv unit * unit :=
      Int.mul_le_mul_of_nonneg_right (by omega) hunit.le
    rw [Int.add_mul, Int.one_mul] at hstep
    have hlt : i * unit < n := by omega
    rw [Int.compare_eq_lt.mpr h, Int.compare_eq_lt.mpr hlt]
  · subst h
    rw [Int.compare_eq_eq.mpr rfl]
    exact congrArg some (compare_congr (by omega) (by omega))
  · have hstep : (n.tdiv unit + 1) * unit ≤ i * unit :=
      Int.mul_le_mul_of_nonneg_right (by omega) hunit.le
    rw [Int.add_mul, Int.one_mul] at hstep
    have hgt : n < i * unit := by omega
    rw [Int.compare_eq_gt.mpr h, Int.compare_eq_gt.mpr hgt]

namespace Number

open Binary64 (unitsInOne scaled_lt_scaled_iff)

def isNaN : Number → Bool
  | int _ => false
  | float x => x.isNaN

/-- What a number stands for, in units of the least positive double; a NaN stands for nothing. -/
def units? : Number → Option Int
  | int i => some (i.toInt * unitsInOne)
  | float x => if x.isNaN then none else some x.scaled

theorem isSome_units? (n : Number) : n.units?.isSome = !n.isNaN := by
  cases n with
  | int i => rfl
  | float x => cases hx : x.isNaN <;> simp [units?, isNaN, hx]

/-- An integer is below `2 ^ 63` and not below its negative, in whatever units. -/
theorem units_bounds (i : Int64) :
    -(2 ^ 63 * unitsInOne : Int) ≤ i.toInt * unitsInOne ∧
      i.toInt * unitsInOne < 2 ^ 63 * (unitsInOne : Int) := by
  have hunit : (0 : Int) < unitsInOne := by decide +kernel
  refine ⟨?_, Int.mul_lt_mul_of_pos_right i.toInt_lt hunit⟩
  rw [← Int.neg_mul]
  exact Int.mul_le_mul_of_nonneg_right i.le_toInt hunit.le

theorem compareIntFloat?_eq (i : Int64) {x : Binary64} (hx : x.isNaN = false) :
    compareIntFloat? i x = some (compare (i.toInt * unitsInOne) x.scaled) := by
  obtain ⟨hlow, hhigh⟩ := units_bounds i
  rw [compareIntFloat?, if_neg (by simp [hx])]
  split
  · next h =>
    -- The double is at `2 ^ 63` or above.
    have hvalue : twoPow63.scaled = 2 ^ 63 * unitsInOne := by decide +kernel
    have hle : twoPow63.scaled ≤ x.scaled :=
      Int.not_lt.mp fun hlt => Int.not_lt.mpr h ((scaled_lt_scaled_iff x twoPow63).mp hlt)
    rw [Int.compare_eq_lt.mpr (by omega)]
  · split
    · next h =>
      let least := Binary64.ofMagnitude true ((1023 + 63) * Binary64.leadingBit)
      have hvalue : least.scaled = -(2 ^ 63 * unitsInOne) := by decide +kernel
      have hplace : least.place = -twoPow63.place := by decide +kernel
      have hlt : x.scaled < least.scaled := (scaled_lt_scaled_iff x least).mpr (hplace ▸ h)
      rw [Int.compare_eq_gt.mpr (by omega)]
    · exact compare_whole_remainder i.toInt x.scaled (by decide +kernel)

/-- Numbers are compared by what they stand for, and only where both stand for something. -/
theorem compare?_eq (a b : Number) :
    a.compare? b = a.units?.bind fun m => b.units?.map fun n => compare m n := by
  cases a with
  | int i =>
    cases b with
    | int j =>
      have hunit : (0 : Int) < unitsInOne := by decide +kernel
      exact congrArg some (compare_congr (Int.mul_lt_mul_right hunit).symm
        (Int.mul_lt_mul_right hunit).symm)
    | float y =>
      cases hy : y.isNaN with
      | true => simp [compare?, compareIntFloat?, units?, hy]
      | false => simp [compare?, compareIntFloat?_eq i hy, units?, hy]
  | float x =>
    cases b with
    | int j =>
      cases hx : x.isNaN with
      | true => simp [compare?, compareIntFloat?, units?, hx]
      | false => simp [compare?, compareIntFloat?_eq j hx, units?, hx, Int.compare_swap]
    | float y =>
      cases hx : x.isNaN <;> cases hy : y.isNaN <;>
        simp [compare?, Binary64.compare?, units?, hx, hy, Binary64.compare_place]

theorem compare?_eq_some_iff {a b : Number} {o : Ordering} :
    a.compare? b = some o ↔ ∃ m n, a.units? = some m ∧ b.units? = some n ∧ compare m n = o := by
  rw [compare?_eq]
  simp only [Option.bind_eq_some_iff, Option.map_eq_some_iff]
  constructor
  · rintro ⟨m, hm, n, hn, ho⟩
    exact ⟨m, n, hm, hn, ho⟩
  · rintro ⟨m, n, hm, hn, ho⟩
    exact ⟨m, hm, n, hn, ho⟩

/-- Two numbers have an order unless one of them is NaN. -/
theorem isSome_compare? (a b : Number) : (a.compare? b).isSome = (!a.isNaN && !b.isNaN) := by
  rw [compare?_eq, ← a.isSome_units?, ← b.isSome_units?]
  cases a.units? <;> cases b.units? <;> rfl

theorem compare?_swap (a b : Number) : b.compare? a = (a.compare? b).map Ordering.swap := by
  rw [compare?_eq, compare?_eq]
  cases a.units? <;> cases b.units? <;> simp [Int.compare_swap]

end Number
end EventQuery
