import EventQuery.Proofs.Number.Order
import Mathlib.Algebra.Order.Field.Rat
import Mathlib.Algebra.Order.Field.Power
import Mathlib.Data.Rat.Floor
import Mathlib.Tactic.Ring

/-!
# Integers against doubles

A finite double is a rational number, its significand times a power of two (`Binary64.toRat`), and
an integer is compared with it as with that number: `Number.comparedExactly`.

On the way the double loses its fraction and becomes an integer (`Binary64.truncated`,
`Binary64.toInt64`). The first step is one on the bits: what lies below the unit is cleared. The
second one saturates, and would give a wrong integer for a double beyond the range of integers. It
never does, because it is taken only where the two comparisons with `2 ^ 63` have failed
(`Binary64.WithinInt64`); there the integer is the double without its fraction.
-/

namespace EventQuery

namespace Binary64

/-! ## Doubles as rational numbers -/

/-- The rational number that a finite double is. -/
def toRat (x : Binary64) : ℚ :=
  (if x.isNegative then -1 else 1) * x.significand * 2 ^ x.exponent

theorem unitsInOne_pos : 0 < unitsInOne := by decide +kernel

/-- A power of two, divided into so many doublings. -/
theorem zpow_sub_natCast (k n : Nat) :
    (2 : ℚ) ^ ((k : Int) - n) = 2 ^ k / ((1 <<< n : Nat) : ℚ) := by
  rw [zpow_sub₀ two_ne_zero, zpow_natCast, zpow_natCast, Nat.one_shiftLeft, Nat.cast_pow,
    Nat.cast_ofNat]

/-- A finite double is a whole multiple of the least positive one. -/
theorem toRat_eq (x : Binary64) : x.toRat = x.scaled / unitsInOne := by
  have hfield : 1 ≤ x.exponentField := Nat.le_max_right _ _
  have hexponent : x.exponent = ((x.exponentField - 1 : Nat) : Int) - (1074 : Nat) := by
    rw [exponent]
    omega
  rw [toRat, scaled, hexponent, zpow_sub_natCast, ← unitsInOne, Nat.shiftLeft_eq]
  split <;> push_cast <;> ring

/-- Multiples of one positive unit are compared as what they are multiples of. -/
theorem compare_toRat (i : Int) (x : Binary64) :
    compare (i : ℚ) x.toRat = compare (i * unitsInOne) x.scaled := by
  have hunit : (0 : ℚ) < unitsInOne := Nat.cast_pos.mpr unitsInOne_pos
  rw [toRat_eq]
  rcases lt_trichotomy (i * unitsInOne) x.scaled with h | h | h
  · rw [Int.compare_eq_lt.mpr h, compare_lt_iff_lt, lt_div_iff₀ hunit]
    exact_mod_cast h
  · rw [Int.compare_eq_eq.mpr h, compare_eq_iff_eq, eq_div_iff hunit.ne']
    exact_mod_cast h
  · rw [Int.compare_eq_gt.mpr h, compare_gt_iff_gt, div_lt_iff₀ hunit]
    exact_mod_cast h

/-! ## Doubles without their fraction -/

/-- The double without its fraction: what lies below the unit is cleared. Below one all of it does,
    and from `2 ^ 52` on nothing. -/
def truncated (x : Binary64) : Binary64 :=
  if x.exponentField < 1023 then zero x.isNegative
  else if 1075 ≤ x.exponentField then x
  else
    let cut := 1 <<< (1075 - x.exponentField)
    ofMagnitude x.isNegative (x.magnitude / cut * cut)

/-- Clearing the lowest bits of the fraction of a normal number rounds its value down to a multiple
    of what they count. -/
theorem unitsOf_cleared {m k : Nat} (hm : leadingBit ≤ m) (hk : k ≤ 52) :
    unitsOf (m / 2 ^ k * 2 ^ k) =
      unitsOf m / (2 ^ k * 2 ^ (m / leadingBit - 1)) * (2 ^ k * 2 ^ (m / leadingBit - 1)) := by
  have hcut : 0 < 2 ^ k := Nat.two_pow_pos k
  obtain ⟨more, hmore⟩ : 2 ^ k ∣ leadingBit := by
    rw [leadingBit, Nat.one_shiftLeft]
    exact Nat.pow_dvd_pow 2 hk
  -- The exponent and the leading bit are not among the bits that are cleared.
  have hsplit (q r : Nat) : (leadingBit * q + r) / 2 ^ k * 2 ^ k =
      leadingBit * q + r / 2 ^ k * 2 ^ k := by
    rw [hmore, Nat.mul_assoc, Nat.mul_add_div hcut, Nat.add_mul, Nat.mul_comm (more * q)]
  have hfraction : m % leadingBit / 2 ^ k * 2 ^ k < leadingBit :=
    Nat.lt_of_le_of_lt (Nat.div_mul_le_self _ _) (Nat.mod_lt m leadingBit_pos)
  have hcleared : m / 2 ^ k * 2 ^ k =
      leadingBit * (m / leadingBit) + m % leadingBit / 2 ^ k * 2 ^ k := by
    rw [← hsplit, Nat.div_add_mod]
  have hexponent : m / 2 ^ k * 2 ^ k / leadingBit = m / leadingBit := by
    rw [hcleared, Nat.mul_add_div leadingBit_pos, Nat.div_eq_of_lt hfraction, Nat.add_zero]
  have hnormal : leadingBit ≤ m / 2 ^ k * 2 ^ k :=
    (Nat.div_pos_iff.mp (hexponent ▸ Nat.div_pos hm leadingBit_pos)).2
  have hsignificand : (m % leadingBit + leadingBit) / 2 ^ k * 2 ^ k =
      m % leadingBit / 2 ^ k * 2 ^ k + leadingBit := by
    have := hsplit 1 (m % leadingBit)
    rwa [Nat.mul_one, Nat.add_comm leadingBit, Nat.add_comm leadingBit] at this
  rw [unitsOf_of_le hnormal, unitsOf_of_le hm, hexponent,
    Nat.mul_div_mul_right _ _ (Nat.two_pow_pos _), ← Nat.mul_assoc, hsignificand, hcleared,
    Nat.mul_add_mod, Nat.mod_eq_of_lt hfraction]

theorem isNegative_truncated (x : Binary64) : x.truncated.isNegative = x.isNegative := by
  unfold truncated
  split
  · exact isNegative_ofMagnitude _ (by decide)
  · split
    · rfl
    · exact isNegative_ofMagnitude _
        (Nat.lt_of_le_of_lt (Nat.div_mul_le_self _ _) x.magnitude_lt)

theorem magnitude_truncated_le (x : Binary64) : x.truncated.magnitude ≤ x.magnitude := by
  unfold truncated
  split
  · rw [zero, magnitude_ofMagnitude _ (by decide)]
    exact Nat.zero_le _
  · split
    · exact Nat.le_refl _
    · have hle := Nat.div_mul_le_self x.magnitude (1 <<< (1075 - x.exponentField))
      rwa [magnitude_ofMagnitude _ (Nat.lt_of_le_of_lt hle x.magnitude_lt)]

theorem one_shiftLeft_dvd {k n : Nat} (h : k ≤ n) : 1 <<< k ∣ 2 ^ n := by
  rw [Nat.one_shiftLeft]
  exact Nat.pow_dvd_pow 2 h

theorem one_shiftLeft_eq {k n : Nat} (h : n ≤ k) : 1 <<< k = 2 ^ (k - n) * 2 ^ n := by
  rw [Nat.one_shiftLeft, ← Nat.pow_add, Nat.sub_add_cancel h]

theorem unitsOf_truncated (x : Binary64) :
    unitsOf x.truncated.magnitude = unitsOf x.magnitude / unitsInOne * unitsInOne := by
  have hunit (n : Nat) (hn : n ≤ 1074) : unitsInOne = 2 ^ (1074 - n) * 2 ^ n := one_shiftLeft_eq hn
  have hfield : x.exponentField = max (x.magnitude / leadingBit) 1 := rfl
  unfold truncated
  split
  · next hsmall =>
    -- Less than one unit.
    have hlt : unitsOf x.magnitude < unitsInOne := by
      calc unitsOf x.magnitude < leadingBit * 2 ^ (x.magnitude / leadingBit) := unitsOf_lt _
        _ ≤ leadingBit * 2 ^ 1022 :=
          Nat.mul_le_mul_left _ (Nat.pow_le_pow_right (by decide) (by omega))
        _ = unitsInOne := by decide +kernel
    rw [zero, magnitude_ofMagnitude _ (by decide), unitsOf_zero, Nat.div_eq_of_lt hlt, Nat.zero_mul]
  · next hlarge =>
    have hnormal : leadingBit ≤ x.magnitude :=
      (Nat.div_pos_iff.mp (show 0 < x.magnitude / leadingBit by omega)).2
    split
    · -- A multiple of the unit.
      have hdvd : unitsInOne ∣ unitsOf x.magnitude := by
        rw [unitsOf_of_le hnormal]
        exact Dvd.dvd.mul_left (one_shiftLeft_dvd (by omega)) _
      rw [Nat.div_mul_cancel hdvd]
    · have hle := Nat.div_mul_le_self x.magnitude (1 <<< (1075 - x.exponentField))
      rw [magnitude_ofMagnitude _ (Nat.lt_of_le_of_lt hle x.magnitude_lt), Nat.one_shiftLeft,
        unitsOf_cleared hnormal (by omega), hunit (x.magnitude / leadingBit - 1) (by omega),
        show 1075 - x.exponentField = 1074 - (x.magnitude / leadingBit - 1) by omega]

/-- What is left of a double without its fraction is its whole part. -/
theorem scaled_truncated (x : Binary64) : x.truncated.scaled = x.whole * unitsInOne := by
  rw [whole, scaled_eq, scaled_eq, isNegative_truncated, unitsOf_truncated]
  split
  · rw [Int.neg_tdiv, Int.neg_mul]
    rfl
  · rfl

theorem toRat_truncated (x : Binary64) : x.truncated.toRat = x.whole := by
  have hunit : (unitsInOne : ℚ) ≠ 0 := Nat.cast_ne_zero.mpr unitsInOne_pos.ne'
  rw [toRat_eq, scaled_truncated, div_eq_iff hunit]
  push_cast
  rfl

theorem isNaN_truncated {x : Binary64} (hx : x.isNaN = false) : x.truncated.isNaN = false := by
  have hle := x.magnitude_truncated_le
  simp only [isNaN, decide_eq_false_iff_not, Nat.not_lt] at hx ⊢
  exact Nat.le_trans hle hx

theorem compare?_truncated {x : Binary64} (hx : x.isNaN = false) :
    x.truncated.compare? x = some (compare (x.whole * unitsInOne) x.scaled) := by
  rw [compare?, hx, isNaN_truncated hx, Bool.or_false, if_neg Bool.false_ne_true, compare_place,
    scaled_truncated]

/-- What the whole part leaves over says where the double lies from it. -/
theorem compare_whole_mul (x : Binary64) :
    compare (x.whole * unitsInOne) x.scaled = compare 0 x.remainder := by
  have hsplit : unitsInOne * x.whole + x.remainder = x.scaled := Int.mul_tdiv_add_tmod _ _
  rw [Int.mul_comm] at hsplit
  exact compare_congr (by omega) (by omega)

/-! ## Doubles as integers -/

/-- The integer that a double is cast to: its whole part, or the nearest integer of 64 bits to that;
    zero for a NaN. -/
def toInt64 (x : Binary64) : Int64 :=
  if x.isNaN then 0
  else Int64.ofInt (max Int64.minValue.toInt (min Int64.maxValue.toInt x.whole))

/-- Neither NaN nor out of the range of integers, as two comparisons of doubles find. -/
def WithinInt64 (x : Binary64) : Prop :=
  x.isNaN = false ∧ ¬Number.twoPow63.place ≤ x.place ∧ ¬x.place < -Number.twoPow63.place

/-- The whole part of a double within the range is within the range. -/
theorem WithinInt64.whole_bounds {x : Binary64} (h : x.WithinInt64) :
    Int64.minValue.toInt ≤ x.whole ∧ x.whole ≤ Int64.maxValue.toInt := by
  obtain ⟨-, hhigh, hlow⟩ := h
  have hunit : (0 : Int) < unitsInOne := Int.natCast_pos.mpr unitsInOne_pos
  have hmax : Int64.maxValue.toInt = 2 ^ 63 - 1 := by decide
  have hmin : Int64.minValue.toInt = -2 ^ 63 := by decide
  let least := ofMagnitude true ((1023 + 63) * leadingBit)
  have hleast : least.place = -Number.twoPow63.place := by decide +kernel
  have habove : Number.twoPow63.scaled = 2 ^ 63 * unitsInOne := by decide +kernel
  have hbelow : least.scaled = -2 ^ 63 * unitsInOne := by decide +kernel
  constructor
  · have hle : -2 ^ 63 * (unitsInOne : Int) ≤ x.scaled := by
      rw [← hbelow]
      exact Int.not_lt.mp fun hlt => hlow (hleast ▸ (scaled_lt_scaled_iff x least).mp hlt)
    have hwhole := Int.tdiv_le_tdiv hunit hle
    rwa [Int.mul_tdiv_cancel _ hunit.ne', ← hmin] at hwhole
  · have hlt : x.scaled < 2 ^ 63 * unitsInOne :=
      habove ▸ (scaled_lt_scaled_iff x Number.twoPow63).mpr (Int.not_le.mp hhigh)
    have hwhole : x.whole < 2 ^ 63 := by
      rcases Int.lt_or_le x.scaled 0 with hnegative | hpositive
      · have hle := Int.tdiv_le_tdiv hunit hnegative.le
        rw [Int.zero_tdiv] at hle
        exact Int.lt_of_le_of_lt hle (by decide)
      · rw [whole, Int.tdiv_eq_ediv_of_nonneg hpositive]
        exact Int.ediv_lt_of_lt_mul hunit hlt
    omega

/-- Within the range nothing is lost when the whole part is cast. -/
theorem WithinInt64.toInt_toInt64 {x : Binary64} (h : x.WithinInt64) :
    x.truncated.toInt64.toInt = x.whole := by
  obtain ⟨hlow, hhigh⟩ := h.whole_bounds
  have hunit : (0 : Int) < unitsInOne := Int.natCast_pos.mpr unitsInOne_pos
  have hwhole : x.truncated.whole = x.whole := by
    rw [whole, scaled_truncated, Int.mul_tdiv_cancel _ hunit.ne']
  rw [toInt64, isNaN_truncated h.1, if_neg Bool.false_ne_true, hwhole, Int.min_eq_right hhigh,
    Int.max_eq_right hlow, Int64.toInt_ofInt_of_le]
  · exact hlow
  · exact Int.lt_of_le_of_lt hhigh (by decide)

end Binary64

namespace Number

open Binary64

/-! ## Integers against doubles -/

/-- An integer is compared with a double as with what the double stands for. -/
structure ComparedExactly (i : Int64) (x : Binary64) : Prop where
  finite : x.isFinite = true →
    (int i).compare? (float x) = some (compare (i.toInt : ℚ) x.toRat)
  infinite : x.isInfinite = true →
    (int i).compare? (float x) = some (if x.isNegative then .gt else .lt)
  unordered : (int i).compare? (float x) = none ↔ x.isNaN = true
  reversed : (float x).compare? (int i) = ((int i).compare? (float x)).map Ordering.swap
  /-- Where the double is cast to an integer it is within the range, so that the integer is the
      double without its fraction, and the double decides where the two integers are equal. -/
  cast : x.WithinInt64 →
    (x.truncated.toInt64.toInt : ℚ) = x.truncated.toRat ∧
    x.truncated.toRat = (if 0 ≤ x.toRat then ⌊x.toRat⌋ else ⌈x.toRat⌉ : Int) ∧
    (int i).compare? (float x) =
      (x.truncated.compare? x).map (compare i.toInt x.truncated.toInt64.toInt).then
  equal : (int i).equal (float x) = true ↔
    x.isFinite = true ∧ ∃ n : Int, Int64.minValue.toInt ≤ n ∧ n ≤ Int64.maxValue.toInt ∧
      x.toRat = n ∧ i.toInt = n

/-- The infinities lie beyond every integer. -/
theorem compare?_of_isInfinite (i : Int64) {x : Binary64} (hx : x.isInfinite = true) :
    (int i).compare? (float x) = some (if x.isNegative then .gt else .lt) := by
  have hmagnitude : x.magnitude = infiniteMagnitude := by simpa [isInfinite] using hx
  have hbeyond : twoPow63.place < infiniteMagnitude := by decide +kernel
  have hpositive : 0 < twoPow63.place := by decide +kernel
  have hplace : x.place =
      if x.isNegative then -(infiniteMagnitude : Int) else infiniteMagnitude := by
    rw [place, hmagnitude]
  have hnumber : x.isNaN = false := by simp [Binary64.isNaN, hmagnitude]
  rw [compare?, compareIntFloat?, hnumber, if_neg Bool.false_ne_true, hplace]
  cases x.isNegative
  · rw [if_neg Bool.false_ne_true, if_pos (by omega)]
    rfl
  · rw [if_pos rfl, if_neg (by omega), if_pos (by omega), if_pos rfl]

/-- The double without its fraction is the double rounded toward zero. -/
theorem toRat_truncated_eq (x : Binary64) :
    x.truncated.toRat = (if 0 ≤ x.toRat then ⌊x.toRat⌋ else ⌈x.toRat⌉ : Int) := by
  have hunit : (0 : ℚ) < unitsInOne := Nat.cast_pos.mpr unitsInOne_pos
  rw [toRat_truncated, toRat_eq, Rat.floor_intCast_div_natCast, Rat.ceil_intCast_div_natCast,
    Binary64.whole]
  split
  · next h =>
    have hsign : 0 ≤ x.scaled := by
      rw [le_div_iff₀ hunit, zero_mul] at h
      exact_mod_cast h
    rw [Int.tdiv_eq_ediv_of_nonneg hsign]
  · next h =>
    have hsign : x.scaled < 0 := by
      rw [not_le, div_lt_iff₀ hunit, zero_mul] at h
      exact_mod_cast h
    rw [← Int.tdiv_eq_ediv_of_nonneg (show 0 ≤ -x.scaled by omega), Int.neg_tdiv, Int.neg_neg]

theorem compare?_toRat (i : Int64) {x : Binary64} (hx : x.isNaN = false) :
    (int i).compare? (float x) = some (compare (i.toInt : ℚ) x.toRat) := by
  rw [compare_toRat]
  exact compareIntFloat?_eq i hx

/-- An integer equals a double just if the double is finite and is that integer. -/
theorem equal_int_float (i : Int64) (x : Binary64) :
    (int i).equal (float x) = true ↔ x.isFinite = true ∧ (i.toInt : ℚ) = x.toRat := by
  rw [Number.equal, beq_iff_eq]
  rcases lt_trichotomy x.magnitude infiniteMagnitude with h | h | h
  · have hnumber : x.isNaN = false := by simpa [Binary64.isNaN] using h.le
    have hfinite : x.isFinite = true := by simpa [Binary64.isFinite] using h
    simp [compare?_toRat i hnumber, hfinite]
  · have hinfinite : x.isInfinite = true := by simpa [isInfinite] using h
    have hfinite : x.isFinite = false := by simp [Binary64.isFinite, h]
    rw [compare?_of_isInfinite i hinfinite]
    cases x.isNegative <;> simp [hfinite]
  · have hnumber : x.isNaN = true := by simpa [Binary64.isNaN] using h
    have hfinite : x.isFinite = false := by simpa [Binary64.isFinite] using h.le
    simp [compare?, compareIntFloat?, hnumber, hfinite]

/-- The comparison of an integer and a double is exact: nothing is rounded for it, whatever integer
    of 64 bits and whatever double they are, and the one cast that it makes is of a double within
    the range of integers. -/
theorem comparedExactly (i : Int64) (x : Binary64) : ComparedExactly i x where
  finite hx := by
    refine compare?_toRat i ?_
    simp only [Binary64.isFinite, Binary64.isNaN, decide_eq_true_eq, decide_eq_false_iff_not] at hx ⊢
    omega
  infinite := compare?_of_isInfinite i
  unordered := by
    rw [← Option.not_isSome_iff_eq_none, isSome_compare?]
    simp [Number.isNaN]
  reversed := compare?_swap (int i) (float x)
  cast hx := by
    have hunit : (0 : Int) < unitsInOne := Int.natCast_pos.mpr unitsInOne_pos
    refine ⟨?_, toRat_truncated_eq x, ?_⟩
    · rw [hx.toInt_toInt64, toRat_truncated]
    · rw [hx.toInt_toInt64, compare?_truncated hx.1, Option.map_some]
      refine (compareIntFloat?_eq i hx.1).trans ?_
      rw [← compare_whole_remainder i.toInt x.scaled hunit, compare_whole_mul, Binary64.remainder,
        Binary64.whole]
      cases compare i.toInt (x.scaled.tdiv unitsInOne) <;> rfl
  equal := by
    rw [equal_int_float]
    refine and_congr_right fun _ => ⟨fun h => ?_, ?_⟩
    · exact ⟨i.toInt, i.minValue_le_toInt, i.toInt_le, h.symm, rfl⟩
    · rintro ⟨n, -, -, hx, hi⟩
      rw [hx, hi]

/-- Minus two and a half is cast to minus two and lies below it; an infinity lies above the greatest
    integer. -/
theorem comparedExactly_minusFiveHalves :
    (Binary64.nearest true 5 2).isFinite = true ∧
    (int (-2)).compare? (float (Binary64.nearest true 5 2)) =
      some (compare ((-2 : Int64).toInt : ℚ) (Binary64.nearest true 5 2).toRat) ∧
    (Binary64.nearest true 5 2).WithinInt64 ∧
    (Binary64.nearest true 5 2).truncated.toInt64 = -2 ∧
    ((Binary64.nearest true 5 2).truncated.toInt64.toInt : ℚ) =
      (Binary64.nearest true 5 2).truncated.toRat ∧
    (int (-2)).compare? (float (Binary64.nearest true 5 2)) = some .gt ∧
    (infinity false).isInfinite = true ∧
    (int Int64.maxValue).compare? (float (infinity false)) = some .lt := by
  have hfinite : (Binary64.nearest true 5 2).isFinite = true := by decide +kernel
  have hwithin : (Binary64.nearest true 5 2).WithinInt64 :=
    ⟨by decide +kernel, by decide +kernel, by decide +kernel⟩
  have hinfinite : (infinity false).isInfinite = true := by decide +kernel
  have hexact := comparedExactly (-2) (Binary64.nearest true 5 2)
  exact ⟨hfinite, hexact.finite hfinite, hwithin, by decide +kernel, (hexact.cast hwithin).1,
    by decide +kernel, hinfinite, (comparedExactly Int64.maxValue _).infinite hinfinite⟩

end Number
end EventQuery
