import EventQuery.Sampling.Sampler
import Mathlib.Tactic.Common

/-!
# Buckets

A clause has as many buckets as its factor says, or else that of the sampler (`toNat_buckets`). The
bucket of an event is below their number, however it is found. For a hash that is the remainder of a
division. For a draw it is less plain, because the high half of the product may still be carried up
by a second word: if it is the greatest there can be, the low half is too small for a second word to
be drawn at all (`high_add_carry_lt`).

So a clause with a threshold of zero lets nothing through and one with as high a threshold as it has
buckets lets everything through, and then it does not matter what is drawn (`run_admits_eq`).
-/

namespace EventQuery

namespace Draws

theorem size_pos : 0 < UInt32.size := by decide

/-- The high half of a product is below the bound. -/
theorem high_lt {r n : Nat} (hr : r < UInt32.size) (hn : 0 < n) : r * n / UInt32.size < n :=
  Nat.div_lt_of_lt_mul (Nat.mul_lt_mul_of_pos_right hr hn)

/-- A second word carries by one at most. -/
theorem carry_le_one {low r n : Nat} (hlow : low < UInt32.size) (hr : r < UInt32.size)
    (hn : n < UInt32.size) : (low + r * n / UInt32.size) / UInt32.size ≤ 1 := by
  have hsecond : r * n / UInt32.size < UInt32.size := by
    refine Nat.div_lt_of_lt_mul ?_
    exact Nat.mul_lt_mul'' hr hn
  have hsum : low + r * n / UInt32.size < 2 * UInt32.size := by omega
  exact Nat.le_of_lt_succ (Nat.div_lt_of_lt_mul (by omega))

/-- Where a second word is drawn, there is room to carry. -/
theorem high_add_carry_lt {r r' n : Nat} (hr : r < UInt32.size) (hr' : r' < UInt32.size)
    (hn : 0 < n) (hsize : n < UInt32.size)
    (hlow : (UInt32.size - n) % UInt32.size < r * n % UInt32.size) :
    r * n / UInt32.size +
      (r * n % UInt32.size + r' * n / UInt32.size) / UInt32.size < n := by
  have hcarry := carry_le_one (Nat.mod_lt (r * n) size_pos) hr' hsize
  rw [Nat.mod_eq_of_lt (by omega : UInt32.size - n < UInt32.size)] at hlow
  -- The product is at most `n` words less `n`, so its high half is at most `n - 2` here.
  have hproduct : r * n ≤ UInt32.size * n - n := by
    have hle := Nat.mul_le_mul_right n (Nat.le_sub_one_of_lt hr)
    rwa [Nat.sub_one_mul] at hle
  have hsplit := Nat.div_add_mod (r * n) UInt32.size
  have hhigh : r * n / UInt32.size + 1 < n := by
    by_contra hge
    have hmul : UInt32.size * (n - 1) ≤ UInt32.size * (r * n / UInt32.size) :=
      Nat.mul_le_mul_left _ (by omega)
    rw [Nat.mul_sub_one] at hmul
    have hn' : UInt32.size ≤ UInt32.size * n := Nat.le_mul_of_pos_right _ hn
    omega
  omega

/-- What is drawn, by the next two words. -/
theorem run_below (bound : UInt32) (d : Draws) : ((below bound).run d).1 =
    let product := (d.word d.used).toNat * bound.toNat
    if (UInt32.size - bound.toNat) % UInt32.size < product % UInt32.size then
      UInt32.ofNat (product / UInt32.size + (product % UInt32.size +
        (d.word (d.used + 1)).toNat * bound.toNat / UInt32.size) / UInt32.size)
    else UInt32.ofNat (product / UInt32.size) := by
  simp only [below, next, StateT.run, bind, StateT.bind]
  split <;> rfl

theorem ofNat_lt {n : Nat} {bound : UInt32} (h : n < bound.toNat) : UInt32.ofNat n < bound := by
  rw [UInt32.lt_iff_toNat_lt, UInt32.toNat_ofNat_of_lt' (Nat.lt_trans h bound.toNat_lt_size)]
  exact h

/-- A draw below a bound is below it. -/
theorem below_lt {bound : UInt32} (h : 0 < bound) (d : Draws) :
    ((below bound).run d).1 < bound := by
  have hn : 0 < bound.toNat := UInt32.lt_iff_toNat_lt.mp h
  have hfirst := (d.word d.used).toNat_lt_size
  rw [run_below]
  simp only
  split
  · next hlow =>
    have hsecond := (d.word (d.used + 1)).toNat_lt_size
    exact ofNat_lt (high_add_carry_lt hfirst hsecond hn bound.toNat_lt_size hlow)
  · exact ofNat_lt (high_lt hfirst hn)

end Draws

namespace Sampler

theorem toNat_max_one (n : UInt32) : (max n 1).toNat = max n.toNat 1 := by
  rw [show max n 1 = if n ≤ 1 then 1 else n from rfl]
  split
  · next h => exact (Nat.max_eq_right (UInt32.le_iff_toNat_le.mp h)).symm
  · next h => exact (Nat.max_eq_left (Nat.le_of_not_le (mt UInt32.le_iff_toNat_le.mpr h))).symm

/-- A clause has as many buckets as its factor says, or else that of the sampler, and at least
    one. -/
theorem toNat_buckets (s : Sampler) (c : SampleClause) :
    (s.buckets c).toNat = max (c.factor.getD s.factor).toNat 1 := by
  rw [buckets, toNat_max_one]

/-- That a sampler already stands for one where it is given zero makes no difference. -/
theorem toNat_buckets_ofFactor (factor : UInt32) (c : SampleClause) :
    ((ofFactor factor).buckets c).toNat = max (c.factor.getD factor).toNat 1 := by
  rw [toNat_buckets]
  cases c.factor with
  | some n => rfl
  | none =>
    rw [Option.getD_none, Option.getD_none, ofFactor, toNat_max_one, Nat.max_assoc, Nat.max_self]

/-- There is at least one bucket. -/
theorem buckets_pos (s : Sampler) (c : SampleClause) : 0 < s.buckets c := by
  rw [UInt32.lt_iff_toNat_lt, toNat_buckets]
  exact Nat.lt_of_lt_of_le Nat.one_pos (Nat.le_max_right _ _)

/-- The clause needs no draw: its buckets are found by a hash, or it lets none of them through, or
    all. -/
def Settled (s : Sampler) (c : SampleClause) : Prop :=
  c.strategy = .random → c.threshold = 0 ∨ s.buckets c ≤ c.threshold

instance (s : Sampler) (c : SampleClause) : Decidable (s.Settled c) :=
  inferInstanceAs (Decidable (_ → _))

theorem run_admits (s : Sampler) (c : SampleClause) (event : Value) (d : Draws) :
    ((s.admits (some c) event).run d).1 =
      decide (((s.bucket c event).run d).1 < c.threshold) := rfl

/-- A clause that needs no draw decides in the same way whatever is drawn. -/
theorem run_admits_eq {s : Sampler} {clause : Option SampleClause}
    (h : ∀ c ∈ clause, s.Settled c) (event : Value) (d d' : Draws) :
    ((s.admits clause event).run d).1 = ((s.admits clause event).run d').1 := by
  cases clause with
  | none => rfl
  | some c =>
    rw [run_admits, run_admits, bucket]
    cases hs : c.strategy with
    | sticky => rfl
    | random =>
      have hlt := Draws.below_lt (s.buckets_pos c)
      rcases h c rfl hs with hzero | hall
      · have hnone : ∀ b : UInt32, decide (b < c.threshold) = false := by
          intro b
          rw [hzero]
          exact decide_eq_false UInt32.not_lt_zero
        rw [hnone, hnone]
      · have hevery : ∀ d, decide (((Draws.below (s.buckets c)).run d).1 < c.threshold) = true :=
          fun d => decide_eq_true (UInt32.lt_of_lt_of_le (hlt d) hall)
        rw [hevery, hevery]

end Sampler
end EventQuery
