import EventQuery.Proofs.Sampling.Buckets

/-!
# Thresholds

The bucket of an event is the one that the strategy of its clause means, computed without loss. Two
words of a draw are one fraction of 64 bits, and the bucket is the whole part of that fraction
scaled to the number of buckets (`Draws.toNat_run_below`): the second word is left out only where
it could not have made a difference. A hash is reduced to the number of buckets before it is cut to
32 bits.

The bucket is therefore below the number of buckets, and a threshold lets through what it says
(`Sampler.thresholds_mean`).
-/

namespace EventQuery

namespace Draws

/-- The product of a fraction in two words with a bound: the high half, and the carry out of the
    low one. -/
theorem scaled_eq (r r' n : Nat) :
    (r * UInt32.size + r') * n / UInt64.size =
      r * n / UInt32.size + (r * n % UInt32.size + r' * n / UInt32.size) / UInt32.size := by
  have hdistrib : (r * UInt32.size + r') * n = r' * n + UInt32.size * (r * n) := by
    rw [Nat.add_mul, Nat.mul_right_comm, Nat.mul_comm (r * n), Nat.add_comm]
  have hsplit : r * n + r' * n / UInt32.size =
      r * n % UInt32.size + r' * n / UInt32.size + UInt32.size * (r * n / UInt32.size) := by
    have := Nat.div_add_mod (r * n) UInt32.size
    omega
  have hsize : UInt64.size = UInt32.size * UInt32.size := rfl
  calc
    (r * UInt32.size + r') * n / UInt64.size
      = (r * UInt32.size + r') * n / UInt32.size / UInt32.size := by
        rw [hsize, Nat.div_div_eq_div_mul]
    _ = (r * n + r' * n / UInt32.size) / UInt32.size := by
        rw [hdistrib, Nat.add_mul_div_left _ _ size_pos, Nat.add_comm]
    _ = _ := by rw [hsplit, Nat.add_mul_div_left _ _ size_pos, Nat.add_comm]

/-- Where no second word is drawn, none would carry. -/
theorem carry_eq_zero {low r' n : Nat} (hr' : r' < UInt32.size) (hn : 0 < n)
    (hsize : n < UInt32.size) (hlow : low ≤ (UInt32.size - n) % UInt32.size) :
    (low + r' * n / UInt32.size) / UInt32.size = 0 := by
  have hhigh := high_lt hr' hn
  rw [Nat.mod_eq_of_lt (by omega : UInt32.size - n < UInt32.size)] at hlow
  exact Nat.div_eq_of_lt (by omega)

/-- A draw is the whole part of the fraction that the next two words are, scaled to the bound. -/
theorem toNat_run_below {bound : UInt32} (h : 0 < bound) (d : Draws) :
    ((below bound).run d).1.toNat =
      ((d.word d.used).toNat * UInt32.size + (d.word (d.used + 1)).toNat) * bound.toNat /
        UInt64.size := by
  have hn : 0 < bound.toNat := UInt32.lt_iff_toNat_lt.mp h
  have hfirst := (d.word d.used).toNat_lt_size
  have hsecond := (d.word (d.used + 1)).toNat_lt_size
  rw [run_below, scaled_eq]
  simp only
  split
  · next hlow =>
    have hlt := high_add_carry_lt hfirst hsecond hn bound.toNat_lt_size hlow
    exact UInt32.toNat_ofNat_of_lt' (Nat.lt_trans hlt bound.toNat_lt_size)
  · next hlow =>
    rw [carry_eq_zero hsecond hn bound.toNat_lt_size (Nat.le_of_not_lt hlow), Nat.add_zero]
    exact UInt32.toNat_ofNat_of_lt' (Nat.lt_trans (high_lt hfirst hn) bound.toNat_lt_size)

end Draws

namespace StickyKey

/-- Cutting the bucket to 32 bits loses nothing: the hash has been reduced before. -/
theorem toNat_bucket {factor : UInt32} (h : 0 < factor) (k : StickyKey) :
    (k.bucket factor).toNat = (SipHash.hash k.bytes).toNat % factor.toNat := by
  have hmod := Nat.mod_lt (SipHash.hash k.bytes).toNat (UInt32.lt_iff_toNat_lt.mp h)
  rw [bucket, UInt64.toNat_toUInt32, UInt64.toNat_mod, UInt32.toNat_toUInt64]
  exact Nat.mod_eq_of_lt (Nat.lt_trans hmod factor.toNat_lt_size)

theorem bucket_lt {factor : UInt32} (h : 0 < factor) (k : StickyKey) :
    k.bucket factor < factor := by
  rw [UInt32.lt_iff_toNat_lt, toNat_bucket h]
  exact Nat.mod_lt _ (UInt32.lt_iff_toNat_lt.mp h)

end StickyKey

namespace Sampler

variable (s : Sampler) (c : SampleClause) (event : Value) (d : Draws)

theorem bucket_of_random (h : c.strategy = .random) :
    s.bucket c event = Draws.below (s.buckets c) := by
  rw [bucket, h]

theorem bucket_of_sticky (h : c.strategy = .sticky) :
    s.bucket c event = pure ((StickyKey.ofEvent c event).bucket (s.buckets c)) := by
  rw [bucket, h]

/-- However the bucket of an event is found, it is one of the buckets. -/
theorem bucket_lt_buckets : ((s.bucket c event).run d).1 < s.buckets c := by
  have hpos := s.buckets_pos c
  cases hs : c.strategy with
  | random =>
    rw [bucket_of_random s c event hs]
    exact Draws.below_lt hpos d
  | sticky =>
    rw [bucket_of_sticky s c event hs]
    exact StickyKey.bucket_lt hpos _

/-- A clause that goes by the keys draws nothing. -/
theorem run_admits_of_sticky (h : c.strategy = .sticky) :
    (s.admits (some c) event).run d =
      (decide ((StickyKey.ofEvent c event).bucket (s.buckets c) < c.threshold), d) := by
  rw [admits, bucket_of_sticky s c event h]
  rfl

/-- Thresholds mean what they say. There are as many buckets as the factor of the clause says, or
    else that of the sampler, and at least one. The bucket of an event is one of them, the scaled
    fraction of two words for a draw, the remainder of the hash for keys. A threshold of zero admits
    nothing, one that is no less than the factor admits everything, and with the same words a higher
    one admits no less. Where the keys decide, or no clause does, no word is drawn and none matters,
    and without a clause every event is admitted. -/
theorem thresholds_mean :
    (s.buckets c).toNat = max (c.factor.getD s.factor).toNat 1 ∧
    ((s.bucket c event).run d).1 < s.buckets c ∧
    (c.strategy = .random → ((s.bucket c event).run d).1.toNat =
      ((d.word d.used).toNat * UInt32.size + (d.word (d.used + 1)).toNat) *
        (s.buckets c).toNat / UInt64.size) ∧
    (c.strategy = .sticky → ((s.bucket c event).run d).1.toNat =
      (SipHash.hash (StickyKey.ofEvent c event).bytes).toNat % (s.buckets c).toNat) ∧
    (c.threshold = 0 → ((s.admits (some c) event).run d).1 = false) ∧
    (s.buckets c ≤ c.threshold → ((s.admits (some c) event).run d).1 = true) ∧
    (∀ threshold, c.threshold ≤ threshold → ((s.admits (some c) event).run d).1 = true →
      ((s.admits (some { c with threshold }) event).run d).1 = true) ∧
    (c.strategy = .sticky → ∃ answer, ∀ d', (s.admits (some c) event).run d' = (answer, d')) ∧
    ∀ d', (s.admits none event).run d' = (true, d') := by
  have hlt := bucket_lt_buckets s c event d
  refine ⟨s.toNat_buckets c, hlt, ?_, ?_, ?_, ?_, ?_, ?_, fun _ => rfl⟩
  · intro hs
    rw [bucket_of_random s c event hs]
    exact Draws.toNat_run_below (s.buckets_pos c) d
  · intro hs
    rw [bucket_of_sticky s c event hs]
    exact StickyKey.toNat_bucket (s.buckets_pos c) _
  · intro hzero
    rw [run_admits, hzero]
    exact decide_eq_false UInt32.not_lt_zero
  · intro hall
    rw [run_admits]
    exact decide_eq_true (UInt32.lt_of_lt_of_le hlt hall)
  · intro threshold hle hadmits
    rw [run_admits] at hadmits ⊢
    -- Another threshold changes neither the words nor the number of buckets.
    exact decide_eq_true (UInt32.lt_of_lt_of_le (of_decide_eq_true hadmits) hle)
  · intro hs
    exact ⟨_, fun d' => run_admits_of_sticky s c event d' hs⟩

/-- A draw among three buckets whose second word carries it into the last of them. -/
def carriedDraws : Draws := ⟨fun n => if n = 0 then 0xAAAAAAAA else 0xFFFFFFFF, 0⟩

/-- A clause that draws among three buckets, with a threshold. -/
def thirds (threshold : UInt32) : SampleClause := ⟨.random, threshold, [], none, some 3⟩

/-- A clause that leaves the number of buckets to the sampler. -/
def unfactored (threshold : UInt32) : SampleClause := ⟨.random, threshold, [], none, none⟩

/-- The carry reaches the last bucket and not the one behind it, so that a threshold of three still
    admits the event and one of two does not. Without a factor in the clause, one of two does if the
    sampler has two buckets, and does not if it has three. -/
theorem thresholds_of_thirds :
    (((ofFactor 0).bucket (thirds 3) .null).run carriedDraws).1 = 2 ∧
    (((ofFactor 0).admits (some (thirds 2)) .null).run carriedDraws).1 = false ∧
    (ofFactor 0).buckets (thirds 3) ≤ (thirds 3).threshold ∧
    (((ofFactor 0).admits (some (thirds 3)) .null).run carriedDraws).1 = true ∧
    (((ofFactor 3).admits (some (unfactored 2)) .null).run carriedDraws).1 = false ∧
    (ofFactor 2).buckets (unfactored 2) ≤ (unfactored 2).threshold ∧
    (((ofFactor 2).admits (some (unfactored 2)) .null).run carriedDraws).1 = true := by
  have hthirds : (ofFactor 0).buckets (thirds 3) ≤ (thirds 3).threshold := by decide
  have hhalves : (ofFactor 2).buckets (unfactored 2) ≤ (unfactored 2).threshold := by decide
  obtain ⟨-, -, -, -, -, hall, -⟩ := thresholds_mean (ofFactor 0) (thirds 3) .null carriedDraws
  obtain ⟨-, -, -, -, -, hall', -⟩ := thresholds_mean (ofFactor 2) (unfactored 2) .null carriedDraws
  exact ⟨by decide, by decide, hthirds, hall hthirds, by decide, hhalves, hall' hhalves⟩

end Sampler
end EventQuery
