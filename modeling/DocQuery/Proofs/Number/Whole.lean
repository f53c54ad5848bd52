import DocQuery.Number.Layout
import DocQuery.Proofs.Number.Rounding

/-!
Whole numbers among the floating-point ones. The integer that a number is counts as many times the
number one as its bits say, and below `2 ^ 53` it is also the number's text.
-/
namespace DocQuery.Binary64

variable {x : Binary64} {n : Int}

theorem one_pos : 0 < one := by
  obtain ⟨k, -, hone⟩ := exists_one_eq
  rw [hone]
  exact Nat.two_pow_pos k

def signedCounts (x : Binary64) : Int :=
  if x.negative then -(counts x.magnitude : Int) else counts x.magnitude

structure HasValue (x : Binary64) (n : Int) : Prop where
  finite : x.isFinite = true
  value : x.signedCounts = n * one

theorem natAbs_signedCounts (x : Binary64) : x.signedCounts.natAbs = counts x.magnitude := by
  unfold signedCounts
  split <;> omega

theorem HasValue.counts_eq (h : x.HasValue n) : counts x.magnitude = n.natAbs * one := by
  rw [← natAbs_signedCounts, h.value, Int.natAbs_mul, Int.natAbs_natCast]

/-- The sign of the integer is that of the number, whichever sign zero has. -/
theorem HasValue.eq (h : x.HasValue n) :
    (if x.negative then -(n.natAbs : Int) else n.natAbs) = n := by
  have hvalue := h.value
  rw [signedCounts, h.counts_eq, Int.natCast_mul] at hvalue
  have hone : (one : Int) ≠ 0 := Int.natCast_ne_zero.mpr one_pos.ne'
  cases hneg : x.negative with
  | true =>
    rw [hneg, if_pos rfl, ← Int.neg_mul] at hvalue
    rw [if_pos rfl]
    exact Int.eq_of_mul_eq_mul_right hone hvalue
  | false =>
    rw [hneg, if_neg Bool.false_ne_true] at hvalue
    rw [if_neg Bool.false_ne_true]
    exact Int.eq_of_mul_eq_mul_right hone hvalue

theorem integer?_eq_some_iff : x.integer? = some n ↔ x.HasValue n := by
  constructor
  · intro h
    simp only [integer?, Option.ite_none_right_eq_some, Bool.and_eq_true, beq_iff_eq,
      Option.some.injEq] at h
    obtain ⟨⟨hfinite, hwhole⟩, hn⟩ := h
    have hcounts : ((counts x.magnitude / one : Nat) : Int) * one = counts x.magnitude := by
      rw [← Int.natCast_mul, Nat.div_mul_cancel (Nat.dvd_of_mod_eq_zero hwhole)]
    refine ⟨hfinite, ?_⟩
    rw [← hn, signedCounts]
    split
    · rw [Int.neg_mul, hcounts]
    · rw [hcounts]
  · intro h
    have hwhole : counts x.magnitude % one = 0 := by rw [h.counts_eq, Nat.mul_mod_left]
    have hquotient : counts x.magnitude / one = n.natAbs := by
      rw [h.counts_eq, Nat.mul_div_cancel _ one_pos]
    simp only [integer?, h.finite, hwhole, hquotient, h.eq, BEq.rfl, Bool.and_self, if_true]

theorem HasValue.isNaN_eq_false (h : x.HasValue n) : x.isNaN = false := by
  have hfinite := h.finite
  simp only [isFinite, isNaN, decide_eq_true_eq, decide_eq_false_iff_not] at hfinite ⊢
  omega

theorem HasValue.isInfinite_eq_false (h : x.HasValue n) : x.isInfinite = false := by
  have hfinite := h.finite
  simp only [isFinite, isInfinite, decide_eq_true_eq, beq_eq_false_iff_ne] at hfinite ⊢
  omega

theorem HasValue.naturalText_eq (h : x.HasValue n) (hn : n.natAbs < 2 ^ 53) :
    x.naturalText = toString n := by
  rw [← two_mul_binade] at hn
  rw [naturalText, h.isNaN_eq_false, h.isInfinite_eq_false, integer?_eq_some_iff.mpr h]
  simp only [Bool.false_eq_true, if_false, if_pos hn]

theorem hasValue_ofInt (hn : n.natAbs < 2 ^ 53) : (ofInt n).HasValue n := by
  rw [← two_mul_binade] at hn
  constructor
  · rw [isFinite, magnitude_ofInt, decide_eq_true_eq]
    rcases Nat.eq_zero_or_pos n.natAbs with hzero | hpos
    · rw [hzero, nearest_zero]
      decide
    · obtain ⟨significand, s, hlow, hhigh, hs, heq⟩ := exists_significand hpos hn.le
      have hscaled : s * binade ≤ 2045 * binade := Nat.mul_le_mul_right _ (by omega)
      rw [heq, nearest_significand hlow hhigh hs, infiniteMagnitude]
      omega
  · rw [signedCounts, negative_ofInt, magnitude_ofInt, counts_nearest_integer hn.le,
      Int.natCast_mul]
    by_cases hneg : n < 0
    · rw [if_pos (decide_eq_true hneg), ← Int.neg_mul]
      congr 1
      omega
    · rw [if_neg (by simpa using hneg)]
      congr 1
      omega

theorem hasValue_zero (negative : Bool) : (zero negative).HasValue 0 := by
  have hmagnitude : (zero negative).magnitude = 0 := magnitude_ofParts negative (by decide)
  have hcounts : counts 0 = 0 := by decide
  constructor
  · rw [isFinite, hmagnitude]
    decide
  · rw [signedCounts, hmagnitude, hcounts, Int.zero_mul]
    split <;> rfl

end DocQuery.Binary64
