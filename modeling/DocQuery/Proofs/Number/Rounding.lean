import DocQuery.Proofs.Bson.Reflexive
import Mathlib

/-!
Rounding to a floating-point number keeps the order. What has at most fifty-three binary digits is
not changed by it, so an integer of that size is kept apart from all others.
-/
namespace DocQuery.Binary64

theorem binade_pos : 0 < binade := by decide

theorem binade_eq : binade = 2 ^ 52 := rfl

theorem two_mul_binade : 2 * binade = 2 ^ 53 := by rw [binade_eq, ← Nat.pow_succ']

/-- The exponent stands as a variable, so that the power is never worked out. -/
theorem exists_one_eq : ∃ k, k = 1074 ∧ one = 2 ^ k := by
  obtain ⟨k, hk⟩ : ∃ k, k = 1074 := ⟨_, rfl⟩
  refine ⟨k, hk, ?_⟩
  rw [one, ← hk, Nat.one_shiftLeft]

section HalfEven

variable {num other den : Nat}

theorem div_le_halfEven (num den : Nat) : num / den ≤ halfEven num den := by
  unfold halfEven
  dsimp only
  split
  · exact Nat.le_refl _
  · split
    · omega
    · split <;> omega

theorem halfEven_le_succ (num den : Nat) : halfEven num den ≤ num / den + 1 := by
  unfold halfEven
  dsimp only
  split
  · omega
  · split
    · exact Nat.le_refl _
    · split <;> omega

/-- Where the whole parts are the same, the halves go the same way. -/
theorem halfEven_mono (h : num ≤ other) (den : Nat) : halfEven num den ≤ halfEven other den := by
  rcases Nat.lt_or_eq_of_le (Nat.div_le_div_right (c := den) h) with hlt | heq
  · calc halfEven num den ≤ num / den + 1 := halfEven_le_succ num den
      _ ≤ other / den := hlt
      _ ≤ halfEven other den := div_le_halfEven other den
  · have hnum := Nat.div_add_mod num den
    have hother := Nat.div_add_mod other den
    rw [heq] at hnum
    have hrest : num % den ≤ other % den := by omega
    simp only [halfEven, heq]
    grind

theorem halfEven_mul (q : Nat) (h : 0 < den) : halfEven (q * den) den = q := by
  simp [halfEven, h]

end HalfEven

section Nearest

variable {num other den : Nat}

def excess (num den : Nat) : Nat := Nat.log2 (num / den) - 52

def unbounded (num den : Nat) : Nat :=
  excess num den * binade + halfEven num (den <<< excess num den)

theorem nearest_eq (num den : Nat) : nearest num den = min (unbounded num den) infiniteMagnitude :=
  rfl

theorem scale_pos (h : 0 < den) (k : Nat) : 0 < den <<< k := by
  rw [Nat.shiftLeft_eq]
  exact Nat.mul_pos h (Nat.two_pow_pos k)

theorem excess_mono (h : num ≤ other) (den : Nat) : excess num den ≤ excess other den := by
  have hquotient : num / den ≤ other / den := Nat.div_le_div_right h
  have hlog : Nat.log2 (num / den) ≤ Nat.log2 (other / den) := by
    by_cases hzero : num / den = 0
    · simp [hzero]
    · have hother : other / den ≠ 0 := fun h0 => hzero (Nat.le_zero.mp (h0 ▸ hquotient))
      exact (Nat.le_log2 hother).mpr ((Nat.log2_self_le hzero).trans hquotient)
  unfold excess
  omega

/-- Rounded at its excess a quotient has at most fifty-three binary digits, or is the next power. -/
theorem halfEven_le_binades (num : Nat) (h : 0 < den) :
    halfEven num (den <<< excess num den) ≤ 2 * binade := by
  have hlog : Nat.log2 (num / den) + 1 ≤ 53 + excess num den := by
    unfold excess
    omega
  have hlt : num / den < 2 ^ (53 + excess num den) :=
    Nat.lt_of_lt_of_le Nat.lt_log2_self (Nat.pow_le_pow_right (by decide) hlog)
  have hnum : num ≤ 2 * binade * (den <<< excess num den) := by
    rw [Nat.div_lt_iff_lt_mul h, Nat.pow_add] at hlt
    rw [Nat.shiftLeft_eq, binade_eq]
    calc num ≤ 2 ^ 53 * 2 ^ excess num den * den := hlt.le
      _ = 2 * 2 ^ 52 * (den * 2 ^ excess num den) := by ring
  calc halfEven num (den <<< excess num den)
      ≤ halfEven (2 * binade * (den <<< excess num den)) (den <<< excess num den) :=
        halfEven_mono hnum _
    _ = 2 * binade := halfEven_mul _ (scale_pos h _)

/-- A quotient with an excess has no fewer than fifty-three binary digits. -/
theorem binade_le_halfEven (h : 0 < den) (hexcess : 0 < excess num den) :
    binade ≤ halfEven num (den <<< excess num den) := by
  have hlog : Nat.log2 (num / den) = 52 + excess num den := by
    unfold excess at hexcess ⊢
    omega
  have hzero : num / den ≠ 0 := by
    intro hzero
    rw [hzero, Nat.log2_zero] at hlog
    omega
  have hle : 2 ^ (52 + excess num den) ≤ num / den := by
    rw [← hlog]
    exact Nat.log2_self_le hzero
  have hnum : binade * (den <<< excess num den) ≤ num := by
    rw [Nat.le_div_iff_mul_le h, Nat.pow_add] at hle
    rw [Nat.shiftLeft_eq, binade_eq]
    calc 2 ^ 52 * (den * 2 ^ excess num den) = 2 ^ 52 * 2 ^ excess num den * den := by ring
      _ ≤ num := hle
  calc binade = halfEven (binade * (den <<< excess num den)) (den <<< excess num den) :=
        (halfEven_mul _ (scale_pos h _)).symm
    _ ≤ halfEven num (den <<< excess num den) := halfEven_mono hnum _

theorem unbounded_mono (h : 0 < den) (hle : num ≤ other) : unbounded num den ≤ unbounded other den := by
  unfold unbounded
  rcases Nat.lt_or_eq_of_le (excess_mono hle den) with hlt | heq
  · -- The next excess starts where the last one ends.
    have hlow := halfEven_le_binades num h
    have hhigh : binade ≤ halfEven other (den <<< excess other den) :=
      binade_le_halfEven h (Nat.zero_lt_of_lt hlt)
    have hscaled : (excess num den + 1) * binade ≤ excess other den * binade :=
      Nat.mul_le_mul_right binade hlt
    calc excess num den * binade + halfEven num (den <<< excess num den)
        ≤ excess num den * binade + 2 * binade := by omega
      _ = (excess num den + 1) * binade + binade := by ring
      _ ≤ excess other den * binade + binade := Nat.add_le_add_right hscaled _
      _ ≤ excess other den * binade + halfEven other (den <<< excess other den) := by omega
  · rw [heq]
    have := halfEven_mono hle (den <<< excess other den)
    omega

theorem nearest_mono (h : 0 < den) (hle : num ≤ other) : nearest num den ≤ nearest other den := by
  have := unbounded_mono h hle
  rw [nearest_eq, nearest_eq]
  omega

end Nearest

section Exact

variable {significand s n m : Nat}

/-- A number of fifty-three binary digits, however far shifted, is its own magnitude. -/
theorem nearest_significand (hlow : binade ≤ significand) (hhigh : significand < 2 * binade)
    (hs : s < 2046) : nearest (significand * 2 ^ s) 1 = s * binade + significand := by
  have hpos : significand * 2 ^ s ≠ 0 :=
    Nat.mul_ne_zero (Nat.ne_of_gt (Nat.lt_of_lt_of_le binade_pos hlow)) (Nat.two_pow_pos s).ne'
  have hlog : Nat.log2 (significand * 2 ^ s) = 52 + s := by
    rw [binade_eq] at hlow hhigh
    rw [Nat.log2_eq_iff hpos]
    constructor
    · rw [Nat.pow_add]
      exact Nat.mul_le_mul_right _ hlow
    · calc significand * 2 ^ s < 2 * 2 ^ 52 * 2 ^ s :=
          Nat.mul_lt_mul_of_pos_right hhigh (Nat.two_pow_pos s)
        _ = 2 ^ (52 + s + 1) := by ring
  have hexcess : excess (significand * 2 ^ s) 1 = s := by
    rw [excess, Nat.div_one, hlog]
    omega
  have hfinite : s * binade + significand ≤ infiniteMagnitude := by
    have : s * binade ≤ 2045 * binade := Nat.mul_le_mul_right _ (by omega)
    unfold infiniteMagnitude
    omega
  rw [nearest_eq, unbounded, hexcess, Nat.one_shiftLeft, halfEven_mul _ (Nat.two_pow_pos s)]
  exact Nat.min_eq_left hfinite

theorem counts_significand (hlow : binade ≤ significand) (hhigh : significand < 2 * binade) :
    counts (s * binade + significand) = significand * 2 ^ s := by
  obtain ⟨rest, rfl⟩ : ∃ rest, significand = binade + rest := Nat.exists_eq_add_of_le hlow
  have hrest : rest < binade := by omega
  have hmagnitude : s * binade + (binade + rest) = rest + binade * (s + 1) := by ring
  have hquotient : (rest + binade * (s + 1)) / binade = s + 1 := by
    rw [Nat.add_mul_div_left _ _ binade_pos, Nat.div_eq_of_lt hrest]
    omega
  have hremainder : (rest + binade * (s + 1)) % binade = rest := by
    rw [Nat.add_mul_mod_self_left, Nat.mod_eq_of_lt hrest]
  have hnormal : ¬ rest + binade * (s + 1) < binade := by
    rw [← hmagnitude]
    omega
  rw [hmagnitude, counts, shift, Binary64.significand, hquotient, hremainder, if_neg hnormal,
    Nat.shiftLeft_eq, Nat.add_sub_cancel]

theorem exists_significand (hpos : 0 < n) (hn : n ≤ 2 * binade) :
    ∃ significand s, binade ≤ significand ∧ significand < 2 * binade ∧ s < 2046
      ∧ n * one = significand * 2 ^ s := by
  obtain ⟨k, hk, hone⟩ := exists_one_eq
  rcases Nat.lt_or_eq_of_le hn with hlt | rfl
  · have hlow := Nat.log2_self_le hpos.ne'
    have hhigh := Nat.lt_log2_self (n := n)
    have hlog : Nat.log2 n ≤ 52 := by
      rw [binade_eq, ← Nat.pow_succ', ← Nat.log2_lt hpos.ne'] at hlt
      omega
    generalize Nat.log2 n = l at hlow hhigh hlog
    have hpow : 2 ^ l * 2 ^ (52 - l) = binade := by
      rw [← Nat.pow_add, Nat.add_sub_cancel' hlog, binade_eq]
    refine ⟨n * 2 ^ (52 - l), l + 1022, ?_, ?_, by omega, ?_⟩
    · calc binade = 2 ^ l * 2 ^ (52 - l) := hpow.symm
        _ ≤ n * 2 ^ (52 - l) := Nat.mul_le_mul_right _ hlow
    · calc n * 2 ^ (52 - l) < 2 ^ (l + 1) * 2 ^ (52 - l) :=
          Nat.mul_lt_mul_of_pos_right hhigh (Nat.two_pow_pos _)
        _ = 2 * (2 ^ l * 2 ^ (52 - l)) := by ring
        _ = 2 * binade := by rw [hpow]
    · have hsum : (52 - l) + (l + 1022) = k := by
        rw [hk, ← Nat.add_assoc, Nat.sub_add_cancel hlog]
      calc n * one = n * 2 ^ ((52 - l) + (l + 1022)) := by rw [hone, hsum]
        _ = n * 2 ^ (52 - l) * 2 ^ (l + 1022) := by rw [Nat.pow_add, Nat.mul_assoc]
  · have htwice : binade < 2 * binade := lt_two_mul_self binade_pos
    refine ⟨binade, k + 1, Nat.le_refl _, htwice, by omega, ?_⟩
    rw [hone]
    ring

theorem nearest_zero : nearest (0 * one) 1 = 0 := by
  rw [Nat.zero_mul]
  decide

theorem counts_nearest_integer (hn : n ≤ 2 * binade) : counts (nearest (n * one) 1) = n * one := by
  rcases Nat.eq_zero_or_pos n with rfl | hpos
  · rw [nearest_zero, Nat.zero_mul]
    decide
  · obtain ⟨significand, s, hlow, hhigh, hs, heq⟩ := exists_significand hpos hn
    rw [heq, nearest_significand hlow hhigh hs, counts_significand hlow hhigh]

theorem nearest_integer_mono (h : n ≤ m) : nearest (n * one) 1 ≤ nearest (m * one) 1 :=
  nearest_mono Nat.one_pos (Nat.mul_le_mul_right _ h)

/-- An integer of at most fifty-three binary digits is rounded apart from every greater one. -/
theorem nearest_integer_lt (hn : n < 2 * binade) (h : n < m) :
    nearest (n * one) 1 < nearest (m * one) 1 := by
  have hstep : nearest (n * one) 1 ≤ nearest ((n + 1) * one) 1 := nearest_integer_mono (by omega)
  have hne : nearest (n * one) 1 ≠ nearest ((n + 1) * one) 1 := by
    intro heq
    have hcounts := congrArg counts heq
    rw [counts_nearest_integer hn.le, counts_nearest_integer hn] at hcounts
    have hone : 0 < one := by
      obtain ⟨k, -, hone⟩ := exists_one_eq
      rw [hone]
      exact Nat.two_pow_pos k
    have := Nat.mul_right_cancel hone hcounts
    omega
  calc nearest (n * one) 1 < nearest ((n + 1) * one) 1 := Nat.lt_of_le_of_ne hstep hne
    _ ≤ nearest (m * one) 1 := nearest_integer_mono h

end Exact

section Integers

variable {a b : Int}

theorem nearest_lt_signWeight (num den : Nat) : nearest num den < signWeight :=
  Nat.lt_of_le_of_lt (nearest_le num den) (by decide)

theorem magnitude_ofInt (a : Int) : (ofInt a).magnitude = nearest (a.natAbs * one) 1 :=
  magnitude_ofParts _ (nearest_lt_signWeight _ _)

theorem negative_ofParts (negative : Bool) {m : Nat} (h : m < signWeight) :
    (ofParts negative m).negative = negative := by
  have hsize : UInt64.size = signWeight + signWeight := rfl
  have hlt : (if negative then signWeight else 0) + m < UInt64.size := by
    split <;> omega
  unfold Binary64.negative ofParts
  rw [UInt64.toNat_ofNat_of_lt' hlt]
  cases negative with
  | true => simp
  | false => simpa using h

theorem negative_ofInt (a : Int) : (ofInt a).negative = decide (a < 0) :=
  negative_ofParts _ (nearest_lt_signWeight _ _)

theorem isNaN_ofInt (a : Int) : (ofInt a).isNaN = false := isNaN_ofParts _ (nearest_le _ _)

theorem orderKey_ofInt (a : Int) : (ofInt a).orderKey
    = if a < 0 then -(nearest (a.natAbs * one) 1 : Int) - 1 else nearest (a.natAbs * one) 1 := by
  unfold orderKey
  rw [negative_ofInt, magnitude_ofInt]
  simp

theorem orderKey_ofInt_mono (h : a ≤ b) : (ofInt a).orderKey ≤ (ofInt b).orderKey := by
  rw [orderKey_ofInt, orderKey_ofInt]
  by_cases ha : a < 0
  · by_cases hb : b < 0
    · have habs : nearest (b.natAbs * one) 1 ≤ nearest (a.natAbs * one) 1 :=
        nearest_integer_mono (by omega)
      rw [if_pos ha, if_pos hb]
      omega
    · rw [if_pos ha, if_neg hb]
      omega
  · have hb : ¬ b < 0 := by omega
    have habs : nearest (a.natAbs * one) 1 ≤ nearest (b.natAbs * one) 1 :=
      nearest_integer_mono (by omega)
    rw [if_neg ha, if_neg hb]
    omega

/-- One of two integers has at most fifty-three binary digits. -/
def Precise (a b : Int) : Prop := a.natAbs < 2 ^ 53 ∨ b.natAbs < 2 ^ 53

theorem orderKey_ofInt_lt (h : a < b) (hp : Precise a b) :
    (ofInt a).orderKey < (ofInt b).orderKey := by
  unfold Precise at hp
  rw [← two_mul_binade] at hp
  rw [orderKey_ofInt, orderKey_ofInt]
  by_cases ha : a < 0
  · by_cases hb : b < 0
    · have hsmall : b.natAbs < 2 * binade := by
        rcases hp with hp | hp
        · omega
        · exact hp
      have habs : nearest (b.natAbs * one) 1 < nearest (a.natAbs * one) 1 :=
        nearest_integer_lt hsmall (by omega)
      rw [if_pos ha, if_pos hb]
      omega
    · rw [if_pos ha, if_neg hb]
      omega
  · have hb : ¬ b < 0 := by omega
    have hsmall : a.natAbs < 2 * binade := by
      rcases hp with hp | hp
      · exact hp
      · omega
    have habs : nearest (a.natAbs * one) 1 < nearest (b.natAbs * one) 1 :=
      nearest_integer_lt hsmall (by omega)
    rw [if_neg ha, if_neg hb]
    omega

theorem isZero_ofInt_iff : (ofInt a).isZero = true ↔ a = 0 := by
  rw [isZero, magnitude_ofInt, beq_iff_eq]
  constructor
  · intro h
    by_contra hne
    have hpos : nearest (0 * one) 1 < nearest (a.natAbs * one) 1 :=
      nearest_integer_lt (by decide) (by omega)
    omega
  · rintro rfl
    exact nearest_zero

end Integers

end DocQuery.Binary64
