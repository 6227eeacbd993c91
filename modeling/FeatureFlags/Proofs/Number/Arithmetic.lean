import FeatureFlags.Proofs.Number.Rounding

/-!
# Sums and quotients in the order of numbers

A sum is rounded even if there is nothing to add.  That makes no difference: the value of a word is
a whole number of units, and the word nearest to it is the word itself.  Only the sign of a zero may
change, which the order does not see.

A quotient is rounded from the exact one, so it is in the order of the numerators, infinity being the
greatest of them.

## What is here

* `BinaryFormat.nearest_units`: a value that has a word is rounded to that word.
* `Binary.rank_zero_add`: a sum with zero.
* `Binary.div_mono`: quotients by a fixed number.
-/

set_option autoImplicit false

namespace FeatureFlags

namespace BinaryFormat

/-! ## Values that have a word -/

theorem roundHalfEven_mul {den : Nat} (h : 0 < den) (n : Nat) :
    roundHalfEven (n * den) den = n := by
  simp [roundHalfEven, Nat.mul_div_cancel n h, h]

variable (f : BinaryFormat)

theorem nearest_eq (num den : Nat) :
    f.nearest num den = min (f.shift num den * f.fractionBound +
      roundHalfEven num (den * Nat.pow 2 (f.shift num den))) f.infinity := rfl

/-- A value without a hidden bit is not shifted. -/
theorem shift_of_fraction {fraction : Nat} (h : fraction < f.fractionBound) :
    f.shift fraction 1 = 0 := by
  rw [shift, Nat.div_one]
  rcases Nat.eq_zero_or_pos fraction with rfl | hpos
  · exact Nat.zero_sub _
  · have hlog : fraction.log2 < f.fractionBits := (Nat.log2_lt (Nat.ne_of_gt hpos)).2 h
    omega

/-- A significand with its hidden bit is shifted by as much as it was before. -/
theorem shift_of_significand {significand : Nat} (hlow : f.fractionBound ≤ significand)
    (hhigh : significand < 2 * f.fractionBound) (e : Nat) :
    f.shift (significand * Nat.pow 2 e) 1 = e := by
  have hpos : 0 < significand := Nat.lt_of_lt_of_le (Nat.two_pow_pos _) hlow
  have hlog : (significand * 2 ^ e).log2 = f.fractionBits + e := by
    rw [Nat.log2_eq_iff (Nat.ne_of_gt (Nat.mul_pos hpos (Nat.two_pow_pos e))), Nat.add_right_comm,
      Nat.pow_add, Nat.pow_add, Nat.pow_succ']
    exact ⟨Nat.mul_le_mul_right _ hlow, Nat.mul_lt_mul_of_pos_right hhigh (Nat.two_pow_pos e)⟩
  rw [shift, Nat.div_one, Nat.pow_eq, hlog]
  omega

/-- **A value that has a word is rounded to it.** -/
theorem nearest_units {word : Nat} (h : word ≤ f.infinity) : f.nearest (f.units word) 1 = word := by
  have hfraction : word % f.fractionBound < f.fractionBound := Nat.mod_lt _ (Nat.two_pow_pos _)
  have hword := Nat.div_add_mod word f.fractionBound
  rw [nearest_eq, Nat.one_mul]
  cases hexponent : word / f.fractionBound with
  | zero =>
    have hsmall : word % f.fractionBound = word := by
      rwa [hexponent, Nat.mul_zero, Nat.zero_add] at hword
    have hunits : f.units word = word := by simp [units, hexponent, hsmall]
    have hround := roundHalfEven_mul Nat.one_pos word
    rw [Nat.mul_one] at hround
    rw [hunits, f.shift_of_fraction (hsmall ▸ hfraction), Nat.zero_mul, Nat.zero_add, Nat.pow_eq,
      Nat.pow_zero, hround, Nat.min_eq_left h]
  | succ e =>
    have hunits : f.units word = (f.fractionBound + word % f.fractionBound) * Nat.pow 2 e := by
      simp [units, hexponent]
    have hpow : 0 < Nat.pow 2 e := Nat.two_pow_pos e
    have hsum : e * f.fractionBound + (f.fractionBound + word % f.fractionBound) = word := by
      rw [hexponent, Nat.mul_comm, Nat.succ_mul] at hword
      omega
    rw [hunits, f.shift_of_significand (Nat.le_add_right _ _) (by omega),
      roundHalfEven_mul hpow, hsum, Nat.min_eq_left h]

theorem nearest_zero {den : Nat} (h : 0 < den) : f.nearest 0 den = 0 := by
  have hshift : f.shift 0 den = 0 := by simp [shift]
  have hround := roundHalfEven_mul h 0
  rw [Nat.zero_mul] at hround
  rw [nearest_eq, hshift, Nat.zero_mul, Nat.zero_add, Nat.pow_eq, Nat.pow_zero, Nat.mul_one, hround,
    Nat.zero_min]

end BinaryFormat

/-! ## Numbers -/

namespace Binary

variable {f : BinaryFormat} {x y : Binary f}

theorem units_eq_zero_of_magnitude (h : x.magnitude = 0) : x.units = 0 := by
  simp [units, BinaryFormat.units, h]

theorem ofNat_zero : (ofNat 0 : Binary f) = zero := by
  simp [ofNat, zero, round, f.nearest_zero Nat.one_pos]

/-- A number that is at least zero has no sign, unless it is zero. -/
theorem rank_eq_magnitude (h : 0 ≤ x.rank) : x.rank = x.magnitude := by
  rw [rank] at h ⊢
  split at h <;> simp_all

/-- Comparisons see the rank of a number alone. -/
theorem less_congr (hrank : x.rank = y.rank) (hnan : x.isNaN = y.isNaN) (b : Binary f) :
    b.less x = b.less y := by
  rw [less, less, hrank, hnan]

theorem atMost_trans {z : Binary f} (h : x.atMost y = true) (h' : y.atMost z = true) :
    x.atMost z = true := by
  simp only [atMost, Bool.and_eq_true, decide_eq_true_eq] at h h' ⊢
  exact ⟨⟨h.1.1, h'.1.2⟩, Int.le_trans h.2 h'.2⟩

theorem less_of_less_of_atMost {b : Binary f} (hless : b.less x = true) (h : x.atMost y = true) :
    b.less y = true := by
  simp only [less, atMost, Bool.and_eq_true, decide_eq_true_eq] at hless h ⊢
  exact ⟨⟨hless.1.1, h.1.2⟩, Int.lt_of_lt_of_le hless.2 h.2⟩

/-! ## Sums with zero -/

theorem nearest_natAbs_signedUnits (hfinite : x.isFinite = true) :
    f.nearest x.signedUnits.natAbs 1 = x.magnitude := by
  have habs : x.signedUnits.natAbs = x.units := by
    rw [signedUnits]
    split <;> simp
  rw [habs, units, f.nearest_units (Nat.le_of_lt (of_decide_eq_true hfinite))]

/-- **A sum with zero is the number itself**, but for the sign of a zero. -/
theorem rank_zero_add (hzero : (zero : Binary f).isFinite = true) (hnan : x.isNaN = false) :
    ((ofNat 0).add x).rank = x.rank ∧ ((ofNat 0).add x).isNaN = false := by
  have hzeroUnits : (zero : Binary f).signedUnits = 0 := by
    simp [signedUnits, units_eq_zero_of_magnitude, zero]
  rw [ofNat_zero, add]
  simp only [isNaN_of_isFinite hzero, hnan, hzero, hzeroUnits, Int.zero_add]
  cases hfinite : x.isFinite with
  | false => simp [hnan]
  | true =>
    have hword := nearest_natAbs_signedUnits hfinite
    refine ⟨?_, isNaN_round _ _ _⟩
    by_cases hsum : x.signedUnits = 0
    · have hmagnitude : x.magnitude = 0 := by
        rw [← hword, hsum]
        exact f.nearest_zero Nat.one_pos
      -- a zero has rank zero with either sign
      simp [round, rank, hword, hmagnitude]
    · have hsign : decide (x.signedUnits < 0) = x.negative := by
        rw [signedUnits] at hsum ⊢
        cases hnegative : x.negative with
        | true =>
          rw [hnegative, if_pos rfl] at hsum
          exact decide_eq_true (by rw [if_pos rfl]; omega)
        | false => exact decide_eq_false (by rw [if_neg Bool.false_ne_true]; omega)
      simp [round, rank, hword, hsum, hsign]

/-! ## Quotients -/

/-- A number can be divided by: it is positive and finite. -/
structure IsDivisor (y : Binary f) : Prop where
  /-- It is finite. -/
  isFinite : y.isFinite = true
  /-- It has no sign. -/
  negative : y.negative = false
  /-- It is not zero. -/
  units_pos : 0 < y.units

namespace IsDivisor

variable (hy : y.IsDivisor)

include hy

theorem div_eq (hx : x.isNaN = false) :
    x.div y =
      if x.isFinite then round x.negative (x.units * f.one) y.units else infinite x.negative := by
  rw [div]
  simp only [hx, isNaN_of_isFinite hy.isFinite, hy.isFinite, hy.negative, Nat.ne_of_gt hy.units_pos, Bool.bne_false]
  cases x.isFinite <;> rfl

theorem isNaN_div (hx : x.isNaN = false) : (x.div y).isNaN = false := by
  rw [hy.div_eq hx]
  split
  · exact isNaN_round _ _ _
  · exact decide_eq_false (Nat.lt_irrefl _)

/-- The quotient of a number that is at least zero is so too. -/
theorem rank_div (hx : x.isNaN = false) (hrank : 0 ≤ x.rank) :
    (x.div y).rank =
      (if x.isFinite then f.nearest (x.units * f.one) y.units else f.infinity : Nat) := by
  rw [hy.div_eq hx]
  cases hsign : x.negative with
  | false => cases x.isFinite <;> rfl
  | true =>
    -- a sign is left only if there is nothing to divide
    have hmagnitude : x.magnitude = 0 := by
      rw [rank, hsign] at hrank
      simp_all
    cases hfinite : x.isFinite with
    | true =>
      rw [units_eq_zero_of_magnitude hmagnitude, Nat.zero_mul]
      simp [rank, round, f.nearest_zero hy.units_pos]
    | false =>
      have hinfinity : f.infinity ≤ x.magnitude := Nat.not_lt.1 (of_decide_eq_false hfinite)
      have hzero : f.infinity = 0 := by omega
      simp [rank, infinite, hzero]

/-- **Quotients are in the order of what is divided.** -/
theorem div_mono {z : Binary f} (hx : (ofNat 0).atMost x = true) (h : x.atMost z = true) :
    (x.div y).atMost (z.div y) = true := by
  simp only [atMost, Bool.and_eq_true, Bool.not_eq_true', decide_eq_true_eq] at hx h ⊢
  obtain ⟨⟨hxnan, hznan⟩, hle⟩ := h
  have hxrank : 0 ≤ x.rank := by
    have hzero : (ofNat 0 : Binary f).rank = 0 := by rw [ofNat_zero]; rfl
    omega
  refine ⟨⟨hy.isNaN_div hxnan, hy.isNaN_div hznan⟩, ?_⟩
  have hzrank := Int.le_trans hxrank hle
  rw [hy.rank_div hxnan hxrank, hy.rank_div hznan hzrank]
  rw [rank_eq_magnitude hxrank, rank_eq_magnitude hzrank] at hle
  have hle : x.magnitude ≤ z.magnitude := Int.ofNat_le.1 hle
  refine Int.ofNat_le.2 ?_
  cases hzfinite : z.isFinite with
  | true =>
    have hxfinite : x.isFinite = true :=
      decide_eq_true (Nat.lt_of_le_of_lt hle (of_decide_eq_true hzfinite))
    simp only [hxfinite, if_true]
    exact f.nearest_mono (Nat.mul_le_mul_right _ (f.units_mono hle)) _
  | false =>
    split
    · exact Nat.min_le_right _ _
    · exact Nat.le_refl _

end IsDivisor

end Binary

end FeatureFlags
