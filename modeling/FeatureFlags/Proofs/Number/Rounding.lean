import FeatureFlags.Number.Binary

/-!
# Rounding keeps the order

A greater quotient is never rounded to a smaller number.  Within one binade this is because the
significand is the quotient by a fixed power of two, rounded to a whole number.  A quotient in a
higher binade has a greater shift, and then a greater word, whatever the fractions are: a significand
that is rounded up is at most the first of the next binade.

The values of words are in the same order as the words, so what is rounded may be computed from
words that have been rounded before.

## What is here

* `BinaryFormat.roundHalfEven_mono`, `nearest_mono`: rounding keeps the order of numerators.
* `BinaryFormat.units_mono`: the values of words are in the order of the words.
* `Binary.atMost_iff`, `less_iff`: numbers without a sign are ordered as their words.
-/

set_option autoImplicit false

namespace FeatureFlags

namespace BinaryFormat

/-! ## Whole numbers -/

theorem div_le_roundHalfEven (num den : Nat) : num / den ≤ roundHalfEven num den := by
  simp only [roundHalfEven]
  split
  · exact Nat.le_refl _
  · split
    · exact Nat.le_succ _
    · exact Nat.le_add_right _ _

theorem roundHalfEven_le_div_succ (num den : Nat) : roundHalfEven num den ≤ num / den + 1 := by
  simp only [roundHalfEven]
  split
  · exact Nat.le_succ _
  · split
    · exact Nat.le_refl _
    · exact Nat.add_le_add_left (Nat.le_of_lt_succ (Nat.mod_lt _ Nat.two_pos)) _

theorem roundHalfEven_mono {m n : Nat} (h : m ≤ n) (den : Nat) :
    roundHalfEven m den ≤ roundHalfEven n den := by
  rcases Nat.lt_or_eq_of_le (Nat.div_le_div_right (c := den) h) with hlt | heq
  · calc roundHalfEven m den ≤ m / den + 1 := roundHalfEven_le_div_succ m den
      _ ≤ n / den := hlt
      _ ≤ roundHalfEven n den := div_le_roundHalfEven n den
  · have hm := Nat.div_add_mod m den
    have hn := Nat.div_add_mod n den
    have hmod : m % den ≤ n % den := by
      rw [heq] at hm
      omega
    simp only [roundHalfEven, heq]
    grind

/-! ## Words -/

variable (f : BinaryFormat)

/-- How many bits of a quotient are dropped. -/
def shift (num den : Nat) : Nat := Nat.log2 (num / den) - f.fractionBits

theorem shift_mono {m n : Nat} (h : m ≤ n) (den : Nat) : f.shift m den ≤ f.shift n den := by
  refine Nat.sub_le_sub_right ?_ _
  have hdiv : m / den ≤ n / den := Nat.div_le_div_right h
  rcases Nat.eq_zero_or_pos (m / den) with hzero | hpos
  · rw [hzero, Nat.log2_zero]
    exact Nat.zero_le _
  · have hlow : 2 ^ (m / den).log2 ≤ n / den :=
      Nat.le_trans (Nat.log2_self_le (Nat.ne_of_gt hpos)) hdiv
    exact (Nat.le_log2 (Nat.ne_of_gt (Nat.lt_of_lt_of_le hpos hdiv))).2 hlow

/-- When its last bits are dropped, a quotient has no more than the hidden bit and the fraction. -/
theorem div_shift_lt (num den : Nat) :
    num / (den * Nat.pow 2 (f.shift num den)) < 2 * f.fractionBound := by
  rw [← Nat.div_div_eq_div_mul, Nat.pow_eq, Nat.div_lt_iff_lt_mul (Nat.two_pow_pos _)]
  have hbits : (num / den).log2 + 1 ≤ 1 + f.fractionBits + f.shift num den := by
    rw [shift]
    omega
  calc num / den < 2 ^ ((num / den).log2 + 1) := Nat.lt_log2_self
    _ ≤ 2 ^ (1 + f.fractionBits + f.shift num den) := Nat.pow_le_pow_right Nat.two_pos hbits
    _ = 2 * f.fractionBound * 2 ^ f.shift num den := by
      rw [Nat.pow_add, Nat.pow_add, Nat.pow_one]
      rfl

/-- A quotient of which bits are dropped keeps the hidden bit. -/
theorem fractionBound_le_div_shift {num den : Nat} (h : 0 < f.shift num den) :
    f.fractionBound ≤ num / (den * Nat.pow 2 (f.shift num den)) := by
  rw [← Nat.div_div_eq_div_mul, Nat.pow_eq, Nat.le_div_iff_mul_le (Nat.two_pow_pos _)]
  have hbits : f.fractionBits + f.shift num den = (num / den).log2 := by
    rw [shift] at h ⊢
    omega
  have hne : num / den ≠ 0 := by
    intro hzero
    rw [shift, hzero, Nat.log2_zero, Nat.zero_sub] at h
    exact Nat.lt_irrefl 0 h
  calc f.fractionBound * 2 ^ f.shift num den
      = 2 ^ (num / den).log2 := by
        rw [← hbits, Nat.pow_add]
        rfl
    _ ≤ num / den := Nat.log2_self_le hne

/-- **Rounding keeps the order.**  Across binades, a significand that is rounded up reaches the first
word of the next one at most. -/
theorem nearest_mono {m n : Nat} (h : m ≤ n) (den : Nat) : f.nearest m den ≤ f.nearest n den := by
  have hword : f.shift m den * f.fractionBound +
        roundHalfEven m (den * Nat.pow 2 (f.shift m den)) ≤
      f.shift n den * f.fractionBound + roundHalfEven n (den * Nat.pow 2 (f.shift n den)) := by
    rcases Nat.lt_or_eq_of_le (f.shift_mono h den) with hlt | heq
    · -- the two words may only meet at the first of the higher binade
      have hup : roundHalfEven m (den * Nat.pow 2 (f.shift m den)) ≤ 2 * f.fractionBound :=
        Nat.le_trans (roundHalfEven_le_div_succ _ _) (f.div_shift_lt m den)
      have hdown : f.fractionBound ≤ roundHalfEven n (den * Nat.pow 2 (f.shift n den)) :=
        Nat.le_trans (f.fractionBound_le_div_shift (Nat.zero_lt_of_lt hlt))
          (div_le_roundHalfEven _ _)
      have hbinade : (f.shift m den + 1) * f.fractionBound ≤ f.shift n den * f.fractionBound :=
        Nat.mul_le_mul_right _ hlt
      rw [Nat.succ_mul] at hbinade
      omega
    · rw [heq]
      exact Nat.add_le_add_left (roundHalfEven_mono h _) _
  exact Nat.le_min.2 ⟨Nat.le_trans (Nat.min_le_left _ _) hword, Nat.min_le_right _ _⟩

theorem units_lt (word : Nat) :
    f.units word < f.fractionBound * Nat.pow 2 (word / f.fractionBound) := by
  have hfraction : word % f.fractionBound < f.fractionBound := Nat.mod_lt _ (Nat.two_pow_pos _)
  simp only [units]
  split
  · next hzero =>
    rw [hzero]
    exact Nat.lt_of_lt_of_eq hfraction (Nat.mul_one _).symm
  · next hne =>
    obtain ⟨e, he⟩ := Nat.exists_eq_succ_of_ne_zero hne
    rw [he, Nat.succ_sub_one, Nat.pow_eq, Nat.pow_eq, Nat.pow_succ', ← Nat.mul_assoc]
    exact Nat.mul_lt_mul_of_pos_right (by omega) (Nat.two_pow_pos e)

theorem le_units {word : Nat} (h : 0 < word / f.fractionBound) :
    f.fractionBound * Nat.pow 2 (word / f.fractionBound - 1) ≤ f.units word := by
  simp only [units, if_neg (Nat.ne_of_gt h)]
  exact Nat.mul_le_mul_right _ (Nat.le_add_right _ _)

/-- The values of words are in the order of the words. -/
theorem units_mono {v w : Nat} (h : v ≤ w) : f.units v ≤ f.units w := by
  have hexponent : v / f.fractionBound ≤ w / f.fractionBound := Nat.div_le_div_right h
  rcases Nat.lt_or_eq_of_le hexponent with hlt | heq
  · have hbinade : f.fractionBound * Nat.pow 2 (v / f.fractionBound) ≤
        f.fractionBound * Nat.pow 2 (w / f.fractionBound - 1) :=
      Nat.mul_le_mul_left _ (Nat.pow_le_pow_right Nat.two_pos (Nat.le_sub_one_of_lt hlt))
    calc f.units v ≤ f.fractionBound * Nat.pow 2 (v / f.fractionBound) :=
          Nat.le_of_lt (f.units_lt v)
      _ ≤ f.fractionBound * Nat.pow 2 (w / f.fractionBound - 1) := hbinade
      _ ≤ f.units w := f.le_units (Nat.zero_lt_of_lt hlt)
  · have hv := Nat.div_add_mod v f.fractionBound
    have hw := Nat.div_add_mod w f.fractionBound
    rw [heq] at hv
    have hmod : v % f.fractionBound ≤ w % f.fractionBound := by omega
    simp only [units, heq]
    split
    · exact hmod
    · exact Nat.mul_le_mul_right _ (Nat.add_le_add_left hmod _)

end BinaryFormat

/-! ## Numbers -/

namespace Binary

variable {f : BinaryFormat}

theorem isNaN_round (negative : Bool) (num den : Nat) :
    (round negative num den : Binary f).isNaN = false :=
  decide_eq_false (Nat.not_lt.2 (Nat.min_le_right _ _))

theorem isNaN_ofNat (n : Nat) : (ofNat n : Binary f).isNaN = false := isNaN_round _ _ _

/-- Numbers without a sign are ordered by their words. -/
theorem atMost_iff {x y : Binary f} (hx : x.negative = false) (hy : y.negative = false)
    (hxnan : x.isNaN = false) (hynan : y.isNaN = false) :
    x.atMost y = true ↔ x.magnitude ≤ y.magnitude := by
  simp [atMost, rank, hx, hy, hxnan, hynan]

theorem less_iff {x y : Binary f} (hx : x.negative = false) (hy : y.negative = false)
    (hxnan : x.isNaN = false) (hynan : y.isNaN = false) :
    x.less y = true ↔ x.magnitude < y.magnitude := by
  simp [less, rank, hx, hy, hxnan, hynan]

end Binary

end FeatureFlags
