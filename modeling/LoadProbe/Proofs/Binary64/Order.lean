import LoadProbe.Proofs.Binary64.Rounding

/-!
# Rounding keeps the order

The patterns of positive numbers are in the order of the numbers, and rounding goes to the nearest
pattern, so the greater of two quotients is not rounded below the other, whether they have the same
exponent or not, and beyond the greatest number as well.

* `Binary64.nearest_mono` is this of patterns, `Binary64.units_mono` of their values.
* `Portion.saturate_ceil_mono`: the greater of two portions of one number is not rounded below the
  other.
-/

namespace LoadProbe.Binary64

/-! ## Patterns of quotients -/

theorem log2_mono {m n : Nat} (h : m ≤ n) : Nat.log2 m ≤ Nat.log2 n := by
  rw [Nat.log2_eq_log_two, Nat.log2_eq_log_two]
  exact Nat.log_mono_right h

theorem roundQuotient_mono {d m n : Nat} (h : m ≤ n) : roundQuotient m d ≤ roundQuotient n d := by
  have hquotient : m / d ≤ n / d := Nat.div_le_div_right h
  rcases hquotient.lt_or_eq with hlt | heq
  · exact (roundQuotient_le m d).trans ((Nat.succ_le_of_lt hlt).trans (div_le_roundQuotient n d))
  · -- With the same quotient the greater remainder decides.
    have hremainder : m % d ≤ n % d := by
      have hm := Nat.div_add_mod m d
      have hn := Nat.div_add_mod n d
      rw [heq] at hm
      omega
    unfold roundQuotient
    rw [heq]
    split
    case isTrue => split <;> omega
    case isFalse hm =>
        split
        case isTrue hn => omega
        case isFalse => exact le_rfl

/-- In the last place of 53 bits no quotient has more than 53 bits. -/
theorem quotient_lt (n d : Nat) :
    n / (d * 2 ^ (Nat.log2 (n / d) - 52)) < 2 * fractionLimit := by
  have hpos : 0 < 2 ^ (Nat.log2 (n / d) - 52) := Nat.two_pow_pos _
  rw [← Nat.div_div_eq_div_mul, Nat.div_lt_iff_lt_mul hpos]
  calc n / d < 2 ^ (Nat.log2 (n / d) + 1) := Nat.lt_log2_self
    _ ≤ 2 ^ (53 + (Nat.log2 (n / d) - 52)) := Nat.pow_le_pow_right (by decide) (by omega)
    _ = 2 * fractionLimit * 2 ^ (Nat.log2 (n / d) - 52) := by
      rw [pow_add]
      norm_num [fractionLimit]

/-- In the last place of 53 bits a quotient of 53 bits or more has 53 bits. -/
theorem le_quotient {n d : Nat} (h : 52 ≤ Nat.log2 (n / d)) :
    fractionLimit ≤ n / (d * 2 ^ (Nat.log2 (n / d) - 52)) := by
  have hpos : 0 < 2 ^ (Nat.log2 (n / d) - 52) := Nat.two_pow_pos _
  have hne : n / d ≠ 0 := by
    intro hzero
    rw [hzero] at h
    exact absurd h (by decide)
  rw [← Nat.div_div_eq_div_mul, Nat.le_div_iff_mul_le hpos]
  calc fractionLimit * 2 ^ (Nat.log2 (n / d) - 52) = 2 ^ (52 + (Nat.log2 (n / d) - 52)) := by
        rw [pow_add]
        norm_num [fractionLimit]
    _ = 2 ^ Nat.log2 (n / d) := by rw [Nat.add_sub_cancel' h]
    _ ≤ n / d := Nat.log2_self_le hne

theorem nearest_le (n d : Nat) : nearest n d ≤ infinityPattern := Nat.min_le_left _ _

/-- The greater of two quotients has the greater pattern. -/
theorem nearest_mono {d m n : Nat} (h : m ≤ n) : nearest m d ≤ nearest n d := by
  have hlog : Nat.log2 (m / d) ≤ Nat.log2 (n / d) := log2_mono (Nat.div_le_div_right h)
  have hm := quotient_lt m d
  have hrounded := roundQuotient_le m (d * 2 ^ (Nat.log2 (m / d) - 52))
  unfold nearest
  simp only [Nat.pow_eq]
  apply min_le_min_left
  rcases (Nat.sub_le_sub_right hlog 52).lt_or_eq with hlt | heq
  · -- A greater exponent is worth more than all that rounding can add to a smaller one.
    have hn : fractionLimit ≤ n / (d * 2 ^ (Nat.log2 (n / d) - 52)) := le_quotient (by omega)
    have hn' := div_le_roundQuotient n (d * 2 ^ (Nat.log2 (n / d) - 52))
    have hstep : (Nat.log2 (m / d) - 52 + 1) * fractionLimit ≤
        (Nat.log2 (n / d) - 52) * fractionLimit := Nat.mul_le_mul_right _ hlt
    rw [Nat.succ_mul] at hstep
    omega
  · rw [heq]
    apply Nat.add_le_add_left
    exact roundQuotient_mono h

/-! ## Values of patterns -/

theorem significand_lt (x : Binary64) : x.significand < 2 * fractionLimit := by
  unfold significand
  split
  case isTrue h => omega
  case isFalse => have := Nat.mod_lt x.pattern (show 0 < fractionLimit by decide); omega

/-- The greater pattern has the greater value. -/
theorem units_mono {x y : Binary64} (h : x.pattern ≤ y.pattern) : x.units ≤ y.units := by
  have hexponent : x.pattern / fractionLimit ≤ y.pattern / fractionLimit :=
    Nat.div_le_div_right h
  have hx := Nat.div_add_mod x.pattern fractionLimit
  have hy := Nat.div_add_mod y.pattern fractionLimit
  unfold units shift
  simp only [Nat.pow_eq]
  rcases hexponent.lt_or_eq with hlt | heq
  · -- The next exponent starts where the one before ends.
    have hnormal : fractionLimit ≤ y.significand := by
      have hlarge : ¬y.pattern < fractionLimit := by
        intro hsmall
        rw [Nat.div_eq_of_lt hsmall] at hlt
        exact absurd hlt (Nat.not_lt_zero _)
      rw [significand, if_neg hlarge]
      exact Nat.le_add_left _ _
    rcases Nat.eq_zero_or_pos (x.pattern / fractionLimit) with hzero | hpos
    · have hsmall : x.pattern < fractionLimit := by
        rw [hzero, Nat.mul_zero, Nat.zero_add] at hx
        have hmod := Nat.mod_lt x.pattern (show 0 < fractionLimit by decide)
        omega
      rw [significand, if_pos hsmall, hzero]
      calc x.pattern * 2 ^ (0 - 1) = x.pattern := Nat.mul_one _
        _ ≤ y.significand := hsmall.le.trans hnormal
        _ ≤ y.significand * 2 ^ (y.pattern / fractionLimit - 1) :=
          Nat.le_mul_of_pos_right _ (Nat.two_pow_pos _)
    · calc x.significand * 2 ^ (x.pattern / fractionLimit - 1)
          ≤ 2 * fractionLimit * 2 ^ (x.pattern / fractionLimit - 1) :=
            Nat.mul_le_mul_right _ (significand_lt x).le
        _ = fractionLimit * 2 ^ (x.pattern / fractionLimit - 1 + 1) := by
          rw [pow_succ]
          ring
        _ ≤ y.significand * 2 ^ (y.pattern / fractionLimit - 1) :=
          Nat.mul_le_mul hnormal (Nat.pow_le_pow_right (by decide) (by omega))
  · have hremainder : x.pattern % fractionLimit ≤ y.pattern % fractionLimit := by
      rw [heq] at hx
      omega
    rw [heq]
    apply Nat.mul_le_mul_right
    unfold significand
    split
    case isTrue => split <;> omega
    case isFalse => split <;> omega

/-- Confining to 64 bits keeps the order of what is not negative. -/
theorem saturate_ceil_ofPattern_mono {p p' : Nat} (h : p ≤ p') (hp : p' ≤ infinityPattern) :
    saturate ceil (ofPattern false p) ≤ saturate ceil (ofPattern false p') := by
  have hlimit : infinityPattern < Word.signedLimit64 := by decide
  have hfirst := pattern_ofPattern ((h.trans hp).trans_lt hlimit)
  have hsecond := pattern_ofPattern (hp.trans_lt hlimit)
  have hunits : (ofPattern false p).units ≤ (ofPattern false p').units := by
    apply units_mono
    rw [hfirst, hsecond]
    exact h
  have hnan : (ofPattern false p).isNaN = false := by
    rw [isNaN, hfirst]
    exact decide_eq_false (h.trans hp).not_gt
  have hnan' : (ofPattern false p').isNaN = false := by
    rw [isNaN, hsecond]
    exact decide_eq_false hp.not_gt
  have hnegative := negative_ofPattern ((h.trans hp).trans_lt hlimit)
  have hnegative' := negative_ofPattern (hp.trans_lt hlimit)
  simp only [saturate, hnan, hnan', hnegative, hnegative', Bool.false_eq_true, or_self, if_false]
  by_cases hinfinite : (ofPattern false p').isInfinite = true
  · rw [if_pos hinfinite]
    split
    · exact le_rfl
    · exact Nat.min_le_left _ _
  · -- If the greater pattern is finite, so is the smaller one.
    have hfinite : ¬(ofPattern false p).isInfinite = true := by
      simp only [isInfinite, hfirst, hsecond, decide_eq_true_eq] at hinfinite ⊢
      omega
    rw [if_neg hinfinite, if_neg hfinite]
    apply min_le_min_left
    unfold ceil
    exact Nat.div_le_div_right (Nat.add_le_add_right hunits _)

/-! ## Portions of one number -/

theorem isNaN_ofNat (n : Nat) : (ofNat n).isNaN = false := by
  have hle := nearest_le (n * scale) 1
  rw [ofNat, ofRatio, isNaN, pattern_ofPattern (hle.trans_lt (by decide))]
  exact decide_eq_false hle.not_gt

theorem negative_ofNat (n : Nat) : (ofNat n).negative = false :=
  negative_ofPattern ((nearest_le (n * scale) 1).trans_lt (by decide))

/-- A portion is not zero. -/
theorem Portion.isZero_eq {q : Binary64} (h : Portion q) : q.isZero = false := by
  refine decide_eq_false fun hzero => ?_
  have hunits : q.units = 0 := by
    simp [units, significand, shift, hzero]
  have hhalf := h.half_le
  have hscale := scale_pos
  omega

/-- The product of a portion and a number is rounded, or it is infinite with the number. -/
theorem Portion.mul_ofNat_eq_ite {q : Binary64} (h : Portion q) (n : Nat) :
    q.mul (ofNat n) = ofPattern false
      (if (ofNat n).isInfinite then infinityPattern
        else nearest (q.units * (ofNat n).units) scale) := by
  have hnan := isNaN_ofNat n
  have hnegative := negative_ofNat n
  by_cases hinfinite : (ofNat n).isInfinite = true
  · have hzero : (ofNat n).isZero = false := by
      refine decide_eq_false fun hzero => ?_
      have hpattern : (ofNat n).pattern = infinityPattern := of_decide_eq_true hinfinite
      rw [hzero] at hpattern
      exact absurd hpattern (by decide)
    simp [mul, h.isNaN_eq, h.isInfinite_eq, h.negative_eq, h.isZero_eq, hnan, hnegative, hinfinite,
      hzero, infinity]
  · simp [mul, h.isNaN_eq, h.isInfinite_eq, h.negative_eq, hnan, hnegative, hinfinite]

/-- The greater of two portions of a number, rounded and then up, is not below the other. -/
theorem Portion.saturate_ceil_mono {q q' : Binary64} (h : Portion q) (h' : Portion q')
    (hle : q.units ≤ q'.units) (n : Nat) :
    saturate ceil (q.mul (ofNat n)) ≤ saturate ceil (q'.mul (ofNat n)) := by
  rw [h.mul_ofNat_eq_ite, h'.mul_ofNat_eq_ite]
  split
  · exact le_rfl
  · apply saturate_ceil_ofPattern_mono
    · exact nearest_mono (Nat.mul_le_mul_right _ hle)
    · exact nearest_le _ _

end LoadProbe.Binary64
