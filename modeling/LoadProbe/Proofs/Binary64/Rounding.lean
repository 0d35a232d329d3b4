import Mathlib
import LoadProbe.Binary64.Basic

/-!
# What rounding adds

Every operation on floating-point numbers computes exactly and rounds once.  A rounded number has 53
significant bits, so rounding adds at most one part in `2 ^ 52`.

* `Binary64.units_ofPattern`: the value of a number whose pattern is given by its significand and
  its exponent.
* `Roundable.units_nearest_le` and `Roundable.le_units_nearest`: a rounded number is between the
  power of two below the exact one and a little more than that one.
* `Portion.saturate_ceil_le`: the part of `n` that a factor clearly below one makes is at most `n`,
  whatever rounding adds.
-/

namespace LoadProbe.Binary64

/-! ## Patterns -/

theorem pattern_ofPattern {p : Nat} (hp : p < Word.signedLimit64) :
    (ofPattern false p).pattern = p := by
  have hword : p < Word.limit64 := hp.trans (by decide)
  simp only [ofPattern, pattern, Bool.false_eq_true, if_false, UInt64.toNat_ofNat']
  rw [Nat.mod_eq_of_lt hword, Nat.mod_eq_of_lt hp]

theorem negative_ofPattern {p : Nat} (hp : p < Word.signedLimit64) :
    (ofPattern false p).negative = false := by
  have hword : p < Word.limit64 := hp.trans (by decide)
  simp only [ofPattern, negative, Bool.false_eq_true, if_false, UInt64.toNat_ofNat']
  rw [Nat.mod_eq_of_lt hword]
  exact decide_eq_false (Nat.not_le_of_lt hp)

/-- The value of a number with `exponent` and a significand of 53 bits.  A significand of `2 ^ 53`
carries into the exponent. -/
theorem units_ofPattern {exponent significand : Nat} (hexponent : exponent < 2045)
    (hlow : fractionLimit ≤ significand) (hhigh : significand ≤ 2 * fractionLimit) :
    (ofPattern false (exponent * fractionLimit + significand)).units =
      significand * 2 ^ exponent := by
  have hpattern : (ofPattern false (exponent * fractionLimit + significand)).pattern =
      exponent * fractionLimit + significand := by
    apply pattern_ofPattern
    simp only [fractionLimit, Word.signedLimit64] at *
    omega
  have hnormal : ¬ exponent * fractionLimit + significand < fractionLimit := by omega
  simp only [units, shift, Binary64.significand, hpattern, if_neg hnormal, Nat.pow_eq]
  rcases hhigh.lt_or_eq with hlt | rfl
  · have hquotient : (exponent * fractionLimit + significand) / fractionLimit = exponent + 1 := by
      simp only [fractionLimit] at *
      omega
    have hremainder : (exponent * fractionLimit + significand) % fractionLimit + fractionLimit =
        significand := by
      simp only [fractionLimit] at *
      omega
    rw [hquotient, hremainder, Nat.add_sub_cancel]
  · have hquotient : (exponent * fractionLimit + 2 * fractionLimit) / fractionLimit =
        exponent + 2 := by
      simp only [fractionLimit]
      omega
    have hremainder : (exponent * fractionLimit + 2 * fractionLimit) % fractionLimit = 0 := by
      simp only [fractionLimit]
      omega
    have hcarry : exponent + 2 - 1 = exponent + 1 := rfl
    rw [hquotient, hremainder, hcarry, pow_succ]
    ring

/-! ## Rounding -/

theorem div_le_roundQuotient (n d : Nat) : n / d ≤ roundQuotient n d := by
  unfold roundQuotient
  split
  · exact le_rfl
  · exact Nat.le_succ _

theorem roundQuotient_le (n d : Nat) : roundQuotient n d ≤ n / d + 1 := by
  unfold roundQuotient
  split
  · exact Nat.le_succ _
  · exact le_rfl

/-- The quotients that have 53 significant bits or more and are not too great. -/
structure Roundable (n d : Nat) : Prop where
  low : fractionLimit ≤ n / d
  high : Nat.log2 (n / d) < 2045 + 52

namespace Roundable

variable {n d : Nat}

theorem ne_zero (h : Roundable n d) : n / d ≠ 0 :=
  fun hzero => absurd h.low (by simp [hzero])

/-- The place of the first of the 53 bits. -/
theorem pow_log2 (h : Roundable n d) :
    fractionLimit * 2 ^ (Nat.log2 (n / d) - 52) = 2 ^ Nat.log2 (n / d) := by
  have hlog : 52 ≤ Nat.log2 (n / d) := (Nat.le_log2 h.ne_zero).mpr h.low
  have hsplit : 2 ^ Nat.log2 (n / d) = 2 ^ 52 * 2 ^ (Nat.log2 (n / d) - 52) := by
    rw [← pow_add, Nat.add_sub_cancel' hlog]
  rw [hsplit]
  norm_num [fractionLimit]

/-- The quotient in units of the last place of 53 bits. -/
theorem quotient_bounds (h : Roundable n d) :
    fractionLimit ≤ n / (d * 2 ^ (Nat.log2 (n / d) - 52)) ∧
      n / (d * 2 ^ (Nat.log2 (n / d) - 52)) < 2 * fractionLimit := by
  have hpos : 0 < 2 ^ (Nat.log2 (n / d) - 52) := Nat.two_pow_pos _
  rw [← Nat.div_div_eq_div_mul]
  constructor
  · rw [Nat.le_div_iff_mul_le hpos, h.pow_log2]
    exact Nat.log2_self_le h.ne_zero
  · rw [Nat.div_lt_iff_lt_mul hpos, Nat.mul_assoc, h.pow_log2, ← pow_succ']
    exact Nat.lt_log2_self

theorem units_nearest (h : Roundable n d) :
    (ofPattern false (nearest n d)).units =
      roundQuotient n (d * 2 ^ (Nat.log2 (n / d) - 52)) * 2 ^ (Nat.log2 (n / d) - 52) := by
  obtain ⟨hlow, hhigh⟩ := h.quotient_bounds
  have hexponent : Nat.log2 (n / d) - 52 < 2045 := by
    have hlog := h.high
    omega
  have hrounded := roundQuotient_le n (d * 2 ^ (Nat.log2 (n / d) - 52))
  have hnearest : nearest n d = (Nat.log2 (n / d) - 52) * fractionLimit +
      roundQuotient n (d * 2 ^ (Nat.log2 (n / d) - 52)) := by
    simp only [nearest, Nat.pow_eq]
    apply Nat.min_eq_right
    simp only [infinityPattern, fractionLimit] at *
    omega
  rw [hnearest]
  exact units_ofPattern hexponent (hlow.trans (div_le_roundQuotient _ _)) (by omega)

/-- Rounding adds at most one part in `2 ^ 52`. -/
theorem units_nearest_le (h : Roundable n d) :
    fractionLimit * ((ofPattern false (nearest n d)).units * d) ≤ (fractionLimit + 1) * n := by
  have hpow := h.pow_log2
  rw [h.units_nearest]
  generalize 2 ^ (Nat.log2 (n / d) - 52) = place at hpow ⊢
  -- One unit of the last place is a part of `2 ^ 52` of the power of two below the quotient.
  have hplace : fractionLimit * (d * place) ≤ n := by
    calc fractionLimit * (d * place) = d * (fractionLimit * place) := by ring
      _ ≤ d * (n / d) := Nat.mul_le_mul_left d (hpow ▸ Nat.log2_self_le h.ne_zero)
      _ ≤ n := Nat.mul_div_le n d
  calc fractionLimit * (roundQuotient n (d * place) * place * d)
      ≤ fractionLimit * ((n / (d * place) + 1) * place * d) := by
        gcongr
        exact roundQuotient_le n (d * place)
    _ = fractionLimit * (d * place * (n / (d * place))) + fractionLimit * (d * place) := by ring
    _ ≤ fractionLimit * n + n := by
        gcongr
        exact Nat.mul_div_le n (d * place)
    _ = (fractionLimit + 1) * n := by ring

/-- Rounding does not go below a power of two. -/
theorem le_units_nearest (h : Roundable n d) :
    2 ^ Nat.log2 (n / d) ≤ (ofPattern false (nearest n d)).units := by
  rw [h.units_nearest, ← h.pow_log2]
  exact Nat.mul_le_mul_right _ (h.quotient_bounds.1.trans (div_le_roundQuotient _ _))

/-- The rounded quotient is a number, and it is not negative. -/
theorem isFinite_nearest (h : Roundable n d) :
    (ofPattern false (nearest n d)).isNaN = false ∧
      (ofPattern false (nearest n d)).isInfinite = false ∧
      (ofPattern false (nearest n d)).negative = false := by
  obtain ⟨-, hhigh⟩ := h.quotient_bounds
  have hrounded := roundQuotient_le n (d * 2 ^ (Nat.log2 (n / d) - 52))
  have hlog := h.high
  have hlt : nearest n d < infinityPattern := by
    simp only [nearest, Nat.pow_eq]
    refine (Nat.min_le_right _ _).trans_lt ?_
    simp only [infinityPattern, fractionLimit] at *
    omega
  have hlimit : nearest n d < Word.signedLimit64 := hlt.trans (by decide)
  rw [isNaN, isInfinite, pattern_ofPattern hlimit]
  exact ⟨decide_eq_false hlt.not_gt, decide_eq_false hlt.ne, negative_ofPattern hlimit⟩

end Roundable

/-! ## Parts of a number -/

theorem saturate_le (toNat : Binary64 → Nat) (x : Binary64) : saturate toNat x ≤ Word.max64 := by
  unfold saturate
  split
  · exact Nat.zero_le _
  split
  · exact le_rfl
  · exact Nat.min_le_left _ _

theorem fractionLimit_le_scale : 2 * fractionLimit ≤ scale := by
  decide +kernel

theorem scale_pos : 0 < scale := by
  decide +kernel

/-- One is a power of two of units. -/
theorem two_pow_log2_scale : 2 ^ Nat.log2 scale = scale := by
  decide +kernel

/-- Numbers of 65 bits are far below the greatest floating-point number. -/
theorem log2_lt_of_lt {n : Nat} (hn : n < 2 * Word.limit64 * scale) : Nat.log2 n < 2045 + 52 := by
  have hlog : Nat.log2 scale ≤ 1100 := by decide +kernel
  have hpow := two_pow_log2_scale
  generalize Nat.log2 scale = exponent at hlog hpow
  rcases Nat.eq_zero_or_pos n with rfl | hpos
  · decide
  · rw [Nat.log2_lt hpos.ne']
    calc n < 2 * Word.limit64 * scale := hn
      _ = 2 ^ (65 + exponent) := by
        rw [← hpow, pow_add]
        norm_num [Word.limit64]
      _ ≤ 2 ^ (2045 + 52) := Nat.pow_le_pow_right (by decide) (by omega)

section

variable {n : Nat} (hpos : 1 ≤ n) (hn : n < Word.limit64)
include hpos hn

/-- The value of a number of at most 64 bits, before it is rounded. -/
theorem roundable_ofNat : Roundable (n * scale) 1 where
  low := by
    have hscale := fractionLimit_le_scale
    have hle : scale ≤ n * scale := Nat.le_mul_of_pos_left scale hpos
    rw [Nat.div_one]
    omega
  high := by
    rw [Nat.div_one]
    exact log2_lt_of_lt (Nat.mul_lt_mul_of_pos_right (by omega) scale_pos)

theorem units_ofNat_le : fractionLimit * (ofNat n).units ≤ (fractionLimit + 1) * (n * scale) := by
  have hle := (roundable_ofNat hpos hn).units_nearest_le
  rwa [mul_one] at hle

theorem scale_le_units_ofNat : scale ≤ (ofNat n).units := by
  have hround := roundable_ofNat hpos hn
  have hlog : Nat.log2 scale ≤ Nat.log2 (n * scale / 1) := by
    rw [Nat.le_log2 hround.ne_zero, Nat.div_one]
    exact (Nat.log2_self_le scale_pos.ne').trans (Nat.le_mul_of_pos_left scale hpos)
  calc scale = 2 ^ Nat.log2 scale := two_pow_log2_scale.symm
    _ ≤ 2 ^ Nat.log2 (n * scale / 1) := Nat.pow_le_pow_right (by decide) hlog
    _ ≤ (ofNat n).units := hround.le_units_nearest

end

/-- Rounding twice adds less than the factor `portion / one` takes away.  The first rounding makes
`factor` of `whole`, the second one `product` of the factor and the portion. -/
theorem le_of_rounded_twice {limit one portion whole factor product : Nat} (hlimit : 0 < limit)
    (hadded : 127 * (limit + 1) * (limit + 1) ≤ 128 * limit * limit) (hone : 0 < one)
    (hproduct : limit * (product * one) ≤ (limit + 1) * (portion * factor))
    (hfactor : limit * factor ≤ (limit + 1) * whole) (hportion : 128 * portion ≤ 127 * one) :
    product ≤ whole := by
  -- Scaled by all denominators, both roundings and the portion are factors of whole numbers.
  have hkey : 128 * limit * limit * one * product ≤ 128 * limit * limit * one * whole := by
    calc 128 * limit * limit * one * product
        = 128 * limit * (limit * (product * one)) := by ring
      _ ≤ 128 * limit * ((limit + 1) * (portion * factor)) := Nat.mul_le_mul_left _ hproduct
      _ = (limit + 1) * (128 * portion) * (limit * factor) := by ring
      _ ≤ (limit + 1) * (127 * one) * ((limit + 1) * whole) :=
        Nat.mul_le_mul (Nat.mul_le_mul_left _ hportion) hfactor
      _ = 127 * (limit + 1) * (limit + 1) * (one * whole) := by ring
      _ ≤ 128 * limit * limit * (one * whole) := Nat.mul_le_mul_right _ hadded
      _ = 128 * limit * limit * one * whole := by ring
  exact Nat.le_of_mul_le_mul_left hkey (by positivity)

/-- A factor of a half or more that is clearly below one. -/
structure Portion (q : Binary64) : Prop where
  isNaN_eq : q.isNaN = false
  isInfinite_eq : q.isInfinite = false
  negative_eq : q.negative = false
  half_le : scale ≤ 2 * q.units
  lt_one : 128 * q.units ≤ 127 * scale

namespace Portion

variable {q : Binary64} {n : Nat} (h : Portion q) (hpos : 1 ≤ n) (hn : n < Word.limit64)
include h hpos hn

/-- The product of a portion and a number, before it is rounded. -/
theorem roundable : Roundable (q.units * (ofNat n).units) scale where
  low := by
    have hscale := fractionLimit_le_scale
    have hhalf := h.half_le
    rw [Nat.le_div_iff_mul_le scale_pos]
    exact Nat.mul_le_mul (by omega) (scale_le_units_ofNat hpos hn)
  high := by
    have hle := units_ofNat_le hpos hn
    have hone := h.lt_one
    have hword : n * scale < Word.limit64 * scale := Nat.mul_lt_mul_of_pos_right hn scale_pos
    refine log2_lt_of_lt ?_
    calc q.units * (ofNat n).units / scale ≤ (ofNat n).units :=
          Nat.div_le_of_le_mul (Nat.mul_le_mul_right _ (by omega))
      _ < 2 * (Word.limit64 * scale) := by
        simp only [fractionLimit] at hle
        omega
      _ = 2 * Word.limit64 * scale := (Nat.mul_assoc _ _ _).symm

/-- Nothing but the rounding of the product has to be considered. -/
theorem mul_ofNat : q.mul (ofNat n) =
    ofPattern false (nearest (q.units * (ofNat n).units) scale) := by
  obtain ⟨hnan, hinfinite, hnegative⟩ := (roundable_ofNat hpos hn).isFinite_nearest
  have hfactor : ofPattern false (nearest (n * scale) 1) = ofNat n := rfl
  rw [hfactor] at hnan hinfinite hnegative
  simp [mul, h.isNaN_eq, h.isInfinite_eq, h.negative_eq, hnan, hinfinite, hnegative]

/-- The rounded product is at most the number. -/
theorem units_mul_le : (q.mul (ofNat n)).units ≤ n * scale := by
  rw [h.mul_ofNat hpos hn]
  exact le_of_rounded_twice (by decide) (by decide) scale_pos
    (h.roundable hpos hn).units_nearest_le (units_ofNat_le hpos hn) h.lt_one

end Portion

/-- The portion of a number, rounded and then up, is at most the number. -/
theorem Portion.saturate_ceil_le {q : Binary64} (h : Portion q) {n : Nat} (hpos : 1 ≤ n) :
    saturate ceil (q.mul (ofNat n)) ≤ n := by
  rcases lt_or_ge n Word.limit64 with hn | hn
  · have hinfinite : (q.mul (ofNat n)).isInfinite = false := by
      rw [h.mul_ofNat hpos hn]
      exact (h.roundable hpos hn).isFinite_nearest.2.1
    have hceil : (q.mul (ofNat n)).ceil ≤ n := by
      have hle := h.units_mul_le hpos hn
      have hscale := scale_pos
      rw [ceil, ← Nat.lt_succ_iff, Nat.div_lt_iff_lt_mul scale_pos, Nat.succ_mul]
      omega
    unfold saturate
    split
    · exact Nat.zero_le _
    · rw [hinfinite, if_neg Bool.false_ne_true]
      exact (Nat.min_le_right _ _).trans hceil
  · refine (saturate_le _ _).trans ?_
    simp only [Word.max64, Word.limit64] at *
    omega

end LoadProbe.Binary64
