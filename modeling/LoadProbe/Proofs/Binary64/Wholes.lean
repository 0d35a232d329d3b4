import Mathlib
import LoadProbe.Binary64.Notation
import LoadProbe.Proofs.Binary64.Rounding
import LoadProbe.Proofs.Text.Runs

/-!
# Whole numbers written out

Whole numbers below `2 ^ 53` are floating-point numbers, and their neighbours are less than one
away.  So no shorter decimal stands for such a number, and written out it shows its own digits.

* `Binary64.units_ofNat`: the number is not rounded.
* `Binary64.roundsTo_iff`: of whole numbers only the number itself rounds to it.
* `Binary64.spell_ofNat`: written out in full it is its digits in base ten.
-/

namespace LoadProbe.Binary64

variable {x : Binary64} {n : Nat}

/-! ## Whole numbers are exact -/

theorem roundQuotient_of_dvd {d : Nat} (hd : 0 < d) (h : d ∣ n) : roundQuotient n d = n / d := by
  rw [roundQuotient, Nat.mod_eq_zero_of_dvd h, if_pos (.inl hd)]

theorem units_ofNat (hpos : 1 ≤ n) (hn : n < 2 ^ 53) : (ofNat n).units = n * scale := by
  have hround := roundable_ofNat hpos (hn.trans (by decide))
  have hunits := hround.units_nearest
  rw [Nat.div_one, Nat.one_mul] at hunits
  -- The last of the 53 places is not below that of one.
  have hplaces : Nat.log2 (n * scale) - 52 ≤ Nat.log2 scale := by
    have hlog : Nat.log2 (n * scale) < 53 + Nat.log2 scale := by
      rw [Nat.log2_lt (Nat.mul_pos hpos scale_pos).ne', pow_add, two_pow_log2_scale]
      exact Nat.mul_lt_mul_of_pos_right hn scale_pos
    omega
  have hdvd : 2 ^ (Nat.log2 (n * scale) - 52) ∣ n * scale := by
    refine Dvd.dvd.mul_left ?_ n
    calc 2 ^ (Nat.log2 (n * scale) - 52) ∣ 2 ^ Nat.log2 scale := pow_dvd_pow 2 hplaces
      _ = scale := two_pow_log2_scale
  rw [roundQuotient_of_dvd (Nat.two_pow_pos _) hdvd, Nat.div_mul_cancel hdvd] at hunits
  exact hunits

/-- The numbers around a whole number that is small enough are less than two apart. -/
theorem two_pow_shift_lt (hunits : x.units = n * scale) (hn : n < 2 ^ 53) :
    2 ^ x.shift < 2 * scale := by
  have hscale := scale_pos
  by_cases hsmall : x.pattern < fractionLimit
  · have hshift : x.shift = 0 := by
      rw [shift, Nat.div_eq_of_lt hsmall]
    rw [hshift, pow_zero]
    omega
  · have hsignificand : fractionLimit ≤ x.significand := by
      rw [significand, if_neg hsmall]
      exact Nat.le_add_left _ _
    have hlt : fractionLimit * 2 ^ x.shift < fractionLimit * (2 * scale) := by
      calc fractionLimit * 2 ^ x.shift ≤ x.units := Nat.mul_le_mul_right _ hsignificand
        _ = n * scale := hunits
        _ < 2 ^ 53 * scale := Nat.mul_lt_mul_of_pos_right hn hscale
        _ = fractionLimit * (2 * scale) := by norm_num [fractionLimit]; ring
    exact Nat.lt_of_mul_lt_mul_left hlt

/-! ## The shortest digits -/

/-- Another whole number is too far away to round to this one. -/
theorem roundsTo_iff (hunits : x.units = n * scale) (hpos : 1 ≤ n) (hn : n < 2 ^ 53) (k : Nat) :
    roundsTo x (4 * (k * scale)) 1 = true ↔ k = n := by
  have hspacing := two_pow_shift_lt hunits hn
  have hspacing_pos : 0 < 2 ^ x.shift := Nat.two_pow_pos _
  have hscale := scale_pos
  have hone : scale ≤ n * scale := Nat.le_mul_of_pos_left scale hpos
  obtain ⟨below, hbelow_pos, hbelow, hinterval⟩ : ∃ below, 0 < below ∧ below ≤ 2 * 2 ^ x.shift ∧
      x.interval = (4 * (n * scale) - below, 4 * (n * scale) + 2 * 2 ^ x.shift) := by
    simp only [interval, hunits, Nat.pow_eq]
    split
    · exact ⟨_, hspacing_pos, by omega, rfl⟩
    · exact ⟨_, by omega, le_rfl, rfl⟩
  have hlower : k < n → 4 * (k * scale) + 4 * scale ≤ 4 * (n * scale) := by
    intro hlt
    have hle := Nat.mul_le_mul_right scale (Nat.succ_le_of_lt hlt)
    rw [Nat.succ_mul] at hle
    omega
  have hupper : n < k → 4 * (n * scale) + 4 * scale ≤ 4 * (k * scale) := by
    intro hlt
    have hle := Nat.mul_le_mul_right scale (Nat.succ_le_of_lt hlt)
    rw [Nat.succ_mul] at hle
    omega
  constructor
  · intro hrounds
    by_contra hne
    simp only [roundsTo, hinterval, Nat.mul_one] at hrounds
    rcases Nat.lt_or_gt_of_ne hne with hlt | hgt
    · have hfar := hlower hlt
      split at hrounds <;> simp only [decide_eq_true_eq] at hrounds <;> omega
    · have hfar := hupper hgt
      split at hrounds <;> simp only [decide_eq_true_eq] at hrounds <;> omega
  · rintro rfl
    simp only [roundsTo, hinterval, Nat.mul_one]
    split <;> simp only [decide_eq_true_eq] <;> omega

/-- On a grid of whole numbers there is a neighbour only if the number is on the grid itself. -/
theorem neighbour?_eq (hunits : x.units = n * scale) (hpos : 1 ≤ n) (hn : n < 2 ^ 53)
    (exponent : Nat) :
    neighbour? x exponent = if 10 ^ exponent ∣ n then some (n / 10 ^ exponent) else none := by
  have hgrid : 0 < scale * 10 ^ exponent := Nat.mul_pos scale_pos (Nat.pow_pos (by decide))
  have hreads : ∀ m, roundsTo x (4 * m * (scale * 10 ^ exponent)) 1 = true ↔
      m * 10 ^ exponent = n := by
    intro m
    have hmultiple : 4 * m * (scale * 10 ^ exponent) = 4 * (m * 10 ^ exponent * scale) := by ring
    rw [hmultiple]
    exact roundsTo_iff hunits hpos hn _
  have hnone : (-(exponent : Int)).toNat = 0 := by omega
  simp only [neighbour?, hnone, Int.toNat_natCast, Nat.pow_eq, pow_zero, Nat.mul_one, hreads,
    hunits]
  by_cases hdvd : 10 ^ exponent ∣ n
  · have hquotient : n * scale / (scale * 10 ^ exponent) = n / 10 ^ exponent := by
      rw [Nat.mul_comm n, Nat.mul_div_mul_left _ _ scale_pos]
    have hwhole : scale * 10 ^ exponent ∣ n * scale := by
      rw [Nat.mul_comm n]
      exact Nat.mul_dvd_mul_left scale hdvd
    rw [roundQuotient_of_dvd hgrid hwhole, hquotient, if_pos (Nat.div_mul_cancel hdvd), if_pos hdvd]
  · have hoff : ∀ m, m * 10 ^ exponent ≠ n := fun m h => hdvd (Dvd.intro_left m h)
    rw [if_neg (hoff _), if_neg (hoff _), if_neg (hoff _), if_neg hdvd]

/-- The shortest digits are those of a multiple of a power of ten which is the number itself. -/
theorem exists_shortest (hunits : x.units = n * scale) (hpos : 1 ≤ n) (hn : n < 2 ^ 53) :
    ∃ m exponent : Nat, m * 10 ^ exponent = n ∧ shortest x = Digits.ofMultiple m exponent := by
  have hlength : (Nat.toDigits 10 n).length ≤ 16 :=
    (Nat.length_toDigits_le_iff (by decide) (by decide)).mpr (hn.trans (by decide))
  have hlength_pos : 0 < (Nat.toDigits 10 n).length := Nat.length_toDigits_pos
  have hleading : leadingExponent x.units scale = ((Nat.toDigits 10 n).length : Int) - 1 := by
    rw [leadingExponent, hunits, if_pos (Nat.le_mul_of_pos_left scale hpos),
      Nat.mul_div_cancel _ scale_pos]
  generalize (Nat.toDigits 10 n).length = length at hlength hlength_pos hleading
  have hexponent : ∀ count < length, (length : Int) - 1 - count = (length - 1 - count : Nat) := by
    intro count hcount
    omega
  have hall : neighbour? x (length - 1 - (length - 1 : Nat)) = some n := by
    rw [hexponent _ (by omega), neighbour?_eq hunits hpos hn]
    simp
  unfold shortest
  simp only [hleading]
  generalize hfound : (List.range 17).findSome? _ = found
  cases found with
  | none =>
      have hnone :=
        List.findSome?_eq_none_iff.mp hfound (length - 1) (List.mem_range.mpr (by omega))
      rw [hall] at hnone
      cases hnone
  | some d =>
      obtain ⟨earlier, count, later, hrange, hcount, hearlier⟩ :=
        List.findSome?_eq_some_iff.mp hfound
      -- The digits of the number itself are enough, so no more of them are tried.
      have hfew : count < length := by
        have hmem : length - 1 ∈ List.range 17 := List.mem_range.mpr (by omega)
        have hincrease := List.pairwise_lt_range (n := 17)
        rw [hrange] at hmem hincrease
        have hafter := (List.pairwise_cons.mp (List.pairwise_append.mp hincrease).2.1).1
        rcases List.mem_append.mp hmem with hbefore | hbehind
        · have hnone := hearlier _ hbefore
          rw [hall] at hnone
          cases hnone
        · rcases List.mem_cons.mp hbehind with heq | hlater
          · omega
          · have hlt := hafter _ hlater
            omega
      obtain ⟨m, hm, rfl⟩ := Option.map_eq_some_iff.mp hcount
      rw [hexponent count hfew] at hm ⊢
      rw [neighbour?_eq hunits hpos hn] at hm
      obtain ⟨hdvd, hm⟩ := Option.ite_none_right_eq_some.mp hm
      obtain rfl := Option.some.inj hm
      exact ⟨_, _, Nat.div_mul_cancel hdvd, rfl⟩

/-! ## The digits -/

theorem toDigits_mul_pow {m : Nat} (hm : 0 < m) (exponent : Nat) :
    Nat.toDigits 10 (m * 10 ^ exponent) = Nat.toDigits 10 m ++ List.replicate exponent '0' := by
  induction exponent with
  | zero => simp
  | succ exponent ih =>
      have hpos : 0 < m * 10 ^ exponent := Nat.mul_pos hm (Nat.pow_pos (by decide))
      calc Nat.toDigits 10 (m * 10 ^ (exponent + 1))
          = Nat.toDigits 10 (10 * (m * 10 ^ exponent) + 0) := by congr 1; ring
        _ = Nat.toDigits 10 (m * 10 ^ exponent) ++ ['0'] :=
          (Nat.toDigits_append_toDigits (by decide) hpos (by decide)).symm
        _ = Nat.toDigits 10 m ++ List.replicate (exponent + 1) '0' := by
          rw [ih, List.replicate_succ', List.append_assoc]

/-- The zeros that were moved into the exponent are written out again. -/
theorem spellPositional_ofMultiple {m : Nat} (hm : 0 < m) (exponent : Nat) :
    (spellPositional "" (Digits.ofMultiple m exponent)).toList =
      Nat.toDigits 10 (m * 10 ^ exponent) := by
  obtain ⟨zeros, hall⟩ : ∃ zeros, Nat.toDigits 10 m =
      (Digits.ofMultiple m exponent).digits ++ List.replicate zeros '0' := by
    obtain ⟨zeros, hsplit, -⟩ := Text.exists_copies '0' (Nat.toDigits 10 m).reverse
    refine ⟨zeros, ?_⟩
    rw [← List.reverse_inj, hsplit]
    simp [Digits.ofMultiple]
  have hlength := congrArg List.length hall
  rw [List.length_append, List.length_replicate] at hlength
  have hpos : 0 < (Nat.toDigits 10 m).length := Nat.length_toDigits_pos
  have hpoint : (Digits.ofMultiple m exponent).point = (Nat.toDigits 10 m).length + exponent := rfl
  rw [toDigits_mul_pow hm, spellPositional, hpoint, if_neg (by omega)]
  generalize (Digits.ofMultiple m exponent).digits = digits at hall hlength
  generalize (Nat.toDigits 10 m).length = length at hlength hpos
  have hbefore : ((length : Int) + exponent).toNat = length + exponent := by omega
  have hfilled : length + exponent - digits.length = zeros + exponent := by omega
  simp only [hbefore]
  rw [if_pos (by omega), hfilled, hall, List.append_assoc, List.replicate_append_replicate]
  simp

/-- Written out in full a whole number is its digits in base ten. -/
theorem spell_ofNat (hpos : 1 ≤ n) (hn : n < 2 ^ 53) :
    (plain.spell (ofNat n)).toList = Nat.toDigits 10 n := by
  have hunits := units_ofNat hpos hn
  obtain ⟨hnan, hinfinite, hnegative⟩ :=
    (roundable_ofNat hpos (hn.trans (by decide))).isFinite_nearest
  have hnumber : ofPattern false (nearest (n * scale) 1) = ofNat n := rfl
  rw [hnumber] at hnan hinfinite hnegative
  have hzero : (ofNat n).isZero = false := by
    refine decide_eq_false fun hpattern => ?_
    have hunits_zero : (ofNat n).units = 0 := by
      rw [units, significand, hpattern, if_pos (by decide), Nat.zero_mul]
    exact absurd (hunits.symm.trans hunits_zero) (Nat.mul_pos hpos scale_pos).ne'
  obtain ⟨m, exponent, rfl, hshortest⟩ := exists_shortest hunits hpos hn
  have hm : 0 < m := Nat.pos_of_mul_pos_right hpos
  simp only [Notation.spell, hnan, hinfinite, hnegative, hzero, Bool.false_eq_true, if_false]
  have hpositional : ∀ e, plain.positional e = true := fun _ => rfl
  rw [if_pos (hpositional _), hshortest, String.toList_append]
  exact spellPositional_ofMultiple hm exponent

end LoadProbe.Binary64
