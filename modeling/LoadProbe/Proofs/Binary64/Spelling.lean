import Mathlib
import LoadProbe.Binary64.Notation
import LoadProbe.Proofs.Text.Numerals

/-!
# Floating-point numbers written out

A finite number that is written out in full, a whole one with a zero after its point, is an optional
minus sign and digits on both sides of a point, without a zero in front of other digits.

* `Binary64.leads_shortest`: the shortest digits of a number do not start with a zero.
* `Binary64.IsPointed` says what stands around a point, `Binary64.exists_spell` that a number is
  spelled so.
-/

namespace LoadProbe.Binary64

open LoadProbe.Text

variable {x : Binary64}

/-! ## The shortest digits -/

theorem significand_pos (hx : x.isZero = false) : 0 < x.significand := by
  have hpattern : x.pattern ≠ 0 := by simpa [isZero] using hx
  unfold significand
  split
  · exact Nat.pos_of_ne_zero hpattern
  · simp only [fractionLimit]
    omega

theorem units_pos (hx : x.isZero = false) : 0 < x.units :=
  Nat.mul_pos (significand_pos hx) (Nat.two_pow_pos _)

/-- Zero does not round to a positive number. -/
theorem interval_pos (hx : x.isZero = false) : 0 < x.interval.1 := by
  have hsignificand := significand_pos hx
  have hspacing : 0 < Nat.pow 2 x.shift := Nat.two_pow_pos _
  have hunits : Nat.pow 2 x.shift ≤ x.units := Nat.le_mul_of_pos_left _ hsignificand
  simp only [interval]
  split <;> omega

theorem not_roundsTo_zero (hx : x.isZero = false) {d : Nat} (hd : 0 < d) :
    roundsTo x 0 d = false := by
  have hlow := Nat.mul_pos (interval_pos hx) hd
  simp only [roundsTo]
  split
  · exact decide_eq_false fun h => absurd h.1 hlow.not_ge
  · exact decide_eq_false fun h => absurd h.1 (Nat.not_lt_zero _)

theorem neighbour?_pos (hx : x.isZero = false) {exponent : Int} {m : Nat}
    (h : neighbour? x exponent = some m) : 0 < m := by
  have hscale : 0 < Nat.pow 10 (-exponent).toNat := Nat.pow_pos (by decide)
  have hzero := not_roundsTo_zero hx hscale
  refine Nat.pos_of_ne_zero fun hm => ?_
  subst hm
  unfold neighbour? at h
  simp only at h
  split at h
  case isTrue hreads =>
      rw [Option.some.inj h, Nat.mul_zero, Nat.zero_mul, hzero] at hreads
      cases hreads
  split at h
  case isTrue hreads =>
      rw [Option.some.inj h, Nat.mul_zero, Nat.zero_mul, hzero] at hreads
      cases hreads
  split at h
  · exact absurd (Option.some.inj h) (Nat.succ_ne_zero _)
  · cases h

/-- There are digits, and the first of them is no zero. -/
structure Leads (digits : List Char) : Prop where
  isNumeral : IsNumeral digits
  head?_ne : digits.head? ≠ some '0'

/-- Zeros at the end do not count. -/
theorem leads_ofMultiple {m : Nat} (hm : 0 < m) (exponent : Int) :
    Leads (Digits.ofMultiple m exponent).digits := by
  have hall := isNumeral_toDigits m
  have hfirst := head?_toDigits hm.ne'
  -- What is left without the zeros at the end starts as before.
  obtain ⟨zeros, hsplit⟩ : (Digits.ofMultiple m exponent).digits <+: Nat.toDigits 10 m := by
    have hsuffix := List.dropWhile_suffix (· = '0') (l := (Nat.toDigits 10 m).reverse)
    simpa [Digits.ofMultiple] using List.reverse_prefix.mpr hsuffix
  have hne : (Digits.ofMultiple m exponent).digits ≠ [] := by
    intro hnil
    have hzeros := List.dropWhile_eq_nil_iff.mp (List.reverse_eq_nil_iff.mp hnil)
    obtain ⟨c, rest, hdigits⟩ := List.exists_cons_of_ne_nil hall.ne_nil
    have hc : c = '0' := by simpa using hzeros c (by simp [hdigits])
    exact hfirst (by rw [hdigits, hc]; rfl)
  rw [← hsplit] at hall hfirst
  refine ⟨⟨hne, fun c hc => hall.isDigit c (List.mem_append_left _ hc)⟩, ?_⟩
  rwa [List.head?_append_of_ne_nil _ hne] at hfirst

theorem leads_shortest (hx : x.isZero = false) : Leads (shortest x).digits := by
  unfold shortest
  simp only
  generalize hfound : (List.range 17).findSome? _ = found
  -- Some number of digits is enough, or the exact value is written.
  cases found with
  | none => exact leads_ofMultiple (units_pos hx) 0
  | some d =>
      obtain ⟨count, -, hattempt⟩ := List.exists_of_findSome?_eq_some hfound
      obtain ⟨m, hm, rfl⟩ := Option.map_eq_some_iff.mp hattempt
      exact leads_ofMultiple (neighbour?_pos hx hm) _

/-! ## Digits around a point -/

/-- The digits before a point and those after it; before it no zero stands in front of others. -/
structure IsPointed (whole fraction : List Char) : Prop where
  isNumeral_whole : IsNumeral whole
  isNumeral_fraction : IsNumeral fraction
  eq_zero : whole.head? = some '0' → whole = ['0']

theorem isNumeral_zero : IsNumeral ['0'] :=
  ⟨List.cons_ne_nil _ _, by simp⟩

theorem isDigit_of_mem_replicate {n : Nat} {c : Char} (hc : c ∈ List.replicate n '0') :
    c.isDigit = true :=
  List.eq_of_mem_replicate hc ▸ rfl

variable {digits : List Char}

theorem isNumeral_replicate_append (h : IsNumeral digits) (n : Nat) :
    IsNumeral (List.replicate n '0' ++ digits) :=
  ⟨List.append_ne_nil_of_right_ne_nil _ h.ne_nil, fun c hc =>
    (List.mem_append.mp hc).elim isDigit_of_mem_replicate (h.isDigit c)⟩

theorem isNumeral_append_replicate (h : IsNumeral digits) (n : Nat) :
    IsNumeral (digits ++ List.replicate n '0') :=
  ⟨List.append_ne_nil_of_left_ne_nil h.ne_nil _, fun c hc =>
    (List.mem_append.mp hc).elim (h.isDigit c) isDigit_of_mem_replicate⟩

theorem isNumeral_take (h : IsNumeral digits) {n : Nat} (hn : 0 < n) :
    IsNumeral (digits.take n) := by
  refine ⟨fun hnil => ?_, fun c hc => h.isDigit c (List.mem_of_mem_take hc)⟩
  exact (List.take_eq_nil_iff.mp hnil).elim hn.ne' h.ne_nil

theorem isNumeral_drop (h : IsNumeral digits) {n : Nat} (hn : n < digits.length) :
    IsNumeral (digits.drop n) := by
  refine ⟨fun hnil => ?_, fun c hc => h.isDigit c (List.mem_of_mem_drop hc)⟩
  exact hn.not_ge (List.drop_eq_nil_iff.mp hnil)

/-- The point stands before the digits, behind them or among them. -/
theorem exists_spellPositional {d : Digits} (hd : Leads d.digits) :
    ∃ whole fraction, IsPointed whole fraction ∧
      (spellPositional ".0" d).toList = whole ++ '.' :: fraction := by
  obtain ⟨hnumeral, hfirst⟩ := hd
  unfold spellPositional
  split
  case isTrue =>
      have hfraction := isNumeral_replicate_append hnumeral (-d.point).toNat
      exact ⟨_, _, ⟨isNumeral_zero, hfraction, fun _ => rfl⟩, by simp⟩
  case isFalse hpoint =>
      have hbefore : 0 < d.point.toNat := by omega
      simp only
      split
      case isTrue =>
          have hwhole := isNumeral_append_replicate hnumeral (d.point.toNat - d.digits.length)
          refine ⟨_, _, ⟨hwhole, isNumeral_zero, fun hzero => absurd ?_ hfirst⟩, by simp⟩
          rwa [List.head?_append_of_ne_nil _ hnumeral.ne_nil] at hzero
      case isFalse hlong =>
          have hwhole := isNumeral_take hnumeral hbefore
          have hfraction := isNumeral_drop hnumeral (Nat.lt_of_not_le hlong)
          refine ⟨_, _, ⟨hwhole, hfraction, fun hzero => absurd ?_ hfirst⟩, by simp⟩
          rwa [List.head?_take, if_neg hbefore.ne'] at hzero

/-- A finite number is spelled as digits around a point where everything is written out. -/
theorem exists_spell {choices : Notation} (hpositional : ∀ e, choices.positional e = true)
    (hmark : choices.wholeMark = ".0") (hfinite : x.isFinite = true) :
    ∃ whole fraction, IsPointed whole fraction ∧
      (choices.spell x).toList =
        (if x.negative then ['-'] else []) ++ (whole ++ '.' :: fraction) := by
  have hpattern : x.pattern < infinityPattern := by simpa [isFinite] using hfinite
  have hnan : x.isNaN = false := by simp [isNaN, hpattern.le]
  have hinfinite : x.isInfinite = false := by simp [isInfinite, hpattern.ne]
  have hsign : (if x.negative = true then "-" else "").toList =
      if x.negative then ['-'] else [] := by split <;> rfl
  simp only [Notation.spell, hnan, hinfinite, hmark, hpositional, if_true, Bool.false_eq_true,
    if_false]
  cases hzero : x.isZero with
  | true =>
      refine ⟨['0'], ['0'], ⟨isNumeral_zero, isNumeral_zero, fun _ => rfl⟩, ?_⟩
      simp [hsign]
  | false =>
      obtain ⟨whole, fraction, hpointed, hspelled⟩ := exists_spellPositional (leads_shortest hzero)
      refine ⟨whole, fraction, hpointed, ?_⟩
      simp [hsign, hspelled]

end LoadProbe.Binary64
