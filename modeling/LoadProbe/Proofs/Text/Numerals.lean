import Mathlib
import LoadProbe.Text.Digits

/-!
# Numerals

A list of decimal digits spells a number in every reader, and the digits of a number are such a
list without a zero in front.

* `Text.natOfBase?_of_digits` and `Text.signed?_of_digits` are the readers on digits.
* `Text.IsSigned` says that there may be a sign in front, `Text.SpellsInteger` that a text spells an
  integer; `Text.signed?_eq_some_iff`: these texts are read, and no others.
* `Text.natOfDigits_toDigits` reads the digits of a number, `Text.head?_toDigits` is about the first
  of them.
-/

namespace LoadProbe.Text

variable {digits : List Char}

/-! ## Digits -/

/-- The list consists of decimal digits, and there is one. -/
structure IsNumeral (digits : List Char) : Prop where
  ne_nil : digits ≠ []
  isDigit : ∀ c ∈ digits, c.isDigit = true

/-- Digits are no letters. -/
theorem toLower_of_isDigit {c : Char} (h : c.isDigit = true) : c.toLower = c := by
  have hnine : c.toNat ≤ 57 := by
    simp only [Char.isDigit, Bool.and_eq_true, decide_eq_true_iff] at h
    exact h.2
  have hupper : ¬(c.val ≥ 'A'.val ∧ c.val ≤ 'Z'.val) := by
    rintro ⟨hletter, -⟩
    have hletter : 65 ≤ c.toNat := hletter
    omega
  exact dif_neg hupper

theorem digitValue?_of_isDigit {c : Char} (h : c.isDigit = true) :
    digitValue? 10 c = some (c.toNat - '0'.toNat) := by
  have hrange : '0' ≤ c ∧ c ≤ '9' := by
    simpa [Char.isDigit, Char.le_def, UInt32.le_iff_toNat_le] using h
  have hnine : c.toNat ≤ 57 := hrange.2
  have hlt : c.toNat - 48 < 10 := by omega
  simp [digitValue?, hrange, hlt]

theorem foldlM_digitValue? (hdigits : ∀ c ∈ digits, c.isDigit = true) (n : Nat) :
    digits.foldlM (fun n c => (digitValue? 10 c).map (10 * n + ·)) n =
      some (digits.foldl (fun n c => 10 * n + (c.toNat - '0'.toNat)) n) := by
  induction digits generalizing n with
  | nil => rfl
  | cons c digits ih =>
      have hfirst := digitValue?_of_isDigit (hdigits c List.mem_cons_self)
      have hrest := ih fun d hd => hdigits d (List.mem_cons_of_mem c hd)
      rw [List.foldlM_cons, hfirst, List.foldl_cons]
      exact hrest _

/-- Digits are read in base ten. -/
theorem natOfBase?_of_digits (h : IsNumeral digits) :
    natOfBase? 10 digits = some (natOfDigits digits) := by
  have hempty : digits.isEmpty = false := by simpa using h.ne_nil
  rw [natOfBase?, hempty, if_neg Bool.false_ne_true]
  exact foldlM_digitValue? h.isDigit 0

theorem isDigit_of_digitValue? {c : Char} {d : Nat} (h : digitValue? 10 c = some d) :
    c.isDigit = true := by
  simp only [digitValue?, Option.filter_eq_some_iff, decide_eq_true_iff] at h
  obtain ⟨hvalue, hlt⟩ := h
  -- A letter counts ten at least.
  split at hvalue
  case isTrue hrange =>
      simpa [Char.isDigit, Char.le_def, UInt32.le_iff_toNat_le] using hrange
  case isFalse =>
      split at hvalue
      case isTrue =>
          have hd := Option.some.inj hvalue
          omega
      case isFalse =>
          split at hvalue
          case isTrue =>
              have hd := Option.some.inj hvalue
              omega
          case isFalse => cases hvalue

theorem isDigit_of_foldlM_digitValue? {n m : Nat}
    (h : digits.foldlM (fun n c => (digitValue? 10 c).map (10 * n + ·)) n = some m) :
    ∀ c ∈ digits, c.isDigit = true := by
  induction digits generalizing n with
  | nil => simp
  | cons c digits ih =>
      rw [List.foldlM_cons] at h
      obtain ⟨k, hfirst, hrest⟩ := Option.bind_eq_some_iff.mp h
      obtain ⟨d, hd, -⟩ := Option.map_eq_some_iff.mp hfirst
      exact List.forall_mem_cons.mpr ⟨isDigit_of_digitValue? hd, ih hrest⟩

/-- Nothing but digits is read in base ten. -/
theorem natOfBase?_eq_some_iff {n : Nat} :
    natOfBase? 10 digits = some n ↔ IsNumeral digits ∧ natOfDigits digits = n := by
  constructor
  · intro h
    have hnumeral : IsNumeral digits := by
      unfold natOfBase? at h
      split at h
      case isTrue => cases h
      case isFalse hempty =>
          exact ⟨fun hnil => hempty (hnil ▸ rfl), isDigit_of_foldlM_digitValue? h⟩
    rw [natOfBase?_of_digits hnumeral] at h
    exact ⟨hnumeral, Option.some.inj h⟩
  · rintro ⟨hnumeral, rfl⟩
    exact natOfBase?_of_digits hnumeral

/-- Digits have no sign. -/
theorem splitSign_of_digits (hdigits : ∀ c ∈ digits, c.isDigit = true) :
    splitSign digits = (false, digits) := by
  unfold splitSign
  split
  · exact absurd (hdigits '-' List.mem_cons_self) (by decide)
  · exact absurd (hdigits '+' List.mem_cons_self) (by decide)
  · rfl

/-- Digits are read as an integer as long as the number stays within 64 bits. -/
theorem signed?_of_digits {text : String} (h : IsNumeral text.toList)
    (hlimit : natOfDigits text.toList < Word.signedLimit64) :
    signed? text = some (natOfDigits text.toList : Int) := by
  simp [signed?, splitSign_of_digits h.isDigit, natOfBase?_of_digits h, hlimit]

/-! ## Signs -/

/-- The characters are the given ones with a sign in front or without. -/
inductive IsSigned (rest : List Char) : Bool → List Char → Prop where
  | bare : IsSigned rest false rest
  | plus : IsSigned rest false ('+' :: rest)
  | minus : IsSigned rest true ('-' :: rest)

theorem isSigned_splitSign (cs : List Char) : IsSigned (splitSign cs).2 (splitSign cs).1 cs := by
  unfold splitSign
  split
  · exact .minus
  · exact .plus
  · exact .bare

/-- Only the first sign is split off. -/
theorem splitSign_of_isSigned {rest cs : List Char} {negative : Bool}
    (h : IsSigned rest negative cs) (hplus : rest.head? ≠ some '+')
    (hminus : rest.head? ≠ some '-') : splitSign cs = (negative, rest) := by
  cases h with
  | plus => rfl
  | minus => rfl
  | bare =>
      unfold splitSign
      split
      · exact absurd rfl hminus
      · exact absurd rfl hplus
      · rfl

/-- A sign stays in front whatever is appended. -/
theorem IsSigned.append {signed : List Char} {negative : Bool} (h : IsSigned digits negative signed)
    (rest : List Char) : IsSigned (digits ++ rest) negative (signed ++ rest) := by
  cases h with
  | bare => exact .bare
  | plus => exact .plus
  | minus => exact .minus

theorem IsNumeral.splitSign_append {signed : List Char} {negative : Bool} (h : IsNumeral digits)
    (hsigned : IsSigned digits negative signed) (rest : List Char) :
    splitSign (signed ++ rest) = (negative, digits ++ rest) := by
  have hfirst : ∀ c, c.isDigit = false → (digits ++ rest).head? ≠ some c := by
    intro c hc hhead
    rw [List.head?_append_of_ne_nil _ h.ne_nil] at hhead
    exact absurd ((h.isDigit c (List.mem_of_mem_head? hhead)).symm.trans hc) (by decide)
  exact splitSign_of_isSigned (hsigned.append rest) (hfirst '+' rfl) (hfirst '-' rfl)

theorem IsNumeral.splitSign_of_isSigned {signed : List Char} {negative : Bool}
    (h : IsNumeral digits) (hsigned : IsSigned digits negative signed) :
    splitSign signed = (negative, digits) := by
  simpa using h.splitSign_append hsigned []

/-- The text spells an integer of 64 bits: decimal digits, with a sign in front or without. -/
def SpellsInteger (text : String) (n : Int) : Prop :=
  ∃ negative digits, IsSigned digits negative text.toList ∧ IsNumeral digits ∧
    n = (if negative then -(natOfDigits digits : Int) else natOfDigits digits) ∧
    -(Word.signedLimit64 : Int) ≤ n ∧ n < Word.signedLimit64

theorem signed?_eq_some_iff {text : String} {n : Int} :
    signed? text = some n ↔ SpellsInteger text n := by
  constructor
  · intro h
    have hsigned := isSigned_splitSign text.toList
    unfold signed? at h
    generalize splitSign text.toList = split at h hsigned
    obtain ⟨negative, digits⟩ := split
    obtain ⟨m, hread, hlimit⟩ := Option.bind_eq_some_iff.mp h
    obtain ⟨hnumeral, rfl⟩ := natOfBase?_eq_some_iff.mp hread
    refine ⟨negative, digits, hsigned, hnumeral, ?_⟩
    cases negative with
    | true =>
        obtain ⟨hle, hn⟩ := Option.ite_none_right_eq_some.mp hlimit
        obtain rfl := Option.some.inj hn
        have hpositive : 0 < Word.signedLimit64 := by decide
        exact ⟨rfl, by omega, by omega⟩
    | false =>
        obtain ⟨hlt, hn⟩ := Option.ite_none_right_eq_some.mp hlimit
        obtain rfl := Option.some.inj hn
        exact ⟨rfl, by omega, by omega⟩
  · rintro ⟨negative, digits, hsigned, hnumeral, hn, hlow, hhigh⟩
    simp only [signed?, hnumeral.splitSign_of_isSigned hsigned, natOfBase?_of_digits hnumeral,
      Option.bind_some]
    cases negative with
    | true =>
        obtain rfl : n = -(natOfDigits digits : Int) := hn
        have hle : natOfDigits digits ≤ Word.signedLimit64 := by omega
        simp [hle]
    | false =>
        obtain rfl : n = natOfDigits digits := hn
        have hlt : natOfDigits digits < Word.signedLimit64 := by omega
        simp [hlt]

/-! ## The digits of a number -/

theorem isNumeral_toDigits (n : Nat) : IsNumeral (Nat.toDigits 10 n) where
  ne_nil := Nat.toDigits_ne_nil
  isDigit c hc := Nat.isDigit_of_mem_toDigits (by decide) (by decide) hc

theorem natOfDigits_toDigits (n : Nat) : natOfDigits (Nat.toDigits 10 n) = n :=
  Nat.ofDigitChars_ten_toDigits

/-- A number other than zero does not start with a zero. -/
theorem head?_toDigits {n : Nat} (hn : n ≠ 0) : (Nat.toDigits 10 n).head? ≠ some '0' := by
  induction n using Nat.strongRecOn with
  | ind n ih =>
      rw [Nat.toDigits_eq_if (by decide)]
      split
      case isTrue hsmall =>
          have hdigit : ∀ d < 10, d ≠ 0 → Nat.digitChar d ≠ '0' := by decide
          simpa using hdigit n hsmall hn
      case isFalse hlarge =>
          have hquotient : n / 10 ≠ 0 := by omega
          have hhead := ih (n / 10) (by omega) hquotient
          rw [List.head?_append_of_ne_nil _ Nat.toDigits_ne_nil]
          exact hhead

end LoadProbe.Text
