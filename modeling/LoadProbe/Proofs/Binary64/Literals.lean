import LoadProbe.Binary64.Literal
import LoadProbe.Proofs.Text.Numerals
import LoadProbe.Proofs.Text.Runs

/-!
# What is read as a number

The grammar of decimal literals, apart from their values: an optional sign, then a word for what is
not finite or digits, in the digits a point or none, and behind them an exponent or none.

* `Binary64.IsMantissa`, `Binary64.IsExponent` and `Binary64.IsLiteral` are the grammar.
* `Binary64.ofText?_isSome_iff`: the literals are read as numbers, and nothing else is.
* `Binary64.isLiteral_of_spellsInteger`: integers are literals.
-/

namespace LoadProbe.Binary64

open LoadProbe.Text

/-- Digits, at least one, with a point among them or none. -/
inductive IsMantissa : List Char → Prop where
  | whole (digits : List Char) (h : IsNumeral digits) : IsMantissa digits
  | pointed (before after : List Char) (h : IsNumeral (before ++ after)) :
      IsMantissa (before ++ '.' :: after)

/-- A letter `e` and a number with a sign or without, or nothing at all. -/
inductive IsExponent : List Char → Prop where
  | absent : IsExponent []
  | marked (mark : Char) (hmark : mark = 'e' ∨ mark = 'E') (negative : Bool)
      (digits cs : List Char) (hsigned : IsSigned digits negative cs) (hdigits : IsNumeral digits) :
      IsExponent (mark :: cs)

/-- A decimal number without a sign. -/
def IsDecimal (cs : List Char) : Prop :=
  ∃ mantissa exponent, IsMantissa mantissa ∧ IsExponent exponent ∧ cs = mantissa ++ exponent

/-- A word for what is no finite number, in any case of letters. -/
def IsWord (cs : List Char) : Prop :=
  String.ofList (cs.map Char.toLower) ∈ ["inf", "infinity", "nan"]

/-- A literal: a word or a decimal number, with a sign or without. -/
def IsLiteral (text : String) : Prop :=
  ∃ negative cs, IsSigned cs negative text.toList ∧ (IsWord cs ∨ IsDecimal cs)

/-! ## Decimal numbers -/

variable {negative : Bool} {before after cs : List Char}

theorem exponent?_isSome_iff :
    (exponent? cs).isSome = true ↔ ∃ negative digits, IsSigned digits negative cs ∧
      IsNumeral digits := by
  have hread : (exponent? cs).isSome = (natOfBase? 10 (splitSign cs).2).isSome := by
    simp only [exponent?, Option.isSome_map]
    cases natOfBase? 10 (splitSign cs).2 <;> rfl
  rw [hread, Option.isSome_iff_exists]
  constructor
  · rintro ⟨n, hn⟩
    exact ⟨_, _, isSigned_splitSign cs, (natOfBase?_eq_some_iff.mp hn).1⟩
  · rintro ⟨negative, digits, hsigned, hnumeral⟩
    rw [hnumeral.splitSign_of_isSigned hsigned]
    exact ⟨_, natOfBase?_of_digits hnumeral⟩

/-- What is made of the digits around a point and of what stands behind them. -/
def finish? (negative : Bool) (before after rest : List Char) : Option Binary64 :=
  let number (exponent : Int) : Option Binary64 :=
    if before.isEmpty && after.isEmpty then none
    else some (ofDecimal negative (natOfDigits (before ++ after)) (exponent - after.length))
  match rest with
  | [] => number 0
  | c :: tail => if c = 'e' ∨ c = 'E' then (exponent? tail).bind number else none

theorem finish?_isSome_iff {rest : List Char} :
    (finish? negative before after rest).isSome = true ↔
      before ++ after ≠ [] ∧ IsExponent rest := by
  have hempty : (before.isEmpty && after.isEmpty) = true ↔ before ++ after = [] := by simp
  unfold finish?
  cases rest with
  | nil => by_cases h : before ++ after = [] <;> simp [hempty, h, IsExponent.absent]
  | cons c tail =>
      have hexponent : IsExponent (c :: tail) ↔
          (c = 'e' ∨ c = 'E') ∧ (exponent? tail).isSome = true := by
        rw [exponent?_isSome_iff]
        constructor
        · rintro ⟨⟩
          exact ⟨‹_›, _, _, ‹_›, ‹_›⟩
        · rintro ⟨hmark, negative, digits, hsigned, hdigits⟩
          exact .marked c hmark negative digits tail hsigned hdigits
      rw [hexponent]
      by_cases hmark : c = 'e' ∨ c = 'E'
      · by_cases hdigits : before ++ after = []
        · simp [hmark, hempty, hdigits]
        · cases hread : exponent? tail <;> simp [hmark, hempty, hdigits, hread]
      · simp [hmark]

/-- The digits after a point, if there is one, and what stands behind them. -/
def afterPoint : List Char → List Char × List Char
  | '.' :: tail => (tail.takeWhile Char.isDigit, tail.dropWhile Char.isDigit)
  | cs => ([], cs)

theorem afterPoint_of_head? (hpoint : cs.head? ≠ some '.') : afterPoint cs = ([], cs) := by
  unfold afterPoint
  split
  · exact absurd rfl hpoint
  · rfl

theorem decimal?_eq (hbefore : ∀ c ∈ before, c.isDigit = true)
    (hrest : ∀ c ∈ cs.head?, c.isDigit = false) :
    decimal? negative (before ++ cs) =
      finish? negative before (afterPoint cs).1 (afterPoint cs).2 := by
  simp only [decimal?, takeWhile_run hbefore hrest, dropWhile_run hbefore hrest]
  cases cs with
  | nil => rfl
  | cons c cs =>
      by_cases hc : c = '.'
      · subst hc
        rfl
      · simp [finish?, afterPoint, hc]

theorem decimal?_pointed (hbefore : ∀ c ∈ before, c.isDigit = true) :
    decimal? negative (before ++ '.' :: cs) =
      finish? negative before (cs.takeWhile Char.isDigit) (cs.dropWhile Char.isDigit) :=
  decimal?_eq hbefore (by simp)

theorem decimal?_whole (hbefore : ∀ c ∈ before, c.isDigit = true)
    (hrest : ∀ c ∈ cs.head?, c.isDigit = false) (hpoint : cs.head? ≠ some '.') :
    decimal? negative (before ++ cs) = finish? negative before [] cs := by
  rw [decimal?_eq hbefore hrest, afterPoint_of_head? hpoint]

/-- An exponent does not go on with what stands before it. -/
theorem IsExponent.head? (h : IsExponent cs) :
    (∀ c ∈ cs.head?, c.isDigit = false) ∧ cs.head? ≠ some '.' := by
  cases h with
  | absent => simp
  | marked mark hmark => rcases hmark with rfl | rfl <;> simp

theorem decimal?_isSome_iff : (decimal? negative cs).isSome = true ↔ IsDecimal cs := by
  constructor
  · intro h
    obtain ⟨before, rest, rfl, hbefore, hrest⟩ := exists_run Char.isDigit cs
    by_cases hpoint : rest.head? = some '.'
    · obtain ⟨tail, rfl⟩ := List.head?_eq_some_iff.mp hpoint
      obtain ⟨after, rest, rfl, hafter, hrest⟩ := exists_run Char.isDigit tail
      rw [decimal?_pointed hbefore, takeWhile_run hafter hrest, dropWhile_run hafter hrest,
        finish?_isSome_iff] at h
      have hdigits : IsNumeral (before ++ after) :=
        ⟨h.1, List.forall_mem_append.mpr ⟨hbefore, hafter⟩⟩
      exact ⟨_, rest, .pointed before after hdigits, h.2, by simp⟩
    · rw [decimal?_whole hbefore hrest hpoint, finish?_isSome_iff, List.append_nil] at h
      exact ⟨before, rest, .whole before ⟨h.1, hbefore⟩, h.2, rfl⟩
  · rintro ⟨mantissa, exponent, hmantissa, hexponent, rfl⟩
    obtain ⟨hdigit, hpoint⟩ := hexponent.head?
    cases hmantissa with
    | whole digits hdigits =>
        rw [decimal?_whole hdigits.isDigit hdigit hpoint, finish?_isSome_iff, List.append_nil]
        exact ⟨hdigits.ne_nil, hexponent⟩
    | pointed before after hdigits =>
        obtain ⟨hbefore, hafter⟩ := List.forall_mem_append.mp hdigits.isDigit
        rw [List.append_assoc, List.cons_append, decimal?_pointed hbefore,
          takeWhile_run hafter hdigit, dropWhile_run hafter hdigit, finish?_isSome_iff]
        exact ⟨hdigits.ne_nil, hexponent⟩

/-! ## Literals -/

theorem isWord_iff : IsWord cs ↔ String.ofList (cs.map Char.toLower) = "inf" ∨
    String.ofList (cs.map Char.toLower) = "infinity" ∨
    String.ofList (cs.map Char.toLower) = "nan" := by
  simp [IsWord]

theorem IsMantissa.exists_cons (h : IsMantissa cs) :
    ∃ c rest, cs = c :: rest ∧ (c.isDigit = true ∨ c = '.') := by
  cases h with
  | whole digits hdigits =>
      obtain ⟨c, rest, rfl⟩ := List.exists_cons_of_ne_nil hdigits.ne_nil
      exact ⟨c, rest, rfl, .inl (hdigits.isDigit c List.mem_cons_self)⟩
  | pointed before after hdigits =>
      cases before with
      | nil => exact ⟨'.', after, rfl, .inr rfl⟩
      | cons c before => exact ⟨c, _, rfl, .inl (hdigits.isDigit c List.mem_cons_self)⟩

/-- Neither a word nor a decimal number starts with a sign. -/
theorem head?_of_isWord_or_isDecimal (h : IsWord cs ∨ IsDecimal cs) {sign : Char}
    (hsign : sign = '+' ∨ sign = '-') : cs.head? ≠ some sign := by
  intro hhead
  obtain ⟨rest, rfl⟩ := List.head?_eq_some_iff.mp hhead
  rcases h with hword | ⟨mantissa, exponent, hmantissa, -, hsplit⟩
  · have hfirst : ∀ w : String, String.ofList ((sign :: rest).map Char.toLower) = w →
        w.toList.head? = some sign.toLower := by
      rintro w rfl
      simp
    rcases isWord_iff.mp hword with h | h | h
    all_goals
      have hletter := hfirst _ h
      rcases hsign with rfl | rfl <;> exact absurd hletter (by decide)
  · obtain ⟨c, rest', rfl, hc⟩ := hmantissa.exists_cons
    obtain rfl : sign = c := (List.cons.inj hsplit).1
    rcases hsign with rfl | rfl <;> exact absurd hc (by decide)

/-- The literals are read as numbers, and nothing else is. -/
theorem ofText?_isSome_iff {text : String} : (ofText? text).isSome = true ↔ IsLiteral text := by
  have hread : ∀ negative cs, splitSign text.toList = (negative, cs) →
      ((ofText? text).isSome = true ↔ IsWord cs ∨ IsDecimal cs) := by
    intro negative cs hsplit
    have hdecimal : (decimal? negative cs).isSome = true ↔ IsDecimal cs := decimal?_isSome_iff
    rw [isWord_iff, ← hdecimal]
    simp only [ofText?, hsplit]
    split
    case isTrue hinfinite => simp [hinfinite, ← or_assoc]
    case isFalse hfinite =>
        rw [← or_assoc, or_iff_right hfinite]
        split <;> simp [*]
  constructor
  · intro h
    exact ⟨_, _, isSigned_splitSign text.toList, (hread _ _ rfl).mp h⟩
  · rintro ⟨negative, cs, hsigned, hcs⟩
    have hplus := head?_of_isWord_or_isDecimal hcs (.inl rfl)
    have hminus := head?_of_isWord_or_isDecimal hcs (.inr rfl)
    exact (hread negative cs (splitSign_of_isSigned hsigned hplus hminus)).mpr hcs

/-- Integers are literals. -/
theorem isLiteral_of_spellsInteger {text : String} {n : Int} (h : SpellsInteger text n) :
    IsLiteral text := by
  obtain ⟨negative, digits, hsigned, hnumeral, -⟩ := h
  exact ⟨negative, digits, hsigned, .inr ⟨digits, [], .whole digits hnumeral, .absent, by simp⟩⟩

end LoadProbe.Binary64
