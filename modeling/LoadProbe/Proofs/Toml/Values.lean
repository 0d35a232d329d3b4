import LoadProbe.Proofs.Binary64.Spelling
import LoadProbe.Proofs.Toml.Strings

/-!
# Written values

A value that is written is read back, whatever line follows.

* `Toml.word?_append` reads a word, `Toml.digitRun?_of_digits` and `Toml.signedRun?_of_digits` the
  digits in one.
* `Toml.number?_integer` and `Toml.number?_float` are the two kinds of numbers.
* `Toml.Scalar.ReadsBack` says of a number that it is finite and that its spelling is read as the
  number.
* `Toml.value?_write?`: the text of a value is read as the value.
-/

namespace LoadProbe.Toml

open LoadProbe.Binary64 LoadProbe.Settings LoadProbe.Text

/-! ## Words -/

theorem ne_of_isWordCharacter {c d : Char} (hc : isWordCharacter c = true)
    (hd : isWordCharacter d = false) : c ≠ d := by
  rintro rfl
  rw [hc] at hd
  cases hd

/-- A word does not go on with these characters. -/
def EndsWord (rest : List Char) : Prop := ∀ c, rest.head? = some c → isWordCharacter c = false

theorem endsWord_cons {c : Char} (hc : isWordCharacter c = false) (rest : List Char) :
    EndsWord (c :: rest) := by
  intro d hd
  obtain rfl : c = d := by simpa using hd
  exact hc

theorem word?_append {w rest : List Char} (hne : w ≠ []) (hw : ∀ c ∈ w, isWordCharacter c = true)
    (hrest : EndsWord rest) : word? (w ++ rest) = some (w, rest) := by
  have hsplit : splitWord (w ++ rest) = (w, rest) := by
    rw [splitWord, Text.takeWhile_run hw hrest, Text.dropWhile_run hw hrest]
  rw [word?, hsplit]
  cases w with
  | nil => exact absurd rfl hne
  | cons c w => rfl

theorem isWordCharacter_of_isDigit {c : Char} (h : c.isDigit = true) :
    isWordCharacter c = true := by
  simp [isWordCharacter, Char.isAlphanum, h]

/-- A value that starts like a word is one. -/
theorem value?_append {w rest : List Char} (hne : w ≠ []) (hw : ∀ c ∈ w, isWordCharacter c = true)
    (hrest : EndsWord rest) (fuel : Nat) :
    value? (fuel + 1) (w ++ rest) = wordValue? w rest := by
  have hword := word?_append hne hw hrest
  obtain ⟨c, w', rfl⟩ := List.exists_cons_of_ne_nil hne
  -- No bracket, sign or quote is part of a word.
  have hother : ∀ {d : Char} {cs tail : List Char}, isWordCharacter d = false →
      c :: cs ≠ d :: tail := fun hd heq =>
    ne_of_isWordCharacter (hw c List.mem_cons_self) hd (List.cons.inj heq).1
  rw [List.cons_append] at hword ⊢
  unfold value?
  split
  case h_1 heq => exact absurd heq (hother (by decide))
  case h_2 heq => exact absurd heq (hother (by decide))
  case h_3 heq => exact absurd heq (hother (by decide))
  case h_4 heq => exact absurd heq (hother (by decide))
  case h_5 heq => exact absurd heq (hother (by decide))
  case h_6 =>
      rw [hword]
      rfl

/-! ## Digits -/

variable {digits : List Char} {leadingZeros : Bool}

/-- After the first digit all the others are read. -/
theorem digitRun?_after (hdigits : ∀ c ∈ digits, c.isDigit = true) {leadingZero : Bool}
    (hzero : leadingZeros = true ∨ leadingZero = false) :
    digitRun? 10 leadingZeros { first := false, leadingZero } digits = some (digits, []) := by
  induction digits with
  | nil => simp [digitRun?]
  | cons c digits ih =>
      have hvalue := digitValue?_of_isDigit (hdigits c List.mem_cons_self)
      have hrest := ih fun d hd => hdigits d (List.mem_cons_of_mem c hd)
      rcases hzero with rfl | rfl <;> simp [digitRun?, hvalue, hrest]

/-- Digits are read to their end, unless a zero stands in front of others. -/
theorem digitRun?_of_digits (h : IsNumeral digits)
    (hzero : leadingZeros = true ∨ (digits.head? = some '0' → digits = ['0'])) :
    digitRun? 10 leadingZeros {} digits = some (digits, []) := by
  obtain ⟨c, rest, rfl⟩ := List.exists_cons_of_ne_nil h.ne_nil
  have hvalue := digitValue?_of_isDigit (h.isDigit c List.mem_cons_self)
  have hdigits := fun d hd => h.isDigit d (List.mem_cons_of_mem c hd)
  have hrest : digitRun? 10 leadingZeros { first := false, leadingZero := decide (c = '0') } rest =
      some (rest, []) := by
    by_cases hc : c = '0'
    · rcases hzero with hzeros | hzero
      · exact digitRun?_after hdigits (.inl hzeros)
      · obtain rfl : rest = [] := by simpa [hc] using hzero
        simp [digitRun?]
    · exact digitRun?_after hdigits (.inr (by simpa using hc))
  simp [digitRun?, hvalue, hrest]

/-- An optional minus sign. -/
def IsSign (sign : List Char) : Prop := sign = [] ∨ sign = ['-']

theorem signedRun?_of_digits {sign : List Char} (hsign : IsSign sign) (h : IsNumeral digits)
    (hzero : digits.head? = some '0' → digits = ['0']) :
    signedRun? false (sign ++ digits) = some (sign ++ digits, []) := by
  have hrun : digitRun? 10 false {} digits = some (digits, []) := digitRun?_of_digits h (.inr hzero)
  rcases hsign with rfl | rfl
  · obtain ⟨c, rest, rfl⟩ := List.exists_cons_of_ne_nil h.ne_nil
    have hminus : c ≠ '-' := by
      rintro rfl
      exact absurd (h.isDigit '-' List.mem_cons_self) (by decide)
    simp only [List.nil_append]
    unfold signedRun?
    split
    case h_1 heq => exact absurd (List.cons.inj heq).1 hminus
    case h_2 => exact hrun
  · simp [signedRun?, hrun]

/-! ## Numbers -/

/-- The word consists of digits and minus signs. -/
def IsFigures (w : List Char) : Prop := ∀ c ∈ w, c.isDigit = true ∨ c = '-'

theorem isFigures_append {sign : List Char} (hsign : IsSign sign)
    (hdigits : ∀ c ∈ digits, c.isDigit = true) : IsFigures (sign ++ digits) := by
  intro c hc
  rcases List.mem_append.mp hc with hc | hc
  · rcases hsign with rfl | rfl
    · cases hc
    · exact .inr (List.mem_singleton.mp hc)
  · exact .inl (hdigits c hc)

theorem IsFigures.isWordCharacter {w : List Char} (h : IsFigures w) {c : Char} (hc : c ∈ w) :
    isWordCharacter c = true := by
  rcases h c hc with hdigit | rfl
  · exact isWordCharacter_of_isDigit hdigit
  · decide

/-- No letter is among them. -/
theorem IsFigures.not_mem {w : List Char} (h : IsFigures w) {c : Char} (hc : c.isDigit = false)
    (hminus : c ≠ '-') : c ∉ w := by
  intro hmem
  rcases h c hmem with hdigit | hdash
  · simp [hc] at hdigit
  · exact hminus hdash

variable {w rest sign whole fraction : List Char}

/-- Figures are in base ten. -/
theorem IsFigures.ne_based (h : IsFigures w) {c : Char} (hc : c.isDigit = false) (hminus : c ≠ '-')
    (cs : List Char) : w ≠ '0' :: c :: cs := by
  rintro rfl
  exact h.not_mem hc hminus (by simp)

theorem IsFigures.not_mem_exponent (h : IsFigures w) : 'e' ∉ w ∧ 'E' ∉ w :=
  ⟨h.not_mem (by decide) (by decide), h.not_mem (by decide) (by decide)⟩

/-- Figures before a point are the whole part of a number. -/
theorem IsFigures.number?_point (h : IsFigures w) (rest : List Char) : number? w ('.' :: rest) =
    (word? rest).bind fun after => (signedRun? false w).bind fun before =>
      (digitRun? 10 true {} after.1).bind fun fraction =>
        if before.2.isEmpty then floatFrom? (before.1 ++ '.' :: fraction.1) fraction.2 after.2
        else none := by
  have hexponent := h.not_mem_exponent
  unfold number?
  split
  · exact absurd rfl (h.ne_based (by decide) (by decide) _)
  · exact absurd rfl (h.ne_based (by decide) (by decide) _)
  · exact absurd rfl (h.ne_based (by decide) (by decide) _)
  · simp only [List.contains_eq_mem, hexponent, decide_false, Bool.or_false, Bool.false_eq_true,
      if_false]
    rfl

/-- Figures at the end of a line are an integer. -/
theorem IsFigures.number?_lineEnd (h : IsFigures w) (rest : List Char) :
    number? w ('\n' :: rest) = (integer? w).map (·, '\n' :: rest) := by
  have hexponent := h.not_mem_exponent
  have hn : 'n' ∉ w := h.not_mem (by decide) (by decide)
  have hname : ∀ name : List Char, 'n' ∈ name →
      (if w.head? = some '-' then w.drop 1 else w) ≠ name := by
    rintro name hmem rfl
    split at hmem
    · exact hn (List.mem_of_mem_drop hmem)
    · exact hn hmem
  unfold number?
  split
  · exact absurd rfl (h.ne_based (by decide) (by decide) _)
  · exact absurd rfl (h.ne_based (by decide) (by decide) _)
  · exact absurd rfl (h.ne_based (by decide) (by decide) _)
  · simp only [List.contains_eq_mem, hexponent, decide_false, Bool.or_false, Bool.false_eq_true,
      if_false]
    rw [if_neg (by simpa using hname ['i', 'n', 'f'] (by decide)),
      if_neg (by simpa using hname ['n', 'a', 'n'] (by decide))]
    rfl

/-- Figures are a number wherever a value is expected, unless they are parts of a date. -/
theorem IsFigures.value?_eq (h : IsFigures w) (hne : w ≠ []) (hdate : '-' ∉ w.drop 1)
    (hcolon : rest.head? ≠ some ':') (hrest : EndsWord rest) (fuel : Nat) :
    value? (fuel + 1) (w ++ rest) = number? w rest := by
  rw [value?_append hne (fun c => h.isWordCharacter) hrest]
  -- No name of a value consists of figures, and dates have a dash inside, times a colon behind.
  have hname : ∀ name : List Char, ∀ c ∈ name, c.isDigit = false ∧ c ≠ '-' → w ≠ name := by
    rintro name c hc ⟨hdigit, hminus⟩ rfl
    exact h.not_mem hdigit hminus hc
  have hdates : startsDate w = false := by
    have hT : 'T' ∉ w := h.not_mem (by decide) (by decide)
    have ht : 't' ∉ w := h.not_mem (by decide) (by decide)
    simp only [startsDate, List.contains_eq_mem, hT, ht, hdate, decide_false, Bool.false_and,
      Bool.or_false]
  unfold wordValue?
  have hnumber : ¬(w = ['i', 'n', 'f'] ∨ w = ['n', 'a', 'n']) := by
    rintro (heq | heq) <;> exact hname _ 'n' (by decide) (by decide) heq
  rw [if_neg (hname _ 't' (by decide) (by decide)), if_neg (hname _ 'f' (by decide) (by decide)),
    if_neg hnumber]
  cases w with
  | nil => exact absurd rfl hne
  | cons c w =>
      have hc : (c ≠ '-' && !c.isDigit) = false := by
        rcases h c List.mem_cons_self with hdigit | rfl
        · simp [hdigit]
        · rfl
      simp only [hc, hdates, hcolon, decide_false, Bool.or_false, Bool.false_eq_true, if_false]

/-- Digits are an integer of 64 bits, if the number is one. -/
theorem number?_integer (h : IsNumeral digits) (hzero : digits.head? = some '0' → digits = ['0'])
    (hlimit : natOfDigits digits < Word.signedLimit64) (rest : List Char) :
    number? digits ('\n' :: rest) = some (.integer (natOfDigits digits), '\n' :: rest) := by
  have hfigures : IsFigures digits := fun c hc => .inl (h.isDigit c hc)
  have hrun : signedRun? false digits = some (digits, []) := signedRun?_of_digits (.inl rfl) h hzero
  have hsigned : signed? (String.ofList digits) = some (natOfDigits digits : Int) := by
    have hsigned := @signed?_of_digits (String.ofList digits)
    rw [String.toList_ofList] at hsigned
    exact hsigned h hlimit
  rw [hfigures.number?_lineEnd]
  simp [integer?, hrun, hsigned]

/-- Digits around a point are the number that they spell. -/
theorem number?_float (hsign : IsSign sign) (hpointed : IsPointed whole fraction) {text : String}
    (htext : text.toList = sign ++ (whole ++ '.' :: fraction)) {x : Binary64}
    (hread : ofText? text = some x) (hfinite : x.isFinite = true) (rest : List Char) :
    number? (sign ++ whole) ('.' :: (fraction ++ '\n' :: rest)) =
      some (.float x, '\n' :: rest) := by
  have hfigures := isFigures_append hsign hpointed.isNumeral_whole.isDigit
  have hword : word? (fraction ++ '\n' :: rest) = some (fraction, '\n' :: rest) := by
    refine word?_append hpointed.isNumeral_fraction.ne_nil (fun c hc => ?_)
      (endsWord_cons (by decide) rest)
    exact isWordCharacter_of_isDigit (hpointed.isNumeral_fraction.isDigit c hc)
  have hwhole := signedRun?_of_digits hsign hpointed.isNumeral_whole hpointed.eq_zero
  have hfraction : digitRun? 10 true {} fraction = some (fraction, []) :=
    digitRun?_of_digits hpointed.isNumeral_fraction (.inl rfl)
  have hvalue : finite? (sign ++ whole ++ '.' :: fraction) = some (.float x) := by
    rw [finite?, List.append_assoc, ← htext, String.ofList_toList, hread]
    simp [hfinite]
  rw [hfigures.number?_point, hword]
  simp only [Option.bind_some, hwhole, hfraction, List.isEmpty_nil, if_true, floatFrom?, hvalue,
    Option.map_some]

/-! ## Values -/

/-- The tree that a written value is read as. -/
def Scalar.tree : Scalar → Tree
  | text s => .text s
  | integer n => .integer n
  | float x => .float x
  | bool b => .bool b

/-- A number is finite and its spelling is read as the number. -/
def Scalar.ReadsBack : Scalar → Prop
  | float x => x.isFinite = true ∧ ofText? (notationOfFloats.spell x) = some x
  | _ => True

theorem value?_text (text : String) (fuel : Nat) (rest : List Char) :
    value? (fuel + 1) ((quoted text).toList ++ '\n' :: rest) = some (.text text, '\n' :: rest) := by
  obtain ⟨mark, cs, lines, hmark, hsplit, hstring⟩ :=
    (quotes_quotedAs text.toList).string?_eq ('\n' :: rest) rfl
  rw [String.ofList_toList] at hstring
  rw [quoted, String.toList_ofList, hsplit]
  rcases hmark with rfl | rfl <;> simp [value?, hstring]

theorem value?_integer {n : Nat} (hlimit : n < Word.signedLimit64) (fuel : Nat) (rest : List Char) :
    value? (fuel + 1) ((decimal n).toList ++ '\n' :: rest) = some (.integer n, '\n' :: rest) := by
  have hnumeral := isNumeral_toDigits n
  have hfigures : IsFigures (Nat.toDigits 10 n) := isFigures_append (.inl rfl) hnumeral.isDigit
  have hdate : '-' ∉ (Nat.toDigits 10 n).drop 1 := fun hmem =>
    absurd (hnumeral.isDigit '-' (List.mem_of_mem_drop hmem)) (by decide)
  have hzero : (Nat.toDigits 10 n).head? = some '0' → Nat.toDigits 10 n = ['0'] := by
    by_cases hn : n = 0
    · subst hn
      exact fun _ => rfl
    · exact fun hfirst => absurd hfirst (head?_toDigits hn)
  have hnumber := number?_integer hnumeral hzero (by rwa [natOfDigits_toDigits]) rest
  rw [natOfDigits_toDigits] at hnumber
  rw [decimal, String.toList_ofList, hfigures.value?_eq hnumeral.ne_nil hdate (by simp)
    (endsWord_cons (by decide) rest), hnumber]

theorem value?_float {x : Binary64} (hfinite : x.isFinite = true)
    (hread : ofText? (notationOfFloats.spell x) = some x) (fuel : Nat) (rest : List Char) :
    value? (fuel + 1) ((notationOfFloats.spell x).toList ++ '\n' :: rest) =
      some (.float x, '\n' :: rest) := by
  obtain ⟨whole, fraction, hpointed, hspell⟩ :=
    @exists_spell x notationOfFloats (fun _ => rfl) rfl hfinite
  have hsign : IsSign (if x.negative then ['-'] else []) := by
    split
    · exact .inr rfl
    · exact .inl rfl
  generalize (if x.negative then ['-'] else []) = sign at hspell hsign
  -- The reader takes the sign and the digits up to the point for a word.
  have hdigits := hpointed.isNumeral_whole.isDigit
  have hfigures := isFigures_append hsign hdigits
  have hne : sign ++ whole ≠ [] := fun hnil =>
    hpointed.isNumeral_whole.ne_nil (List.append_eq_nil_iff.mp hnil).2
  have hdate : '-' ∉ (sign ++ whole).drop 1 := by
    intro hmem
    have hwhole : '-' ∈ whole := by
      rcases hsign with rfl | rfl
      · exact List.mem_of_mem_drop hmem
      · exact hmem
    exact absurd (hdigits '-' hwhole) (by decide)
  have hsplit : (notationOfFloats.spell x).toList ++ '\n' :: rest =
      sign ++ whole ++ '.' :: (fraction ++ '\n' :: rest) := by simp [hspell]
  rw [hsplit, hfigures.value?_eq hne hdate (by simp) (endsWord_cons (by decide) _),
    number?_float hsign hpointed hspell hread hfinite]

theorem value?_bool (b : Bool) (fuel : Nat) (rest : List Char) :
    value? (fuel + 1) ((if b then "true" else "false").toList ++ '\n' :: rest) =
      some (.bool b, '\n' :: rest) := by
  have hword : ∀ w : List Char, w ≠ [] → w.all isWordCharacter = true →
      value? (fuel + 1) (w ++ '\n' :: rest) = wordValue? w ('\n' :: rest) :=
    fun w hne hw => value?_append hne (List.all_eq_true.mp hw)
      (endsWord_cons (by decide) rest) fuel
  cases b with
  | true => exact hword ['t', 'r', 'u', 'e'] (by simp) (by decide)
  | false => exact hword ['f', 'a', 'l', 's', 'e'] (by simp) (by decide)

/-- The text of a value is read as the value, up to the end of its line. -/
theorem value?_write? {scalar : Scalar} {text : String} (h : scalar.write? = some text)
    (hread : scalar.ReadsBack) (fuel : Nat) (rest : List Char) :
    value? (fuel + 1) (text.toList ++ '\n' :: rest) = some (scalar.tree, '\n' :: rest) := by
  cases scalar with
  | text s =>
      obtain rfl := Option.some.inj h
      exact value?_text s fuel rest
  | integer n =>
      obtain ⟨hlimit, hdigits⟩ := Option.ite_none_right_eq_some.mp h
      obtain rfl := Option.some.inj hdigits
      exact value?_integer hlimit fuel rest
  | float x =>
      obtain rfl := Option.some.inj h
      exact value?_float hread.1 hread.2 fuel rest
  | bool b =>
      obtain rfl := Option.some.inj h
      exact value?_bool b fuel rest

/-- No text of a value has a carriage return in it. -/
theorem not_mem_return_of_write? {scalar : Scalar} {text : String} (h : scalar.write? = some text)
    (hread : scalar.ReadsBack) : '\r' ∉ text.toList := by
  cases scalar with
  | text s =>
      obtain rfl := Option.some.inj h
      rw [quoted, String.toList_ofList]
      exact (quotes_quotedAs s.toList).not_mem_return
  | integer n =>
      obtain ⟨-, hdigits⟩ := Option.ite_none_right_eq_some.mp h
      obtain rfl := Option.some.inj hdigits
      rw [decimal, String.toList_ofList]
      exact fun hmem => absurd ((isNumeral_toDigits n).isDigit '\r' hmem) (by decide)
  | float x =>
      obtain rfl := Option.some.inj h
      obtain ⟨whole, fraction, hpointed, hspell⟩ :=
        @exists_spell x notationOfFloats (fun _ => rfl) rfl hread.1
      have hwhole : '\r' ∉ whole := fun hmem =>
        absurd (hpointed.isNumeral_whole.isDigit '\r' hmem) (by decide)
      have hfraction : '\r' ∉ fraction := fun hmem =>
        absurd (hpointed.isNumeral_fraction.isDigit '\r' hmem) (by decide)
      rw [hspell]
      split <;> simp [hwhole, hfraction]
  | bool b =>
      obtain rfl := Option.some.inj h
      cases b <;> decide

end LoadProbe.Toml
