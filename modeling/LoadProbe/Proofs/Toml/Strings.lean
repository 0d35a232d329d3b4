import LoadProbe.Proofs.Text.Runs
import LoadProbe.Toml.Reader
import LoadProbe.Toml.Writer

/-!
# Quoted texts

However a text is quoted, the reader gets the text back.

* `Toml.SpellsLine` and `Toml.SpellsBlock` say that what stands between the marks spells a text, in
  a string of one line and in one of several lines.  `Toml.lineString?_of_spells` and
  `Toml.blockString?_of_spells` are the readers on such spellings.
* `Toml.spellsLine_escapedText`, `Toml.spellsBlock_escapedText` are about texts with escapes,
  `Toml.spellsLine_self`, `Toml.spellsBlock_self` about texts as they are.
* `Toml.Quotes` puts the marks around a spelling.  `Toml.quotes_quotedAs`: the style that is chosen
  for a text does so, and `Toml.Quotes.string?_eq`: the reader gets the text back.
-/

namespace LoadProbe.Toml

open LoadProbe.Text

/-! ## Escapes -/

/-- What follows a backslash stands for the character, whatever comes next. -/
structure Escapes (c : Char) (e : List Char) : Prop where
  escape?_eq : ∀ rest, escape? (e ++ rest) = some (c, rest)
  not_mem_return : '\r' ∉ e

/-- The digits of a code below 128 are four, and they spell the code. -/
theorem natOfBase?_hex : ∀ n < 128, ((hex 4 n).toList.map Char.toUpper).length = 4 ∧
    natOfBase? 16 ((hex 4 n).toList.map Char.toUpper) = some n ∧
    '\r' ∉ (hex 4 n).toList.map Char.toUpper := by
  decide +kernel

theorem codePoint?_hex {c : Char} (hc : c.toNat < 128) (rest : List Char) :
    codePoint? 4 ((hex 4 c.toNat).toList.map Char.toUpper ++ rest) = some (c, rest) := by
  obtain ⟨hlength, hcode, -⟩ := natOfBase?_hex c.toNat hc
  generalize (hex 4 c.toNat).toList.map Char.toUpper = digits at hlength hcode
  have htake : (digits ++ rest).take 4 = digits := by rw [← hlength, List.take_left]
  have hdrop : (digits ++ rest).drop 4 = rest := by rw [← hlength, List.drop_left]
  have hvalid : c.toNat.isValidChar := c.valid
  simp only [codePoint?, htake, hdrop, hcode, hlength, bind, Option.bind]
  exact dif_pos hvalid

/-- A character that is neither a control character nor a line end may stand in a string. -/
theorem isStringCharacter_of_not_isControl {c : Char} (hcontrol : isControl c = false)
    (hnewline : c ≠ '\n') : isStringCharacter c = true := by
  by_cases htab : c = '\t'
  · simp [isStringCharacter, htab]
  have hbounds : 0x20 ≤ c.toNat ∧ c.toNat ≠ 0x7f := by
    simpa [isControl, htab, hnewline] using hcontrol
  have hle : ' ' ≤ c := hbounds.1
  simp [isStringCharacter, hle, hbounds.2]

/-- What a character that is not a double quote is shown as. -/
inductive Shows (lines : Bool) (c : Char) : List Char → Prop where
  | plain (hplain : isStringCharacter c = true) (hescape : c ≠ '\\') : Shows lines c [c]
  | lineEnd (hlines : lines = true) (hc : c = '\n') : Shows lines c [c]
  | escape (e : List Char) (h : Escapes c e) : Shows lines c ('\\' :: e)

theorem shows_escaped (lines : Bool) (c : Char) : Shows lines c (escaped lines c) := by
  unfold escaped
  split
  case isTrue hc => exact .escape _ ⟨fun rest => by rw [hc]; rfl, by decide⟩
  split
  case isTrue hc => exact .escape _ ⟨fun rest => by rw [hc]; rfl, by decide⟩
  split
  case isTrue hc =>
      cases lines with
      | true =>
          subst hc
          exact .lineEnd rfl rfl
      | false => exact .escape _ ⟨fun rest => by rw [hc]; rfl, by decide⟩
  split
  case isTrue hc => exact .escape _ ⟨fun rest => by rw [hc]; rfl, by decide⟩
  split
  case isTrue hc => exact .escape _ ⟨fun rest => by rw [hc]; rfl, by decide⟩
  split
  case isTrue hc => exact .escape _ ⟨fun rest => by rw [hc]; rfl, by decide⟩
  split
  case isTrue hcontrol =>
      have hsmall : c.toNat < 128 := by
        simp [isControl] at hcontrol
        omega
      have hreturn := (natOfBase?_hex c.toNat hsmall).2.2
      exact .escape _
        ⟨codePoint?_hex hsmall, List.not_mem_cons_of_ne_of_not_mem (by decide) hreturn⟩
  case isFalse hbackslash hcontrol =>
      rename_i hnewline _ _
      have hplain :=
        isStringCharacter_of_not_isControl (Bool.eq_false_of_not_eq_true hcontrol) hnewline
      exact .plain hplain hbackslash

/-! ## Strings of one line -/

variable {mark : Char} {text body : List Char}

/-- What stands between the marks of a string of one line spells the text. -/
inductive SpellsLine (mark : Char) : (text body : List Char) → Prop where
  | nil : SpellsLine mark [] []
  | plain (c : Char) {text body : List Char} (hmark : c ≠ mark)
      (hplain : isStringCharacter c = true) (hescape : ¬(c = '\\' ∧ mark = '"'))
      (rest : SpellsLine mark text body) :
      SpellsLine mark (c :: text) (c :: body)
  | escape (c : Char) (e : List Char) {text body : List Char} (hmark : mark = '"')
      (hescape : Escapes c e) (rest : SpellsLine mark text body) :
      SpellsLine mark (c :: text) ('\\' :: e ++ body)

theorem lineString?_of_spells (h : SpellsLine mark text body) {fuel : Nat}
    (hfuel : body.length < fuel) (rest : List Char) :
    lineString? mark fuel (body ++ mark :: rest) = some (text, rest) := by
  -- Along the spelling; each item of it takes a character at least and one unit of fuel.
  induction h generalizing fuel with
  | nil =>
      obtain ⟨fuel, rfl⟩ := Nat.exists_eq_add_one.mpr hfuel
      simp [lineString?]
  | plain c hmark hplain hescape _ ih =>
      obtain ⟨fuel, rfl⟩ := Nat.exists_eq_add_one.mpr (Nat.zero_lt_of_lt hfuel)
      rw [List.length_cons] at hfuel
      simp [lineString?, hmark, hescape, hplain, ih (Nat.lt_of_succ_lt_succ hfuel)]
  | escape c e hmark hescape _ ih =>
      obtain ⟨fuel, rfl⟩ := Nat.exists_eq_add_one.mpr (Nat.zero_lt_of_lt hfuel)
      subst hmark
      simp only [List.length_cons, List.length_append] at hfuel
      simp [lineString?, hescape.escape?_eq, ih (by omega : _ < fuel)]

/-- The first character between the marks is no mark. -/
theorem SpellsLine.head?_ne (h : SpellsLine mark text body) : body.head? ≠ some mark := by
  cases h with
  | nil => simp
  | plain c hmark => simpa using hmark
  | escape c e hmark =>
      subst hmark
      simp

theorem ne_return_of_isStringCharacter {c : Char} (h : isStringCharacter c = true) : c ≠ '\r' := by
  rintro rfl
  simp [isStringCharacter] at h

theorem SpellsLine.not_mem_return (h : SpellsLine mark text body) : '\r' ∉ body := by
  induction h with
  | nil => simp
  | plain c _ hplain _ _ ih =>
      exact List.not_mem_cons_of_ne_of_not_mem (ne_return_of_isStringCharacter hplain).symm ih
  | escape c e _ hescape _ ih => simp [hescape.not_mem_return, ih]

/-- Within double quotes a text may have escapes. -/
theorem spellsLine_escapedText (run : Nat) (text : List Char) :
    SpellsLine '"' text (escapedText false run text) := by
  induction text generalizing run with
  | nil => exact .nil
  | cons c text ih =>
      unfold escapedText
      split
      case isTrue hc =>
          subst hc
          exact .escape '"' ['"'] rfl ⟨fun rest => rfl, by decide⟩ (ih 0)
      case isFalse hc =>
          have hshows := shows_escaped false c
          generalize escaped false c = shown at hshows ⊢
          cases hshows with
          | plain hplain hescape => exact .plain c hc hplain (fun h => hescape h.1) (ih 0)
          | lineEnd hlines => cases hlines
          | escape e hescape => exact .escape c e rfl hescape (ih 0)

/-- Within single quotes a text stands as it is. -/
theorem spellsLine_self {text : List Char}
    (h : ∀ c ∈ text, c ≠ '\'' ∧ isStringCharacter c = true) : SpellsLine '\'' text text := by
  induction text with
  | nil => exact .nil
  | cons c text ih =>
      obtain ⟨hmark, hplain⟩ := h c List.mem_cons_self
      refine .plain c hmark hplain (by decide ∘ And.right) (ih fun d hd => ?_)
      exact h d (List.mem_cons_of_mem c hd)

/-! ## Strings of several lines -/

/-- What stands between the marks of a string of several lines spells the text, if `run` marks that
belong to the text have just been written. -/
inductive SpellsBlock (mark : Char) : (run : Nat) → (text body : List Char) → Prop where
  | nil (run : Nat) : SpellsBlock mark run [] []
  | mark {run : Nat} {text body : List Char} (hrun : run < 2)
      (rest : SpellsBlock mark (run + 1) text body) :
      SpellsBlock mark run (mark :: text) (mark :: body)
  | plain (run : Nat) (c : Char) {text body : List Char} (hmark : c ≠ mark)
      (hplain : c = '\n' ∨ isStringCharacter c = true) (hescape : ¬(c = '\\' ∧ mark = '"'))
      (rest : SpellsBlock mark 0 text body) : SpellsBlock mark run (c :: text) (c :: body)
  | escape (run : Nat) (c : Char) (e : List Char) {text body : List Char} (hmark : mark = '"')
      (hescape : Escapes c e) (rest : SpellsBlock mark 0 text body) :
      SpellsBlock mark run (c :: text) ('\\' :: e ++ body)

theorem SpellsBlock.not_mem_return {run : Nat} (h : SpellsBlock mark run text body)
    (hmark : mark ≠ '\r') : '\r' ∉ body := by
  induction h with
  | nil => simp
  | mark _ _ ih => exact List.not_mem_cons_of_ne_of_not_mem hmark.symm ih
  | plain run c _ hplain _ _ ih =>
      have hc : c ≠ '\r' := by
        rcases hplain with rfl | hplain
        · decide
        · exact ne_return_of_isStringCharacter hplain
      exact List.not_mem_cons_of_ne_of_not_mem hc.symm ih
  | escape run c e _ hescape _ ih => simp [hescape.not_mem_return, ih]

section Reading

variable {fuel run : Nat} {cs rest : List Char}

/-- Up to two marks before the closing ones belong to the text. -/
theorem blockString?_close (hrun : run ≤ 2) (hrest : rest.head? ≠ some mark) :
    blockString? mark (fuel + 1) (List.replicate run mark ++ mark :: mark :: mark :: rest) =
      some (List.replicate run mark, rest) := by
  have hmarks : List.replicate run mark ++ mark :: mark :: mark :: rest =
      mark :: (List.replicate (run + 2) mark ++ rest) := by
    change List.replicate run mark ++ (List.replicate 3 mark ++ rest) = _
    rw [← List.append_assoc, List.replicate_append_replicate]
    rfl
  have htake := takeWhile_copies hrest (run + 3)
  rw [List.replicate_succ, List.cons_append] at htake
  simp [blockString?, hmarks, htake, Nat.min_eq_left hrun]

/-- Up to two marks before another character belong to the text. -/
theorem blockString?_marks {size : Nat} (hrun : run ≤ 2) (hhead : cs.head? ≠ some mark)
    (h : ∀ fuel, size < fuel → blockString? mark fuel cs = some (text, rest))
    (hfuel : size + run < fuel) :
    blockString? mark fuel (List.replicate run mark ++ cs) =
      some (List.replicate run mark ++ text, rest) := by
  cases run with
  | zero => exact h fuel hfuel
  | succ run =>
      obtain ⟨fuel, rfl⟩ := Nat.exists_eq_add_one.mpr (Nat.zero_lt_of_lt hfuel)
      have hfew : ¬3 ≤ run + 1 := by omega
      have htake := takeWhile_copies hhead (run + 1)
      rw [List.replicate_succ, List.cons_append] at htake ⊢
      simp [blockString?, htake, h fuel (by omega), hfew]

/-- Marks that have been written are only read together with what comes after them, so they stand in
front on both sides. -/
theorem blockString?_of_spells (h : SpellsBlock mark run text body) (hrun : run ≤ 2)
    (hfuel : body.length + run < fuel) (hrest : rest.head? ≠ some mark) :
    blockString? mark fuel (List.replicate run mark ++ (body ++ mark :: mark :: mark :: rest)) =
      some (List.replicate run mark ++ text, rest) := by
  induction h generalizing fuel with
  | nil run =>
      obtain ⟨fuel, rfl⟩ := Nat.exists_eq_add_one.mpr (Nat.zero_lt_of_lt hfuel)
      rw [List.append_nil]
      exact blockString?_close hrun hrest
  | @mark run text body hfew _ ih =>
      -- One mark more has been written: the same characters, split one further on.
      rw [List.length_cons] at hfuel
      have hsplit : ∀ cs : List Char, List.replicate run mark ++ mark :: cs =
          List.replicate (run + 1) mark ++ cs := by
        intro cs
        rw [List.replicate_succ', List.append_assoc]
        rfl
      rw [List.cons_append, hsplit, hsplit]
      exact ih (by omega) (by omega)
  | plain run c hmark hplain hescape _ ih =>
      refine blockString?_marks hrun (by simpa using hmark) (fun fuel hfuel => ?_) hfuel
      obtain ⟨fuel, rfl⟩ := Nat.exists_eq_add_one.mpr (Nat.zero_lt_of_lt hfuel)
      have hbody := ih (Nat.zero_le 2) (Nat.lt_of_succ_lt_succ hfuel)
      rw [List.replicate_zero, List.nil_append, List.nil_append] at hbody
      simp [blockString?, hmark, hescape, hplain, hbody]
  | @escape run c e text body hmark hescape _ ih =>
      subst hmark
      refine blockString?_marks hrun (by simp) (fun fuel hfuel => ?_) hfuel
      obtain ⟨fuel, rfl⟩ := Nat.exists_eq_add_one.mpr (Nat.zero_lt_of_lt hfuel)
      simp only [List.length_cons, List.length_append] at hfuel
      have hbody := ih (Nat.zero_le 2) (show _ + 0 < fuel by omega)
      rw [List.replicate_zero, List.nil_append, List.nil_append] at hbody
      simp [blockString?, hescape.escape?_eq, hbody]

end Reading

/-- Three double quotes on both sides leave room for escapes. -/
theorem spellsBlock_escapedText {run : Nat} (hrun : run ≤ 2) (text : List Char) :
    SpellsBlock '"' run text (escapedText true run text) := by
  induction text generalizing run with
  | nil => exact .nil run
  | cons c text ih =>
      unfold escapedText
      split
      case isTrue hc =>
          subst hc
          by_cases hfew : run < 2
          · rw [if_pos (by simpa using hfew)]
            exact .mark hfew (ih hfew)
          · rw [if_neg (by simpa using hfew)]
            exact .escape run '"' ['"'] rfl ⟨fun rest => rfl, by decide⟩ (ih (Nat.zero_le 2))
      case isFalse hc =>
          have hrest := ih (Nat.zero_le 2)
          have hshows := shows_escaped true c
          generalize escaped true c = shown at hshows ⊢
          cases hshows with
          | plain hplain hescape =>
              exact .plain run c hc (.inr hplain) (fun h => hescape h.1) hrest
          | lineEnd _ hnewline =>
              subst hnewline
              exact .plain run _ (by decide) (.inl rfl) (by decide) hrest
          | escape e hescape => exact .escape run c e rfl hescape hrest

/-- The longest run of a character if one of length `current` and one of length `longest` have come
before. -/
def longestFrom (c : Char) (longest current : Nat) : List Char → Nat
  | [] => longest
  | x :: cs =>
      if x = c then longestFrom c (max longest (current + 1)) (current + 1) cs
      else longestFrom c longest 0 cs

theorem foldl_eq_longestFrom {c : Char} {step : Nat × Nat → Char → Nat × Nat}
    (hstep : ∀ longest current x, step (longest, current) x =
      if x = c then (max longest (current + 1), current + 1) else (longest, 0))
    (longest current : Nat) (cs : List Char) :
    (cs.foldl step (longest, current)).1 = longestFrom c longest current cs := by
  induction cs generalizing longest current with
  | nil => rfl
  | cons x cs ih =>
      rw [List.foldl_cons, hstep, longestFrom]
      split <;> exact ih _ _

theorem longestRun_eq (c : Char) (cs : List Char) : longestRun c cs = longestFrom c 0 0 cs :=
  foldl_eq_longestFrom (fun _ _ _ => rfl) 0 0 cs

theorem le_longestFrom (c : Char) (longest current : Nat) (cs : List Char) :
    longest ≤ longestFrom c longest current cs := by
  induction cs generalizing longest current with
  | nil => exact le_rfl
  | cons x cs ih =>
      unfold longestFrom
      split
      · exact (le_max_left _ _).trans (ih _ _)
      · exact ih _ _

/-- Three single quotes on both sides leave a text as it is, if no three of them follow each other
in it. -/
theorem spellsBlock_self {text : List Char} (hcontrol : ∀ c ∈ text, isControl c = false)
    {longest run : Nat} (hrun : longestFrom '\'' longest run text ≤ 2) :
    SpellsBlock '\'' run text text := by
  induction text generalizing longest run with
  | nil => exact .nil run
  | cons c text ih =>
      have hrest := fun d hd => hcontrol d (List.mem_cons_of_mem c hd)
      unfold longestFrom at hrun
      split at hrun
      case isTrue hc =>
          subst hc
          have hlongest := le_longestFrom '\'' (max longest (run + 1)) (run + 1) text
          have hrun' := le_max_right longest (run + 1)
          exact .mark (by omega) (ih hrest hrun)
      case isFalse hc =>
          refine .plain run c hc ?_ (by decide ∘ And.right) (ih hrest hrun)
          by_cases hnewline : c = '\n'
          · exact .inl hnewline
          · exact .inr (isStringCharacter_of_not_isControl (hcontrol c List.mem_cons_self) hnewline)

/-! ## Quoted texts -/

section Quoted

variable {rest : List Char}

theorem string?_line (h : SpellsLine mark text body) (hrest : rest.head? ≠ some mark) :
    string? mark (body ++ mark :: rest) = some (false, String.ofList text, rest) := by
  have hline := lineString?_of_spells h
    (show body.length < (body ++ mark :: rest).length + 1 by simp) rest
  have hopening : (body ++ mark :: rest).take 2 ≠ [mark, mark] := by
    intro htake
    cases body with
    | nil =>
        cases rest with
        | nil => simp at htake
        | cons c rest =>
            have hc : c = mark := by simpa using htake
            exact hrest (congrArg some hc)
    | cons c body => exact h.head?_ne (congrArg some (List.cons.inj htake).1)
  rw [string?, if_neg hopening, hline]
  rfl

/-- Only a text that starts with a line end is spelled by characters that do. -/
theorem SpellsBlock.head?_eq {run : Nat} (h : SpellsBlock mark run text body) (hmark : mark ≠ '\n')
    (hhead : body.head? = some '\n') : text.head? = some '\n' := by
  cases h with
  | nil => simp at hhead
  | mark => exact absurd (Option.some.inj hhead) hmark
  | plain => exact hhead
  | escape c e => simp at hhead

/-- A text with line ends starts on a line of its own. -/
theorem string?_block (h : SpellsBlock mark 0 text body) (hmark : mark ≠ '\n')
    (hrest : rest.head? ≠ some mark) :
    string? mark (mark :: mark :: ((if text.contains '\n' then ['\n'] else []) ++
      (body ++ mark :: mark :: mark :: rest))) = some (true, String.ofList text, rest) := by
  have hread : ∀ fuel, body.length < fuel →
      blockString? mark fuel (body ++ mark :: mark :: mark :: rest) = some (text, rest) :=
    fun fuel hfuel => blockString?_of_spells h (Nat.zero_le 2) hfuel hrest
  have hblock : block? mark ((if text.contains '\n' then ['\n'] else []) ++
      (body ++ mark :: mark :: mark :: rest)) = some (text, rest) := by
    split
    case isTrue => exact hread _ (by simp; omega)
    case isFalse hnone =>
        have hhead : (body ++ mark :: mark :: mark :: rest).head? ≠ some '\n' := by
          cases body with
          | nil => simpa using hmark
          | cons c body =>
              intro hc
              have htext := List.mem_of_mem_head? (h.head?_eq hmark hc)
              exact hnone (List.contains_iff_mem.mpr htext)
        rw [List.nil_append]
        unfold block?
        split
        case h_1 hcs => simp [hcs] at hhead
        case h_2 => exact hread _ (by simp)
  have hopening : ∀ cs, (mark :: mark :: cs).take 2 = [mark, mark] := fun _ => rfl
  rw [string?, if_pos (hopening _)]
  simp only [List.drop_succ_cons, List.drop_zero, hblock]
  rfl

/-- The styles without escapes are chosen for texts that need none. -/
theorem fits_styleOf (text : List Char) :
    (styleOf text = .literal →
      (∀ c ∈ text, isControl c = false) ∧ '\n' ∉ text ∧ '\'' ∉ text) ∧
    (styleOf text = .literalLines →
      (∀ c ∈ text, isControl c = false) ∧ longestRun '\'' text ≤ 2) := by
  have hcontrols : text.any isControl = false → ∀ c ∈ text, isControl c = false :=
    fun hnone c hc => Bool.eq_false_of_not_eq_true (List.any_eq_false.mp hnone c hc)
  unfold styleOf
  simp only
  split
  · exact ⟨nofun, nofun⟩
  split
  case isTrue hfits =>
      simp only [Bool.and_eq_true, Bool.not_eq_true', List.contains_eq_mem,
        decide_eq_false_iff_not] at hfits
      exact ⟨fun _ => ⟨hcontrols hfits.1.1, hfits.1.2, hfits.2⟩, nofun⟩
  split
  · exact ⟨nofun, nofun⟩
  split
  case isTrue hfits =>
      simp only [Bool.and_eq_true, Bool.not_eq_true', decide_eq_true_eq] at hfits
      exact ⟨nofun, fun _ => ⟨hcontrols hfits.1, hfits.2⟩⟩
  split <;> exact ⟨nofun, nofun⟩

/-- The character is one of the two that quote texts. -/
def IsMark (mark : Char) : Prop := mark = '"' ∨ mark = '\''

theorem IsMark.ne (h : IsMark mark) {c : Char} (hdouble : c ≠ '"') (hsingle : c ≠ '\'') :
    mark ≠ c := by
  rcases h with rfl | rfl
  · exact hdouble.symm
  · exact hsingle.symm

/-- The characters are the text between marks, in a string of one line or of several. -/
inductive Quotes (text : List Char) : List Char → Prop where
  | line (mark : Char) (body : List Char) (hmark : IsMark mark)
      (h : SpellsLine mark text body) : Quotes text (mark :: (body ++ [mark]))
  | block (mark : Char) (body : List Char) (hmark : IsMark mark)
      (h : SpellsBlock mark 0 text body) :
      Quotes text (mark :: mark :: mark :: ((if text.contains '\n' then ['\n'] else []) ++
        (body ++ [mark, mark, mark])))

/-- The style that is chosen for a text fits it. -/
theorem quotes_quotedAs (text : List Char) : Quotes text (quotedAs (styleOf text) text) := by
  cases hstyle : styleOf text with
  | basic => exact .line '"' _ (.inl rfl) (spellsLine_escapedText 0 text)
  | literal =>
      obtain ⟨hcontrol, hlines, hmark⟩ := (fits_styleOf text).1 hstyle
      refine .line '\'' _ (.inr rfl) (spellsLine_self fun c hc => ?_)
      have hnewline := ne_of_mem_of_not_mem hc hlines
      exact ⟨ne_of_mem_of_not_mem hc hmark,
        isStringCharacter_of_not_isControl (hcontrol c hc) hnewline⟩
  | basicLines =>
      have hblock := Quotes.block '"' _ (.inl rfl) (spellsBlock_escapedText (Nat.zero_le 2) text)
      simpa [quotedAs, Style.delimiter] using hblock
  | literalLines =>
      obtain ⟨hcontrol, hrun⟩ := (fits_styleOf text).2 hstyle
      rw [longestRun_eq] at hrun
      have hblock := Quotes.block '\'' _ (.inr rfl) (spellsBlock_self hcontrol hrun)
      simpa [quotedAs, Style.delimiter] using hblock

theorem Quotes.not_mem_return {quoted : List Char} (h : Quotes text quoted) : '\r' ∉ quoted := by
  cases h with
  | line mark body hmark h =>
      have hreturn := (hmark.ne (c := '\r') (by decide) (by decide)).symm
      simp [hreturn, h.not_mem_return]
  | block mark body hmark h =>
      have hreturn := hmark.ne (c := '\r') (by decide) (by decide)
      split <;> simp [hreturn.symm, h.not_mem_return hreturn]

/-- A quoted text is read as the text. -/
theorem Quotes.string?_eq {quoted : List Char} (h : Quotes text quoted) (rest : List Char)
    (hrest : rest.head? = some '\n') :
    ∃ mark cs lines, IsMark mark ∧ quoted ++ rest = mark :: cs ∧
      string? mark cs = some (lines, String.ofList text, rest) := by
  have hnext : ∀ {mark}, IsMark mark → mark ≠ '\n' ∧ rest.head? ≠ some mark := by
    intro mark hmark
    have hne := hmark.ne (c := '\n') (by decide) (by decide)
    rw [hrest]
    exact ⟨hne, fun heq => hne (Option.some.inj heq).symm⟩
  cases h with
  | line mark body hmark h =>
      exact ⟨mark, _, false, hmark, by simp, string?_line h (hnext hmark).2⟩
  | block mark body hmark h =>
      exact ⟨mark, _, true, hmark, by simp, string?_block h (hnext hmark).1 (hnext hmark).2⟩

end Quoted

end LoadProbe.Toml
