import LoadProbe.Proofs.Json.Grammar

/-!
# Nothing but JSON is read

What the reader takes off the front of a text is spelled by the grammar, and so is every text that
it reads as a whole.

* `Json.exists_numeral` and `Json.exists_pieces` are numbers and strings.
* `Json.exists_value` is a value, by induction on the fuel.
* `Json.read?_eq_some_iff`: the texts that are read as a document are those of the grammar that
  spell it.
-/

namespace LoadProbe.Json

open LoadProbe.Text

variable {cs rest : List Char}

/-- What is skipped is blank. -/
theorem exists_blanks (cs : List Char) :
    ∃ blanks, IsBlank blanks ∧ cs = blanks ++ skipBlanks cs := by
  refine ⟨cs.takeWhile isBlank, fun c hc => ?_, List.takeWhile_append_dropWhile.symm⟩
  have hblank : isBlank c = true := List.mem_takeWhile_imp hc
  simpa [isBlank] using hblank

theorem eq_append_of_word? {w : List Char} (h : word? w cs = some rest) : cs = w ++ rest := by
  induction w generalizing cs with
  | nil => exact Option.some.inj h
  | cons d w ih =>
      cases cs with
      | nil => cases h
      | cons c cs =>
          obtain ⟨hc, hrest⟩ := Option.ite_none_right_eq_some.mp h
          rw [hc, ih hrest, List.cons_append]

/-! ## Numbers -/

theorem isNumeral_of_digits? {digits : List Char} (h : digits? cs = some (digits, rest)) :
    IsNumeral digits ∧ cs = digits ++ rest := by
  have hsplit := (List.takeWhile_append_dropWhile (p := Char.isDigit) (l := cs)).symm
  have hdigits : ∀ c ∈ cs.takeWhile Char.isDigit, c.isDigit = true := fun c hc =>
    List.mem_takeWhile_imp hc
  unfold digits? at h
  split at h
  case h_1 => cases h
  case h_2 hne =>
      obtain ⟨rfl, rfl⟩ := Prod.mk.inj (Option.some.inj h)
      exact ⟨⟨hne, hdigits⟩, hsplit⟩

theorem isWhole_of_whole? {digits : List Char} (h : whole? cs = some (digits, rest)) :
    IsWhole digits ∧ cs = digits ++ rest := by
  unfold whole? at h
  split at h
  case h_1 cs =>
      obtain ⟨-, h⟩ := Option.ite_none_left_eq_some.mp h
      obtain ⟨rfl, rfl⟩ := Prod.mk.inj (Option.some.inj h)
      exact ⟨⟨⟨by simp, by simp⟩, fun _ => rfl⟩, rfl⟩
  case h_2 hzero =>
      obtain ⟨hnumeral, rfl⟩ := isNumeral_of_digits? h
      refine ⟨⟨hnumeral, fun hhead => ?_⟩, rfl⟩
      obtain ⟨tail, rfl⟩ := List.head?_eq_some_iff.mp hhead
      exact absurd rfl (hzero (tail ++ rest))

theorem spellsFraction_of_fraction? {fraction : List Char}
    (h : fraction? cs = some (fraction, rest)) :
    ∃ text, SpellsFraction fraction text ∧ cs = text ++ rest := by
  unfold fraction? at h
  split at h
  case h_1 cs =>
      obtain ⟨hnumeral, rfl⟩ := isNumeral_of_digits? h
      exact ⟨_, .pointed fraction hnumeral, rfl⟩
  case h_2 =>
      obtain ⟨rfl, rfl⟩ := Prod.mk.inj (Option.some.inj h)
      exact ⟨_, .absent, rfl⟩

theorem IsSigned.exists_append {digits : List Char} {negative : Bool}
    (h : IsSigned (digits ++ rest) negative cs) :
    ∃ signed, IsSigned digits negative signed ∧ cs = signed ++ rest := by
  cases h with
  | bare => exact ⟨digits, .bare, rfl⟩
  | plus => exact ⟨'+' :: digits, .plus, rfl⟩
  | minus => exact ⟨'-' :: digits, .minus, rfl⟩

theorem spellsExponent_of_exponent? {exponent : Option Int}
    (h : exponent? cs = some (exponent, rest)) :
    ∃ text, SpellsExponent exponent text ∧ cs = text ++ rest := by
  cases cs with
  | nil =>
      obtain ⟨rfl, rfl⟩ := Prod.mk.inj (Option.some.inj h)
      exact ⟨_, .absent, rfl⟩
  | cons c cs =>
      rw [exponent?.eq_def] at h
      simp only at h
      split at h
      case isTrue hmark =>
          have hsigned := isSigned_splitSign cs
          generalize splitSign cs = split at h hsigned
          obtain ⟨negative, signed⟩ := split
          obtain ⟨⟨digits, tail⟩, hdigits, h⟩ := Option.map_eq_some_iff.mp h
          obtain ⟨rfl, rfl⟩ := Prod.mk.inj h
          obtain ⟨hnumeral, rfl⟩ := isNumeral_of_digits? hdigits
          obtain ⟨text, htext, rfl⟩ := IsSigned.exists_append hsigned
          exact ⟨c :: text, .marked c hmark negative digits text htext hnumeral, rfl⟩
      case isFalse =>
          obtain ⟨rfl, rfl⟩ := Prod.mk.inj (Option.some.inj h)
          exact ⟨_, .absent, rfl⟩

theorem exists_unsignedNumeral {negative : Bool} {n : Numeral}
    (h : unsignedNumeral? negative cs = some (n, rest)) :
    n.negative = negative ∧ ∃ fraction exponent, IsWhole n.whole ∧
      SpellsFraction n.fraction fraction ∧ SpellsExponent n.exponent exponent ∧
      cs = n.whole ++ fraction ++ exponent ++ rest := by
  simp only [unsignedNumeral?, Option.bind_eq_bind, Option.bind_eq_some_iff] at h
  obtain ⟨⟨whole, cs₁⟩, hreadWhole, ⟨fraction, cs₂⟩, hreadFraction, ⟨exponent, cs₃⟩,
    hreadExponent, h⟩ := h
  obtain ⟨rfl, rfl⟩ := Prod.mk.inj (Option.some.inj h)
  obtain ⟨hwhole, hcs⟩ := isWhole_of_whole? hreadWhole
  obtain ⟨fractionText, hfraction, hcs₁⟩ := spellsFraction_of_fraction? hreadFraction
  obtain ⟨exponentText, hexponent, hcs₂⟩ := spellsExponent_of_exponent? hreadExponent
  simp only at hcs₁ hcs₂
  exact ⟨rfl, fractionText, exponentText, hwhole, hfraction, hexponent, by
    rw [hcs, hcs₁, hcs₂, List.append_assoc, List.append_assoc]⟩

theorem exists_numeral {n : Numeral} (h : numeral? cs = some (n, rest)) :
    ∃ text, SpellsNumeral n text ∧ cs = text ++ rest := by
  unfold numeral? at h
  split at h
  case h_1 cs =>
      obtain ⟨hnegative, fraction, exponent, hwhole, hfraction, hexponent, rfl⟩ :=
        exists_unsignedNumeral h
      exact ⟨_, ⟨hwhole, fraction, exponent, hfraction, hexponent, rfl⟩, by simp [hnegative]⟩
  case h_2 =>
      obtain ⟨hnegative, fraction, exponent, hwhole, hfraction, hexponent, rfl⟩ :=
        exists_unsignedNumeral h
      exact ⟨_, ⟨hwhole, fraction, exponent, hfraction, hexponent, rfl⟩, by simp [hnegative]⟩

/-! ## Strings -/

theorem mem_escapes_of_simpleEscape? {e c : Char} (h : simpleEscape? e = some c) :
    (e, c) ∈ escapes := by
  unfold simpleEscape? at h
  split at h <;> cases h <;> simp [escapes]

/-- What is read after the first element of a string are the others. -/
theorem exists_of_bind_cons {piece : Piece} {pieces : List Piece}
    {read : Option (List Piece × List Char)}
    (h : (read.bind fun (pieces, rest) => pure (piece :: pieces, rest)) = some (pieces, rest)) :
    ∃ more, read = some (more, rest) ∧ pieces = piece :: more := by
  obtain ⟨⟨more, tail⟩, hread, h⟩ := Option.bind_eq_some_iff.mp h
  obtain ⟨rfl, rfl⟩ := Prod.mk.inj (Option.some.inj h)
  exact ⟨more, hread, rfl⟩

theorem exists_pieces {pieces : List Piece} (h : string? cs = some (pieces, rest)) :
    ∃ inner, SpellsPieces pieces inner ∧ cs = inner ++ '"' :: rest := by
  fun_induction string? cs generalizing pieces with
  | case1 cs =>
      obtain ⟨rfl, rfl⟩ := Prod.mk.inj (Option.some.inj h)
      exact ⟨[], .nil, rfl⟩
  | case2 a b c d cs ih =>
      obtain ⟨code, hcode, h⟩ := Option.bind_eq_some_iff.mp h
      obtain ⟨more, hread, rfl⟩ := exists_of_bind_cons h
      obtain ⟨inner, hinner, rfl⟩ := ih hread
      exact ⟨_, .cons (.unit a b c d code hcode) hinner, rfl⟩
  | case3 e cs _ ih =>
      obtain ⟨c, hescape, h⟩ := Option.bind_eq_some_iff.mp h
      obtain ⟨more, hread, rfl⟩ := exists_of_bind_cons h
      obtain ⟨inner, hinner, rfl⟩ := ih hread
      exact ⟨_, .cons (.escape e c (mem_escapes_of_simpleEscape? hescape)) hinner, rfl⟩
  | case4 => cases h
  | case5 c cs hquote _ _ hplain ih =>
      obtain ⟨hcontrol, hbackslash⟩ := not_or.mp hplain
      obtain ⟨more, hread, rfl⟩ := exists_of_bind_cons h
      obtain ⟨inner, hinner, rfl⟩ := ih hread
      exact ⟨_, .cons (.plain c (Nat.le_of_not_lt hcontrol) hquote hbackslash) hinner, rfl⟩
  | case6 => cases h

/-! ## Values -/

/-- What it means that everything read with the given fuel is spelled by the grammar. -/
structure Sound (fuel : Nat) : Prop where
  value : ∀ cs rest document, value? fuel cs = some (document, rest) →
    ∃ text, Spells (.value document) text ∧ cs = text ++ rest
  items : ∀ cs rest items, items? fuel cs = some (items, rest) →
    items ≠ [] ∧ ∃ text, Spells (.items items) text ∧ cs = text ++ ']' :: rest
  members : ∀ cs rest members, members? fuel cs = some (members, rest) →
    members ≠ [] ∧ ∃ text, Spells (.members members) text ∧ cs = text ++ '\x7d' :: rest

theorem IsBlank.append {cs' : List Char} (h : IsBlank cs) (h' : IsBlank cs') :
    IsBlank (cs ++ cs') := fun c hc => (List.mem_append.mp hc).elim (h c) (h' c)

/-- Blanks may stand in front of items. -/
theorem Spells.append_items {items : List Written} {blanks : List Char} (hblanks : IsBlank blanks)
    (h : Spells (.items items) cs) : Spells (.items items) (blanks ++ cs) := by
  cases h with
  | noItems hcs => exact .noItems (hblanks.append hcs)
  | lastItem hbefore hvalue hafter =>
      rw [← List.append_assoc]
      exact .lastItem (hblanks.append hbefore) hvalue hafter
  | item hbefore hvalue hafter hne hmore =>
      rw [← List.append_assoc]
      exact .item (hblanks.append hbefore) hvalue hafter hne hmore

theorem SpellsKey.append {key : List Piece} {blanks : List Char} (hblanks : IsBlank blanks)
    (h : SpellsKey key cs) : SpellsKey key (blanks ++ cs) := by
  obtain ⟨before, name, between, after, hbefore, hname, hbetween, hafter, rfl⟩ := h
  exact ⟨blanks ++ before, name, between, after, hblanks.append hbefore, hname, hbetween, hafter,
    by simp⟩

/-- Blanks may stand in front of members. -/
theorem Spells.append_members {members : List (List Piece × Written)} {blanks : List Char}
    (hblanks : IsBlank blanks) (h : Spells (.members members) cs) :
    Spells (.members members) (blanks ++ cs) := by
  cases h with
  | noMembers hcs => exact .noMembers (hblanks.append hcs)
  | lastMember hkey hvalue hafter =>
      rw [← List.append_assoc]
      exact .lastMember (hkey.append hblanks) hvalue hafter
  | member hkey hvalue hafter hne hmore =>
      rw [← List.append_assoc]
      exact .member (hkey.append hblanks) hvalue hafter hne hmore

theorem exists_of_map_pair {α β : Type} {read : Option (α × List Char)} {f : α → β} {b : β}
    (h : (read.map fun (a, rest) => (f a, rest)) = some (b, rest)) :
    ∃ a, read = some (a, rest) ∧ f a = b := by
  obtain ⟨⟨a, tail⟩, hread, h⟩ := Option.map_eq_some_iff.mp h
  obtain ⟨hb, rfl⟩ := Prod.mk.inj h
  exact ⟨a, hread, hb⟩

theorem eq_of_map_word? {w : List Char} {document d : Written}
    (h : (word? w cs).map (d, ·) = some (document, rest)) : d = document ∧ cs = w ++ rest := by
  obtain ⟨tail, hread, h⟩ := Option.map_eq_some_iff.mp h
  obtain ⟨rfl, rfl⟩ := Prod.mk.inj h
  exact ⟨rfl, eq_append_of_word? hread⟩

theorem exists_array {fuel : Nat} (ih : Sound fuel) {document : Written}
    (h : value? (fuel + 1) ('[' :: cs) = some (document, rest)) :
    ∃ text, Spells (.value document) text ∧ '[' :: cs = text ++ rest := by
  obtain ⟨blanks, hblanks, hcs⟩ := exists_blanks cs
  rw [value?] at h
  split at h
  case h_1 hskip =>
      obtain ⟨rfl, rfl⟩ := Prod.mk.inj (Option.some.inj h)
      rw [hskip] at hcs
      exact ⟨_, .array (.noItems hblanks), by simp [hcs]⟩
  case h_2 =>
      obtain ⟨items, hread, rfl⟩ := exists_of_map_pair h
      obtain ⟨-, text, hitems, hskip⟩ := ih.items _ _ _ hread
      rw [hskip] at hcs
      exact ⟨_, .array (hitems.append_items hblanks), by simp [hcs]⟩

theorem exists_object {fuel : Nat} (ih : Sound fuel) {document : Written}
    (h : value? (fuel + 1) ('\x7b' :: cs) = some (document, rest)) :
    ∃ text, Spells (.value document) text ∧ '\x7b' :: cs = text ++ rest := by
  obtain ⟨blanks, hblanks, hcs⟩ := exists_blanks cs
  rw [value?] at h
  split at h
  case h_1 hskip =>
      obtain ⟨rfl, rfl⟩ := Prod.mk.inj (Option.some.inj h)
      rw [hskip] at hcs
      exact ⟨_, .object (.noMembers hblanks), by simp [hcs]⟩
  case h_2 =>
      obtain ⟨members, hread, rfl⟩ := exists_of_map_pair h
      obtain ⟨-, text, hmembers, hskip⟩ := ih.members _ _ _ hread
      rw [hskip] at hcs
      exact ⟨_, .object (hmembers.append_members hblanks), by simp [hcs]⟩

theorem exists_value {fuel : Nat} (ih : Sound fuel) {document : Written}
    (h : value? (fuel + 1) cs = some (document, rest)) :
    ∃ text, Spells (.value document) text ∧ cs = text ++ rest := by
  have hwhole := h
  rw [value?.eq_def] at h
  simp only at h
  split at h
  case h_1 => exact exists_array ih hwhole
  case h_2 => exact exists_object ih hwhole
  case h_3 =>
      obtain ⟨pieces, hread, rfl⟩ := exists_of_map_pair h
      obtain ⟨inner, hinner, rfl⟩ := exists_pieces hread
      exact ⟨_, .string hinner, by simp⟩
  case h_4 =>
      obtain ⟨rfl, hcs⟩ := eq_of_map_word? h
      exact ⟨_, .null, congrArg _ hcs⟩
  case h_5 =>
      obtain ⟨rfl, hcs⟩ := eq_of_map_word? h
      exact ⟨_, .bool true, congrArg _ hcs⟩
  case h_6 =>
      obtain ⟨rfl, hcs⟩ := eq_of_map_word? h
      exact ⟨_, .bool false, congrArg _ hcs⟩
  case h_7 =>
      obtain ⟨n, hread, rfl⟩ := exists_of_map_pair h
      obtain ⟨text, htext, rfl⟩ := exists_numeral hread
      exact ⟨text, .number htext, rfl⟩

theorem exists_items {fuel : Nat} (ih : Sound fuel) {items : List Written}
    (h : items? (fuel + 1) cs = some (items, rest)) :
    items ≠ [] ∧ ∃ text, Spells (.items items) text ∧ cs = text ++ ']' :: rest := by
  rw [items?] at h
  obtain ⟨⟨item, afterItem⟩, hitem, h⟩ := Option.bind_eq_some_iff.mp h
  obtain ⟨value, hvalue, hcs⟩ := ih.value _ _ _ hitem
  obtain ⟨after, hafter, hsplit⟩ := exists_blanks afterItem
  simp only at h
  split at h
  case h_1 hskip =>
      obtain ⟨rfl, rfl⟩ := Prod.mk.inj (Option.some.inj h)
      rw [hskip] at hsplit
      exact ⟨List.cons_ne_nil _ _, _, .lastItem isBlank_nil hvalue hafter, by simp [hcs, hsplit]⟩
  case h_2 more hskip =>
      obtain ⟨⟨later, tail⟩, hlater, h⟩ := Option.bind_eq_some_iff.mp h
      obtain ⟨rfl, rfl⟩ := Prod.mk.inj (Option.some.inj h)
      obtain ⟨hne, text, hmore, hrest⟩ := ih.items _ _ _ hlater
      obtain ⟨blanks, hblanks, hblank⟩ := exists_blanks more
      rw [hskip] at hsplit
      rw [hrest] at hblank
      exact ⟨List.cons_ne_nil _ _, _,
        .item isBlank_nil hvalue hafter hne (hmore.append_items hblanks),
        by simp [hcs, hsplit, hblank]⟩
  case h_3 => cases h

/-- The key of a member with what follows it up to its value. -/
theorem exists_key {key : List Piece} {inner afterKey afterColon : List Char}
    (hname : string? inner = some (key, afterKey))
    (hcolon : word? [':'] (skipBlanks afterKey) = some afterColon) :
    ∃ name, SpellsKey key name ∧ '"' :: inner = name ++ skipBlanks afterColon := by
  obtain ⟨name, hpieces, hinner⟩ := exists_pieces hname
  obtain ⟨between, hbetween, hafterKey⟩ := exists_blanks afterKey
  obtain ⟨behind, hbehind, hafterColon⟩ := exists_blanks afterColon
  rw [eq_append_of_word? hcolon] at hafterKey
  refine ⟨_, ⟨[], name, between, behind, isBlank_nil, hpieces, hbetween, hbehind, rfl⟩, ?_⟩
  generalize skipBlanks afterColon = value at hafterColon ⊢
  simp [hinner, hafterKey, hafterColon]

theorem exists_members {fuel : Nat} (ih : Sound fuel) {members : List (List Piece × Written)}
    (h : members? (fuel + 1) cs = some (members, rest)) :
    members ≠ [] ∧ ∃ text, Spells (.members members) text ∧ cs = text ++ '\x7d' :: rest := by
  rw [members?.eq_def] at h
  simp only at h
  split at h
  case h_2 => cases h
  case h_1 inner =>
      obtain ⟨⟨key, afterKey⟩, hname, h⟩ := Option.bind_eq_some_iff.mp h
      obtain ⟨afterColon, hcolon, h⟩ := Option.bind_eq_some_iff.mp h
      obtain ⟨⟨item, afterItem⟩, hitem, h⟩ := Option.bind_eq_some_iff.mp h
      obtain ⟨name, hkey, hinner⟩ := exists_key hname hcolon
      obtain ⟨value, hvalue, hvalueSplit⟩ := ih.value _ _ _ hitem
      obtain ⟨after, hafter, hsplit⟩ := exists_blanks afterItem
      rw [hvalueSplit] at hinner
      simp only at h
      split at h
      case h_1 hskip =>
          obtain ⟨rfl, rfl⟩ := Prod.mk.inj (Option.some.inj h)
          rw [hskip] at hsplit
          exact ⟨List.cons_ne_nil _ _, _, .lastMember hkey hvalue hafter, by simp [hinner, hsplit]⟩
      case h_2 more hskip =>
          obtain ⟨⟨later, tail⟩, hlater, h⟩ := Option.bind_eq_some_iff.mp h
          obtain ⟨rfl, rfl⟩ := Prod.mk.inj (Option.some.inj h)
          obtain ⟨hne, text, hmore, hrest⟩ := ih.members _ _ _ hlater
          obtain ⟨blanks, hblanks, hblank⟩ := exists_blanks more
          rw [hskip] at hsplit
          rw [hrest] at hblank
          exact ⟨List.cons_ne_nil _ _, _,
            .member hkey hvalue hafter hne (hmore.append_members hblanks),
            by simp [hinner, hsplit, hblank]⟩
      case h_3 => cases h

theorem sound (fuel : Nat) : Sound fuel := by
  induction fuel with
  | zero => exact ⟨nofun, nofun, nofun⟩
  | succ fuel ih =>
      exact ⟨fun _ _ _ => exists_value ih, fun _ _ _ => exists_items ih,
        fun _ _ _ => exists_members ih⟩

/-- The texts that are read as a document are those of the grammar that spell it. -/
theorem read?_eq_some_iff {document : Written} {text : String} :
    read? text = some document ↔ IsText document text := by
  refine ⟨fun h => ?_, read?_of_isText⟩
  obtain ⟨⟨read, rest⟩, hvalue, h⟩ := Option.bind_eq_some_iff.mp h
  obtain ⟨hempty, h⟩ := Option.ite_none_right_eq_some.mp h
  obtain rfl := Option.some.inj h
  obtain ⟨before, hbefore, htext⟩ := exists_blanks text.toList
  obtain ⟨after, hafter, hrest⟩ := exists_blanks rest
  obtain ⟨cs, hspells, hskip⟩ := (sound _).value _ _ _ hvalue
  rw [List.isEmpty_iff.mp hempty, List.append_nil] at hrest
  rw [hskip, hrest] at htext
  exact ⟨before, cs, after, hbefore, hspells, hafter, htext⟩

end LoadProbe.Json
