import LoadProbe.Json.Printer
import LoadProbe.Proofs.Json.Soundness

/-!
# What is printed is read

A printed value is a text of the grammar, whatever characters its strings hold.  What that text
means is the value again, with the members of its objects in the order of their keys.

* `Json.Says` ties a text to what it means and to how deeply it is nested.  `Json.says_quote` is a
  string, `Json.says_integer` an integer of 64 bits, `Json.SaysItems.array` and
  `Json.SaysMembers.object` are spaced lists of texts between brackets.
* `Json.Value.sorted` sorts the members of all objects, and `Json.Value.IsLegible` says of the
  numbers in a value that each of them alone is read as what was printed.
* `Json.parse?_compact` and `Json.parse?_pretty`: a legible value that is not nested too deeply is
  read as its sorted form, however it was printed.
-/

namespace LoadProbe.Json

open LoadProbe.Text

/-! ## Strings -/

/-- Control characters have four hexadecimal digits. -/
theorem exists_hex : ∀ n < 0x20, ∃ a b c d, (hex 4 n).toList = [a, b, c, d] ∧
    natOfBase? 16 [a, b, c, d] = some n := by
  have hdigits : ∀ n < 0x20, (hex 4 n).toList.length = 4 ∧
      natOfBase? 16 (hex 4 n).toList = some n := by decide
  intro n hn
  obtain ⟨hlength, hcode⟩ := hdigits n hn
  obtain ⟨a, b, c, d, hchars⟩ := List.length_eq_four.mp hlength
  exact ⟨a, b, c, d, hchars, hchars ▸ hcode⟩

/-- The piece stands for the character, in front of any others. -/
def StandsFor (piece : Piece) (c : Char) : Prop :=
  ∀ pieces, characters? (piece :: pieces) = (characters? pieces).map (c :: ·)

theorem standsFor_char (c : Char) : StandsFor (.char c) c := fun _ => rfl

theorem standsFor_unit {c : Char} (h : c.toNat < 0x20) : StandsFor (.unit c.toNat) c := by
  intro pieces
  have hplane : c.toNat < 0xd800 ∨ 0xdfff < c.toNat := .inl (by omega)
  rw [characters?.eq_def]
  simp only [if_pos hplane, Char.ofNat_toNat]

/-- However a character is shown, it is one element of a string. -/
theorem exists_piece (c : Char) :
    ∃ piece, SpellsPiece piece (escape c).toList ∧ StandsFor piece c := by
  -- A letter behind a backslash is one of the escapes that are read.
  have hletter : ∀ e, (e, c) ∈ escapes → ∀ shown : String, shown.toList = ['\\', e] →
      ∃ piece, SpellsPiece piece shown.toList ∧ StandsFor piece c := by
    intro e he shown hshown
    rw [hshown]
    exact ⟨.char c, .escape e c he, standsFor_char c⟩
  unfold escape
  split
  case isTrue h => exact hletter '"' (by simp [h, escapes]) _ rfl
  split
  case isTrue h => exact hletter '\\' (by simp [h, escapes]) _ rfl
  split
  case isTrue h => exact hletter 'n' (by simp [h, escapes]) _ rfl
  split
  case isTrue h => exact hletter 'r' (by simp [h, escapes]) _ rfl
  split
  case isTrue h => exact hletter 't' (by simp [h, escapes]) _ rfl
  split
  case isTrue h => exact hletter 'b' (by simp [h, escapes]) _ rfl
  split
  case isTrue h => exact hletter 'f' (by simp [h, escapes]) _ rfl
  split
  case isTrue hcontrol =>
      obtain ⟨a, b, d, e, hchars, hcode⟩ := exists_hex c.toNat hcontrol
      refine ⟨.unit c.toNat, ?_, standsFor_unit hcontrol⟩
      rw [String.toList_append, hchars]
      exact .unit a b d e c.toNat hcode
  case isFalse hquote hbackslash _ _ _ _ _ hcontrol =>
      refine ⟨.char c, ?_, standsFor_char c⟩
      rw [Char.toString, String.toList_singleton]
      exact .plain c (Nat.le_of_not_lt hcontrol) hquote hbackslash

theorem exists_spellsPieces (cs : List Char) :
    ∃ pieces, SpellsPieces pieces (String.join (cs.map escape)).toList ∧
      characters? pieces = some cs := by
  induction cs with
  | nil => exact ⟨[], .nil, rfl⟩
  | cons c cs ih =>
      obtain ⟨pieces, hpieces, hmeaning⟩ := ih
      obtain ⟨piece, hpiece, hstands⟩ := exists_piece c
      refine ⟨piece :: pieces, ?_, by rw [hstands, hmeaning]; rfl⟩
      rw [List.map_cons, String.join_cons, String.toList_append]
      exact .cons hpiece hpieces

/-- A text in quotes is the inside of a string that means the text. -/
theorem exists_quote (text : String) :
    ∃ pieces name, SpellsPieces pieces name ∧ text? pieces = some text ∧
      (quote text).toList = '"' :: (name ++ ['"']) := by
  obtain ⟨pieces, hpieces, hmeaning⟩ := exists_spellsPieces text.toList
  refine ⟨pieces, _, hpieces, by rw [text?, hmeaning, Option.map_some, String.ofList_toList], ?_⟩
  rw [quote, String.toList_append, String.toList_append]
  rfl

/-! ## Integers -/

variable {digits : List Char}

theorem le_foldl_digits (n : Nat) (digits : List Char) :
    n ≤ digits.foldl (fun n c => 10 * n + (c.toNat - '0'.toNat)) n := by
  induction digits generalizing n with
  | nil => exact Nat.le_refl n
  | cons c digits ih =>
      have hrest := ih (10 * n + (c.toNat - '0'.toNat))
      rw [List.foldl_cons]
      omega

/-- Digits are all taken if their number fits. -/
theorem appendDigits_of_lt {n : Nat}
    (h : digits.foldl (fun n c => 10 * n + (c.toNat - '0'.toNat)) n < Word.limit64) :
    appendDigits n digits =
      (digits.foldl (fun n c => 10 * n + (c.toNat - '0'.toNat)) n, []) := by
  induction digits generalizing n with
  | nil => rfl
  | cons c digits ih =>
      rw [List.foldl_cons] at h ⊢
      have hfits : 10 * n + (c.toNat - '0'.toNat) < Word.limit64 :=
        Nat.lt_of_le_of_lt (le_foldl_digits _ digits) h
      rw [appendDigits]
      simp only [if_pos hfits]
      exact ih h

theorem appendDigits_toDigits {n : Nat} (h : n < Word.limit64) :
    appendDigits 0 (Nat.toDigits 10 n) = (n, []) := by
  have hvalue : (Nat.toDigits 10 n).foldl (fun n c => 10 * n + (c.toNat - '0'.toNat)) 0 = n :=
    natOfDigits_toDigits n
  rw [appendDigits_of_lt (by rw [hvalue]; exact h), hvalue]

theorem isWhole_toDigits (n : Nat) : IsWhole (Nat.toDigits 10 n) where
  isNumeral := isNumeral_toDigits n
  eq_zero hzero := by
    by_cases hn : n = 0
    · subst hn
      rfl
    · exact absurd hzero (head?_toDigits hn)

/-- The numeral of an integer. -/
def numeralOf (n : Int) : Numeral := ⟨n < 0, Nat.toDigits 10 n.natAbs, [], none⟩

theorem spellsNumeral_integer (n : Int) : SpellsNumeral (numeralOf n) (Text.integer n).toList := by
  refine ⟨isWhole_toDigits n.natAbs, [], [], .absent, .absent, ?_⟩
  by_cases hsign : n < 0
  · simp [numeralOf, Text.integer, decimal, hsign]
  · simp [numeralOf, Text.integer, decimal, hsign]

/-- An integer within 64 bits, unsigned or negative, stays an integer. -/
theorem value?_numeralOf {n : Int} (hlow : -(Word.signedLimit64 : Int) ≤ n)
    (hhigh : n < Word.limit64) : (numeralOf n).value? = some (.integer n) := by
  have hlimit : Word.signedLimit64 < Word.limit64 := by decide
  have hdigits := appendDigits_toDigits (by omega : n.natAbs < Word.limit64)
  unfold Numeral.value?
  by_cases hsign : n < 0
  · have hpositive : 0 < n.natAbs ∧ n.natAbs ≤ Word.signedLimit64 := by omega
    have habs : -(n.natAbs : Int) = n := by omega
    simp only [numeralOf, hdigits, appendDigits, hsign, decide_true]
    simp only [List.isEmpty_nil, Option.isNone_none, Bool.not_true, habs]
    simp [hpositive]
  · have habs : (n.natAbs : Int) = n := by omega
    simp only [numeralOf, hdigits, appendDigits, hsign, decide_false]
    simp [habs]

/-! ## Lists between brackets -/

theorem isBlank_empty : IsBlank "".toList := by simp [IsBlank]

theorem IsBlank.deeper {indent : String} (h : IsBlank indent.toList) :
    IsBlank (indent ++ "  ").toList := by
  rw [String.toList_append]
  exact h.append (by simp [IsBlank])

/-- Entries with commas between them, with `before` in front of each and `after` behind the last
one. -/
def spaced (before after : String) (entries : List String) : String :=
  ",".intercalate (entries.map (before ++ ·)) ++ after

/-- Breaks behind the commas stand in front of the entries. -/
theorem intercalate_lines (entry : String) (entries : List String) :
    "\n" ++ ",\n".intercalate (entry :: entries) =
      ",".intercalate ((entry :: entries).map ("\n" ++ ·)) := by
  induction entries generalizing entry with
  | nil => simp
  | cons next entries ih =>
      have hbreak : ",\n" = "," ++ "\n" := rfl
      rw [String.intercalate_cons_cons, List.map_cons, List.map_cons, String.intercalate_cons_cons,
        ← List.map_cons, ← ih next, hbreak]
      simp only [String.append_assoc]

/-- The lines of a bracketed list are its entries, spaced with blanks. -/
theorem bracketed_eq_spaced {indent : String} (hindent : IsBlank indent.toList)
    (opening closing : String) (entries : List String) :
    ∃ before after, IsBlank before.toList ∧ IsBlank after.toList ∧
      bracketed opening closing indent entries =
        opening ++ spaced before after entries ++ closing := by
  cases entries with
  | nil => exact ⟨"", "", isBlank_empty, isBlank_empty, by simp [bracketed, spaced]⟩
  | cons entry entries =>
      have hbreak : IsBlank ("\n" ++ indent).toList := by
        rw [String.toList_append]
        exact IsBlank.append (by simp [IsBlank]) hindent
      refine ⟨"\n" ++ indent ++ "  ", "\n" ++ indent, hbreak.deeper, hbreak, ?_⟩
      have hlines := intercalate_lines (indent ++ "  " ++ entry)
        (entries.map fun e => indent ++ "  " ++ e)
      simp only [bracketed, spaced, List.isEmpty_cons, List.map_cons, List.map_map,
        Function.comp_def, String.append_assoc, Bool.false_eq_true, if_false] at hlines ⊢
      rw [← hlines]
      simp only [String.append_assoc]

/-- A text with blanks around it is the same text. -/
theorem IsText.append {document : Written} {text before after : String}
    (h : IsText document text) (hbefore : IsBlank before.toList) (hafter : IsBlank after.toList) :
    IsText document (before ++ text ++ after) := by
  obtain ⟨first, cs, last, hfirst, hcs, hlast, htext⟩ := h
  refine ⟨before.toList ++ first, cs, last ++ after.toList, hbefore.append hfirst, hcs,
    hlast.append hafter, ?_⟩
  simp [htext]

theorem IsText.spells_item {item : Written} {text : String} (h : IsText item text) :
    Spells (.items [item]) text.toList := by
  obtain ⟨before, cs, after, hbefore, hcs, hafter, htext⟩ := h
  rw [htext]
  exact .lastItem hbefore hcs hafter

theorem IsText.spells_items {item : Written} {items : List Written} {text : String}
    {more : List Char} (h : IsText item text) (hne : items ≠ [])
    (hmore : Spells (.items items) more) :
    Spells (.items (item :: items)) (text.toList ++ ',' :: more) := by
  obtain ⟨before, cs, after, hbefore, hcs, hafter, htext⟩ := h
  rw [htext]
  simpa using Spells.item hbefore hcs hafter hne hmore

/-- Spaced texts of items are the inside of an array. -/
theorem spells_spaced_items {items : List Written} {texts : List String} {before after : String}
    (hbefore : IsBlank before.toList) (hafter : IsBlank after.toList)
    (h : List.Forall₂ IsText items texts) :
    Spells (.items items) (spaced before after texts).toList := by
  induction h with
  | nil => exact .noItems (by simpa [spaced] using hafter)
  | @cons item text items texts hitem hrest ih =>
      cases hrest with
      | nil => simpa [spaced] using (hitem.append hbefore hafter).spells_item
      | @cons next text' items texts hnext hrest =>
          have hspaced := (hitem.append hbefore isBlank_empty).spells_items
            (List.cons_ne_nil _ _) ih
          simpa [spaced, String.intercalate_cons_cons] using hspaced

/-- The text is a key in quotes, a colon, and the text of the value behind blanks. -/
def IsMember (member : List Piece × Written) (text : String) : Prop :=
  ∃ name value, SpellsPieces member.1 name ∧ IsText member.2 value ∧
    text.toList = '"' :: (name ++ '"' :: ':' :: value.toList)

/-- A member is its key up to the value, the value, and what follows. -/
theorem IsMember.exists_key {member : List Piece × Written} {text before after : String}
    (h : IsMember member text) (hbefore : IsBlank before.toList) (hafter : IsBlank after.toList) :
    ∃ name cs last, SpellsKey member.1 name ∧ Spells (.value member.2) cs ∧ IsBlank last ∧
      (before ++ text ++ after).toList = name ++ (cs ++ last) := by
  obtain ⟨name, value, hname, ⟨first, cs, last, hfirst, hcs, hlast, hvalue⟩, htext⟩ := h
  refine ⟨_, cs, last ++ after.toList,
    ⟨before.toList, name, [], first, hbefore, hname, isBlank_nil, hfirst, rfl⟩, hcs,
    hlast.append hafter, ?_⟩
  simp [htext, hvalue]

/-- Spaced texts of members are the inside of an object. -/
theorem spells_spaced_members {members : List (List Piece × Written)} {texts : List String}
    {before after : String} (hbefore : IsBlank before.toList) (hafter : IsBlank after.toList)
    (h : List.Forall₂ IsMember members texts) :
    Spells (.members members) (spaced before after texts).toList := by
  induction h with
  | nil => exact .noMembers (by simpa [spaced] using hafter)
  | @cons member text members texts hmember hrest ih =>
      cases hrest with
      | nil =>
          obtain ⟨name, cs, last, hname, hcs, hlast, htext⟩ := hmember.exists_key hbefore hafter
          rw [show spaced before after [text] = before ++ text ++ after by simp [spaced], htext]
          exact .lastMember hname hcs hlast
      | @cons next text' members texts hnext hrest =>
          obtain ⟨name, cs, last, hname, hcs, hlast, htext⟩ :=
            hmember.exists_key hbefore isBlank_empty
          have hspaced : (spaced before after (text :: text' :: texts)).toList =
              name ++ (cs ++ (last ++ ',' :: (spaced before after (text' :: texts)).toList)) := by
            rw [← List.append_assoc, ← List.append_assoc, List.append_assoc name, ← htext]
            simp [spaced, String.intercalate_cons_cons]
          rw [hspaced]
          exact .member hname hcs hlast (List.cons_ne_nil _ _) ih

/-! ## Texts and what they mean -/

/-- The text is that of a document which means `v` and is nested `depth` deep. -/
def Says (v : Value) (depth : Nat) (text : String) : Prop :=
  ∃ document, IsText document text ∧ document.value? = some v ∧ document.depth = depth

/-- The texts are those of items which mean the given values. -/
def SaysItems (vs : List Value) (depth : Nat) (texts : List String) : Prop :=
  ∃ items, List.Forall₂ IsText items texts ∧ valuesOfItems? items = some vs ∧
    depthOfItems items = depth

/-- The texts are those of members which mean the given pairs. -/
def SaysMembers (pairs : List (String × Value)) (depth : Nat) (texts : List String) : Prop :=
  ∃ members, List.Forall₂ IsMember members texts ∧ valuesOfMembers? members = some pairs ∧
    depthOfMembers members = depth

variable {v : Value} {vs : List Value} {pairs : List (String × Value)} {depth depth' : Nat}
  {text before after : String} {texts : List String}

theorem isText_of_spells {document : Written} (h : Spells (.value document) text.toList) :
    IsText document text :=
  ⟨[], text.toList, [], isBlank_nil, h, isBlank_nil, by simp⟩

theorem says_null : Says .null 0 "null" := ⟨.null, isText_of_spells .null, rfl, rfl⟩

theorem says_bool (b : Bool) : Says (.bool b) 0 (if b then "true" else "false") := by
  refine ⟨.bool b, isText_of_spells ?_, rfl, rfl⟩
  cases b with
  | true => exact .bool true
  | false => exact .bool false

theorem says_integer {n : Int} (hlow : -(Word.signedLimit64 : Int) ≤ n)
    (hhigh : n < Word.limit64) : Says (.integer n) 0 (Text.integer n) :=
  ⟨.number (numeralOf n), isText_of_spells (.number (spellsNumeral_integer n)),
    value?_numeralOf hlow hhigh, rfl⟩

theorem says_quote (text : String) : Says (.string text) 0 (quote text) := by
  obtain ⟨pieces, name, hname, hmeaning, hquote⟩ := exists_quote text
  refine ⟨.string pieces, isText_of_spells ?_, ?_, rfl⟩
  · rw [hquote]
    exact .string hname
  · rw [Written.value?, hmeaning, Option.map_some]

/-- A text that is read as a floating-point number is that of a number. -/
theorem says_float {x : Binary64} (h : parse? text = some (.float x)) : Says (.float x) 0 text := by
  obtain ⟨document, hread, h⟩ := Option.bind_eq_some_iff.mp h
  obtain ⟨-, hvalue⟩ := Option.ite_none_right_eq_some.mp h
  refine ⟨document, read?_eq_some_iff.mp hread, hvalue, ?_⟩
  cases document with
  | array items =>
      obtain ⟨vs, -, hfloat⟩ := Option.map_eq_some_iff.mp hvalue
      cases hfloat
  | object members =>
      obtain ⟨pairs, -, hfloat⟩ := Option.map_eq_some_iff.mp hvalue
      cases hfloat
  | null => rfl
  | bool b => rfl
  | number n => rfl
  | string s => rfl

/-- Items of an array between its brackets. -/
theorem SaysItems.array (h : SaysItems vs depth texts) (hbefore : IsBlank before.toList)
    (hafter : IsBlank after.toList) :
    Says (.array vs) (depth + 1) ("[" ++ spaced before after texts ++ "]") := by
  obtain ⟨items, hitems, hmeaning, hdepth⟩ := h
  refine ⟨.array items, isText_of_spells ?_, ?_, by rw [Written.depth, hdepth]⟩
  · simpa using Spells.array (spells_spaced_items hbefore hafter hitems)
  · rw [Written.value?, hmeaning, Option.map_some]

/-- Members between braces spell an object with these members and no others. -/
theorem SaysMembers.exists_isText (h : SaysMembers pairs depth texts)
    (hbefore : IsBlank before.toList) (hafter : IsBlank after.toList) :
    ∃ members, IsText (.object members) ("\x7b" ++ spaced before after texts ++ "\x7d") ∧
      valuesOfMembers? members = some pairs ∧ depthOfMembers members = depth := by
  obtain ⟨members, hmembers, hmeaning, hdepth⟩ := h
  refine ⟨members, isText_of_spells ?_, hmeaning, hdepth⟩
  simpa using Spells.object (spells_spaced_members hbefore hafter hmembers)

/-- Members of an object between its braces. -/
theorem SaysMembers.object (h : SaysMembers pairs depth texts) (hbefore : IsBlank before.toList)
    (hafter : IsBlank after.toList) :
    Says (.object (SortedMap.ofList pairs)) (depth + 1)
      ("\x7b" ++ spaced before after texts ++ "\x7d") := by
  obtain ⟨members, htext, hmeaning, hdepth⟩ := h.exists_isText hbefore hafter
  refine ⟨.object members, htext, ?_, by rw [Written.depth, hdepth]⟩
  rw [Written.value?, hmeaning, Option.map_some]

theorem saysItems_nil : SaysItems [] 0 [] := ⟨[], .nil, rfl, rfl⟩

theorem Says.cons (h : Says v depth text) (hrest : SaysItems vs depth' texts) :
    SaysItems (v :: vs) (max depth depth') (text :: texts) := by
  obtain ⟨item, hitem, hvalue, rfl⟩ := h
  obtain ⟨items, hitems, hvalues, rfl⟩ := hrest
  exact ⟨item :: items, .cons hitem hitems, by simp [valuesOfItems?, hvalue, hvalues], rfl⟩

theorem saysMembers_nil : SaysMembers [] 0 [] := ⟨[], .nil, rfl, rfl⟩

/-- A member in front of others, with blanks behind its colon. -/
theorem Says.member (h : Says v depth text) (key : String) (hbefore : IsBlank before.toList)
    (hrest : SaysMembers pairs depth' texts) :
    SaysMembers ((key, v) :: pairs) (max depth depth')
      ((quote key ++ ":" ++ before ++ text) :: texts) := by
  obtain ⟨item, hitem, hvalue, rfl⟩ := h
  obtain ⟨members, hmembers, hvalues, rfl⟩ := hrest
  obtain ⟨pieces, name, hname, hmeaning, hquote⟩ := exists_quote key
  have hmember : IsMember (pieces, item) (quote key ++ ":" ++ before ++ text) := by
    refine ⟨name, before ++ text ++ "", hname, hitem.append hbefore isBlank_empty, ?_⟩
    simp [hquote]
  exact ⟨(pieces, item) :: members, .cons hmember hmembers,
    by simp [valuesOfMembers?, hmeaning, hvalue, hvalues], rfl⟩

/-! ## Printed values -/

mutual

/-- The value with the members of its objects in the order of their keys. -/
def Value.sorted : Value → Value
  | .array items => .array (sortedItems items)
  | .object members => .object (SortedMap.ofList (sortedMembers members))
  | v => v

def sortedItems : List Value → List Value
  | [] => []
  | v :: vs => v.sorted :: sortedItems vs

def sortedMembers : List (String × Value) → List (String × Value)
  | [] => []
  | (key, v) :: members => (key, v.sorted) :: sortedMembers members

end

mutual

/-- The number of nested arrays and objects on the deepest path into the value. -/
def Value.depth : Value → Nat
  | .array items => depthOfValues items + 1
  | .object members => depthOfPairs members + 1
  | _ => 0

def depthOfValues : List Value → Nat
  | [] => 0
  | v :: vs => max v.depth (depthOfValues vs)

def depthOfPairs : List (String × Value) → Nat
  | [] => 0
  | (_, v) :: members => max v.depth (depthOfPairs members)

end

mutual

/-- Each number in the value alone is read as it was printed: integers fit into 64 bits, and
floating-point numbers are not changed by their text. -/
def Value.IsLegible : Value → Prop
  | .integer n => -(Word.signedLimit64 : Int) ≤ n ∧ n < Word.limit64
  | .float x => parse? (floatText x) = some (.float x)
  | .array items => AreLegible items
  | .object members => HoldLegible members
  | _ => True

def AreLegible : List Value → Prop
  | [] => True
  | v :: vs => v.IsLegible ∧ AreLegible vs

def HoldLegible : List (String × Value) → Prop
  | [] => True
  | (_, v) :: members => v.IsLegible ∧ HoldLegible members

end

theorem sortedItems_eq_map (vs : List Value) : sortedItems vs = vs.map (·.sorted) := by
  induction vs with
  | nil => rfl
  | cons v vs ih => rw [sortedItems, ih, List.map_cons]

theorem sortedMembers_eq_map (members : List (String × Value)) :
    sortedMembers members = members.map fun member => (member.1, member.2.sorted) := by
  induction members with
  | nil => rfl
  | cons member members ih => rw [sortedMembers, ih, List.map_cons]

theorem depthOfValues_le_iff {vs : List Value} {n : Nat} :
    depthOfValues vs ≤ n ↔ ∀ v ∈ vs, v.depth ≤ n := by
  induction vs with
  | nil => simp [depthOfValues]
  | cons v vs ih => rw [depthOfValues, Nat.max_le, ih, List.forall_mem_cons]

theorem depthOfPairs_le_iff {members : List (String × Value)} {n : Nat} :
    depthOfPairs members ≤ n ↔ ∀ member ∈ members, member.2.depth ≤ n := by
  induction members with
  | nil => simp [depthOfPairs]
  | cons member members ih => rw [depthOfPairs, Nat.max_le, ih, List.forall_mem_cons]

theorem areLegible_iff (vs : List Value) : AreLegible vs ↔ ∀ v ∈ vs, v.IsLegible := by
  induction vs with
  | nil => simp [AreLegible]
  | cons v vs ih => rw [AreLegible, ih, List.forall_mem_cons]

theorem holdLegible_iff (members : List (String × Value)) :
    HoldLegible members ↔ ∀ member ∈ members, member.2.IsLegible := by
  induction members with
  | nil => simp [HoldLegible]
  | cons member members ih => rw [HoldLegible, ih, List.forall_mem_cons]

/-- A text is read as what it says, if that is not nested too deeply. -/
theorem Says.parse?_eq (h : Says v depth text) (hdepth : depth ≤ maxDepth) :
    parse? text = some v := by
  obtain ⟨document, htext, hmeaning, hnested⟩ := h
  rw [parse?, read?_of_isText htext, Option.bind_some, Written.valueWithin?, Nat.zero_add,
    hnested, if_pos hdepth, hmeaning]

theorem intercalate_eq_spaced (entries : List String) :
    ",".intercalate entries = spaced "" "" entries := by
  simp [spaced]

mutual

/-- What is printed without blanks says the value with its objects sorted. -/
theorem says_compact (v : Value) (h : v.IsLegible) : Says v.sorted v.depth v.compact := by
  cases v with
  | null => exact says_null
  | bool b => exact says_bool b
  | integer n => exact says_integer h.1 h.2
  | float x => exact says_float h
  | string s => exact says_quote s
  | array items =>
      rw [Value.compact, intercalate_eq_spaced]
      exact (saysItems_compactItems items h).array isBlank_empty isBlank_empty
  | object members =>
      rw [Value.compact, intercalate_eq_spaced]
      exact (saysMembers_compactMembers members h).object isBlank_empty isBlank_empty

theorem saysItems_compactItems (vs : List Value) (h : AreLegible vs) :
    SaysItems (sortedItems vs) (depthOfValues vs) (compactItems vs) := by
  cases vs with
  | nil => exact saysItems_nil
  | cons v vs => exact (says_compact v h.1).cons (saysItems_compactItems vs h.2)

theorem saysMembers_compactMembers (members : List (String × Value)) (h : HoldLegible members) :
    SaysMembers (sortedMembers members) (depthOfPairs members) (compactMembers members) := by
  cases members with
  | nil => exact saysMembers_nil
  | cons member members =>
      obtain ⟨key, v⟩ := member
      rw [compactMembers, ← String.append_empty (s := quote key ++ ":")]
      exact (says_compact v h.1).member key isBlank_empty (saysMembers_compactMembers members h.2)

end

mutual

/-- What is printed over several lines says the value with its objects sorted. -/
theorem says_prettyAt (v : Value) (h : v.IsLegible) {indent : String}
    (hindent : IsBlank indent.toList) : Says v.sorted v.depth (v.prettyAt indent) := by
  cases v with
  | null | bool | integer | float | string => exact says_compact _ h
  | array items =>
      obtain ⟨before, after, hbefore, hafter, hlines⟩ := bracketed_eq_spaced hindent "[" "]"
        (prettyItems (indent ++ "  ") items)
      rw [Value.prettyAt, hlines]
      exact (saysItems_prettyItems items h hindent.deeper).array hbefore hafter
  | object members =>
      obtain ⟨before, after, hbefore, hafter, hlines⟩ := bracketed_eq_spaced hindent "\x7b" "\x7d"
        (prettyMembers (indent ++ "  ") members)
      rw [Value.prettyAt, hlines]
      exact (saysMembers_prettyMembers members h hindent.deeper).object hbefore hafter

theorem saysItems_prettyItems (vs : List Value) (h : AreLegible vs) {indent : String}
    (hindent : IsBlank indent.toList) :
    SaysItems (sortedItems vs) (depthOfValues vs) (prettyItems indent vs) := by
  cases vs with
  | nil => exact saysItems_nil
  | cons v vs => exact (says_prettyAt v h.1 hindent).cons (saysItems_prettyItems vs h.2 hindent)

theorem saysMembers_prettyMembers (members : List (String × Value)) (h : HoldLegible members)
    {indent : String} (hindent : IsBlank indent.toList) :
    SaysMembers (sortedMembers members) (depthOfPairs members) (prettyMembers indent members) := by
  cases members with
  | nil => exact saysMembers_nil
  | cons member members =>
      obtain ⟨key, v⟩ := member
      have hblank : IsBlank " ".toList := by simp [IsBlank]
      have hcolon : quote key ++ ": " = quote key ++ ":" ++ " " := by
        rw [String.append_assoc]
        rfl
      rw [prettyMembers, hcolon]
      exact (says_prettyAt v h.1 hindent).member key hblank
        (saysMembers_prettyMembers members h.2 hindent)

end

/-- A legible value is read back from its text without blanks, with its objects sorted. -/
theorem parse?_compact {v : Value} (h : v.IsLegible) (hdepth : v.depth ≤ maxDepth) :
    parse? v.compact = some v.sorted :=
  (says_compact v h).parse?_eq hdepth

/-- A legible value is read back from its lines, with its objects sorted. -/
theorem parse?_pretty {v : Value} (h : v.IsLegible) (hdepth : v.depth ≤ maxDepth) :
    parse? v.pretty = some v.sorted :=
  (says_prettyAt v h isBlank_empty).parse?_eq hdepth

/-- The members of an object are written in their order, with none left out and none added. -/
theorem exists_members_compact {members : List (String × Value)} (h : HoldLegible members) :
    ∃ written, read? (Value.object members).compact = some (.object written) ∧
      valuesOfMembers? written = some (sortedMembers members) := by
  obtain ⟨written, htext, hmeaning, -⟩ :=
    (saysMembers_compactMembers members h).exists_isText isBlank_empty isBlank_empty
  rw [Value.compact, intercalate_eq_spaced]
  exact ⟨written, read?_of_isText htext, hmeaning⟩

end LoadProbe.Json
