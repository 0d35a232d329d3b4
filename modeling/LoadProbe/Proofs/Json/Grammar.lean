import LoadProbe.Json.Reader
import LoadProbe.Proofs.Text.Numerals
import LoadProbe.Proofs.Text.Runs

/-!
# The grammar of JSON

The grammar of RFC 8259 with the documents that its texts spell, written down without the reader:
what a value is made of may be spaced out with blanks, and a text is one value with blanks around
it.

* `Json.SpellsNumeral` and `Json.SpellsPieces` are numbers and the insides of strings.
* `Json.Spells` is a value, the items of an array or the members of an object, and `Json.IsText` a
  whole text.
* `Json.read?_of_isText`: every text of the grammar is read as the document that it spells.
-/

namespace LoadProbe.Json

open LoadProbe.Text

variable {cs rest : List Char}

/-! ## Blanks -/

/-- There is nothing but blanks. -/
def IsBlank (cs : List Char) : Prop := ∀ c ∈ cs, c = ' ' ∨ c = '\t' ∨ c = '\n' ∨ c = '\r'

theorem isBlank_nil : IsBlank [] := List.forall_mem_nil _

theorem isBlank_of_mem (h : IsBlank cs) {c : Char} (hc : c ∈ cs) : isBlank c = true := by
  simpa [isBlank] using h c hc

theorem skipBlanks_append (h : IsBlank cs) (hrest : ∀ c ∈ rest.head?, isBlank c = false) :
    skipBlanks (cs ++ rest) = rest :=
  dropWhile_run (fun _ hc => isBlank_of_mem h hc) hrest

theorem skipBlanks_of_isBlank (h : IsBlank cs) : skipBlanks cs = [] := by
  rw [← skipBlanks_append h (by simp : ∀ c ∈ ([] : List Char).head?, isBlank c = false),
    List.append_nil]

/-! ## Numbers -/

/-- The digits before a point: a zero stands alone. -/
structure IsWhole (digits : List Char) : Prop where
  isNumeral : IsNumeral digits
  eq_zero : digits.head? = some '0' → digits = ['0']

/-- A point with digits, or nothing at all. -/
inductive SpellsFraction : List Char → List Char → Prop where
  | absent : SpellsFraction [] []
  | pointed (digits : List Char) (h : IsNumeral digits) : SpellsFraction digits ('.' :: digits)

/-- A letter `e` and a number with a sign or without, or nothing at all. -/
inductive SpellsExponent : Option Int → List Char → Prop where
  | absent : SpellsExponent none []
  | marked (mark : Char) (hmark : mark = 'e' ∨ mark = 'E') (negative : Bool)
      (digits cs : List Char) (hsigned : IsSigned digits negative cs) (hdigits : IsNumeral digits) :
      SpellsExponent
        (some (if negative then -(natOfDigits digits : Int) else natOfDigits digits)) (mark :: cs)

/-- A number. -/
structure SpellsNumeral (n : Numeral) (cs : List Char) : Prop where
  isWhole : IsWhole n.whole
  exists_parts : ∃ fraction exponent, SpellsFraction n.fraction fraction ∧
    SpellsExponent n.exponent exponent ∧
    cs = (if n.negative then ['-'] else []) ++ n.whole ++ fraction ++ exponent

/-- What follows does not go on with a number. -/
def EndsNumber (rest : List Char) : Prop :=
  ∀ c ∈ rest.head?, c.isDigit = false ∧ c ≠ '.' ∧ c ≠ 'e' ∧ c ≠ 'E'

theorem endsNumber_of_isBlank (h : IsBlank cs) (hrest : EndsNumber rest) :
    EndsNumber (cs ++ rest) := by
  cases cs with
  | nil => exact hrest
  | cons c cs =>
      intro d hd
      obtain rfl : c = d := Option.some.inj hd
      rcases h c List.mem_cons_self with rfl | rfl | rfl | rfl <;> decide

theorem digits?_append {digits : List Char} (h : IsNumeral digits)
    (hrest : ∀ c ∈ rest.head?, c.isDigit = false) :
    digits? (digits ++ rest) = some (digits, rest) := by
  rw [digits?, takeWhile_run h.isDigit hrest, dropWhile_run h.isDigit hrest]
  obtain ⟨c, digits, rfl⟩ := List.exists_cons_of_ne_nil h.ne_nil
  rfl

theorem whole?_append {digits : List Char} (h : IsWhole digits)
    (hrest : ∀ c ∈ rest.head?, c.isDigit = false) :
    whole? (digits ++ rest) = some (digits, rest) := by
  by_cases hzero : digits.head? = some '0'
  · obtain rfl := h.eq_zero hzero
    have hnone : rest.head?.any Char.isDigit = false := by
      rw [Option.any_eq_false]
      exact fun c hc => by simp [hrest c hc]
    simp [whole?, hnone]
  · obtain ⟨c, digits, rfl⟩ := List.exists_cons_of_ne_nil h.isNumeral.ne_nil
    have hc : c ≠ '0' := fun hc => hzero (congrArg some hc)
    rw [← digits?_append h.isNumeral hrest, whole?]
    simp [hc]

theorem fraction?_append {fraction : List Char} (h : SpellsFraction fraction cs)
    (hrest : ∀ c ∈ rest.head?, c.isDigit = false ∧ c ≠ '.') :
    fraction? (cs ++ rest) = some (fraction, rest) := by
  cases h with
  | absent =>
      rw [List.nil_append, fraction?.eq_def]
      split
      · exact absurd rfl (hrest '.' rfl).2
      · rfl
  | pointed digits hdigits => exact digits?_append hdigits fun c hc => (hrest c hc).1

theorem exponent?_append {exponent : Option Int} (h : SpellsExponent exponent cs)
    (hrest : ∀ c ∈ rest.head?, c.isDigit = false ∧ c ≠ 'e' ∧ c ≠ 'E') :
    exponent? (cs ++ rest) = some (exponent, rest) := by
  cases h with
  | absent =>
      cases rest with
      | nil => rfl
      | cons c rest =>
          obtain ⟨-, hlower, hupper⟩ := hrest c rfl
          simp [exponent?, hlower, hupper]
  | marked mark hmark negative digits cs hsigned hdigits =>
      have hread := digits?_append hdigits fun c hc => (hrest c hc).1
      simp only [List.cons_append, exponent?, if_pos hmark, hdigits.splitSign_append hsigned, hread,
        Option.map_some]

/-- An exponent does not go on with a fraction. -/
theorem SpellsExponent.head? {exponent : Option Int} (h : SpellsExponent exponent cs)
    (hrest : EndsNumber rest) : ∀ c ∈ (cs ++ rest).head?, c.isDigit = false ∧ c ≠ '.' := by
  cases h with
  | absent => exact fun c hc => ⟨(hrest c hc).1, (hrest c hc).2.1⟩
  | marked mark hmark =>
      rintro c ⟨⟩
      rcases hmark with rfl | rfl <;> decide

/-- A fraction does not go on with digits before it. -/
theorem SpellsFraction.head? {fraction : List Char} (h : SpellsFraction fraction cs)
    (hrest : ∀ c ∈ rest.head?, c.isDigit = false) :
    ∀ c ∈ (cs ++ rest).head?, c.isDigit = false := by
  cases h with
  | absent => exact hrest
  | pointed digits hdigits =>
      rintro c ⟨⟩
      decide

theorem unsignedNumeral?_append {n : Numeral} {fraction exponent : List Char}
    (hwhole : IsWhole n.whole) (hfraction : SpellsFraction n.fraction fraction)
    (hexponent : SpellsExponent n.exponent exponent) (hrest : EndsNumber rest) :
    unsignedNumeral? n.negative (n.whole ++ (fraction ++ (exponent ++ rest))) =
      some (n, rest) := by
  have hafterFraction := hexponent.head? hrest
  have hafterWhole := hfraction.head? fun c hc => (hafterFraction c hc).1
  have hafterExponent : ∀ c ∈ rest.head?, c.isDigit = false ∧ c ≠ 'e' ∧ c ≠ 'E' :=
    fun c hc => ⟨(hrest c hc).1, (hrest c hc).2.2⟩
  simp only [unsignedNumeral?, whole?_append hwhole hafterWhole,
    fraction?_append hfraction hafterFraction, exponent?_append hexponent hafterExponent,
    Option.bind_eq_bind, Option.bind_some]
  rfl

theorem numeral?_append {n : Numeral} (h : SpellsNumeral n cs) (hrest : EndsNumber rest) :
    numeral? (cs ++ rest) = some (n, rest) := by
  obtain ⟨hwhole, fraction, exponent, hfraction, hexponent, rfl⟩ := h
  have hread := unsignedNumeral?_append hwhole hfraction hexponent hrest
  cases hsign : n.negative with
  | true =>
      rw [hsign] at hread
      simpa [numeral?] using hread
  | false =>
      rw [hsign] at hread
      -- The first digit is no sign.
      obtain ⟨c, digits, hdigits⟩ := List.exists_cons_of_ne_nil hwhole.isNumeral.ne_nil
      have hminus : c ≠ '-' := by
        rintro rfl
        exact absurd (hwhole.isNumeral.isDigit '-' (by simp [hdigits])) (by decide)
      rw [hdigits] at hread
      simpa [numeral?, hdigits, hminus] using hread

/-! ## Strings -/

/-- The letters that may follow a backslash, each with the character that it stands for. -/
def escapes : List (Char × Char) :=
  [('"', '"'), ('\\', '\\'), ('/', '/'), ('b', '\x08'), ('f', '\x0c'), ('n', '\n'), ('r', '\r'),
    ('t', '\t')]

/-- One element of a string: a character as it is, a letter that stands for one, or four
hexadecimal digits. -/
inductive SpellsPiece : Piece → List Char → Prop where
  | plain (c : Char) (hcontrol : 0x20 ≤ c.toNat) (hquote : c ≠ '"') (hbackslash : c ≠ '\\') :
      SpellsPiece (.char c) [c]
  | escape (e c : Char) (h : (e, c) ∈ escapes) : SpellsPiece (.char c) ['\\', e]
  | unit (a b c d : Char) (code : Nat) (h : natOfBase? 16 [a, b, c, d] = some code) :
      SpellsPiece (.unit code) ['\\', 'u', a, b, c, d]

/-- The inside of a string. -/
inductive SpellsPieces : List Piece → List Char → Prop where
  | nil : SpellsPieces [] []
  | cons {piece : Piece} {pieces : List Piece} {first more : List Char}
      (hpiece : SpellsPiece piece first) (hmore : SpellsPieces pieces more) :
      SpellsPieces (piece :: pieces) (first ++ more)

theorem simpleEscape?_of_mem : ∀ entry ∈ escapes, simpleEscape? entry.1 = some entry.2 ∧
    entry.1 ≠ 'u' := by
  decide

theorem string?_piece {piece : Piece} {pieces : List Piece} {more : List Char}
    (hpiece : SpellsPiece piece cs) (hmore : string? more = some (pieces, rest)) :
    string? (cs ++ more) = some (piece :: pieces, rest) := by
  cases hpiece with
  | plain c hcontrol hquote hbackslash =>
      simpa [string?, hbackslash, hmore] using hcontrol
  | escape e c h =>
      obtain ⟨hescape, hunit⟩ := simpleEscape?_of_mem _ h
      simp [string?, hescape, hunit, hmore]
  | unit a b c d code h =>
      simp [string?, h, hmore]

theorem string?_append {pieces : List Piece} (h : SpellsPieces pieces cs) (rest : List Char) :
    string? (cs ++ '"' :: rest) = some (pieces, rest) := by
  induction h with
  | nil => simp [string?]
  | cons hpiece hmore ih =>
      rw [List.append_assoc]
      exact string?_piece hpiece ih

/-! ## Values -/

/-- What a part of a text may stand for: a value, the items of an array or the members of an
object. -/
inductive Phrase where
  | value (document : Written)
  | items (items : List Written)
  | members (members : List (List Piece × Written))

/-- The key of a member up to its value. -/
def SpellsKey (key : List Piece) (cs : List Char) : Prop :=
  ∃ before name between after, IsBlank before ∧ SpellsPieces key name ∧ IsBlank between ∧
    IsBlank after ∧ cs = before ++ '"' :: (name ++ '"' :: (between ++ ':' :: after))

/-- A value, or what stands between the brackets of an array or the braces of an object. -/
inductive Spells : Phrase → List Char → Prop where
  | null : Spells (.value .null) ['n', 'u', 'l', 'l']
  | bool (b : Bool) :
      Spells (.value (.bool b)) (if b then ['t', 'r', 'u', 'e'] else ['f', 'a', 'l', 's', 'e'])
  | number {n : Numeral} {cs : List Char} (h : SpellsNumeral n cs) : Spells (.value (.number n)) cs
  | string {s : List Piece} {cs : List Char} (h : SpellsPieces s cs) :
      Spells (.value (.string s)) ('"' :: (cs ++ ['"']))
  | array {items : List Written} {cs : List Char} (h : Spells (.items items) cs) :
      Spells (.value (.array items)) ('[' :: (cs ++ [']']))
  | object {members : List (List Piece × Written)} {cs : List Char}
      (h : Spells (.members members) cs) :
      Spells (.value (.object members)) ('\x7b' :: (cs ++ ['\x7d']))
  | noItems {cs : List Char} (h : IsBlank cs) : Spells (.items []) cs
  | lastItem {item : Written} {before cs after : List Char} (hbefore : IsBlank before)
      (h : Spells (.value item) cs) (hafter : IsBlank after) :
      Spells (.items [item]) (before ++ (cs ++ after))
  | item {item : Written} {items : List Written} {before cs after more : List Char}
      (hbefore : IsBlank before) (h : Spells (.value item) cs) (hafter : IsBlank after)
      (hitems : items ≠ []) (hmore : Spells (.items items) more) :
      Spells (.items (item :: items)) (before ++ (cs ++ (after ++ ',' :: more)))
  | noMembers {cs : List Char} (h : IsBlank cs) : Spells (.members []) cs
  | lastMember {key : List Piece} {item : Written} {name cs after : List Char}
      (hkey : SpellsKey key name) (h : Spells (.value item) cs) (hafter : IsBlank after) :
      Spells (.members [(key, item)]) (name ++ (cs ++ after))
  | member {key : List Piece} {item : Written} {members : List (List Piece × Written)}
      {name cs after more : List Char} (hkey : SpellsKey key name) (h : Spells (.value item) cs)
      (hafter : IsBlank after) (hmembers : members ≠ []) (hmore : Spells (.members members) more) :
      Spells (.members ((key, item) :: members)) (name ++ (cs ++ (after ++ ',' :: more)))

/-- A whole text: a value with blanks around it. -/
def IsText (document : Written) (text : String) : Prop :=
  ∃ before cs after, IsBlank before ∧ Spells (.value document) cs ∧ IsBlank after ∧
    text.toList = before ++ (cs ++ after)

/-! ## Reading -/

/-- A number starts with a minus sign or a digit. -/
theorem SpellsNumeral.exists_cons {n : Numeral} (h : SpellsNumeral n cs) :
    ∃ c tail, cs = c :: tail ∧ (c = '-' ∨ c.isDigit = true) := by
  obtain ⟨hwhole, fraction, exponent, -, -, rfl⟩ := h
  obtain ⟨c, digits, hdigits⟩ := List.exists_cons_of_ne_nil hwhole.isNumeral.ne_nil
  have hc : c.isDigit = true := hwhole.isNumeral.isDigit c (by simp [hdigits])
  cases n.negative with
  | true => exact ⟨'-', _, rfl, .inl rfl⟩
  | false => exact ⟨c, digits ++ fraction ++ exponent, by simp [hdigits], .inr hc⟩

/-- A value starts with a character of its own. -/
theorem Spells.exists_cons {document : Written} (h : Spells (.value document) cs) :
    ∃ c tail, cs = c :: tail ∧ isBlank c = false ∧ c ≠ ']' := by
  cases h with
  | null => exact ⟨'n', _, rfl, by decide, by decide⟩
  | bool b =>
      cases b with
      | true => exact ⟨'t', _, rfl, by decide, by decide⟩
      | false => exact ⟨'f', _, rfl, by decide, by decide⟩
  | string => exact ⟨'"', _, rfl, by decide, by decide⟩
  | array => exact ⟨'[', _, rfl, by decide, by decide⟩
  | object => exact ⟨'\x7b', _, rfl, by decide, by decide⟩
  | number h =>
      obtain ⟨c, tail, rfl, hc⟩ := h.exists_cons
      refine ⟨c, tail, rfl, ?_⟩
      rcases hc with rfl | hdigit
      · decide
      · refine ⟨Bool.eq_false_iff.mpr fun hblank => ?_, ?_⟩
        · have hcases : c = ' ' ∨ c = '\t' ∨ c = '\n' ∨ c = '\r' := by simpa [isBlank] using hblank
          rcases hcases with rfl | rfl | rfl | rfl <;> exact absurd hdigit (by decide)
        · rintro rfl
          exact absurd hdigit (by decide)

theorem value?_numeral {c : Char} (hc : c = '-' ∨ c.isDigit = true) (fuel : Nat)
    (cs : List Char) :
    value? (fuel + 1) (c :: cs) = (numeral? (c :: cs)).map fun (n, rest) => (.number n, rest) := by
  have hother : ∀ d : Char, ¬(d = '-' ∨ d.isDigit = true) → c ≠ d := fun d hd heq => hd (heq ▸ hc)
  simp [value?, hother '[' (by decide), hother '\x7b' (by decide), hother '"' (by decide),
    hother 'n' (by decide), hother 't' (by decide), hother 'f' (by decide)]

/-- Blanks before a value are skipped, and the value is not. -/
theorem skipBlanks_value {document : Written} {before : List Char} (hbefore : IsBlank before)
    (h : Spells (.value document) cs) (rest : List Char) :
    skipBlanks (before ++ (cs ++ rest)) = cs ++ rest := by
  obtain ⟨c, tail, rfl, hblank, -⟩ := h.exists_cons
  exact skipBlanks_append hbefore (by simpa using hblank)

/-- Items do not start with the closing bracket. -/
theorem Spells.head?_items {items : List Written} (h : Spells (.items items) cs)
    (hne : items ≠ []) (rest : List Char) : (skipBlanks (cs ++ rest)).head? ≠ some ']' := by
  cases h with
  | noItems => exact absurd rfl hne
  | lastItem hbefore hvalue | item hbefore hvalue =>
      obtain ⟨c, tail, rfl, -, hbracket⟩ := hvalue.exists_cons
      simp only [List.append_assoc, skipBlanks_value hbefore hvalue]
      simpa using hbracket

/-- The key of a member is read up to its value. -/
theorem SpellsKey.exists_string? {key : List Piece} {name : List Char} (h : SpellsKey key name)
    (rest : List Char) : ∃ inner between after, skipBlanks (name ++ rest) = '"' :: inner ∧
      string? inner = some (key, between ++ ':' :: (after ++ rest)) ∧ IsBlank between ∧
      IsBlank after := by
  obtain ⟨before, name, between, after, hbefore, hname, hbetween, hafter, rfl⟩ := h
  refine ⟨name ++ '"' :: (between ++ ':' :: (after ++ rest)), between, after, ?_,
    string?_append hname _, hbetween, hafter⟩
  have hquote : ∀ c ∈ ('"' :: (name ++ '"' :: (between ++ ':' :: (after ++ rest)))).head?,
      isBlank c = false := by
    rintro c ⟨⟩
    decide
  simpa using skipBlanks_append hbefore hquote

/-- Members do not start with the closing brace. -/
theorem Spells.head?_members {members : List (List Piece × Written)}
    (h : Spells (.members members) cs) (hne : members ≠ []) (rest : List Char) :
    (skipBlanks (cs ++ rest)).head? ≠ some '\x7d' := by
  cases h with
  | noMembers => exact absurd rfl hne
  | lastMember hkey | member hkey =>
      rw [List.append_assoc]
      obtain ⟨inner, -, -, hskip, -⟩ := hkey.exists_string? _
      rw [hskip]
      simp

/-- What it means that the reader reads a phrase: with enough fuel it takes the phrase and leaves
what follows. -/
def Phrase.IsRead : Phrase → List Char → Prop
  | .value document, cs => ∀ fuel rest, 2 * cs.length ≤ fuel → EndsNumber rest →
      value? fuel (cs ++ rest) = some (document, rest)
  | .items values, cs => values ≠ [] → ∀ fuel rest, 2 * cs.length + 3 ≤ fuel →
      items? fuel (skipBlanks (cs ++ ']' :: rest)) = some (values, rest)
  | .members pairs, cs => pairs ≠ [] → ∀ fuel rest, 2 * cs.length + 3 ≤ fuel →
      members? fuel (skipBlanks (cs ++ '\x7d' :: rest)) = some (pairs, rest)

theorem isRead_number {n : Numeral} (h : SpellsNumeral n cs) :
    (Phrase.value (.number n)).IsRead cs := by
  intro fuel rest hfuel hrest
  have hread := numeral?_append h hrest
  obtain ⟨c, tail, rfl, hc⟩ := h.exists_cons
  obtain ⟨fuel, rfl⟩ := Nat.exists_eq_add_one.mpr (Nat.lt_of_lt_of_le (by simp) hfuel)
  rw [List.cons_append, value?_numeral hc]
  rw [List.cons_append] at hread
  rw [hread]
  rfl

/-- The marks between and behind values. -/
def IsMark (c : Char) : Prop := c = ',' ∨ c = ':' ∨ c = ']' ∨ c = '\x7d'

theorem skipBlanks_mark {blanks : List Char} {c : Char} (h : IsBlank blanks) (hc : IsMark c)
    (rest : List Char) : skipBlanks (blanks ++ c :: rest) = c :: rest := by
  refine skipBlanks_append h ?_
  rintro d ⟨⟩
  rcases hc with rfl | rfl | rfl | rfl <;> decide

theorem endsNumber_mark {blanks : List Char} {c : Char} (h : IsBlank blanks) (hc : IsMark c)
    (rest : List Char) : EndsNumber (blanks ++ c :: rest) := by
  refine endsNumber_of_isBlank h ?_
  rintro d ⟨⟩
  rcases hc with rfl | rfl | rfl | rfl <;> decide

theorem isRead_array {items : List Written} (h : Spells (.items items) cs)
    (ih : (Phrase.items items).IsRead cs) :
    (Phrase.value (.array items)).IsRead ('[' :: (cs ++ [']'])) := by
  intro fuel rest hfuel _
  simp only [List.length_cons, List.length_append, List.length_nil] at hfuel
  obtain ⟨fuel, rfl⟩ := Nat.exists_eq_add_one.mpr (by omega : 0 < fuel)
  simp only [List.cons_append, List.append_assoc, List.nil_append]
  by_cases hne : items = []
  · subst hne
    cases h with
    | noItems hblank => simp [value?, skipBlanks_mark hblank (c := ']') (by simp [IsMark])]
  · have hread := ih hne fuel rest (by omega)
    have hhead := h.head?_items hne (']' :: rest)
    rw [value?]
    split
    case h_1 hskip => exact absurd (congrArg List.head? hskip) hhead
    case h_2 =>
        rw [hread]
        rfl

theorem isRead_lastItem {item : Written} {before after : List Char} (hbefore : IsBlank before)
    (h : Spells (.value item) cs) (hafter : IsBlank after) (ih : (Phrase.value item).IsRead cs) :
    (Phrase.items [item]).IsRead (before ++ (cs ++ after)) := by
  intro _ fuel rest hfuel
  simp only [List.length_append] at hfuel
  obtain ⟨fuel, rfl⟩ := Nat.exists_eq_add_one.mpr (by omega : 0 < fuel)
  have hclose : IsMark ']' := .inr (.inr (.inl rfl))
  have hread := ih fuel _ (by omega) (endsNumber_mark hafter hclose rest)
  simp only [List.append_assoc, skipBlanks_value hbefore h]
  simp [items?, hread, skipBlanks_mark hafter hclose]

theorem isRead_item {item : Written} {items : List Written} {before after more : List Char}
    (hbefore : IsBlank before) (h : Spells (.value item) cs) (hafter : IsBlank after)
    (hitems : items ≠ []) (ih : (Phrase.value item).IsRead cs)
    (ihmore : (Phrase.items items).IsRead more) :
    (Phrase.items (item :: items)).IsRead (before ++ (cs ++ (after ++ ',' :: more))) := by
  intro _ fuel rest hfuel
  simp only [List.length_append, List.length_cons] at hfuel
  obtain ⟨fuel, rfl⟩ := Nat.exists_eq_add_one.mpr (by omega : 0 < fuel)
  have hcomma : IsMark ',' := .inl rfl
  have hread := ih fuel _ (by omega) (endsNumber_mark hafter hcomma (more ++ ']' :: rest))
  have hmore := ihmore hitems fuel rest (by omega)
  simp only [List.append_assoc, List.cons_append, skipBlanks_value hbefore h]
  simp [items?, hread, skipBlanks_mark hafter hcomma, hmore]

theorem isRead_object {members : List (List Piece × Written)} (h : Spells (.members members) cs)
    (ih : (Phrase.members members).IsRead cs) :
    (Phrase.value (.object members)).IsRead ('\x7b' :: (cs ++ ['\x7d'])) := by
  intro fuel rest hfuel _
  simp only [List.length_cons, List.length_append, List.length_nil] at hfuel
  obtain ⟨fuel, rfl⟩ := Nat.exists_eq_add_one.mpr (by omega : 0 < fuel)
  simp only [List.cons_append, List.append_assoc, List.nil_append]
  by_cases hne : members = []
  · subst hne
    cases h with
    | noMembers hblank => simp [value?, skipBlanks_mark hblank (c := '\x7d') (by simp [IsMark])]
  · have hread := ih hne fuel rest (by omega)
    have hhead := h.head?_members hne ('\x7d' :: rest)
    rw [value?]
    split
    case h_1 hskip => exact absurd (congrArg List.head? hskip) hhead
    case h_2 =>
        rw [hread]
        rfl

/-- A member is its key, its value and what follows. -/
theorem members?_append {key : List Piece} {item : Written} {name : List Char} {fuel : Nat}
    (hkey : SpellsKey key name) (h : Spells (.value item) cs)
    (hread : value? fuel (cs ++ rest) = some (item, rest)) :
    members? (fuel + 1) (skipBlanks (name ++ (cs ++ rest))) = match skipBlanks rest with
      | '\x7d' :: rest => some ([(key, item)], rest)
      | ',' :: cs =>
          (members? fuel (skipBlanks cs)).bind fun (members, rest) =>
            some ((key, item) :: members, rest)
      | _ => none := by
  obtain ⟨inner, between, behind, hskip, hstring, hbetween, hbehind⟩ :=
    hkey.exists_string? (cs ++ rest)
  have hcolon := skipBlanks_mark hbetween (.inr (.inl rfl)) (behind ++ (cs ++ rest))
  have hvalue := skipBlanks_value hbehind h rest
  rw [hskip, members?]
  simp only [hstring, hcolon, hvalue, hread, word?, Option.bind_eq_bind, Option.bind_some, if_true]
  rfl

theorem isRead_lastMember {key : List Piece} {item : Written} {name after : List Char}
    (hkey : SpellsKey key name) (h : Spells (.value item) cs) (hafter : IsBlank after)
    (ih : (Phrase.value item).IsRead cs) :
    (Phrase.members [(key, item)]).IsRead (name ++ (cs ++ after)) := by
  intro _ fuel rest hfuel
  simp only [List.length_append] at hfuel
  obtain ⟨fuel, rfl⟩ := Nat.exists_eq_add_one.mpr (by omega : 0 < fuel)
  have hclose : IsMark '\x7d' := .inr (.inr (.inr rfl))
  have hread := ih fuel _ (by omega) (endsNumber_mark hafter hclose rest)
  simp only [List.append_assoc, members?_append hkey h hread, skipBlanks_mark hafter hclose]

theorem isRead_member {key : List Piece} {item : Written} {members : List (List Piece × Written)}
    {name after more : List Char} (hkey : SpellsKey key name) (h : Spells (.value item) cs)
    (hafter : IsBlank after) (hmembers : members ≠ []) (ih : (Phrase.value item).IsRead cs)
    (ihmore : (Phrase.members members).IsRead more) :
    (Phrase.members ((key, item) :: members)).IsRead
      (name ++ (cs ++ (after ++ ',' :: more))) := by
  intro _ fuel rest hfuel
  simp only [List.length_append, List.length_cons] at hfuel
  obtain ⟨fuel, rfl⟩ := Nat.exists_eq_add_one.mpr (by omega : 0 < fuel)
  have hcomma : IsMark ',' := .inl rfl
  have hread := ih fuel _ (by omega) (endsNumber_mark hafter hcomma (more ++ '\x7d' :: rest))
  have hmore := ihmore hmembers fuel rest (by omega)
  simp only [List.append_assoc, List.cons_append, members?_append hkey h hread,
    skipBlanks_mark hafter hcomma, hmore, Option.bind_some]

/-- Every phrase is read. -/
theorem Spells.isRead {phrase : Phrase} (h : Spells phrase cs) : phrase.IsRead cs := by
  induction h with
  | null =>
      intro fuel rest hfuel _
      obtain ⟨fuel, rfl⟩ := Nat.exists_eq_add_one.mpr (Nat.lt_of_lt_of_le (by simp) hfuel)
      rfl
  | bool b =>
      intro fuel rest hfuel _
      cases b with
      | true | false =>
          obtain ⟨fuel, rfl⟩ := Nat.exists_eq_add_one.mpr (Nat.lt_of_lt_of_le (by simp) hfuel)
          rfl
  | number h => exact isRead_number h
  | string h =>
      intro fuel rest hfuel _
      obtain ⟨fuel, rfl⟩ := Nat.exists_eq_add_one.mpr (Nat.lt_of_lt_of_le (by simp) hfuel)
      simp [value?, string?_append h rest]
  | array h ih => exact isRead_array h ih
  | object h ih => exact isRead_object h ih
  | noItems => exact fun hne => absurd rfl hne
  | lastItem hbefore h hafter ih => exact isRead_lastItem hbefore h hafter ih
  | item hbefore h hafter hitems _ ih ihmore => exact isRead_item hbefore h hafter hitems ih ihmore
  | noMembers => exact fun hne => absurd rfl hne
  | lastMember hkey h hafter ih => exact isRead_lastMember hkey h hafter ih
  | member hkey h hafter hmembers _ ih ihmore =>
      exact isRead_member hkey h hafter hmembers ih ihmore

/-- Every text of the grammar is read as the document that it spells. -/
theorem read?_of_isText {document : Written} {text : String} (h : IsText document text) :
    read? text = some document := by
  obtain ⟨before, cs, after, hbefore, hvalue, hafter, htext⟩ := h
  have hend : EndsNumber [] := nofun
  have hends : EndsNumber after := by
    simpa using endsNumber_of_isBlank hafter hend
  have hlength : text.toList.length = before.length + (cs.length + after.length) := by
    simp [htext]
  have hread := hvalue.isRead (2 * text.toList.length + 1) after (by omega) hends
  have hskip : skipBlanks text.toList = cs ++ after := by
    rw [htext]
    exact skipBlanks_value hbefore hvalue after
  simp only [read?, hskip, hread, Option.bind_eq_bind, Option.bind_some,
    skipBlanks_of_isBlank hafter, List.isEmpty_nil, if_true]

end LoadProbe.Json
