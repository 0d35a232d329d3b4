import Mathlib
import LoadProbe.Metrics.Exposition
import LoadProbe.Proofs.Binary64.Wholes
import LoadProbe.Proofs.Text.Numerals
import LoadProbe.Proofs.Text.Runs

/-!
# Lines of samples

Whoever collects counters reads a line of the export as the name of a family, labels with values in
quotes, and a number, and undoes the escapes in the values.  A value may contain whatever the line
is made of, but once it is escaped its quotes and line breaks are out of the way.

* `Metrics.value?`, `Metrics.labels?` and `Metrics.line?` read a line without knowing which families
  there are.
* `Metrics.value?_escapeLabel`: undoing the escapes of a text gives that text, whatever comes after
  the quote that closes it.
* `Metrics.line?_row`: the line of a counter is read as that counter.
-/

namespace LoadProbe.Metrics

open LoadProbe.Text

/-! ## Reading -/

/-- The counter that one line shows: its family, its labels with their values, and its number. -/
structure Reading where
  family : String
  labels : List (String × String)
  count : Nat
deriving DecidableEq

/-- The character that is escaped by a backslash and the given one. -/
def unescape? : Char → Option Char
  | '\\' => some '\\'
  | 'n' => some '\n'
  | '"' => some '"'
  | _ => none

/-- Reads a value up to the quote that closes it, and what comes after. -/
def value? : List Char → Option (List Char × List Char)
  | [] | ['\\'] => none
  | '"' :: rest => some ([], rest)
  | '\\' :: c :: rest =>
      (unescape? c).bind fun c => (value? rest).map fun (value, after) => (c :: value, after)
  | c :: rest => (value? rest).map fun (value, after) => (c :: value, after)

/-- Reads a label with its value. -/
def label? (cs : List Char) : Option ((String × String) × List Char) :=
  match cs.dropWhile (· ≠ '=') with
  | '=' :: '"' :: rest => (value? rest).map fun (value, after) =>
      ((String.ofList (cs.takeWhile (· ≠ '=')), String.ofList value), after)
  | _ => none

theorem length_value? {cs value after : List Char} (h : value? cs = some (value, after)) :
    after.length < cs.length := by
  induction cs using value?.induct generalizing value with
  | case1 => cases h
  | case2 => cases h
  | case3 rest =>
      obtain ⟨-, rfl⟩ := Prod.mk.inj (Option.some.inj h)
      exact Nat.lt_succ_self _
  | case4 c rest ih =>
      obtain ⟨d, -, h⟩ := Option.bind_eq_some_iff.mp h
      obtain ⟨⟨value', after'⟩, hread, heq⟩ := Option.map_eq_some_iff.mp h
      obtain ⟨-, rfl⟩ := Prod.mk.inj heq
      have hlt := ih hread
      simp only [List.length_cons]
      omega
  | case5 c rest hquote hescape hlast ih =>
      simp only [value?] at h
      obtain ⟨⟨value', after'⟩, hread, heq⟩ := Option.map_eq_some_iff.mp h
      obtain ⟨-, rfl⟩ := Prod.mk.inj heq
      exact (ih hread).trans (Nat.lt_succ_self _)

theorem length_label? {cs after : List Char} {label : String × String}
    (h : label? cs = some (label, after)) : after.length < cs.length := by
  unfold label? at h
  split at h
  case h_1 rest hrest =>
      obtain ⟨⟨value, after'⟩, hread, heq⟩ := Option.map_eq_some_iff.mp h
      obtain ⟨-, rfl⟩ := Prod.mk.inj heq
      have hlt := length_value? hread
      have hsuffix := (List.dropWhile_suffix (· ≠ '=') (l := cs)).length_le
      rw [hrest] at hsuffix
      simp only [List.length_cons] at hsuffix
      omega
  case h_2 => cases h

/-- Reads labels up to the brace that closes them. -/
def labels? (cs : List Char) : Option (List (String × String) × List Char) :=
  match _h : label? cs with
  | some (label, ',' :: rest) =>
      (labels? rest).map fun (labels, after) => (label :: labels, after)
  | some (label, '\x7d' :: rest) => some ([label], rest)
  | _ => none
termination_by cs.length
decreasing_by exact (Nat.lt_succ_self _).trans (length_label? _h)

/-- Reads a line. -/
def line? (line : List Char) : Option Reading :=
  match line.dropWhile (· ≠ '\x7b') with
  | [] => none
  | _ :: rest =>
      match labels? rest with
      | some (labels, ' ' :: digits) =>
          (natOfBase? 10 digits).map
            (⟨String.ofList (line.takeWhile (· ≠ '\x7b')), labels, ·⟩)
      | _ => none

/-! ## Values -/

theorem toList_escapeLabel (text : String) :
    (escapeLabel text).toList = text.toList.flatMap fun c => (escapeLabelCharacter c).toList := by
  rw [escapeLabel, String.toList_join, List.flatMap_map]

/-- An escaped character is itself, or a backslash and the character that undoes it. -/
theorem escapeLabelCharacter_cases (c : Char) :
    (c ≠ '\\' ∧ c ≠ '\n' ∧ c ≠ '"' ∧ (escapeLabelCharacter c).toList = [c]) ∨
      ∃ d, d ≠ '\n' ∧ unescape? d = some c ∧ (escapeLabelCharacter c).toList = ['\\', d] := by
  by_cases hbackslash : c = '\\'
  · subst hbackslash
    exact .inr ⟨'\\', by decide, rfl, rfl⟩
  by_cases hbreak : c = '\n'
  · subst hbreak
    exact .inr ⟨'n', by decide, rfl, rfl⟩
  by_cases hquote : c = '"'
  · subst hquote
    exact .inr ⟨'"', by decide, rfl, rfl⟩
  · refine .inl ⟨hbackslash, hbreak, hquote, ?_⟩
    simp [escapeLabelCharacter, hbackslash, hbreak, hquote]

/-- What is written for a value has no line breaks. -/
theorem not_mem_escapeLabel (text : String) : '\n' ∉ (escapeLabel text).toList := by
  rw [toList_escapeLabel, List.mem_flatMap]
  rintro ⟨c, -, hmem⟩
  rcases escapeLabelCharacter_cases c with ⟨-, hbreak, -, hself⟩ | ⟨d, hbreak, -, hescaped⟩
  · rw [hself, List.mem_singleton] at hmem
    exact hbreak hmem.symm
  · rw [hescaped] at hmem
    simp [hbreak.symm] at hmem

/-- A character that is not escaped stands for itself. -/
theorem value?_plain {c : Char} (hbackslash : c ≠ '\\') (hquote : c ≠ '"')
    {rest value after : List Char}
    (h : value? rest = some (value, after)) : value? (c :: rest) = some (c :: value, after) := by
  rw [value?, h]
  · rfl
  · exact fun heq _ => hbackslash heq
  · exact hquote
  · exact fun _ _ heq _ => hbackslash heq

theorem value?_escaped {c d : Char} (hd : unescape? d = some c) {rest value after : List Char}
    (h : value? rest = some (value, after)) :
    value? ('\\' :: d :: rest) = some (c :: value, after) := by
  rw [value?, hd, h]
  rfl

/-- Undoing the escapes gives back the text. -/
theorem value?_escapeLabel (text : String) (rest : List Char) :
    value? ((escapeLabel text).toList ++ '"' :: rest) = some (text.toList, rest) := by
  rw [toList_escapeLabel]
  induction text.toList with
  | nil => rfl
  | cons c cs ih =>
      rw [List.flatMap_cons, List.append_assoc]
      rcases escapeLabelCharacter_cases c with ⟨hbackslash, -, hquote, hself⟩ | ⟨d, -, hd, hescaped⟩
      · rw [hself]
        exact value?_plain hbackslash hquote ih
      · rw [hescaped]
        exact value?_escaped hd ih

/-! ## Labels -/

/-- A character of a name. -/
def isNameCharacter (c : Char) : Bool := c.isAlphanum || c = '_'

/-- The name of a family or of a label. -/
def IsName (name : String) : Prop := ∀ c ∈ name.toList, isNameCharacter c = true

instance (name : String) : Decidable (IsName name) :=
  inferInstanceAs (Decidable (∀ c ∈ name.toList, isNameCharacter c = true))

theorem IsName.not_mem {name : String} (h : IsName name) {c : Char}
    (hc : isNameCharacter c = false) : c ∉ name.toList := by
  intro hmem
  rw [h c hmem] at hc
  cases hc

/-- Whatever ends a name, it is read up to its end. -/
theorem IsName.takeWhile_eq {name : String} (h : IsName name) {c : Char}
    (hc : isNameCharacter c = false) (rest : List Char) :
    (name.toList ++ c :: rest).takeWhile (· ≠ c) = name.toList ∧
      (name.toList ++ c :: rest).dropWhile (· ≠ c) = c :: rest := by
  have hrun : ∀ d ∈ name.toList, decide (d ≠ c) = true := by
    intro d hd
    exact decide_eq_true fun heq => h.not_mem hc (heq ▸ hd)
  have hstop : ∀ d ∈ (c :: rest).head?, decide (d ≠ c) = false := by
    rintro d ⟨⟩
    simp
  exact ⟨takeWhile_run hrun hstop, dropWhile_run hrun hstop⟩

/-- Names that are ended alike are told apart by their ends. -/
theorem IsName.eq_of_append_eq {name other : String} (h : IsName name) (hother : IsName other)
    {c : Char} (hc : isNameCharacter c = false) {rest rest' : List Char}
    (heq : name.toList ++ c :: rest = other.toList ++ c :: rest') : name = other := by
  have htake := (h.takeWhile_eq hc rest).1
  rw [heq, (hother.takeWhile_eq hc rest').1] at htake
  exact String.toList_injective htake.symm

theorem toList_labelText (name value : String) (rest : List Char) :
    (labelText name value).toList ++ rest =
      name.toList ++ '=' :: '"' :: ((escapeLabel value).toList ++ '"' :: rest) := by
  simp [labelText]

theorem label?_labelText {name : String} (hname : IsName name) (value : String) (rest : List Char) :
    label? ((labelText name value).toList ++ rest) = some ((name, value), rest) := by
  obtain ⟨htake, hdrop⟩ := hname.takeWhile_eq (c := '=') rfl
    ('"' :: ((escapeLabel value).toList ++ '"' :: rest))
  rw [label?, toList_labelText, htake, hdrop]
  show (value? _).map _ = _
  rw [value?_escapeLabel]
  simp

/-- The labels of a counter as they are written. -/
def labelsText (labels : List (String × String)) : String :=
  ",".intercalate (labels.map fun (name, value) => labelText name value)

theorem labels?_last {cs rest : List Char} {label : String × String}
    (h : label? cs = some (label, '\x7d' :: rest)) : labels? cs = some ([label], rest) := by
  rw [labels?]
  split
  case h_1 hcomma => simp [h] at hcomma
  case h_2 hbrace =>
      obtain ⟨rfl, rfl⟩ : _ ∧ _ := by simpa [h] using hbrace
      rfl
  case h_3 hother => exact absurd h (hother label rest)

theorem labels?_more {cs rest after : List Char} {label : String × String}
    {labels : List (String × String)} (h : label? cs = some (label, ',' :: rest))
    (hrest : labels? rest = some (labels, after)) :
    labels? cs = some (label :: labels, after) := by
  rw [labels?]
  split
  case h_1 hcomma =>
      obtain ⟨rfl, rfl⟩ : _ ∧ _ := by simpa [h] using hcomma
      rw [hrest]
      rfl
  case h_2 hbrace => simp [h] at hbrace
  case h_3 hother _ => exact absurd h (hother label rest)

/-- Labels are read one after the other, up to the brace. -/
theorem labels?_labelsText {labels : List (String × String)} (hne : labels ≠ [])
    (hnames : ∀ label ∈ labels, IsName label.1) (rest : List Char) :
    labels? ((labelsText labels).toList ++ '\x7d' :: rest) = some (labels, rest) := by
  induction labels with
  | nil => exact absurd rfl hne
  | cons label labels ih =>
      obtain ⟨name, value⟩ := label
      obtain ⟨hname, hnames⟩ := List.forall_mem_cons.mp hnames
      cases labels with
      | nil => exact labels?_last (label?_labelText hname value ('\x7d' :: rest))
      | cons next labels =>
          have htext : (labelsText ((name, value) :: next :: labels)).toList ++ '\x7d' :: rest =
              (labelText name value).toList ++
                ',' :: ((labelsText (next :: labels)).toList ++ '\x7d' :: rest) := by
            simp [labelsText, String.intercalate_cons_cons]
          rw [htext]
          exact labels?_more (label?_labelText hname value _) (ih (List.cons_ne_nil _ _) hnames)

/-- What is written for labels has no line breaks. -/
theorem not_mem_labelsText {labels : List (String × String)}
    (hnames : ∀ label ∈ labels, IsName label.1) : '\n' ∉ (labelsText labels).toList := by
  induction labels with
  | nil => simp [labelsText]
  | cons label labels ih =>
      obtain ⟨name, value⟩ := label
      obtain ⟨hname, hnames⟩ := List.forall_mem_cons.mp hnames
      have hlabel : '\n' ∉ (labelText name value).toList := by
        simp [labelText, hname.not_mem (c := '\n') rfl, not_mem_escapeLabel]
      cases labels with
      | nil => exact hlabel
      | cons next labels =>
          have hmore := ih hnames
          have htext : (labelsText ((name, value) :: next :: labels)).toList =
              (labelText name value).toList ++ ',' :: (labelsText (next :: labels)).toList := by
            simp [labelsText, String.intercalate_cons_cons]
          simp [htext, hlabel, hmore]

/-! ## Lines -/

/-- The line of a counter without the break after it. -/
def Family.row (f : Family) (values : List String) (count : Nat) : List Char :=
  f.name.toList ++ '\x7b' :: ((labelsText (f.labels.zip values)).toList ++
    '\x7d' :: ' ' :: (Binary64.plain.spell (Binary64.ofNat count)).toList)

theorem Family.toList_line (f : Family) (values : List String) (count : Nat) :
    (f.line values count).toList = f.row values count ++ ['\n'] := by
  have hlabels : ",".intercalate (f.labels.zipWith labelText values) =
      labelsText (f.labels.zip values) := by
    rw [labelsText, List.zip, List.map_zipWith]
  have htext : ∀ name labels digits : String,
      (name ++ "\x7b" ++ labels ++ "\x7d " ++ digits ++ "\n").toList =
        name.toList ++ '\x7b' :: (labels.toList ++ '\x7d' :: ' ' :: digits.toList) ++ ['\n'] := by
    intro name labels digits
    simp
  unfold Family.line Family.row
  rw [hlabels]
  exact htext _ _ _

/-- The names of a family can be read, and there are labels. -/
structure Family.WellNamed (f : Family) : Prop where
  isName : IsName f.name
  isName_labels : ∀ name ∈ f.labels, IsName name
  labels_ne_nil : f.labels ≠ []
  not_mem_help : '\n' ∉ f.help.toList

variable {f : Family} {values : List String} {count : Nat}

theorem Family.WellNamed.isName_zip (h : f.WellNamed) :
    ∀ label ∈ f.labels.zip values, IsName label.1 :=
  fun label hlabel => h.isName_labels label.1 (List.of_mem_zip hlabel).1

/-- The line of a counter is read as that counter. -/
theorem line?_row (h : f.WellNamed) (hvalues : values.length = f.labels.length) (hpos : 1 ≤ count)
    (hcount : count < 2 ^ 53) :
    line? (f.row values count) = some ⟨f.name, f.labels.zip values, count⟩ := by
  have hne : f.labels.zip values ≠ [] := by
    have hlength : (f.labels.zip values).length = f.labels.length := by
      rw [List.length_zip, hvalues, Nat.min_self]
    intro hnil
    rw [hnil] at hlength
    exact h.labels_ne_nil (List.eq_nil_of_length_eq_zero hlength.symm)
  obtain ⟨htake, hdrop⟩ := h.isName.takeWhile_eq (c := '\x7b') rfl
    ((labelsText (f.labels.zip values)).toList ++ '\x7d' :: ' ' :: Nat.toDigits 10 count)
  have hdigits : natOfBase? 10 (Nat.toDigits 10 count) = some count :=
    natOfBase?_eq_some_iff.mpr ⟨isNumeral_toDigits count, natOfDigits_toDigits count⟩
  rw [line?, Family.row, Binary64.spell_ofNat hpos hcount, htake, hdrop]
  simp only [labels?_labelsText hne h.isName_zip, hdigits, String.ofList_toList, Option.map_some]

/-- The digits of a number are no line breaks, and neither is anything else in the line. -/
theorem not_mem_row (h : f.WellNamed) (hpos : 1 ≤ count) (hcount : count < 2 ^ 53) :
    '\n' ∉ f.row values count := by
  have hdigits : '\n' ∉ Nat.toDigits 10 count := by
    intro hmem
    exact absurd ((isNumeral_toDigits count).isDigit _ hmem) (by decide)
  rw [Family.row, Binary64.spell_ofNat hpos hcount]
  simp [h.isName.not_mem (c := '\n') rfl, not_mem_labelsText h.isName_zip, hdigits]

end LoadProbe.Metrics
