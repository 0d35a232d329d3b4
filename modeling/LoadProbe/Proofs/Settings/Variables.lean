import LoadProbe.Proofs.Binary64.Literals
import LoadProbe.Proofs.Settings.Sources

/-!
# Texts from the environment

A variable is read as a truth value, an integer or a floating-point number if its text spells one,
and a text setting gets such a value written out again.  So it gets the text of the variable itself
if that is spelled as the value is written, and another text if not.

* `Settings.Becomes` says what a text setting gets from the text of a variable.
* `Settings.IsKept` says which texts come through unchanged; `Settings.isKept_of_not_isLiteral`:
  all that are neither literals of numbers nor words for truth values.
* `Settings.ofSources_textVariable`: one variable for a text setting loads, changes that setting
  alone, and sets it to what its text becomes.
-/

namespace LoadProbe.Settings

/-! ## Texts and what they become -/

/-- How a truth value is written. -/
def truthWord (b : Bool) : String := if b then "true" else "false"

/-- What a text setting gets from a variable with the given text. -/
inductive Becomes (text : String) : String → Prop where
  | truth (b : Bool) (h : IsTruth text b) : Becomes text (truthWord b)
  | integer (n : Int) (h : Text.SpellsInteger text n) : Becomes text (Text.integer n)
  | float (x : Binary64) (hinteger : ∀ n, ¬Text.SpellsInteger text n)
      (h : Binary64.ofText? text = some x) : Becomes text (Binary64.plain.spell x)
  | itself (htruth : ∀ b, ¬IsTruth text b) (hliteral : ¬Binary64.IsLiteral text) :
      Becomes text text

/-- The text is spelled as the value that it stands for is written. -/
structure IsKept (text : String) : Prop where
  truth : ∀ b, IsTruth text b → text = truthWord b
  integer : ∀ n, Text.SpellsInteger text n → text = Text.integer n
  float : ∀ x, (∀ n, ¬Text.SpellsInteger text n) → Binary64.ofText? text = some x →
    text = Binary64.plain.spell x

variable {text t : String}

/-- Numbers are no words for truth values: such a word starts with a letter of its own. -/
theorem not_isLiteral_of_isTruth {b : Bool} (h : IsTruth text b) : ¬Binary64.IsLiteral text := by
  have hlower : text.toList.map Char.toLower = (truthWord b).toList :=
    String.ofList_injective (h.trans String.ofList_toList.symm)
  have hfirst : ∀ c ∈ text.toList.head?, c.toLower = 't' ∨ c.toLower = 'f' := by
    intro c hc
    have hhead := congrArg List.head? hlower
    rw [List.head?_map, hc, Option.map_some] at hhead
    cases b with
    | true => exact .inl (Option.some.inj hhead)
    | false => exact .inr (Option.some.inj hhead)
  rintro ⟨negative, cs, hsigned, hcs⟩
  generalize text.toList = all at hsigned hlower hfirst
  cases hsigned with
  | plus => exact absurd (hfirst '+' rfl) (by decide)
  | minus => exact absurd (hfirst '-' rfl) (by decide)
  | bare =>
      rcases hcs with hword | ⟨mantissa, exponent, hmantissa, -, rfl⟩
      · rw [Binary64.IsWord, hlower, String.ofList_toList] at hword
        cases b <;> exact absurd hword (by decide)
      · obtain ⟨c, rest, rfl, hc⟩ := hmantissa.exists_cons
        have hletter := hfirst c rfl
        rcases hc with hdigit | rfl
        · rw [Text.toLower_of_isDigit hdigit] at hletter
          rcases hletter with rfl | rfl <;> exact absurd hdigit (by decide)
        · exact absurd hletter (by decide)

theorem isKept_of_not_isLiteral (htruth : ∀ b, ¬IsTruth text b)
    (hliteral : ¬Binary64.IsLiteral text) : IsKept text where
  truth b h := absurd h (htruth b)
  integer _ h := absurd (Binary64.isLiteral_of_spellsInteger h) hliteral
  float _ _ h := absurd (Binary64.ofText?_isSome_iff.mp (Option.isSome_of_eq_some h)) hliteral

theorem variableValue_of_isTruth {b : Bool} (h : IsTruth text b) :
    variableValue text = .bool b := by
  have hlower : Text.lowerAscii text = if b then "true" else "false" := h
  cases b <;> simp [variableValue, hlower]

/-- The value of a variable is written as what its text becomes. -/
theorem Becomes.toText?_variableValue (h : Becomes text t) :
    (variableValue text).toText? = some t := by
  cases h with
  | truth b hb =>
      rw [variableValue_of_isTruth hb]
      rfl
  | integer n hn =>
      have htruth : ∀ b, ¬IsTruth text b := fun b hb =>
        not_isLiteral_of_isTruth hb (Binary64.isLiteral_of_spellsInteger hn)
      rw [variableValue_of_not_isTruth htruth, Text.signed?_eq_some_iff.mpr hn]
      rfl
  | float x hinteger hx =>
      have htruth : ∀ b, ¬IsTruth text b := fun b hb =>
        not_isLiteral_of_isTruth hb (Binary64.ofText?_isSome_iff.mp (Option.isSome_of_eq_some hx))
      have hnone : Text.signed? text = none :=
        Option.eq_none_iff_forall_ne_some.mpr fun n hn =>
          hinteger n (Text.signed?_eq_some_iff.mp hn)
      rw [variableValue_of_not_isTruth htruth, hnone, hx]
      rfl
  | itself htruth hliteral =>
      have hinteger : Text.signed? text = none :=
        Option.eq_none_iff_forall_ne_some.mpr fun n hn =>
          hliteral (Binary64.isLiteral_of_spellsInteger (Text.signed?_eq_some_iff.mp hn))
      have hfloat : Binary64.ofText? text = none := by
        rwa [← Binary64.ofText?_isSome_iff, Option.not_isSome_iff_eq_none] at hliteral
      rw [variableValue_of_not_isTruth htruth, hinteger, hfloat]
      rfl

/-- Every text becomes one. -/
theorem exists_becomes (text : String) : ∃ t, Becomes text t := by
  by_cases htruth : ∃ b, IsTruth text b
  · obtain ⟨b, hb⟩ := htruth
    exact ⟨_, .truth b hb⟩
  by_cases hinteger : ∃ n, Text.SpellsInteger text n
  · obtain ⟨n, hn⟩ := hinteger
    exact ⟨_, .integer n hn⟩
  by_cases hliteral : Binary64.IsLiteral text
  · obtain ⟨x, hx⟩ := Option.isSome_iff_exists.mp (Binary64.ofText?_isSome_iff.mpr hliteral)
    exact ⟨_, .float x (not_exists.mp hinteger) hx⟩
  · exact ⟨_, .itself (not_exists.mp htruth) hliteral⟩

/-- No text becomes two. -/
theorem Becomes.unique {t' : String} (h : Becomes text t) (h' : Becomes text t') : t = t' :=
  Option.some.inj (h.toText?_variableValue.symm.trans h'.toText?_variableValue)

/-- The texts that are kept are those that become themselves. -/
theorem becomes_self_iff : Becomes text text ↔ IsKept text := by
  constructor
  · intro h
    exact ⟨fun b hb => h.unique (.truth b hb), fun n hn => h.unique (.integer n hn),
      fun x hinteger hx => h.unique (.float x hinteger hx)⟩
  · intro h
    obtain ⟨t, ht⟩ := exists_becomes text
    have htext : text = t := by
      cases ht with
      | truth b hb => exact h.truth b hb
      | integer n hn => exact h.integer n hn
      | float x hinteger hx => exact h.float x hinteger hx
      | itself => rfl
    rwa [← htext] at ht

/-! ## One variable -/

/-- The text among the values of a type. -/
def Kind.text? : (kind : Kind) → kind.Value → Option String
  | .text, s => some s
  | _, _ => none

/-- The text that a layer has for a key. -/
def Layer.text? (l : Layer) (k : Key) : Option String := (l k).bind k.kind.text?

/-- Settings with one text replaced. -/
def withText (s : Settings) (t : String) : Key → Settings
  | .baseUrl => { s with target := { s.target with baseUrl := t } }
  | .authToken => { s with target := { s.target with authToken := some t } }
  | .message => { s with scenario := { s.scenario with message := t } }
  | .chatId => { s with scenario := { s.scenario with chatId := t } }
  | .level => { s with logging := { s.logging with level := t } }
  | _ => s

theorem text?_withText {k : Key} (hk : k.kind = .text) (s : Settings) :
    (s.withText t k).layer.text? k = some t := by
  cases k <;> first | rfl | cases hk

theorem layer_withText {k k' : Key} (h : k' ≠ k) (s : Settings) :
    (s.withText t k).layer k' = s.layer k' := by
  cases k <;> first | rfl | (cases k' <;> first | rfl | exact absurd rfl h)

/-- A value that is written as a text, alone in its section, is read as that text. -/
theorem ofTree_text {k : Key} (hk : k.kind = .text) {v : Tree} (hv : v.toText? = some t) :
    ofTree (.table [(k.sectionName, .table [(k.name, v)])]) =
      .ok (({} : Settings).withText t k) := by
  have hfield : ∀ default, field Tree.toText? default (some v) = .ok t := by
    intro default
    simp [field, hv]
  have hoptional : optionalField Tree.toText? (some v) = .ok (some t) := by
    cases v with
    | null => cases hv
    | _ => simp [optionalField, hv]
  -- The other sections are missing, and so are the other names in this one.
  cases k
  case baseUrl =>
      simp only [ofTree, Target.ofTree, section?, sectionOr, bind, Except.bind, Key.sectionName,
        Key.name, List.lookup_cons_self, hfield]
      rfl
  case authToken =>
      simp only [ofTree, Target.ofTree, section?, sectionOr, bind, Except.bind, Key.sectionName,
        Key.name, List.lookup_cons_self, hoptional]
      rfl
  case message | chatId =>
      simp only [ofTree, Scenario.ofTree, section?, sectionOr, bind, Except.bind, Key.sectionName,
        Key.name, List.lookup_cons_self, hfield]
      rfl
  case level =>
      simp only [ofTree, Logging.ofTree, section?, sectionOr, bind, Except.bind, Key.sectionName,
        Key.name, List.lookup_cons_self, hfield]
      rfl
  all_goals cases hk

/-- The sources of one variable are its value at the place of its key. -/
theorem ofSources_variable {k : Key} (hv : (variableValue text).toText? = some t) :
    Tree.ofSources [] none [(k.variableName, text)] =
      .ok (.table [(k.sectionName, .table [(k.name, variableValue text)])]) := by
  have hentries : environmentEntries [(k.variableName, text)] = [(k.path, variableValue text)] := by
    simp only [environmentEntries, List.filterMap_cons, List.filterMap_nil,
      variablePath?_variableName]
    rfl
  have hassign : Tree.assign k.name .null (variableValue text) =
      .table [(k.name, variableValue text)] := by
    cases hvalue : variableValue text with
    | table members =>
        rw [hvalue] at hv
        cases hv
    | _ => rfl
  have hstore : Tree.store (.table []) (k.path, variableValue text) =
      .table [(k.sectionName, .table [(k.name, variableValue text)])] := by
    simp only [Tree.store, path?_path, Option.getD_some, Tree.put]
    rw [← hassign]
    rfl
  simp only [Tree.ofSources, bind, Except.bind, hentries]
  exact congrArg Except.ok hstore

/-- A variable for a text setting loads, whatever its text is, and changes no other setting.  The
setting gets what the text becomes, and so the text itself if and only if that is kept. -/
theorem ofSources_textVariable {k : Key} (hk : k.kind = .text) (text : String) :
    ∃ s, ofSources [] none [(k.variableName, text)] = .ok s ∧
      (∀ k' ≠ k, s.layer k' = ({} : Settings).layer k') ∧
      (∀ t, s.layer.text? k = some t ↔ Becomes text t) ∧
      (s.layer.text? k = some text ↔ IsKept text) := by
  obtain ⟨t, ht⟩ := exists_becomes text
  have hvalue := ht.toText?_variableValue
  have hset := text?_withText hk (t := t) {}
  have hbecomes : ∀ t', (({} : Settings).withText t k).layer.text? k = some t' ↔
      Becomes text t' := by
    intro t'
    rw [hset, Option.some.injEq]
    exact ⟨fun heq => heq ▸ ht, ht.unique⟩
  refine ⟨_, ?_, fun k' hk' => layer_withText hk' _, hbecomes,
    (hbecomes text).trans becomes_self_iff⟩
  simp only [ofSources, bind, Except.bind, ofSources_variable hvalue]
  exact ofTree_text hk hvalue

theorem ofSources_textVariable_token :
    ∃ s, ofSources [] none [("CHATLOAD_TARGET__AUTH_TOKEN", "sk-1e5")] = .ok s ∧
      s.target.authToken = some "sk-1e5" := by
  have hname : Key.authToken.variableName = "CHATLOAD_TARGET__AUTH_TOKEN" := by decide
  obtain ⟨s, hsettings, -, -, hkept⟩ :=
    ofSources_textVariable (rfl : Key.authToken.kind = .text) "sk-1e5"
  have htruth : ∀ b, ¬IsTruth "sk-1e5" b := by
    unfold IsTruth
    decide
  have hliteral : ¬Binary64.IsLiteral "sk-1e5" := by
    rw [← Binary64.ofText?_isSome_iff]
    decide
  have htoken := hkept.mpr (isKept_of_not_isLiteral htruth hliteral)
  obtain ⟨token, hset, heq⟩ := Option.bind_eq_some_iff.mp htoken
  rw [hname] at hsettings
  exact ⟨s, hsettings, hset.trans heq⟩

/-- Digits with zeros in front are read as a number and lose the zeros. -/
theorem chatId_of_digits_altered :
    ∃ s, ofSources [] none [("CHATLOAD_SCENARIO__CHAT_ID", "007")] = .ok s ∧
      s.scenario.chatId = "7" ∧ s.scenario.chatId ≠ "007" := by
  refine ⟨{ scenario := { chatId := "7" } }, ?_, rfl, by decide⟩
  decide +kernel

end LoadProbe.Settings
