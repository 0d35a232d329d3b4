import LoadProbe.Proofs.Settings.Layers
import LoadProbe.Proofs.Text.Numerals
import LoadProbe.Settings.Sources

/-!
# Settings from several sources

A file, the environment and the overrides of a run each give some of the values.

* `Settings.EnvironmentGives` says that the variables of an environment give a layer, each value in
  a spelling that `Settings.Kind.Spells` allows for its type.
* `Settings.ofSources_eq`: a file and an environment that give layers make the settings of both, the
  environment over the file and the file over the defaults.
* `Settings.sources_layered` adds the overrides: each value comes from the first source that gives
  it.
-/

namespace LoadProbe.Settings

/-! ## Variables -/

/-- The name of the variable for a key. -/
def Key.variableName (k : Key) : String :=
  "CHATLOAD_" ++ String.ofList (k.sectionName.toList.map Char.toUpper) ++ "__"
    ++ String.ofList (k.name.toList.map Char.toUpper)

theorem variablePath?_variableName (k : Key) : variablePath? k.variableName = some k.path := by
  cases k <;> decide +kernel

/-- The text is a word for a truth value, in any case of letters. -/
def IsTruth (text : String) (b : Bool) : Prop :=
  Text.lowerAscii text = if b then "true" else "false"

/-- The text of a variable spells a value of the given type, a number among them in decimal digits
and below the limit.  Numbers and texts are no words for truth values, and texts no numbers. -/
def Kind.Spells (limit : Nat) : (kind : Kind) → String → kind.Value → Prop
  | .text, s, t => s = t ∧ (∀ b, ¬IsTruth s b) ∧ Text.signed? s = none ∧ Binary64.ofText? s = none
  | .natural, s, n => Text.IsNumeral s.toList ∧ Text.natOfDigits s.toList = n ∧ n < limit
  | .rate, s, x => (∀ b, ¬IsTruth s b) ∧
      ((∃ n, Text.signed? s = some n ∧ x = .ofInt n) ∨
        Text.signed? s = none ∧ Binary64.ofText? s = some x)
  | .truth, s, b => IsTruth s b

/-- The text of a variable spells a value for the key. -/
def Key.Spells (k : Key) (text : String) (v : k.kind.Value) : Prop :=
  k.kind.Spells k.limit text v

/-- The variables of an environment that count set values of the layer, all of them and nothing
else. -/
structure EnvironmentGives (environment : List (String × String)) (l : Layer) : Prop where
  within : ∀ entry ∈ environment, variablePath? entry.1 = none ∨
    ∃ (k : Key) (v : k.kind.Value), entry.1 = k.variableName ∧ k.Spells entry.2 v ∧ l k = some v
  mentioned : ∀ k, (l k).isSome = true → ∃ text, (k.variableName, text) ∈ environment

theorem limit_le (k : Key) : k.limit ≤ Word.signedLimit64 := by
  cases k <;> decide

theorem lt_limit {n : Nat} (h : n < 2 ^ 32) (k : Key) : n < k.limit := by
  cases k <;> simp only [Key.limit] <;> omega

/-- Numerals are no words. -/
theorem not_isTruth_of_digits {text : String} (h : Text.IsNumeral text.toList) (b : Bool) :
    ¬IsTruth text b := by
  intro htruth
  -- The text is its own lower case, and it does not start with a letter.
  have htext : Text.lowerAscii text = text := by
    rw [Text.lowerAscii,
      List.map_congr_left (fun c hc => Text.toLower_of_isDigit (h.isDigit c hc)), List.map_id',
      String.ofList_toList]
  rw [IsTruth, htext] at htruth
  subst htruth
  cases b with
  | true => exact absurd (h.isDigit 't' (by decide)) (by decide)
  | false => exact absurd (h.isDigit 'f' (by decide)) (by decide)

theorem variableValue_of_not_isTruth {text : String} (h : ∀ b, ¬IsTruth text b) :
    variableValue text = (Text.signed? text).elim
      ((Binary64.ofText? text).elim (.text text) .float) .integer := by
  have htrue : Text.lowerAscii text ≠ "true" := h true
  have hfalse : Text.lowerAscii text ≠ "false" := h false
  simp only [variableValue, htrue, hfalse, if_false]
  cases Text.signed? text with
  | some n => rfl
  | none => cases Binary64.ofText? text <;> rfl

/-- What spells a value is read as it. -/
theorem standsFor_variableValue {k : Key} {text : String} {v : k.kind.Value}
    (h : k.Spells text v) : k.StandsFor (variableValue text) v := by
  have hlimit := limit_le k
  unfold Key.Spells at h
  unfold Key.StandsFor
  -- The cases are those of the types, not of the keys.
  generalize k.limit = limit at h hlimit
  generalize k.kind = kind at v h
  cases kind with
  | text =>
      obtain ⟨rfl, htruth, hinteger, hfloat⟩ := h
      rw [variableValue_of_not_isTruth htruth, hinteger, hfloat]
      rfl
  | natural =>
      obtain ⟨hnumeral, rfl, hlt⟩ := h
      rw [variableValue_of_not_isTruth (not_isTruth_of_digits hnumeral),
        Text.signed?_of_digits hnumeral (hlt.trans_le hlimit)]
      exact ⟨rfl, hlt⟩
  | rate =>
      obtain ⟨htruth, ⟨n, hinteger, rfl⟩ | ⟨hinteger, hfloat⟩⟩ := h
      · rw [variableValue_of_not_isTruth htruth, hinteger]
        exact .inr ⟨n, rfl, rfl⟩
      · rw [variableValue_of_not_isTruth htruth, hinteger, hfloat]
        exact .inl rfl
  | truth =>
      change Text.lowerAscii text = if v then "true" else "false" at h
      cases v <;> simp [Kind.StandsFor, variableValue, h]

/-! ## The environment -/

variable {environment : List (String × String)} {l : Layer}

/-- The entry of a variable that counts. -/
def variableEntry? (v : String × String) : Option (String × Tree) :=
  (variablePath? v.1).map fun path => (path, variableValue v.2)

theorem lookup_environmentEntries (path : String) :
    (environmentEntries environment).lookup path =
      (environment.filterMap variableEntry?).reverse.lookup path :=
  SortedMap.lookup_ofList _ path

theorem mem_environmentEntries_iff (path : String) (t : Tree) :
    (path, t) ∈ environmentEntries environment ↔
      (environment.filterMap variableEntry?).reverse.lookup path = some t := by
  have hsorted : SortedMap.Sorted (environmentEntries environment) := SortedMap.sorted_ofList _
  rw [← lookup_environmentEntries, hsorted.lookup_eq_get?, SortedMap.get?_eq_some_iff_mem hsorted]

/-- The entries of an environment come from its variables. -/
theorem exists_of_mem_environmentEntries {entry : String × Tree}
    (h : entry ∈ environmentEntries environment) :
    ∃ v ∈ environment, variablePath? v.1 = some entry.1 ∧ entry.2 = variableValue v.2 := by
  obtain ⟨path, t⟩ := entry
  obtain ⟨before, after, hsplit, -⟩ :=
    List.lookup_eq_some_iff.mp ((mem_environmentEntries_iff path t).mp h)
  have hmem : (path, t) ∈ environment.filterMap variableEntry? := by
    rw [← List.mem_reverse, hsplit]
    simp
  obtain ⟨v, hv, hentry⟩ := List.mem_filterMap.mp hmem
  obtain ⟨path', hpath, heq⟩ := Option.map_eq_some_iff.mp hentry
  cases heq
  exact ⟨v, hv, hpath, rfl⟩

/-- Each variable that counts has an entry at its path. -/
theorem exists_mem_environmentEntries {v : String × String} (hv : v ∈ environment) {path : String}
    (hpath : variablePath? v.1 = some path) :
    ∃ t, (path, t) ∈ environmentEntries environment := by
  have hmem : (path, variableValue v.2) ∈ environment.filterMap variableEntry? :=
    List.mem_filterMap.mpr ⟨v, hv, congrArg (Option.map fun path => (path, _)) hpath⟩
  have hfound : ((environment.filterMap variableEntry?).reverse.lookup path).isSome = true :=
    List.lookup_isSome_iff.mpr ⟨_, List.mem_reverse.mpr hmem, beq_self_eq_true path⟩
  obtain ⟨t, hlookup⟩ := Option.isSome_iff_exists.mp hfound
  exact ⟨t, (mem_environmentEntries_iff path t).mpr hlookup⟩

theorem gives_environmentEntries (h : EnvironmentGives environment l) :
    Gives (environmentEntries environment) l where
  within entry hentry := by
    obtain ⟨path, t⟩ := entry
    obtain ⟨⟨name, text⟩, hv, hpath, rfl⟩ := exists_of_mem_environmentEntries hentry
    rcases h.within _ hv with hnone | ⟨k, v, hname, hspells, hvalue⟩
    · exact absurd (hnone.symm.trans hpath) (by simp)
    · obtain rfl : name = k.variableName := hname
      obtain rfl : k.path = path :=
        Option.some.inj ((variablePath?_variableName k).symm.trans hpath)
      exact .ofValue k _ v (standsFor_variableValue hspells) hvalue
  mentioned k hk := by
    obtain ⟨text, hv⟩ := h.mentioned k hk
    obtain ⟨t, ht⟩ := exists_mem_environmentEntries hv (variablePath?_variableName k)
    exact ⟨(k.path, t), ht, by simp [mentions]⟩

/-! ## Sources -/

/-- The entries of the file, none if no file is named. -/
def fileEntries (files : Files) : Option String → Except LoadFault (List (String × Tree))
  | some path => File.entries files path
  | none => .ok []

variable {files : Files} {path : Option String} {entries : List (String × Tree)}
  {fromFile fromVariables : Layer}

/-- A file and an environment make the settings of their layers, the environment over the file. -/
theorem ofSources_eq (hentries : fileEntries files path = .ok entries)
    (hfile : Gives entries fromFile) (hvariables : EnvironmentGives environment fromVariables) :
    ofSources files path environment =
      .ok (Layer.settings fun k => (fromVariables k).or (fromFile k)) := by
  have hholds := (Tree.holds_empty.overlay hfile).overlay (gives_environmentEntries hvariables)
  have htree : Tree.ofSources files path environment =
      .ok (((Tree.table []).overlay entries).overlay (environmentEntries environment)) := by
    cases path with
    | none =>
        obtain rfl : [] = entries := Except.ok.inj hentries
        rfl
    | some path =>
        have hentries : File.entries files path = .ok entries := hentries
        simp only [Tree.ofSources, bind, Except.bind, hentries]
        rfl
  simp only [ofSources, bind, Except.bind, htree]
  rw [ofTree_of_holds hholds]
  simp only [Option.or_none]

/-- The keys that cannot be overridden. -/
def Key.isFixed : Key → Bool
  | .requestTimeout | .maxIdle | .pause | .minPassRate | .maxStatusP99 | .level | .json => true
  | _ => false

/-- A file and an environment that give layers make settings, and with the overrides each value is
that of the overrides if they have one, else that of the environment, else that of the file, else
the default.  Some keys cannot be overridden. -/
theorem sources_layered (hentries : fileEntries files path = .ok entries)
    (hfile : Gives entries fromFile) (hvariables : EnvironmentGives environment fromVariables)
    (overrides : Overrides) :
    ∃ s, ofSources files path environment = .ok s ∧
      (∀ k, (s.override overrides).layer k = (overrides.layer k).or
        ((fromVariables k).or ((fromFile k).or (({} : Settings).layer k)))) ∧
      ∀ k, k.isFixed = true → (s.override overrides).layer k = s.layer k := by
  refine ⟨_, ofSources_eq hentries hfile hvariables, fun k => ?_, fun k hfixed => ?_⟩
  · rw [layer_override, layer_settings, Option.or_assoc]
  · rw [layer_override]
    cases k <;> first | rfl | cases hfixed

/-- A file for quiet runs. -/
def quietFile : String :=
  "\x7b\"logging\": \x7b\"level\": \"warn\"\x7d, " ++
    "\"run\": \x7b\"duration_secs\": 60, \"vus\": 5\x7d\x7d"

/-- What the file sets. -/
def quietLayer : Layer
  | .users => some 5
  | .duration => some 60
  | .level => some "warn"
  | _ => none

/-- Variables of which two count. -/
def noisyVariables : List (String × String) :=
  [("CHATLOAD_RUN__VUS", "7"), ("HOME", "/"), ("CHATLOAD_LOGGING__JSON", "TRUE")]

/-- What the variables set. -/
def noisyLayer : Layer
  | .users => some 7
  | .json => some true
  | _ => none

theorem fileEntries_quietFile : fileEntries [("quiet.json", quietFile)] (some "quiet.json") =
    .ok [("logging", .table [("level", .text "warn")]),
      ("run", .table [("duration_secs", .integer 60), ("vus", .integer 5)])] := by
  have hfind : File.find [("quiet.json", quietFile)] "quiet.json" = .ok (.json, quietFile) := by
    decide
  have hparse : Json.parse? quietFile = some (.object
      [("logging", .object [("level", .string "warn")]),
      ("run", .object [("duration_secs", .integer 60), ("vus", .integer 5)])]) := by cbv
  simp only [fileEntries, File.entries, bind, Except.bind, hfind, Format.read?, hparse]
  rfl

theorem gives_quietFile : Gives [("logging", .table [("level", .text "warn")]),
    ("run", .table [("duration_secs", .integer 60), ("vus", .integer 5)])] quietLayer where
  within entry hentry := by
    simp only [List.mem_cons, List.not_mem_nil, or_false] at hentry
    rcases hentry with rfl | rfl
    · refine .ofSection _ _ (by decide) fun member hmember => ?_
      obtain rfl := List.mem_singleton.mp hmember
      exact ⟨.level, "warn", rfl, rfl, rfl, rfl⟩
    · refine .ofSection _ _ (by decide) fun member hmember => ?_
      simp only [List.mem_cons, List.not_mem_nil, or_false] at hmember
      rcases hmember with rfl | rfl
      · exact ⟨.duration, (60 : Nat), rfl, rfl, ⟨rfl, lt_limit (by decide) _⟩, rfl⟩
      · exact ⟨.users, (5 : Nat), rfl, rfl, ⟨rfl, lt_limit (by decide) _⟩, rfl⟩
  mentioned k hk := by
    cases k
    case level => exact ⟨_, .head _, by decide⟩
    case users | duration => exact ⟨_, .tail _ (.head _), by decide⟩
    all_goals cases hk

theorem gives_noisyVariables : EnvironmentGives noisyVariables noisyLayer where
  within entry hentry := by
    simp only [noisyVariables, List.mem_cons, List.not_mem_nil, or_false] at hentry
    rcases hentry with rfl | rfl | rfl
    · exact .inr ⟨.users, (7 : Nat), by decide,
        ⟨Text.isNumeral_toDigits 7, rfl, lt_limit (by decide) _⟩, rfl⟩
    · exact .inl (by decide)
    · refine .inr ⟨.json, true, by decide, ?_, rfl⟩
      change Text.lowerAscii "TRUE" = "true"
      decide
  mentioned k hk := by
    cases k
    case users => exact ⟨"7", .head _⟩
    case json => exact ⟨"TRUE", .tail _ (.tail _ (.head _))⟩
    all_goals cases hk

theorem sources_layered_quiet :
    ∃ s, ofSources [("quiet.json", quietFile)] (some "quiet.json") noisyVariables = .ok s ∧
      (s.override { users := some 9 }).schedule = ⟨9, 60, none⟩ ∧
      (s.override { users := some 9 }).logging = ⟨"warn", true⟩ := by
  obtain ⟨s, hsettings, hlayered, -⟩ :=
    sources_layered fileEntries_quietFile gives_quietFile gives_noisyVariables { users := some 9 }
  refine ⟨s, hsettings, ?_, ?_⟩
  · have husers := Option.some.inj (hlayered .users)
    have hduration := Option.some.inj (hlayered .duration)
    have hiterations := hlayered .iterations
    exact congr (congrArg₂ Schedule.mk husers hduration) hiterations
  · have hlevel := Option.some.inj (hlayered .level)
    have hjson := Option.some.inj (hlayered .json)
    exact congrArg₂ Logging.mk hlevel hjson

end LoadProbe.Settings
