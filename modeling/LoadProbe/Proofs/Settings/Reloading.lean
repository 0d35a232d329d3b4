import LoadProbe.Proofs.Settings.Sources
import LoadProbe.Proofs.Toml.Documents
import LoadProbe.Settings.Check
import LoadProbe.Settings.Show

/-!
# Settings shown and read again

The text that shows settings is a file of settings, and it sets all that is set in them.

* `Settings.shown_eq`: the sections of the text hold the values that are set, key by key.
* `Settings.gives_shown`: the text gives the layer of the settings.
* `Settings.shown_reloads`: settings that pass their check and can be shown are read back from the
  text.
-/

namespace LoadProbe.Settings

open LoadProbe.Toml (Scalar IsWord)

variable {s : Settings}

/-! ## What is shown -/

/-- A value of the given type as it is written. -/
def Kind.scalar : (kind : Kind) → kind.Value → Scalar
  | .text, s => .text s
  | .natural, n => .integer n
  | .rate, x => .float x
  | .truth, b => .bool b

/-- All keys in the order in which they are shown. -/
def keys : List Key :=
  [.baseUrl, .requestTimeout, .maxIdle, .authToken, .message, .chatId, .pollInterval, .maxPolls,
    .pause, .users, .duration, .iterations, .minPassRate, .maxStatusP99, .level, .json]

theorem mem_keys (k : Key) : k ∈ keys := by
  cases k <;> decide

/-- The line for a key, if it is set. -/
def shownLine? (s : Settings) (k : Key) : Option (String × Scalar) :=
  (s.layer k).map fun v => (k.name, k.kind.scalar v)

/-- The section with the given title as it is shown. -/
def shownSection (s : Settings) (title : String) : Toml.Section :=
  ⟨title, (keys.filter fun k => k.sectionName = title).filterMap (shownLine? s)⟩

/-- All that is set is shown in its section, and nothing else. -/
theorem shown_eq (s : Settings) : s.shown = sectionNames.map (shownSection s) := by
  -- The lines depend on which of the four optional values are set.
  obtain ⟨⟨_, _, _, token⟩, _, ⟨_, _, iterations⟩, ⟨rate, limit⟩, _⟩ := s
  cases token <;> cases iterations <;> cases rate <;> cases limit <;> rfl

theorem mem_shownSection_iff {title : String} {entry : String × Scalar} :
    entry ∈ (shownSection s title).entries ↔ ∃ (k : Key) (v : k.kind.Value),
      k.sectionName = title ∧ s.layer k = some v ∧ entry = (k.name, k.kind.scalar v) := by
  simp only [shownSection, List.mem_filterMap, List.mem_filter, shownLine?, Option.map_eq_some_iff,
    decide_eq_true_iff]
  constructor
  · rintro ⟨k, ⟨-, htitle⟩, v, hv, rfl⟩
    exact ⟨k, v, htitle, hv, rfl⟩
  · rintro ⟨k, v, htitle, hv, rfl⟩
    exact ⟨k, ⟨mem_keys k, htitle⟩, v, hv, rfl⟩

theorem isWord_name (k : Key) : IsWord k.name := by
  cases k <;> exact ⟨by decide, List.all_eq_true.mp (by decide)⟩

theorem isWord_of_mem_sectionNames {name : String} (h : name ∈ sectionNames) : IsWord name := by
  simp only [sectionNames, List.mem_cons, List.not_mem_nil, or_false] at h
  rcases h with rfl | rfl | rfl | rfl | rfl <;>
    exact ⟨by decide, List.all_eq_true.mp (by decide)⟩

theorem name_injective : Function.Injective Key.name := by
  intro k k'
  cases k <;> cases k' <;> decide

theorem nodup_shownSection (title : String) :
    ((shownSection s title).entries.map (·.1)).Nodup := by
  have hkeys : keys.Nodup := by decide
  rw [shownSection, List.map_filterMap]
  refine (hkeys.filter _).filterMap fun k k' name hname hname' => ?_
  simp only [shownLine?, Option.map_map, Option.mem_def, Option.map_eq_some_iff] at hname hname'
  obtain ⟨_, _, hname⟩ := hname
  obtain ⟨_, _, hname'⟩ := hname'
  exact name_injective (hname.trans hname'.symm)

/-- A minimal pass rate, if one is set, is finite and its spelling is read as the number. -/
def RateReadsBack (s : Settings) : Prop :=
  ∀ x, s.thresholds.minPassRate = some x → (Scalar.float x).ReadsBack

theorem wellFormed_shown (hrate : RateReadsBack s) : Toml.Document.WellFormed s.shown := by
  rw [shown_eq]
  refine ⟨fun shown hshown => ?_, by rw [List.map_map]; exact (by decide : sectionNames.Nodup)⟩
  obtain ⟨title, htitle, rfl⟩ := List.mem_map.mp hshown
  refine ⟨isWord_of_mem_sectionNames htitle, fun entry hentry => ?_, nodup_shownSection title⟩
  obtain ⟨k, v, -, hv, rfl⟩ := mem_shownSection_iff.mp hentry
  refine ⟨isWord_name k, ?_⟩
  cases k
  case minPassRate => exact hrate v hv
  all_goals trivial

/-! ## What is read -/

/-- The document has a member for each section. -/
theorem mem_shown_tree_iff {member : String × Tree} :
    member ∈ (Toml.Document.tree s.shown).members ↔
      ∃ title ∈ sectionNames, member = (title, (shownSection s title).tree) := by
  have hpairs : s.shown.map (fun shown => (shown.title, shown.tree)) =
      sectionNames.map fun title => (title, (shownSection s title).tree) := by
    rw [shown_eq, List.map_map]
    rfl
  have hnodup : ((sectionNames.map fun title =>
      (title, (shownSection s title).tree)).map (·.1)).Nodup := by
    rw [List.map_map]
    exact (by decide : sectionNames.Nodup)
  rw [Toml.Document.tree, hpairs, Tree.members, SortedMap.mem_ofList_iff hnodup, List.mem_map]
  simp only [eq_comm]

/-- A section has a member for each value that is set in it. -/
theorem mem_section_tree_iff {title : String} {member : String × Tree} :
    member ∈ (shownSection s title).tree.members ↔ ∃ (k : Key) (v : k.kind.Value),
      k.sectionName = title ∧ s.layer k = some v ∧ member = (k.name, (k.kind.scalar v).tree) := by
  have hnodup : (((shownSection s title).entries.map fun entry => (entry.1, entry.2.tree)).map
      (·.1)).Nodup := by
    rw [List.map_map]
    exact nodup_shownSection title
  rw [Toml.Section.tree, Tree.members, SortedMap.mem_ofList_iff hnodup, List.mem_map]
  constructor
  · rintro ⟨entry, hentry, rfl⟩
    obtain ⟨k, v, htitle, hv, rfl⟩ := mem_shownSection_iff.mp hentry
    exact ⟨k, v, htitle, hv, rfl⟩
  · rintro ⟨k, v, htitle, hv, rfl⟩
    exact ⟨_, mem_shownSection_iff.mpr ⟨k, v, htitle, hv, rfl⟩, rfl⟩

/-- What is written for a value is read as it. -/
def Fits (s : Settings) : Prop :=
  ∀ (k : Key) (v : k.kind.Value), s.layer k = some v → k.StandsFor (k.kind.scalar v).tree v

/-- What is shown gives all that is set. -/
theorem gives_shown (hfits : Fits s) : Gives (Toml.Document.tree s.shown).members s.layer where
  within entry hentry := by
    obtain ⟨title, htitle, rfl⟩ := mem_shown_tree_iff.mp hentry
    refine .ofSection title _ htitle fun member hmember => ?_
    obtain ⟨k, v, hsection, hv, rfl⟩ := mem_section_tree_iff.mp hmember
    exact ⟨k, v, hsection, rfl, hfits k v hv, hv⟩
  mentioned k hk := by
    obtain ⟨v, hv⟩ := Option.isSome_iff_exists.mp hk
    refine ⟨_, mem_shown_tree_iff.mpr ⟨k.sectionName, sectionName_mem k, rfl⟩, ?_⟩
    have hmember := mem_section_tree_iff.mpr ⟨k, v, rfl, hv, rfl⟩
    have hname := List.mem_map_of_mem (f := Prod.fst) hmember
    simp only [mentions, decide_true, Bool.true_and, Bool.or_eq_true, List.contains_iff_mem]
    exact .inr hname

/-- Numbers that can be written are below the limit of their key, if the number of polls is one of
32 bits. -/
theorem fits_of_show? {text : String} (h : s.show? = some text)
    (hword : s.scenario.maxPollAttempts < 2 ^ 32) : Fits s := by
  intro k v hv
  have hentry := mem_shownSection_iff.mpr ⟨k, v, rfl, hv, rfl⟩
  have hshown : shownSection s k.sectionName ∈ s.shown := by
    rw [shown_eq]
    exact List.mem_map_of_mem (sectionName_mem k)
  obtain ⟨value, hvalue⟩ := Toml.exists_write? h hshown hentry
  cases k
  case baseUrl | authToken | message | chatId | level | json => rfl
  case minPassRate => exact .inl rfl
  case maxPolls =>
      obtain rfl := Option.some.inj hv
      exact ⟨rfl, hword⟩
  all_goals exact ⟨rfl, (Option.ite_none_right_eq_some.mp hvalue).1⟩

/-- A rate that lies between zero and one is finite. -/
theorem isFinite_of_between {x : Binary64} (hlow : Binary64.zero.le x = true)
    (hhigh : x.le (.ofNat 1) = true) : x.isFinite = true := by
  have hzero : Binary64.zero.rank = 0 := by decide
  have hone : (Binary64.ofNat 1).rank < Binary64.infinityPattern := by decide +kernel
  have hrank : x.rank = x.pattern ∨ x.rank = -(x.pattern : Int) := by
    unfold Binary64.rank
    split
    · exact .inr rfl
    · exact .inl rfl
  simp only [Binary64.le, Bool.and_eq_true, decide_eq_true_iff] at hlow hhigh
  have hpos := hlow.2
  have hle := hhigh.2
  have hpattern : x.pattern < Binary64.infinityPattern := by omega
  simpa [Binary64.isFinite] using hpattern

theorem isFinite_of_check (h : s.check = .ok ()) {x : Binary64}
    (hx : s.thresholds.minPassRate = some x) : x.isFinite = true := by
  have hrate : checkMinPassRate s.thresholds.minPassRate = .ok () := by
    -- The rate is the last of the checks.
    simp only [check, bind, Except.bind] at h
    split at h
    · cases h
    split at h
    · cases h
    split at h
    · cases h
    split at h
    · cases h
    exact h
  rw [hx] at hrate
  simp only [checkMinPassRate, require] at hrate
  split at hrate
  case isTrue hbetween =>
      obtain ⟨hlow, hhigh⟩ := Bool.and_eq_true_iff.mp hbetween
      exact isFinite_of_between hlow hhigh
  case isFalse => cases hrate

/-! ## Files -/

theorem splitAt_of_not_mem {separator : Char} {cs : List Char} (h : separator ∉ cs) :
    Text.splitAt separator cs = [cs] := by
  induction cs with
  | nil => rfl
  | cons c cs ih =>
      have hc : c ≠ separator := fun heq => h (heq ▸ List.mem_cons_self)
      rw [Text.splitAt, ih fun hmem => h (List.mem_cons_of_mem c hmem)]
      exact if_neg hc

variable {stem : String}

theorem length_toml (hstem : stem ≠ "") : 5 < (stem ++ ".toml").length := by
  have hpos : 0 < stem.length := by
    rw [Nat.pos_iff_ne_zero, ne_eq, String.length_eq_zero_iff]
    exact hstem
  have hfive : ".toml".length = 5 := by decide
  rw [String.length_append, hfive]
  omega

/-- The ending of a name that has other characters before it. -/
theorem ofFileName?_toml (hstem : stem ≠ "") :
    Format.ofFileName? (stem ++ ".toml") = some .toml := by
  have hending : Format.ending? (stem ++ ".toml") = some "toml" := by
    have hlength := length_toml hstem
    simp only [Format.ending?, String.toList_append, List.reverse_append]
    exact if_pos hlength
  rw [Format.ofFileName?, hending]
  rfl

/-- A file in the directory itself is found under its name. -/
theorem find_toml {files : Files} {text : String} (hstem : stem ≠ "")
    (hlocal : '/' ∉ stem.toList) (hfile : List.lookup (stem ++ ".toml") files = some text) :
    File.find files (stem ++ ".toml") = .ok (.toml, text) := by
  have hlength := length_toml hstem
  have hformat := ofFileName?_toml hstem
  have hslash : '/' ∉ (stem ++ ".toml").toList := by simpa using hlocal
  generalize stem ++ ".toml" = path at hlength hformat hslash hfile
  have hne : ∀ other : String, other.length ≤ 5 → path ≠ other := by
    rintro other hother rfl
    omega
  have hsplit : Text.splitAt '/' path.toList = [path.toList] := splitAt_of_not_mem hslash
  have hsteps : File.steps path = [path] := by
    simp [File.steps, hsplit, hne "" (by decide), hne "." (by decide)]
  have hname : File.endsInName path = true := by
    have hchars : ∀ cs : List Char, cs.length ≤ 5 → path.toList ≠ cs := by
      rintro cs hcs rfl
      rw [String.length_toList] at hcs
      omega
    simp [File.endsInName, hsplit, hchars ['.'] (by decide), hchars ['.', '.'] (by decide),
      hne "" (by decide)]
  have hrooted : File.isRooted path = false := by
    refine Bool.eq_false_of_not_eq_true fun hprefix => hslash ?_
    exact (List.isPrefixOf_iff_prefix.mp hprefix).subset List.mem_cons_self
  -- The path is looked up as it is before any ending is tried.
  obtain ⟨others, hcandidates⟩ : ∃ others, File.candidates path = (path, some .toml) :: others := by
    unfold File.candidates
    simp only [hsteps, hrooted, hname, List.getLast?_singleton]
    split
    case h_1 heq => cases heq
    case h_2 heq => exact absurd (Option.some.inj heq) (hne ".." (by decide))
    case h_3 heq =>
        obtain rfl := Option.some.inj heq
        exact ⟨Format.endings.map fun e => (path ++ "." ++ e.1, some e.2), by simp [hformat]⟩
  simp [File.find, hcandidates, hfile]

/-! ## Reading again -/

/-- Settings that pass their check and can be shown are read back from what is shown, if it is kept
in a file and no variable sets anything.  The number of polls is one of 32 bits, and the spelling of
the rate is read as the rate. -/
theorem shown_reloads (hcheck : s.check = .ok ()) (hword : s.scenario.maxPollAttempts < 2 ^ 32)
    (hrate : ∀ x, s.thresholds.minPassRate = some x →
      Binary64.ofText? (Toml.notationOfFloats.spell x) = some x)
    {text : String} (hshow : s.show? = some text) {files : Files} {path : String}
    (hfile : File.find files path = .ok (.toml, text)) {environment : List (String × String)}
    (hvariables : ∀ v ∈ environment, variablePath? v.1 = none) :
    ofSources files (some path) environment = .ok s := by
  -- The file gives all that is set, and the environment nothing.
  have hread : RateReadsBack s := fun x hx => ⟨isFinite_of_check hcheck hx, hrate x hx⟩
  have hparse : Toml.parse? text = some (Toml.Document.tree s.shown) :=
    Toml.parse?_write? (wellFormed_shown hread) hshow
  have hentries : fileEntries files (some path) = .ok (Toml.Document.tree s.shown).members := by
    simp only [fileEntries, File.entries, bind, Except.bind, hfile, Format.read?, hparse]
    rfl
  have hempty : EnvironmentGives environment fun _ => none :=
    ⟨fun v hv => .inl (hvariables v hv), fun k hk => by simp at hk⟩
  rw [ofSources_eq hentries (gives_shown (fits_of_show? hshow hword)) hempty]
  exact congrArg Except.ok (settings_layer s)

/-- Settings with texts that no style shows as they are, and with a rate of 0.95. -/
def awkward : Settings where
  target := { authToken := some "it's \"quoted\"\\\r\n\x01\t" }
  scenario := { message := "three ''' and three \"\"\" marks", chatId := "\n''\"\"é" }
  schedule := { iterations := some 3 }
  thresholds := { minPassRate := some ⟨0x3fee666666666666⟩ }

theorem shown_reloads_awkward :
    ∃ text, awkward.show? = some text ∧
      ofSources [("saved.toml", text)] (some "saved.toml") [("HOME", "/")] = .ok awkward := by
  have hcheck : awkward.check = .ok () := by decide +kernel
  have hshown : awkward.show?.isSome = true := by decide +kernel
  obtain ⟨text, hshow⟩ := Option.isSome_iff_exists.mp hshown
  have hread : Binary64.ofText? (Toml.notationOfFloats.spell ⟨0x3fee666666666666⟩) =
      some ⟨0x3fee666666666666⟩ := by decide +kernel
  have hrate : ∀ x, awkward.thresholds.minPassRate = some x →
      Binary64.ofText? (Toml.notationOfFloats.spell x) = some x := by
    rintro x hx
    obtain rfl := Option.some.inj hx
    exact hread
  have hfile : File.find [("saved.toml", text)] "saved.toml" = .ok (.toml, text) :=
    @find_toml "saved" _ text (by decide) (by decide) rfl
  exact ⟨text, hshow, shown_reloads hcheck (by decide) hrate hshow hfile (by decide)⟩

end LoadProbe.Settings
