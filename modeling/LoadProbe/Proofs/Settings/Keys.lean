import Mathlib
import LoadProbe.Proofs.Maps.Counts
import LoadProbe.Settings.Overrides
import LoadProbe.Settings.Reading

/-!
# Settings by key

Everything that can be set has a key: a section and a name in it.  What a source says is a layer, a
value for some of the keys, and the settings themselves are a layer with a value for every key that
is set in them.

* `Settings.Key` are the keys, `Settings.Layer` the layers; `Settings.layer` and `Overrides.layer`
  are those of settings and of overrides.
* `Settings.Key.StandsFor` says that a tree stands for a value of the type of a key.
* `Settings.Tree.Holds` says that a tree of sections holds a layer;
  `Settings.ofTree_of_holds`: reading such a tree gives the settings of the layer.
-/

namespace LoadProbe

namespace SortedMap

variable {κ α : Type} [Ord κ]

/-- Replacing a value is storing what it is replaced by. -/
theorem alter_eq_insert (key : κ) (f : Option α → α) (m : SortedMap κ α) :
    alter key f m = insert key (f (get? key m)) m := by
  induction m with
  | nil => rfl
  | cons entry rest ih =>
      obtain ⟨k, a⟩ := entry
      simp only [insert, alter, get?] at ih ⊢
      cases compare key k with
      | lt => rfl
      | eq => rfl
      | gt => simp only [ih]

end SortedMap

namespace Settings

/-! ## Keys -/

/-- The types of values. -/
inductive Kind where
  | text
  | natural
  | rate
  | truth
deriving DecidableEq

/-- The values of a type. -/
abbrev Kind.Value : Kind → Type
  | .text => String
  | .natural => Nat
  | .rate => Binary64
  | .truth => Bool

/-- All that can be set. -/
inductive Key where
  | baseUrl
  | requestTimeout
  | maxIdle
  | authToken
  | message
  | chatId
  | pollInterval
  | maxPolls
  | pause
  | users
  | duration
  | iterations
  | minPassRate
  | maxStatusP99
  | level
  | json
deriving DecidableEq

namespace Key

/-- The section in which a key stands. -/
def sectionName : Key → String
  | baseUrl | requestTimeout | maxIdle | authToken => "target"
  | message | chatId | pollInterval | maxPolls | pause => "scenario"
  | users | duration | iterations => "run"
  | minPassRate | maxStatusP99 => "thresholds"
  | level | json => "logging"

/-- The name of a key in its section. -/
def name : Key → String
  | baseUrl => "base_url"
  | requestTimeout => "request_timeout_secs"
  | maxIdle => "max_idle_per_host"
  | authToken => "auth_token"
  | message => "message"
  | chatId => "chat_id"
  | pollInterval => "poll_interval_ms"
  | maxPolls => "max_poll_attempts"
  | pause => "iteration_pause_ms"
  | users => "vus"
  | duration => "duration_secs"
  | iterations => "iterations"
  | minPassRate => "min_check_pass_rate"
  | maxStatusP99 => "max_status_p99_ms"
  | level => "level"
  | json => "json"

/-- The type of the values of a key. -/
abbrev kind : Key → Kind
  | baseUrl | authToken | message | chatId | level => .text
  | minPassRate => .rate
  | json => .truth
  | _ => .natural

/-- The numbers that a source can give for a key stay below this one: sources know numbers of 64
bits with a sign, and the number of polls is kept in 32 bits. -/
def limit : Key → Nat
  | maxPolls => 2 ^ 32
  | _ => 2 ^ 63

end Key

/-- The sections. -/
def sectionNames : List String := ["target", "scenario", "run", "thresholds", "logging"]

theorem sectionName_mem (k : Key) : k.sectionName ∈ sectionNames := by
  cases k <;> decide

/-- A key is known by its section and its name. -/
theorem key_eq_of_names {k k' : Key} (hsection : k.sectionName = k'.sectionName)
    (hname : k.name = k'.name) : k = k' := by
  revert hsection hname
  cases k <;> cases k' <;> decide

/-! ## Layers -/

/-- What a source says: the values of some keys. -/
abbrev Layer : Type := (k : Key) → Option k.kind.Value

/-- All that is set in settings. -/
def layer (s : Settings) : Layer
  | .baseUrl => some s.target.baseUrl
  | .requestTimeout => some s.target.requestTimeoutSeconds
  | .maxIdle => some s.target.maxIdlePerHost
  | .authToken => s.target.authToken
  | .message => some s.scenario.message
  | .chatId => some s.scenario.chatId
  | .pollInterval => some s.scenario.pollIntervalMillis
  | .maxPolls => some s.scenario.maxPollAttempts
  | .pause => some s.scenario.iterationPauseMillis
  | .users => some s.schedule.users
  | .duration => some s.schedule.durationSeconds
  | .iterations => s.schedule.iterations
  | .minPassRate => s.thresholds.minPassRate
  | .maxStatusP99 => s.thresholds.maxStatusP99
  | .level => some s.logging.level
  | .json => some s.logging.json

/-- All that is overridden. -/
def Overrides.layer (o : Overrides) : Layer
  | .baseUrl => o.baseUrl
  | .authToken => o.authToken
  | .message => o.message
  | .chatId => o.chatId
  | .pollInterval => o.pollIntervalMillis
  | .maxPolls => o.maxPollAttempts
  | .users => o.users
  | .duration => o.durationSeconds
  | .iterations => o.iterations
  | _ => none

/-- The settings that a layer makes over the defaults. -/
def Layer.settings (l : Layer) : Settings :=
  let default : Settings := {}
  { target := {
      baseUrl := (l .baseUrl).getD default.target.baseUrl
      requestTimeoutSeconds := (l .requestTimeout).getD default.target.requestTimeoutSeconds
      maxIdlePerHost := (l .maxIdle).getD default.target.maxIdlePerHost
      authToken := l .authToken }
    scenario := {
      message := (l .message).getD default.scenario.message
      chatId := (l .chatId).getD default.scenario.chatId
      pollIntervalMillis := (l .pollInterval).getD default.scenario.pollIntervalMillis
      maxPollAttempts := (l .maxPolls).getD default.scenario.maxPollAttempts
      iterationPauseMillis := (l .pause).getD default.scenario.iterationPauseMillis }
    schedule := {
      users := (l .users).getD default.schedule.users
      durationSeconds := (l .duration).getD default.schedule.durationSeconds
      iterations := l .iterations }
    thresholds := {
      minPassRate := l .minPassRate
      maxStatusP99 := l .maxStatusP99 }
    logging := {
      level := (l .level).getD default.logging.level
      json := (l .json).getD default.logging.json } }

theorem some_getD_eq_or {α : Type} (o : Option α) (a : α) : some (o.getD a) = o.or (some a) := by
  cases o <;> rfl

/-- Where a layer says nothing the default holds. -/
theorem layer_settings (l : Layer) (k : Key) :
    l.settings.layer k = (l k).or (({} : Settings).layer k) := by
  cases k
  case authToken | iterations | minPassRate | maxStatusP99 => exact Option.or_none.symm
  all_goals exact some_getD_eq_or _ _

/-- Where nothing is overridden the settings stay as they are. -/
theorem layer_override (s : Settings) (o : Overrides) (k : Key) :
    (s.override o).layer k = (o.layer k).or (s.layer k) := by
  cases k
  case authToken | iterations => rfl
  case requestTimeout | maxIdle | pause | minPassRate | maxStatusP99 | level | json => rfl
  all_goals exact some_getD_eq_or _ _

/-- Settings are known by what is set in them. -/
theorem settings_layer (s : Settings) : s.layer.settings = s := rfl

/-! ## Values in a tree -/

/-- The tree is a value of the given type, a number among them below the limit.  A whole number
stands for a rate as well. -/
def Kind.StandsFor (limit : Nat) : (kind : Kind) → Tree → kind.Value → Prop
  | .text, t, s => t = .text s
  | .natural, t, n => t = .integer n ∧ n < limit
  | .rate, t, x => t = .float x ∨ ∃ n, t = .integer n ∧ x = .ofInt n
  | .truth, t, b => t = .bool b

/-- The tree is a value for the key. -/
def Key.StandsFor (k : Key) (t : Tree) (v : k.kind.Value) : Prop := k.kind.StandsFor k.limit t v

/-- What is read of a value that is given or left to its default. -/
theorem field_of_rel {α : Type} {convert? : Tree → Option α} {standsFor : Tree → α → Prop}
    {t? : Option Tree} {a? : Option α} (h : Option.Rel standsFor t? a?)
    (hconvert : ∀ t a, standsFor t a → convert? t = some a) (default : α) :
    field convert? default t? = .ok (a?.getD default) := by
  cases h with
  | none => rfl
  | some hstands => simp [field, hconvert _ _ hstands]

/-- What is read of a value that is given or absent. -/
theorem optionalField_of_rel {α : Type} {convert? : Tree → Option α}
    {standsFor : Tree → α → Prop} {t? : Option Tree} {a? : Option α}
    (h : Option.Rel standsFor t? a?) (hconvert : ∀ t a, standsFor t a → convert? t = some a)
    (hnull : ∀ a, ¬standsFor .null a) :
    optionalField convert? t? = .ok a? := by
  cases h with
  | none => rfl
  | @some t a hstands =>
      cases t with
      | null => exact absurd hstands (hnull a)
      | _ => simp [optionalField, hconvert _ _ hstands]

theorem toText?_of_standsFor {limit : Nat} (t : Tree) (s : String)
    (h : Kind.StandsFor limit .text t s) : t.toText? = some s := by
  obtain rfl : t = .text s := h
  rfl

theorem toNat?_of_standsFor {limit : Nat} (t : Tree) (n : Nat)
    (h : Kind.StandsFor limit .natural t n) : t.toNat? = some n := by
  obtain ⟨rfl, -⟩ : t = .integer n ∧ n < limit := h
  simp [Tree.toNat?]

/-- A number of 32 bits is not cut. -/
theorem toNat32?_of_standsFor (t : Tree) (n : Nat)
    (h : Kind.StandsFor (2 ^ 32) .natural t n) : t.toNat32? = some n := by
  have hlimit : n < Word.limit32 := h.2
  rw [Tree.toNat32?, toNat?_of_standsFor t n h, Option.map_some, Nat.mod_eq_of_lt hlimit]

theorem toFloat?_of_standsFor {limit : Nat} (t : Tree) (x : Binary64)
    (h : Kind.StandsFor limit .rate t x) : t.toFloat? = some x := by
  rcases h with rfl | ⟨n, rfl, rfl⟩ <;> rfl

theorem toBool?_of_standsFor {limit : Nat} (t : Tree) (b : Bool)
    (h : Kind.StandsFor limit .truth t b) : t.toBool? = some b := by
  obtain rfl : t = .bool b := h
  rfl

theorem not_standsFor_null (kind : Kind) (limit : Nat) (v : kind.Value) :
    ¬kind.StandsFor limit .null v := by
  cases kind <;> simp [Kind.StandsFor]

/-! ## Layers in a tree -/

namespace Tree

/-- The tree is a table whose keys increase. -/
def IsTable (t : Tree) : Prop := ∃ members, t = table members ∧ SortedMap.Sorted members

/-- A section of a tree; one that is missing is empty. -/
def sectionAt (root : Tree) (name : String) : Tree :=
  (SortedMap.get? name root.members).getD (table [])

/-- The section holds the values that the layer has for the keys in it. -/
structure SectionHolds (name : String) (t : Tree) (l : Layer) : Prop where
  isTable : t.IsTable
  rel : ∀ k : Key, k.sectionName = name →
    Option.Rel k.StandsFor (SortedMap.get? k.name t.members) (l k)

/-- The tree holds the layer, section by section. -/
structure Holds (root : Tree) (l : Layer) : Prop where
  isTable : root.IsTable
  sectionHolds : ∀ name, SectionHolds name (root.sectionAt name) l

end Tree

theorem section?_of_isTable {t : Tree} (h : t.IsTable) (names : List String) : section? names t =
    .ok fun name => SortedMap.get? name t.members := by
  obtain ⟨members, rfl, hsorted⟩ := h
  exact congrArg Except.ok (funext fun name => hsorted.lookup_eq_get? name)

variable {t root : Tree} {l : Layer}

theorem target_of_sectionHolds (h : Tree.SectionHolds "target" t l) :
    Target.ofTree t = .ok l.settings.target := by
  have hbaseUrl := field_of_rel (h.rel .baseUrl rfl) toText?_of_standsFor
  have htimeout := field_of_rel (h.rel .requestTimeout rfl) toNat?_of_standsFor
  have hmaxIdle := field_of_rel (h.rel .maxIdle rfl) toNat?_of_standsFor
  have htoken := optionalField_of_rel (h.rel .authToken rfl) toText?_of_standsFor
    (not_standsFor_null .text _)
  simp only [Key.name] at hbaseUrl htimeout hmaxIdle htoken
  simp only [Target.ofTree, bind, Except.bind, section?_of_isTable h.isTable, hbaseUrl, htimeout,
    hmaxIdle, htoken]
  rfl

theorem scenario_of_sectionHolds (h : Tree.SectionHolds "scenario" t l) :
    Scenario.ofTree t = .ok l.settings.scenario := by
  have hmessage := field_of_rel (h.rel .message rfl) toText?_of_standsFor
  have hchatId := field_of_rel (h.rel .chatId rfl) toText?_of_standsFor
  have hinterval := field_of_rel (h.rel .pollInterval rfl) toNat?_of_standsFor
  have hmaxPolls := field_of_rel (h.rel .maxPolls rfl) toNat32?_of_standsFor
  have hpause := field_of_rel (h.rel .pause rfl) toNat?_of_standsFor
  simp only [Key.name] at hmessage hchatId hinterval hmaxPolls hpause
  simp only [Scenario.ofTree, bind, Except.bind, section?_of_isTable h.isTable, hmessage, hchatId,
    hinterval, hmaxPolls, hpause]
  rfl

theorem schedule_of_sectionHolds (h : Tree.SectionHolds "run" t l) :
    Schedule.ofTree t = .ok l.settings.schedule := by
  have husers := field_of_rel (h.rel .users rfl) toNat?_of_standsFor
  have hduration := field_of_rel (h.rel .duration rfl) toNat?_of_standsFor
  have hiterations := optionalField_of_rel (h.rel .iterations rfl) toNat?_of_standsFor
    (not_standsFor_null .natural _)
  simp only [Key.name] at husers hduration hiterations
  simp only [Schedule.ofTree, bind, Except.bind, section?_of_isTable h.isTable, husers, hduration,
    hiterations]
  rfl

theorem thresholds_of_sectionHolds (h : Tree.SectionHolds "thresholds" t l) :
    thresholdsOfTree t = .ok l.settings.thresholds := by
  have hpassRate := optionalField_of_rel (h.rel .minPassRate rfl) toFloat?_of_standsFor
    (not_standsFor_null .rate _)
  have hstatusP99 := optionalField_of_rel (h.rel .maxStatusP99 rfl) toNat?_of_standsFor
    (not_standsFor_null .natural _)
  simp only [Key.name] at hpassRate hstatusP99
  simp only [thresholdsOfTree, bind, Except.bind, section?_of_isTable h.isTable, hpassRate,
    hstatusP99]
  rfl

theorem logging_of_sectionHolds (h : Tree.SectionHolds "logging" t l) :
    Logging.ofTree t = .ok l.settings.logging := by
  have hlevel := field_of_rel (h.rel .level rfl) toText?_of_standsFor
  have hjson := field_of_rel (h.rel .json rfl) toBool?_of_standsFor
  simp only [Key.name] at hlevel hjson
  simp only [Logging.ofTree, bind, Except.bind, section?_of_isTable h.isTable, hlevel, hjson]
  rfl

/-- A missing section is read as an empty one. -/
theorem sectionOr_eq {α : Type} {read : Tree → Except LoadFault α} {default : α}
    (hempty : read (.table []) = .ok default) (root : Tree) (name : String) :
    sectionOr read default (SortedMap.get? name root.members) = read (root.sectionAt name) := by
  unfold Tree.sectionAt
  cases SortedMap.get? name root.members with
  | none => exact hempty.symm
  | some t => rfl

/-- A tree that holds a layer is read as the settings of the layer. -/
theorem ofTree_of_holds (h : root.Holds l) : ofTree root = .ok l.settings := by
  -- Each section is read on its own, a missing one as an empty one.
  have htarget := (sectionOr_eq (rfl : Target.ofTree (.table []) = .ok {}) root _).trans
    (target_of_sectionHolds (h.sectionHolds "target"))
  have hscenario := (sectionOr_eq (rfl : Scenario.ofTree (.table []) = .ok {}) root _).trans
    (scenario_of_sectionHolds (h.sectionHolds "scenario"))
  have hschedule := (sectionOr_eq (rfl : Schedule.ofTree (.table []) = .ok {}) root _).trans
    (schedule_of_sectionHolds (h.sectionHolds "run"))
  have hthresholds := (sectionOr_eq (rfl : thresholdsOfTree (.table []) = .ok {}) root _).trans
    (thresholds_of_sectionHolds (h.sectionHolds "thresholds"))
  have hlogging := (sectionOr_eq (rfl : Logging.ofTree (.table []) = .ok {}) root _).trans
    (logging_of_sectionHolds (h.sectionHolds "logging"))
  simp only [ofTree, bind, Except.bind, section?_of_isTable h.isTable, htarget, hscenario,
    hschedule, hthresholds, hlogging]
  rfl

end Settings

end LoadProbe
