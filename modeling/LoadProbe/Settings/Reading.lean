import LoadProbe.Binary64.Literal
import LoadProbe.Binary64.Notation
import LoadProbe.Settings.Basic
import LoadProbe.Settings.Tree
import LoadProbe.Text.Layout
import LoadProbe.Word

/-!
# Reading settings from a tree

* `Settings.Tree.toNat?`, `toFloat?`, `toBool?` and `toText?` convert values generously: numbers,
  truth values and their usual words stand for each other.
* `Settings.ofTree` reads all settings.  What is missing has its default, what is unknown is
  ignored, and a section may be a list of its values in their order.
-/

namespace LoadProbe.Settings

/-- Why settings cannot be loaded. -/
inductive LoadFault where
  /-- There is no such file, or its kind is unknown. -/
  | noFile
  /-- The file is not well formed. -/
  | unreadable
  /-- A value cannot be converted. -/
  | wrongType
  /-- A section is a single value. -/
  | notASection
deriving DecidableEq, Inhabited

/-- The truth value that a word stands for. -/
def truthWord? (text : String) : Option Bool :=
  let lower := Text.lowerAscii text
  if ["true", "on", "yes"].contains lower then some true
  else if ["false", "off", "no"].contains lower then some false
  else none

namespace Tree

/-- The value as an unsigned number of 64 bits. -/
def toNat? : Tree → Option Nat
  | bool b => some b.toNat
  | integer n => if 0 ≤ n then some n.toNat else none
  | float x => some x.round
  | text s => (truthWord? s).elim (Text.unsigned? Word.max64 s) fun b => some b.toNat
  | _ => none

/-- The value as an unsigned number of 32 bits: higher bits are cut off. -/
def toNat32? (t : Tree) : Option Nat := t.toNat?.map (· % Word.limit32)

/-- The value as a floating-point number. -/
def toFloat? : Tree → Option Binary64
  | bool b => some (.ofNat b.toNat)
  | integer n => some (.ofInt n)
  | float x => some x
  | text s => (truthWord? s).elim (Binary64.ofText? s) fun b => some (.ofNat b.toNat)
  | _ => none

/-- The value as a truth value. -/
def toBool? : Tree → Option Bool
  | bool b => some b
  | integer n => some (n ≠ 0)
  | float x => some !x.isZero
  | text s => if s = "1" then some true else if s = "0" then some false else truthWord? s
  | _ => none

/-- The value as a text. -/
def toText? : Tree → Option String
  | bool b => some (if b then "true" else "false")
  | integer n => some (Text.integer n)
  | float x => some (Binary64.plain.spell x)
  | text s => some s
  | _ => none

end Tree

/-- What a section says under each name. -/
abbrev Section : Type := String → Option Tree

/-- The section that a value is, its names in the order in which a list gives them. -/
def section? (names : List String) : Tree → Except LoadFault Section
  | .table members => .ok fun name => members.lookup name
  | .list items => .ok fun name => (names.zip items).lookup name
  | _ => .error .notASection

/-- Reads a value that has a default. -/
def field {α : Type} (convert? : Tree → Option α) (default : α) : Option Tree → Except LoadFault α
  | none => .ok default
  | some t => (convert? t).elim (.error .wrongType) .ok

/-- Reads a value that may be absent. -/
def optionalField {α : Type} (convert? : Tree → Option α) :
    Option Tree → Except LoadFault (Option α)
  | none | some .null => .ok none
  | some t => (convert? t).elim (.error .wrongType) fun a => .ok (some a)

/-- Reads the section about the service. -/
def Target.ofTree (t : Tree) : Except LoadFault Target := do
  let entry ← section? ["base_url", "request_timeout_secs", "max_idle_per_host", "auth_token"] t
  let default : Target := {}
  return {
    baseUrl := ← field Tree.toText? default.baseUrl (entry "base_url")
    requestTimeoutSeconds :=
      ← field Tree.toNat? default.requestTimeoutSeconds (entry "request_timeout_secs")
    maxIdlePerHost := ← field Tree.toNat? default.maxIdlePerHost (entry "max_idle_per_host")
    authToken := ← optionalField Tree.toText? (entry "auth_token") }

/-- Reads the section about iterations. -/
def Scenario.ofTree (t : Tree) : Except LoadFault Scenario := do
  let entry ← section?
    ["message", "chat_id", "poll_interval_ms", "max_poll_attempts", "iteration_pause_ms"] t
  let default : Scenario := {}
  return {
    message := ← field Tree.toText? default.message (entry "message")
    chatId := ← field Tree.toText? default.chatId (entry "chat_id")
    pollIntervalMillis := ← field Tree.toNat? default.pollIntervalMillis (entry "poll_interval_ms")
    maxPollAttempts := ← field Tree.toNat32? default.maxPollAttempts (entry "max_poll_attempts")
    iterationPauseMillis :=
      ← field Tree.toNat? default.iterationPauseMillis (entry "iteration_pause_ms") }

/-- Reads the section about users and time. -/
def Schedule.ofTree (t : Tree) : Except LoadFault Schedule := do
  let entry ← section? ["vus", "duration_secs", "iterations"] t
  let default : Schedule := {}
  return {
    users := ← field Tree.toNat? default.users (entry "vus")
    durationSeconds := ← field Tree.toNat? default.durationSeconds (entry "duration_secs")
    iterations := ← optionalField Tree.toNat? (entry "iterations") }

/-- Reads the section about thresholds. -/
def thresholdsOfTree (t : Tree) : Except LoadFault Metrics.Thresholds := do
  let entry ← section? ["min_check_pass_rate", "max_status_p99_ms"] t
  return {
    minPassRate := ← optionalField Tree.toFloat? (entry "min_check_pass_rate")
    maxStatusP99 := ← optionalField Tree.toNat? (entry "max_status_p99_ms") }

/-- Reads the section about logging. -/
def Logging.ofTree (t : Tree) : Except LoadFault Logging := do
  let entry ← section? ["level", "json"] t
  let default : Logging := {}
  return {
    level := ← field Tree.toText? default.level (entry "level")
    json := ← field Tree.toBool? default.json (entry "json") }

/-- Reads a section that may be missing. -/
def sectionOr {α : Type} (read : Tree → Except LoadFault α) (default : α) :
    Option Tree → Except LoadFault α
  | none => .ok default
  | some t => read t

/-- Reads all settings. -/
def ofTree (t : Tree) : Except LoadFault Settings := do
  let entry ← section? ["target", "scenario", "run", "thresholds", "logging"] t
  return {
    target := ← sectionOr Target.ofTree {} (entry "target")
    scenario := ← sectionOr Scenario.ofTree {} (entry "scenario")
    schedule := ← sectionOr Schedule.ofTree {} (entry "run")
    thresholds := ← sectionOr thresholdsOfTree {} (entry "thresholds")
    logging := ← sectionOr Logging.ofTree {} (entry "logging") }

end LoadProbe.Settings
