import LoadProbe.Settings.Basic
import LoadProbe.Toml.Writer

/-!
# Showing settings

Settings as a TOML document: all sections in their order, and in each all that is set.  Read as a
file it gives the same settings again.
-/

namespace LoadProbe.Settings

open LoadProbe.Toml (Scalar)

/-- The line for a value that may be absent. -/
def optionalEntry {α : Type} (key : String) (scalar : α → Scalar) (value : Option α) :
    List (String × Scalar) :=
  (value.map fun a => (key, scalar a)).toList

/-- The section about the service. -/
def Target.shown (t : Target) : Toml.Section where
  title := "target"
  entries := [
    ("base_url", .text t.baseUrl),
    ("request_timeout_secs", .integer t.requestTimeoutSeconds),
    ("max_idle_per_host", .integer t.maxIdlePerHost)]
    ++ optionalEntry "auth_token" .text t.authToken

/-- The section about iterations. -/
def Scenario.shown (s : Scenario) : Toml.Section where
  title := "scenario"
  entries := [
    ("message", .text s.message),
    ("chat_id", .text s.chatId),
    ("poll_interval_ms", .integer s.pollIntervalMillis),
    ("max_poll_attempts", .integer s.maxPollAttempts),
    ("iteration_pause_ms", .integer s.iterationPauseMillis)]

/-- The section about users and time. -/
def Schedule.shown (s : Schedule) : Toml.Section where
  title := "run"
  entries := [("vus", .integer s.users), ("duration_secs", .integer s.durationSeconds)]
    ++ optionalEntry "iterations" .integer s.iterations

/-- The section about thresholds. -/
def shownThresholds (t : Metrics.Thresholds) : Toml.Section where
  title := "thresholds"
  entries := optionalEntry "min_check_pass_rate" .float t.minPassRate
    ++ optionalEntry "max_status_p99_ms" .integer t.maxStatusP99

/-- The section about logging. -/
def Logging.shown (l : Logging) : Toml.Section where
  title := "logging"
  entries := [("level", .text l.level), ("json", .bool l.json)]

/-- All settings as a document. -/
def shown (s : Settings) : Toml.Document :=
  [s.target.shown, s.scenario.shown, s.schedule.shown, shownThresholds s.thresholds,
    s.logging.shown]

/-- The text of all settings, unless a number among them is too large for the format. -/
def show? (s : Settings) : Option String := s.shown.write?

end LoadProbe.Settings
