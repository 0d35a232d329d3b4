import LoadProbe.Metrics.Threshold
import LoadProbe.Run.Crowd

/-!
# Settings

All that can be set about a load test, with the values that hold if nothing is set.
-/

namespace LoadProbe.Settings

open LoadProbe.Run

/-- The service under test. -/
structure Target where
  baseUrl : String := "http://localhost:3000"
  requestTimeoutSeconds : Nat := 30
  maxIdlePerHost : Nat := 64
  authToken : Option String := none
deriving DecidableEq, Inhabited

/-- What an iteration does. -/
structure Scenario where
  message : String := "my k6 test"
  /-- The chat to go on with; the empty text opens a new one. -/
  chatId : String := ""
  pollIntervalMillis : Nat := 2000
  maxPollAttempts : Nat := 10
  iterationPauseMillis : Nat := 1000
deriving DecidableEq, Inhabited

/-- How many users there are and for how long. -/
structure Schedule where
  users : Nat := 20
  durationSeconds : Nat := 5
  /-- How many iterations each user may start. -/
  iterations : Option Nat := none
deriving DecidableEq, Inhabited

/-- What is logged, and how. -/
structure Logging where
  level : String := "info"
  json : Bool := false
deriving DecidableEq, Inhabited

/-- The plan of an iteration. -/
def Scenario.plan (s : Scenario) : Plan where
  request := ⟨s.message, s.chatId⟩
  interval := .ofMillis s.pollIntervalMillis
  maxPolls := s.maxPollAttempts

/-- The gate of a run that starts at `start`. -/
def Schedule.gate (s : Schedule) (start : Duration) : Gate :=
  .ofWindow start (.ofSeconds s.durationSeconds) s.iterations

end LoadProbe.Settings

namespace LoadProbe

open LoadProbe.Settings

/-- All settings. -/
structure Settings where
  target : Target := {}
  scenario : Scenario := {}
  schedule : Schedule := {}
  thresholds : Metrics.Thresholds := {}
  logging : Logging := {}
deriving DecidableEq, Inhabited

/-- What all users of a run that starts at `start` have in common. -/
def Settings.load (s : Settings) (start : Duration) : Run.Load where
  plan := s.scenario.plan
  pause := .ofMillis s.scenario.iterationPauseMillis
  gate := s.schedule.gate start

end LoadProbe
