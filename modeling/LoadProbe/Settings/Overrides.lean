import LoadProbe.Settings.Basic

/-!
# Overrides

Settings that a user gives for one run only.  They win over every other source.
-/

namespace LoadProbe.Settings

/-- The settings that can be overridden, each if it is. -/
structure Overrides where
  baseUrl : Option String := none
  users : Option Nat := none
  durationSeconds : Option Nat := none
  iterations : Option Nat := none
  pollIntervalMillis : Option Nat := none
  maxPollAttempts : Option Nat := none
  message : Option String := none
  chatId : Option String := none
  authToken : Option String := none
deriving DecidableEq, Inhabited

/-- Settings with overrides. -/
def override (s : Settings) (o : Overrides) : Settings where
  target := { s.target with
    baseUrl := o.baseUrl.getD s.target.baseUrl
    authToken := o.authToken.or s.target.authToken }
  scenario := { s.scenario with
    message := o.message.getD s.scenario.message
    chatId := o.chatId.getD s.scenario.chatId
    pollIntervalMillis := o.pollIntervalMillis.getD s.scenario.pollIntervalMillis
    maxPollAttempts := o.maxPollAttempts.getD s.scenario.maxPollAttempts }
  schedule := {
    users := o.users.getD s.schedule.users
    durationSeconds := o.durationSeconds.getD s.schedule.durationSeconds
    iterations := o.iterations.or s.schedule.iterations }
  thresholds := s.thresholds
  logging := s.logging

end LoadProbe.Settings
