import LoadProbe.Settings.Basic
import LoadProbe.Url.Parse

/-!
# Checks of settings

Settings are refused, with the reason, if the base URL is not one of the web, if there are no users
or no polls, if the run has neither a duration nor a cap on iterations, or if the pass rate is not
between zero and one.  Nothing else is looked at: a cap of no iterations is let through, although
nobody takes part in such a run.
-/

namespace LoadProbe.Settings

/-- Refuses with a reason unless the condition holds. -/
def require (condition : Bool) (reason : String) : Except Fault Unit :=
  if condition then .ok () else .error (.invalidSettings reason)

/-- The base URL must be an absolute URL of the web. -/
def checkBaseUrl (url : String) : Except Fault Unit :=
  match Url.scheme url with
  | .error flaw =>
      .error (.invalidSettings ("base_url " ++ Text.quoted url ++ ": " ++ flaw.message))
  | .ok scheme =>
      require (scheme = "http" ∨ scheme = "https")
        ("base_url must be http or https, got " ++ scheme)

/-- The pass rate must lie between zero and one. -/
def checkMinPassRate : Option Binary64 → Except Fault Unit
  | none => .ok ()
  | some rate =>
      require (Binary64.zero.le rate && rate.le (.ofNat 1))
        ("min_check_pass_rate must be within 0.0..=1.0, got " ++ Binary64.plain.spell rate)

/-- Checks settings; of several reasons to refuse them the first is given. -/
def check (s : Settings) : Except Fault Unit := do
  checkBaseUrl s.target.baseUrl
  require (s.schedule.users ≠ 0) "vus must be at least 1"
  require (s.scenario.maxPollAttempts ≠ 0) "max_poll_attempts must be at least 1"
  require (s.schedule.durationSeconds ≠ 0 || s.schedule.iterations.isSome)
    "duration_secs must be at least 1 unless iterations is set"
  checkMinPassRate s.thresholds.minPassRate

end LoadProbe.Settings
