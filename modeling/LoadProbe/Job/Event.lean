import LoadProbe.Binary64.Notation
import LoadProbe.Duration
import LoadProbe.Fault
import LoadProbe.Job.Outcome
import LoadProbe.Text.Quoted

/-!
# Events

What is worth a line in the log, with its level and its message.  What a parser or the runtime says
about its own failure is not part of a message.
-/

namespace LoadProbe.Job

/-- What a service gives for an accepted job. -/
structure Handles where
  jobId : String
  statusUrl : String
deriving DecidableEq, Inhabited

/-- How important an event is. -/
inductive Level where
  | debug
  | info
  | warn
  | error
deriving DecidableEq, Inhabited

def Level.name : Level → String
  | debug => "debug"
  | info => "info"
  | warn => "warn"
  | error => "error"

/-- Something that happened in a run. -/
inductive Event where
  | submitRateLimited
  | submitUnexpected (status : Nat)
  | submitIncomplete (jobId statusUrl : Option String)
  | submitFailed (fault : Fault)
  | accepted (job : Handles)
  | pollRateLimited (jobId : String)
  | pollFailed (jobId : String) (fault : Fault)
  | bodyUnreadable (jobId : String) (status : Nat)
  | stillPending (jobId status : String) (remaining : Nat)
  | jobFailed (jobId code : String)
  | finished (jobId shownAnswer : String) (sources : Nat)
  | finishedWithError (jobId code : String)
  | budgetSpent (jobId : String) (polls : Nat)
  | notFinished (jobId : String) (polls : Nat)
  | usersStarted (count : Nat)
  | iterationEnded (user iteration : Nat) (outcome : Outcome)
  | userStopped (user iterations : Nat)
  | userAborted (user : Nat)
  | runComplete (iterations : Nat) (elapsed : Duration)
deriving DecidableEq, Inhabited

namespace Event

/-- The level of an event. -/
def level : Event → Level
  | submitRateLimited | pollRateLimited _ | stillPending .. | budgetSpent .. | iterationEnded ..
  | userStopped .. => .debug
  | accepted _ | finished .. | finishedWithError .. | usersStarted _ | runComplete .. => .info
  | submitUnexpected _ | submitIncomplete .. | submitFailed _ | pollFailed .. | bodyUnreadable ..
  | notFinished .. => .warn
  | jobFailed .. | userAborted _ => .error

/-- The message of an event.  Two messages are given only as far as the colon behind which the log
goes on: that of `bodyUnreadable` would go on with the error of the parser, that of `userAborted`
with the error of the task that ran the user. -/
def message : Event → String
  | submitRateLimited => "Submission rate limited"
  | submitUnexpected status => "Submission returned unexpected status " ++ Text.decimal status
  | submitIncomplete jobId statusUrl =>
      "Job accepted without handles (id: " ++ Text.quotedOption jobId ++ ", status_url: "
        ++ Text.quotedOption statusUrl ++ ")"
  | submitFailed fault => "Job submission failed: " ++ fault.message
  | accepted job => "Job " ++ job.jobId ++ " accepted, status url " ++ job.statusUrl
  | pollRateLimited jobId => "Status poll for job " ++ jobId ++ " rate limited"
  | pollFailed jobId fault => "Status poll for job " ++ jobId ++ " failed: " ++ fault.message
  | bodyUnreadable jobId status =>
      "Unreadable status body for job " ++ jobId ++ " (HTTP " ++ Text.decimal status ++ ")"
  | stillPending jobId status remaining =>
      "Job " ++ jobId ++ " is " ++ status ++ " (" ++ Text.decimal remaining ++ " polls left)"
  | jobFailed jobId code => "Job " ++ jobId ++ " failed with code: " ++ code
  | finished jobId shownAnswer sources =>
      "Job " ++ jobId ++ " finished. Answer: " ++ shownAnswer ++ "... (" ++ Text.decimal sources
        ++ " sources)"
  | finishedWithError jobId code => "Job " ++ jobId ++ " finished with error code " ++ code
  | budgetSpent jobId polls =>
      "Job " ++ jobId ++ " still pending after " ++ Text.decimal polls ++ " polls"
  | notFinished jobId polls =>
      "Job " ++ jobId ++ " not finished after " ++ Text.decimal polls ++ " polls"
  | usersStarted count => "Starting " ++ Text.decimal count ++ " virtual users"
  | iterationEnded user iteration outcome =>
      "VU " ++ Text.decimal user ++ " iteration " ++ Text.decimal iteration ++ " ended: "
        ++ outcome.name
  | userStopped user iterations =>
      "VU " ++ Text.decimal user ++ " stopped after " ++ Text.decimal iterations ++ " iterations"
  | userAborted user => "Virtual user " ++ Text.decimal user ++ " aborted"
  | runComplete iterations elapsed =>
      "Load test complete: " ++ Text.decimal iterations ++ " iterations in "
        ++ Binary64.fixed 2 elapsed.toSeconds ++ "s"

end Event

end LoadProbe.Job
