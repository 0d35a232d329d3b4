import LoadProbe.Job.Polling
import LoadProbe.Job.Submission
import LoadProbe.Run.Flow

/-!
# Iterations

One iteration of a virtual user: submit a job, and if it was accepted poll it until it is over.

* `Run.submission` submits and classifies the answer.
* `Run.polling` polls within a budget; it recurs on the polls that are left.
* `Run.Plan.iteration` is the whole iteration.
-/

namespace LoadProbe.Run

open LoadProbe.Job

/-- The sample for the answer to a call. -/
def sampleOf (endpoint : Endpoint) (answer : Answer) : Entry :=
  .sample ⟨endpoint, answer.result.toOption.map (·.status), answer.latency⟩

/-- Submits a job. -/
def submission (request : Request) : Flow Submission :=
  .submit request fun answer =>
    .note (sampleOf .submit answer) <|
      match answer.result with
      | .ok response =>
          let noted := classify (.ofResponse response)
          .noteAll noted.entries (.done noted.value)
      | .error fault => .note (.event (.submitFailed fault)) (.done (.failed fault.message))

/-- How the polling of a job ended. -/
structure PollOutcome where
  state : PollState
  /-- The status requests that were made. -/
  attempts : Nat
  /-- The budget that was left. -/
  remaining : Nat
  errorCode : Option String
deriving DecidableEq, Inhabited

/-- What is recorded about a poll that got no answer. -/
def pollFault (jobId : String) : Except Fault Response → List Entry
  | .ok _ => []
  | .error fault => [.event (.pollFailed jobId fault)]

/-- Polls a job that was polled `attempts` times and may be polled as often as the last argument
says. -/
def polling (job : Handles) (interval : Duration) (attempts : Nat) : Nat → Flow PollOutcome
  | 0 => .note (.event (.budgetSpent job.jobId attempts)) (.done ⟨.exhausted, attempts, 0, none⟩)
  | remaining + 1 =>
      .wait interval <| .fetch job.statusUrl fun answer =>
        let noted := observe job.jobId ⟨remaining + 1⟩ answer.result.toOption
        .note (sampleOf .status answer) <| .noteAll (pollFault job.jobId answer.result) <|
          .noteAll noted.entries <|
            if noted.value.state = .polling then polling job interval (attempts + 1) remaining
            else .done ⟨noted.value.state, attempts + 1, noted.value.budget.remaining,
              noted.value.errorCode⟩

/-- What every iteration does. -/
structure Plan where
  request : Request
  /-- The time before each poll. -/
  interval : Duration
  maxPolls : Nat
deriving DecidableEq, Inhabited

/-- Polls an accepted job to its end. -/
def Plan.follow (plan : Plan) (job : Handles) : Flow Outcome :=
  .note (.event (.accepted job)) <|
    (polling job plan.interval 0 plan.maxPolls).bind fun ended =>
      let result : Flow Outcome := .done (.ofPollState ended.state)
      if ended.state = .exhausted then
        .note (.event (.notFinished job.jobId ended.attempts)) result
      else result

/-- One iteration. -/
def Plan.iteration (plan : Plan) : Flow Outcome :=
  (submission plan.request).bind fun
    | .accepted job => plan.follow job
    | .rateLimited => .done .submitRateLimited
    | .incomplete .. => .done .submitIncomplete
    | .unexpected _ => .done .submitUnexpected
    | .failed _ => .done .submitFailed

end LoadProbe.Run
