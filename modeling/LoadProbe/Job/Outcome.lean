/-!
# States and outcomes

* `Job.PollState` is where the polling of one job stands.
* `Job.Outcome` is how one iteration of a virtual user ended.
* `Job.Endpoint` is the route a request went to.
-/

namespace LoadProbe.Job

/-- Where the polling of a job stands. -/
inductive PollState where
  | polling
  | rateLimited
  | complete
  | errored
  | exhausted
deriving DecidableEq, Inhabited

namespace PollState

/-- All states, polling first. -/
def all : List PollState := [polling, rateLimited, complete, errored, exhausted]

def name : PollState → String
  | polling => "POLLING"
  | rateLimited => "RATE_LIMITED"
  | complete => "COMPLETE"
  | errored => "ERRORED"
  | exhausted => "EXHAUSTED"

/-- The state with the given name. -/
def ofName? (text : String) : Option PollState := all.find? (·.name = text)

/-- Whether polling is over. -/
def isTerminal (s : PollState) : Bool := s ≠ polling

end PollState

/-- How an iteration ended. -/
inductive Outcome where
  /-- The submission was throttled. -/
  | submitRateLimited
  /-- The submission was answered with an unexpected status. -/
  | submitUnexpected
  /-- The submission was accepted without a job id or a status URL. -/
  | submitIncomplete
  /-- The submission got no answer. -/
  | submitFailed
  /-- A poll was throttled. -/
  | pollRateLimited
  /-- The job was completed, and its result validated. -/
  | completed
  /-- The job reported an error. -/
  | errored
  /-- The job was still pending when the budget for polls was spent. -/
  | exhausted
deriving DecidableEq, Inhabited

namespace Outcome

/-- All outcomes, in the order in which an iteration can meet them. -/
def all : List Outcome :=
  [submitRateLimited, submitUnexpected, submitIncomplete, submitFailed, pollRateLimited, completed,
    errored, exhausted]

def name : Outcome → String
  | submitRateLimited => "submit_rate_limited"
  | submitUnexpected => "submit_unexpected"
  | submitIncomplete => "submit_incomplete"
  | submitFailed => "submit_failed"
  | pollRateLimited => "poll_rate_limited"
  | completed => "completed"
  | errored => "errored"
  | exhausted => "exhausted"

/-- The outcome with the given name. -/
def ofName? (text : String) : Option Outcome := all.find? (·.name = text)

/-- The place of the outcome in `all`. -/
def index (o : Outcome) : Nat := all.idxOf o

/-- Whether the user pauses before the next iteration; after throttling there is no pause. -/
def pausesAfter (o : Outcome) : Bool := o ≠ submitRateLimited ∧ o ≠ pollRateLimited

/-- The outcome of an iteration whose polling ended in the given state. -/
def ofPollState : PollState → Outcome
  | .rateLimited => pollRateLimited
  | .complete => completed
  | .errored => errored
  | .exhausted | .polling => exhausted

instance : Ord Outcome := ⟨fun a b => compare a.index b.index⟩

end Outcome

/-- The route of a request. -/
inductive Endpoint where
  | submit
  | status
deriving DecidableEq, Inhabited

namespace Endpoint

def all : List Endpoint := [submit, status]

def name : Endpoint → String
  | submit => "submit"
  | status => "status"

/-- The endpoint with the given name. -/
def ofName? (text : String) : Option Endpoint := all.find? (·.name = text)

end Endpoint

end LoadProbe.Job
