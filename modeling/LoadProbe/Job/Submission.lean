import LoadProbe.Job.Entry
import LoadProbe.Job.Message
import LoadProbe.Json.Record

/-!
# Submissions

What the answer to a submission means.

* `Job.SubmissionResponse.ofResponse` reads the handles of a job, which only an accepted
  submission carries.
* `Job.classify` decides whether there is a job to poll, and records why.
-/

namespace LoadProbe.Job

open LoadProbe.Json

/-- The answer to a submission with the handles found in it. -/
structure SubmissionResponse where
  status : Nat
  jobId : Option String
  statusUrl : Option String
deriving DecidableEq, Inhabited

/-- A job id: a text, or a number, which is taken as its text. -/
def jobIdOf? : Value → Option String
  | .string id => some id
  | .integer n => some (Value.integer n).compact
  | .float x => some (Value.float x).compact
  | _ => none

/-- Reads the handles.  A body that is not a record has none, and neither has one in which the text
of one of the two fields has no value. -/
def SubmissionResponse.ofResponse (r : Response) : SubmissionResponse :=
  let field? := if r.status = statusAccepted
    then (read? r.body).bind (Written.fields? ["id", "status_url"])
    else none
  { status := r.status
    jobId := (field?.bind (· "id")).bind jobIdOf?
    statusUrl := (field?.bind (· "status_url")).bind Value.string? }

/-- How the service answered a submission. -/
inductive Submission where
  /-- It sheds load. -/
  | rateLimited
  /-- There is a job, and it can be polled. -/
  | accepted (job : Handles)
  /-- There is a job, but a handle of it is missing. -/
  | incomplete (jobId statusUrl : Option String)
  /-- It answered with another status. -/
  | unexpected (status : Nat)
  /-- It did not answer. -/
  | failed (reason : String)
deriving DecidableEq, Inhabited

/-- The submission that an accepting answer makes, and the event for it. -/
def ofHandles : Option String → Option String → List Entry × Submission
  | some jobId, some statusUrl => ([], .accepted ⟨jobId, statusUrl⟩)
  | jobId, statusUrl =>
      ([.event (.submitIncomplete jobId statusUrl)], .incomplete jobId statusUrl)

/-- Decides what the answer to a submission means. -/
def classify (r : SubmissionResponse) : Noted Submission :=
  if r.status = statusTooManyRequests then
    ⟨[.check ⟨Label.rateLimitHit, true⟩, .event .submitRateLimited], .rateLimited⟩
  else if r.status = statusAccepted then
    let (events, submission) := ofHandles r.jobId r.statusUrl
    ⟨.check ⟨Label.jobAccepted, true⟩ :: .check ⟨Label.hasJobId, r.jobId.isSome⟩
      :: .check ⟨Label.hasStatusUrl, r.statusUrl.isSome⟩ :: events, submission⟩
  else ⟨[.event (.submitUnexpected r.status)], .unexpected r.status⟩

end LoadProbe.Job
