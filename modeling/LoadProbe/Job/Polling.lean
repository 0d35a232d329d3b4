import LoadProbe.Job.Message
import LoadProbe.Job.Validation

/-!
# Polling

What one answer to a status request means for the polling of a job.

* `Job.Budget` is the number of polls that are left.
* `Job.observe` applies one answer: throttling ends polling, then a completed job does, then a
  failed one; everything else costs one poll and polling goes on.
-/

namespace LoadProbe.Job

/-- The polls that are left; there are never fewer than none. -/
structure Budget where
  remaining : Nat
deriving DecidableEq, Inhabited

namespace Budget

def isExhausted (b : Budget) : Bool := b.remaining = 0

/-- One poll less. -/
def consume (b : Budget) : Budget := ⟨b.remaining - 1⟩

end Budget

/-- What one answer leads to: the next state, what is left of the budget, and the code of a failed
job. -/
structure Verdict where
  state : PollState
  budget : Budget
  errorCode : Option String
deriving DecidableEq, Inhabited

/-- Applies the body of an answer. -/
def observeBody (jobId : String) (budget : Budget) (body : StatusBody) : Noted Verdict :=
  if body.isComplete then ⟨validate jobId body, ⟨.complete, budget, none⟩⟩
  else
    match body.jobError with
    | some e =>
        ⟨[.event (.jobFailed jobId e.label)], ⟨.errored, budget.consume, some e.label⟩⟩
    | none =>
        let status := (body.status.map JobStatus.text).getD "unknown"
        ⟨[.event (.stillPending jobId status budget.consume.remaining)],
          ⟨.polling, budget.consume, none⟩⟩

/-- Applies one answer, or its absence. -/
def observe (jobId : String) (budget : Budget) : Option Response → Noted Verdict
  | none => ⟨[.check ⟨Label.statusFetchOk, false⟩], ⟨.polling, budget.consume, none⟩⟩
  | some r =>
      if r.status = statusTooManyRequests then
        ⟨[.check ⟨Label.statusRateLimit, true⟩, .event (.pollRateLimited jobId)],
          ⟨.rateLimited, budget, none⟩⟩
      else
        let fetched : Entry := .check ⟨Label.statusFetchOk, r.status = statusOk⟩
        match StatusBody.parse? r.body with
        | none =>
            ⟨[fetched, .check ⟨Label.statusBodyParsed, false⟩,
              .event (.bodyUnreadable jobId r.status)], ⟨.polling, budget.consume, none⟩⟩
        | some body =>
            let ⟨entries, verdict⟩ := observeBody jobId budget body
            ⟨fetched :: .check ⟨Label.statusBodyParsed, true⟩ :: entries, verdict⟩

end LoadProbe.Job
