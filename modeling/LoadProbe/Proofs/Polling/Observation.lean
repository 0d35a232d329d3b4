import Mathlib
import LoadProbe.Job.Polling

/-!
# What one poll can show

An answer to a poll is looked at in five ways, one after the other.  `Job.Observed` lists what can
come of it, with the conditions under which it does; whatever is proved about polling is a case
distinction over that list.

* `Job.observe_observed`: there is nothing else.
* `Job.checksOf_validate`: a completed job leaves two checks.
-/

namespace LoadProbe.Job

/-- What applying an answer can come to: the answer, what is noted, and the conditions. -/
inductive Observed (jobId : String) (budget : Budget) : Option Response → Noted Verdict → Prop where
  | unanswered :
      Observed jobId budget none
        ⟨[.check ⟨Label.statusFetchOk, false⟩], ⟨.polling, budget.consume, none⟩⟩
  | throttled (r : Response) (hstatus : r.status = statusTooManyRequests) :
      Observed jobId budget (some r)
        ⟨[.check ⟨Label.statusRateLimit, true⟩, .event (.pollRateLimited jobId)],
          ⟨.rateLimited, budget, none⟩⟩
  | unreadable (r : Response) (hstatus : r.status ≠ statusTooManyRequests)
      (hbody : StatusBody.parse? r.body = none) :
      Observed jobId budget (some r)
        ⟨[.check ⟨Label.statusFetchOk, r.status = statusOk⟩,
          .check ⟨Label.statusBodyParsed, false⟩, .event (.bodyUnreadable jobId r.status)],
          ⟨.polling, budget.consume, none⟩⟩
  | complete (r : Response) (body : StatusBody) (hstatus : r.status ≠ statusTooManyRequests)
      (hbody : StatusBody.parse? r.body = some body) (hcomplete : body.isComplete = true) :
      Observed jobId budget (some r)
        ⟨.check ⟨Label.statusFetchOk, r.status = statusOk⟩ ::
          .check ⟨Label.statusBodyParsed, true⟩ :: validate jobId body,
          ⟨.complete, budget, none⟩⟩
  | failed (r : Response) (body : StatusBody) (e : JobError)
      (hstatus : r.status ≠ statusTooManyRequests) (hbody : StatusBody.parse? r.body = some body)
      (hcomplete : body.isComplete = false) (herror : body.jobError = some e) :
      Observed jobId budget (some r)
        ⟨[.check ⟨Label.statusFetchOk, r.status = statusOk⟩,
          .check ⟨Label.statusBodyParsed, true⟩, .event (.jobFailed jobId e.label)],
          ⟨.errored, budget.consume, some e.label⟩⟩
  | pending (r : Response) (body : StatusBody) (hstatus : r.status ≠ statusTooManyRequests)
      (hbody : StatusBody.parse? r.body = some body) (hcomplete : body.isComplete = false)
      (herror : body.jobError = none) :
      Observed jobId budget (some r)
        ⟨[.check ⟨Label.statusFetchOk, r.status = statusOk⟩,
          .check ⟨Label.statusBodyParsed, true⟩,
          .event (.stillPending jobId ((body.status.map JobStatus.text).getD "unknown")
            budget.consume.remaining)],
          ⟨.polling, budget.consume, none⟩⟩

/-- The list of what can come of an answer is complete. -/
theorem observe_observed (jobId : String) (budget : Budget) (answer : Option Response) :
    Observed jobId budget answer (observe jobId budget answer) := by
  cases answer with
  | none => exact .unanswered
  | some r =>
      by_cases hstatus : r.status = statusTooManyRequests
      · simp only [observe, hstatus, if_true]
        exact .throttled r hstatus
      cases hbody : StatusBody.parse? r.body with
      | none =>
          simp only [observe, if_neg hstatus, hbody]
          exact .unreadable r hstatus hbody
      | some body =>
          simp only [observe, if_neg hstatus, hbody, observeBody]
          cases hcomplete : body.isComplete with
          | true => exact .complete r body hstatus hbody hcomplete
          | false =>
              cases herror : body.jobError with
              | some e => exact .failed r body e hstatus hbody hcomplete herror
              | none => exact .pending r body hstatus hbody hcomplete herror

/-- A completed job leaves a check of its chat, and one of its answer or of its error. -/
theorem checksOf_validate (jobId : String) (body : StatusBody) :
    ∃ chatId passed label, (label = Label.hasAnswerText ∨ label = Label.hasError) ∧
      checksOf (validate jobId body) = [⟨Label.hasChatId, chatId⟩, ⟨label, passed⟩] := by
  unfold validate
  cases body.jobError with
  | none => exact ⟨_, _, _, .inl rfl, rfl⟩
  | some e => exact ⟨_, _, _, .inr rfl, rfl⟩

@[simp] theorem samplesOf_validate (jobId : String) (body : StatusBody) :
    samplesOf (validate jobId body) = [] := by
  unfold validate
  cases body.jobError with
  | none => rfl
  | some e => rfl

/-- Looking at an answer makes no requests. -/
theorem Observed.samplesOf_eq_nil {jobId : String} {budget : Budget} {answer : Option Response}
    {noted : Noted Verdict} (h : Observed jobId budget answer noted) :
    samplesOf noted.entries = [] := by
  cases h <;> simp

end LoadProbe.Job
