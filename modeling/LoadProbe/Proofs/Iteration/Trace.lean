import LoadProbe.Proofs.Polling.Trace

/-!
# The trace of an iteration

Submission, polling, reading of bodies and validation all write into one log.  This module says
which logs an iteration can leave behind: the outcome, the checks in order and the request samples
in order fit together, whatever the service answers.

* `Run.IterationTrace` puts the submission in front of the trace of the polls.
* `Run.iterationTrace_of_path` holds of every path through an iteration, so it holds for a user on
  its own and for a user among others.
* `Run.perform_iteration_trace`: on a steady service an iteration comes to an end, and what it has
  recorded then is such a trace.
-/

namespace LoadProbe.Run

open LoadProbe.Job

/-- The checks on a submission that was accepted. -/
def acceptedChecks (jobId statusUrl : Bool) : List Check :=
  [⟨Label.jobAccepted, true⟩, ⟨Label.hasJobId, jobId⟩, ⟨Label.hasStatusUrl, statusUrl⟩]

/-- How the outcome, the checks and the samples of an iteration fit together. -/
inductive IterationTrace (maxPolls : Nat) : Outcome → List Check → List Sample → Prop where
  | submitRateLimited (latency : Duration) :
      IterationTrace maxPolls .submitRateLimited [⟨Label.rateLimitHit, true⟩]
        [⟨.submit, some statusTooManyRequests, latency⟩]
  | submitUnexpected (status : Nat) (latency : Duration)
      (hthrottled : status ≠ statusTooManyRequests) (haccepted : status ≠ statusAccepted) :
      IterationTrace maxPolls .submitUnexpected [] [⟨.submit, some status, latency⟩]
  | submitFailed (latency : Duration) :
      IterationTrace maxPolls .submitFailed [] [⟨.submit, none, latency⟩]
  | submitIncomplete (jobId statusUrl : Bool) (latency : Duration)
      (hmissing : ¬(jobId = true ∧ statusUrl = true)) :
      IterationTrace maxPolls .submitIncomplete (acceptedChecks jobId statusUrl)
        [⟨.submit, some statusAccepted, latency⟩]
  | followed {outcome : Outcome} {polls : List Sample} {blocks : List (List Check)}
      (latency : Duration) (hpolls : PollTrace maxPolls outcome polls blocks) :
      IterationTrace maxPolls outcome (acceptedChecks true true ++ blocks.flatten)
        (⟨.submit, some statusAccepted, latency⟩ :: polls)

/-! ## The submission -/

/-- What the answer to a submission comes to: its sample, its checks and the way on. -/
inductive Submitted : Sample → List Check → Submission → Prop where
  | failed (latency : Duration) (reason : String) :
      Submitted ⟨.submit, none, latency⟩ [] (.failed reason)
  | rateLimited (latency : Duration) :
      Submitted ⟨.submit, some statusTooManyRequests, latency⟩ [⟨Label.rateLimitHit, true⟩]
        .rateLimited
  | unexpected (status : Nat) (latency : Duration) (hthrottled : status ≠ statusTooManyRequests)
      (haccepted : status ≠ statusAccepted) :
      Submitted ⟨.submit, some status, latency⟩ [] (.unexpected status)
  | incomplete (jobId statusUrl : Option String) (latency : Duration)
      (hmissing : ¬(jobId.isSome = true ∧ statusUrl.isSome = true)) :
      Submitted ⟨.submit, some statusAccepted, latency⟩
        (acceptedChecks jobId.isSome statusUrl.isSome) (.incomplete jobId statusUrl)
  | accepted (job : Handles) (latency : Duration) :
      Submitted ⟨.submit, some statusAccepted, latency⟩ (acceptedChecks true true) (.accepted job)

/-- An answer with a status is judged by the status first, and then by the handles in its body. -/
theorem submitted_classify (r : SubmissionResponse) (latency : Duration) :
    Submitted ⟨.submit, some r.status, latency⟩ (checksOf (classify r).entries)
        (classify r).value ∧
      samplesOf (classify r).entries = [] := by
  obtain ⟨status, jobId, statusUrl⟩ := r
  by_cases hthrottled : status = statusTooManyRequests
  · subst hthrottled
    exact ⟨.rateLimited latency, rfl⟩
  by_cases haccepted : status = statusAccepted
  · subst haccepted
    cases jobId with
    | none => exact ⟨.incomplete none statusUrl latency (by simp), rfl⟩
    | some id =>
        cases statusUrl with
        | none => exact ⟨.incomplete (some id) none latency (by simp), rfl⟩
        | some url => exact ⟨.accepted ⟨id, url⟩ latency, rfl⟩
  · simp only [classify, if_neg hthrottled, if_neg haccepted]
    exact ⟨.unexpected status latency hthrottled haccepted, rfl⟩

theorem submitted_of_path {request : Request} {moves : List Move} {submission : Submission}
    (h : (Run.submission request).Path moves submission) :
    ∃ sample checks, samplesOf (entriesOf moves) = [sample] ∧
      checksOf (entriesOf moves) = checks ∧ Submitted sample checks submission := by
  simp only [Run.submission, path_submit_iff, path_note_iff] at h
  obtain ⟨⟨result, latency⟩, _, rfl, later, rfl, hrest⟩ := h
  cases result with
  | error fault =>
      simp only [path_note_iff, path_done_iff] at hrest
      obtain ⟨_, rfl, rfl, rfl⟩ := hrest
      exact ⟨_, _, rfl, rfl, .failed latency fault.message⟩
  | ok response =>
      simp only [path_noteAll_iff, path_done_iff] at hrest
      obtain ⟨_, rfl, rfl, rfl⟩ := hrest
      obtain ⟨hsubmitted, hsamples⟩ := submitted_classify (.ofResponse response) latency
      have hsample : sampleOf .submit ⟨.ok response, latency⟩ =
          .sample ⟨.submit, some (SubmissionResponse.ofResponse response).status, latency⟩ := rfl
      exact ⟨_, _, by simp [hsample, hsamples], by simp [hsample], hsubmitted⟩

/-! ## The whole iteration -/

/-- The outcome of a followed job is that of its polling, and nothing but its polls is recorded
as checks or samples. -/
theorem pollTrace_of_follow {plan : Plan} {job : Handles} {moves : List Move} {outcome : Outcome}
    (h : (plan.follow job).Path moves outcome) :
    ∃ blocks, checksOf (entriesOf moves) = blocks.flatten ∧
      PollTrace plan.maxPolls outcome (samplesOf (entriesOf moves)) blocks := by
  simp only [Plan.follow, path_note_iff, path_bind_iff] at h
  obtain ⟨_, rfl, polls, last, ended, rfl, hpolls, hlast⟩ := h
  obtain ⟨blocks, hchecks, htrace⟩ := pollTrace_of_path hpolls
  have hend : outcome = .ofPollState ended.state ∧ checksOf (entriesOf last) = [] ∧
      samplesOf (entriesOf last) = [] := by
    split at hlast
    · simp only [path_note_iff, path_done_iff] at hlast
      obtain ⟨_, rfl, rfl, rfl⟩ := hlast
      exact ⟨rfl, rfl, rfl⟩
    · obtain ⟨rfl, rfl⟩ := path_done_iff.mp hlast
      exact ⟨rfl, rfl, rfl⟩
  obtain ⟨rfl, hlastChecks, hlastSamples⟩ := hend
  exact ⟨blocks, by simp [hchecks, hlastChecks], by simpa [hlastSamples] using htrace⟩

/-- Every path through an iteration leaves a trace. -/
theorem iterationTrace_of_path {plan : Plan} {moves : List Move} {outcome : Outcome}
    (h : plan.iteration.Path moves outcome) :
    IterationTrace plan.maxPolls outcome (checksOf (entriesOf moves))
      (samplesOf (entriesOf moves)) := by
  simp only [Plan.iteration, path_bind_iff] at h
  obtain ⟨first, second, submission, rfl, hfirst, hsecond⟩ := h
  obtain ⟨sample, checks, hsamples, hchecks, hsubmitted⟩ := submitted_of_path hfirst
  simp only [entriesOf_append, checksOf_append, samplesOf_append, hsamples, hchecks]
  cases hsubmitted with
  | failed latency reason =>
      obtain ⟨rfl, rfl⟩ := path_done_iff.mp hsecond
      exact .submitFailed latency
  | rateLimited latency =>
      obtain ⟨rfl, rfl⟩ := path_done_iff.mp hsecond
      exact .submitRateLimited latency
  | unexpected status latency hthrottled haccepted =>
      obtain ⟨rfl, rfl⟩ := path_done_iff.mp hsecond
      exact .submitUnexpected status latency hthrottled haccepted
  | incomplete jobId statusUrl latency hmissing =>
      obtain ⟨rfl, rfl⟩ := path_done_iff.mp hsecond
      exact .submitIncomplete _ _ latency hmissing
  | accepted job latency =>
      obtain ⟨blocks, hblocks, hpolls⟩ := pollTrace_of_follow hsecond
      rw [hblocks]
      exact .followed latency hpolls

/-- An iteration comes to an end unless a call is left without a reply, and whatever the service
answered, what was recorded is a trace that fits the outcome. -/
theorem perform_iteration_trace {σ : Type} (plan : Plan) (service : Service σ) (w : World σ) :
    (service.Steady w.state →
      ∃ outcome w', plan.iteration.perform service w = (some outcome, w')) ∧
    ∀ outcome w', plan.iteration.perform service w = (some outcome, w') →
      ∃ entries, w'.entries = entries.reverse ++ w.entries ∧
        IterationTrace plan.maxPolls outcome (checksOf entries) (samplesOf entries) := by
  refine ⟨perform_eq_some service plan.iteration w, ?_⟩
  intro outcome w' h
  obtain ⟨moves, hpath, hentries⟩ := path_of_perform service plan.iteration w h
  exact ⟨entriesOf moves, hentries, iterationTrace_of_path hpath⟩

/-- Canned answers: a job is accepted, one poll fails, one body is unreadable, and then the job is
complete. -/
def patchyScripts : Scripts where
  submits := ⟨[⟨0, some (.ok ⟨202, "\x7b\"id\":7,\"status_url\":\"status/7\"\x7d"⟩)⟩], none⟩
  statuses := ⟨[⟨5, some (.error (.transport "reset"))⟩, ⟨5, some (.ok ⟨500, "<html>"⟩)⟩,
    ⟨5, some (.ok ⟨200, "\x7b\"result\":\x7b\"status\":\"COMPLETE\"\x7d\x7d"⟩)⟩], none⟩

/-- A plan with as many polls as these answers take. -/
def patchyPlan : Plan := ⟨⟨"hi", ""⟩, 2, 3⟩

/-- With these answers an iteration is completed, and it leaves a trace. -/
theorem perform_iteration_trace_patchy :
    scripted.Steady patchyScripts ∧ ∃ w' entries,
      patchyPlan.iteration.perform scripted ⟨patchyScripts, 0, []⟩ = (some .completed, w') ∧
        w'.entries = entries.reverse ++ [] ∧
        IterationTrace 3 .completed (checksOf entries) (samplesOf entries) := by
  have hsteady : scripted.Steady patchyScripts := by
    apply scripted_steady
    · simp [patchyScripts, Script.Replies]
    · simp [patchyScripts, Script.Replies]
  have houtcome : (patchyPlan.iteration.perform scripted ⟨patchyScripts, 0, []⟩).1 =
      some .completed := by decide +kernel
  obtain ⟨hends, htrace⟩ := perform_iteration_trace patchyPlan scripted ⟨patchyScripts, 0, []⟩
  obtain ⟨outcome, w', hperform⟩ := hends hsteady
  rw [hperform] at houtcome
  obtain rfl : outcome = .completed := Option.some.inj houtcome
  obtain ⟨entries, hentries, hfits⟩ := htrace .completed w' hperform
  exact ⟨hsteady, w', entries, hperform, hentries, hfits⟩

end LoadProbe.Run
