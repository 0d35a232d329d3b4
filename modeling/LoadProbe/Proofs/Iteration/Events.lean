import LoadProbe.Proofs.Iteration.Trace

/-!
# The events of an iteration

Nobody but the log tells of a failure.  Every call that got no answer, every body that could not be
read and every outcome that is a failure of its own leaves one event for it, and whatever goes as it
should leaves none.

* `Run.Logs` counts the events that matter: a warning for each failed call and each unreadable body
  among the same entries, and so many warnings, errors and infos besides.  The counts add up
  (`Run.Logs.append`).
* `Run.logs_of_poll` is one poll, `Run.logs_of_polling` the induction over the polls that are left.
* `Run.accepts` tells which answers to a submission give both handles of a job.
* `Run.logs_of_path` holds of every path through an iteration, `Run.told_of_failure` says that a
  failed one is never silent, and `Run.perform_iteration_logs` says both of an iteration on any
  service.
-/

namespace LoadProbe.Run

open LoadProbe.Job

variable {first second entries : List Entry}

@[simp] theorem eventsOf_nil : eventsOf [] = [] := rfl

@[simp] theorem eventsOf_check (c : Check) (entries : List Entry) :
    eventsOf (.check c :: entries) = eventsOf entries := rfl

@[simp] theorem eventsOf_sample (s : Sample) (entries : List Entry) :
    eventsOf (.sample s :: entries) = eventsOf entries := rfl

@[simp] theorem eventsOf_event (e : Event) (entries : List Entry) :
    eventsOf (.event e :: entries) = e :: eventsOf entries := rfl

@[simp] theorem eventsOf_append (first second : List Entry) :
    eventsOf (first ++ second) = eventsOf first ++ eventsOf second := by
  simp [eventsOf]

/-- The number of events of a level. -/
def eventsAt (level : Level) (entries : List Entry) : Nat :=
  (eventsOf entries).countP fun e => e.level = level

/-- The number of calls without an answer and of bodies that could not be read. -/
def failuresIn (entries : List Entry) : Nat :=
  (samplesOf entries).countP (·.status.isNone) +
    (checksOf entries).count ⟨Label.statusBodyParsed, false⟩

/-- There is a warning for each failed call and each unreadable body, and besides there are so many
warnings, errors and infos. -/
structure Logs (warnings errors infos : Nat) (entries : List Entry) : Prop where
  warn_eq : eventsAt .warn entries = failuresIn entries + warnings
  error_eq : eventsAt .error entries = errors
  info_eq : eventsAt .info entries = infos

theorem logs_nil : Logs 0 0 0 [] := ⟨rfl, rfl, rfl⟩

/-- What two parts log they log together. -/
theorem Logs.append {warnings errors infos warnings' errors' infos' : Nat}
    (h : Logs warnings errors infos first) (h' : Logs warnings' errors' infos' second) :
    Logs (warnings + warnings') (errors + errors') (infos + infos') (first ++ second) := by
  obtain ⟨hwarn, herror, hinfo⟩ := h
  obtain ⟨hwarn', herror', hinfo'⟩ := h'
  simp only [eventsAt, failuresIn] at *
  refine ⟨?_, ?_, ?_⟩
  · simp only [eventsAt, failuresIn, eventsOf_append, samplesOf_append, checksOf_append,
      List.countP_append, List.count_append]
    omega
  · simp only [eventsAt, eventsOf_append, List.countP_append]
    omega
  · simp only [eventsAt, eventsOf_append, List.countP_append]
    omega

/-! ## Polls -/

/-- A completed job is logged once, with its answer or with its error. -/
theorem logs_validate (jobId : String) (body : StatusBody) : Logs 0 0 1 (validate jobId body) := by
  unfold validate
  cases body.jobError with
  | none => constructor <;> simp +decide [eventsAt, failuresIn, Event.level]
  | some e => constructor <;> simp +decide [eventsAt, failuresIn, Event.level]

/-- One poll: its failure is a warning, an error of the job is an error, and completion is logged
once. -/
theorem logs_of_poll (job : Handles) (remaining : Nat) (answer : Answer) :
    Logs 0 (if (pollNoted job remaining answer).value.state = .errored then 1 else 0)
      (if (pollNoted job remaining answer).value.state = .complete then 1 else 0)
      (.sample (pollSample answer) :: pollEntries job remaining answer) := by
  have hnoted := pollNoted_observed job remaining answer
  unfold pollEntries pollSample
  generalize pollNoted job remaining answer = noted at hnoted
  cases hresult : answer.result with
  | error fault =>
      rw [hresult] at hnoted
      cases hnoted with
      | unanswered =>
          constructor <;> simp +decide [eventsAt, failuresIn, pollFault, Event.level,
            Except.toOption]
  | ok response =>
      rw [hresult] at hnoted
      cases hnoted with
      | complete r body =>
          have hvalidated := logs_validate job.jobId body
          have hhead : Logs 0 0 0 [.sample ⟨.status, some response.status, answer.latency⟩,
              .check ⟨Label.statusFetchOk, response.status = statusOk⟩,
              .check ⟨Label.statusBodyParsed, true⟩] := by
            constructor <;> simp +decide [eventsAt, failuresIn]
          exact hhead.append hvalidated
      | throttled | unreadable | failed | pending =>
          constructor <;> simp +decide [eventsAt, failuresIn, pollFault, Event.level,
            Except.toOption]

/-- Whatever the service answers, polling warns of the polls that failed, and it ends in a state
that is told of once.  When the budget is spent, whoever asked for the polls has to warn of it. -/
theorem logs_of_polling {job : Handles} {interval : Duration} {attempts remaining : Nat}
    {moves : List Move} {ended : PollOutcome}
    (h : (polling job interval attempts remaining).Path moves ended) :
    ended.state ≠ .polling ∧
      Logs 0 (if ended.state = .errored then 1 else 0) (if ended.state = .complete then 1 else 0)
        (entriesOf moves) := by
  induction remaining generalizing attempts moves with
  | zero =>
      simp only [polling, path_note_iff, path_done_iff] at h
      obtain ⟨_, rfl, rfl, rfl⟩ := h
      refine ⟨by simp, ?_⟩
      show Logs 0 0 0 [.event (.budgetSpent job.jobId attempts)]
      exact ⟨rfl, rfl, rfl⟩
  | succ remaining ih =>
      obtain ⟨answer, later, rfl, hcase⟩ := path_polling_succ h
      have hpoll := logs_of_poll job (remaining + 1) answer
      have hentries : entriesOf (pollMoves job interval (remaining + 1) answer ++ later) =
          (.sample (pollSample answer) :: pollEntries job (remaining + 1) answer) ++
            entriesOf later := by simp [pollMoves]
      rw [hentries]
      rcases hcase with ⟨hstate, hlater⟩ | ⟨hstate, rfl, rfl⟩
      · obtain ⟨hended, hlogs⟩ := ih hlater
        refine ⟨hended, ?_⟩
        rw [hstate] at hpoll
        simpa using hpoll.append hlogs
      · refine ⟨hstate, ?_⟩
        rw [entriesOf_nil, List.append_nil]
        exact hpoll

/-- An accepted job is logged once, and what comes of it once more, unless it was throttled. -/
theorem logs_of_follow {plan : Plan} {job : Handles} {moves : List Move} {outcome : Outcome}
    (h : (plan.follow job).Path moves outcome) :
    Logs (if outcome = .exhausted then 1 else 0) (if outcome = .errored then 1 else 0)
        (1 + if outcome = .completed then 1 else 0) (entriesOf moves) ∧
      outcome ≠ .submitUnexpected ∧ outcome ≠ .submitIncomplete := by
  simp only [Plan.follow, path_note_iff, path_bind_iff] at h
  obtain ⟨_, rfl, polls, last, ended, rfl, hpolls, hlast⟩ := h
  obtain ⟨hended, hlogs⟩ := logs_of_polling hpolls
  have haccepted : Logs 0 0 1 [.event (.accepted job)] := ⟨rfl, rfl, rfl⟩
  have hwarned : outcome = .ofPollState ended.state ∧
      Logs (if ended.state = .exhausted then 1 else 0) 0 0 (entriesOf last) := by
    split at hlast
    case isTrue hexhausted =>
        simp only [path_note_iff, path_done_iff] at hlast
        obtain ⟨_, rfl, rfl, rfl⟩ := hlast
        rw [if_pos hexhausted]
        exact ⟨rfl, rfl, rfl, rfl⟩
    case isFalse hexhausted =>
        obtain ⟨rfl, rfl⟩ := path_done_iff.mp hlast
        rw [if_neg hexhausted]
        exact ⟨rfl, logs_nil⟩
  obtain ⟨rfl, hwarned⟩ := hwarned
  have hall := (haccepted.append hlogs).append hwarned
  simp only [entriesOf_note, entriesOf_append]
  cases hstate : ended.state with
  | polling => exact absurd hstate hended
  | rateLimited | complete | errored | exhausted =>
      refine ⟨?_, by simp [Outcome.ofPollState], by simp [Outcome.ofPollState]⟩
      simpa [hstate, Outcome.ofPollState] using hall

/-! ## The submission -/

/-- The answer accepts a job and gives both handles of it. -/
def accepts : Except Fault Response → Bool
  | .ok r => r.status = statusAccepted && (SubmissionResponse.ofResponse r).jobId.isSome &&
      (SubmissionResponse.ofResponse r).statusUrl.isSome
  | .error _ => false

/-- What a submission comes to by itself: the outcome of an iteration that ends with it, or none if
there is a job to poll. -/
def ended? : Submission → Option Outcome
  | .accepted _ => none
  | .rateLimited => some .submitRateLimited
  | .incomplete .. => some .submitIncomplete
  | .unexpected _ => some .submitUnexpected
  | .failed _ => some .submitFailed

/-- A submission without a job or with a status that means nothing is warned of. -/
theorem logs_classify (r : SubmissionResponse) (latency : Duration) :
    Logs (if ended? (classify r).value = some .submitIncomplete ∨
        ended? (classify r).value = some .submitUnexpected then 1 else 0) 0 0
      (.sample ⟨.submit, some r.status, latency⟩ :: (classify r).entries) := by
  obtain ⟨status, jobId, statusUrl⟩ := r
  by_cases hthrottled : status = statusTooManyRequests
  · simp only [classify, if_pos hthrottled]
    exact ⟨rfl, rfl, rfl⟩
  by_cases haccepted : status = statusAccepted
  · simp only [classify, if_neg hthrottled, if_pos haccepted]
    cases jobId with
    | none => exact ⟨rfl, rfl, rfl⟩
    | some id =>
        cases statusUrl with
        | none => exact ⟨rfl, rfl, rfl⟩
        | some url => exact ⟨rfl, rfl, rfl⟩
  · simp only [classify, if_neg hthrottled, if_neg haccepted]
    exact ⟨rfl, rfl, rfl⟩

theorem accepts_ok (r : Response) :
    accepts (.ok r) = (ended? (classify (.ofResponse r)).value).isNone := by
  have hstatus : (SubmissionResponse.ofResponse r).status = r.status := rfl
  simp only [accepts, ← hstatus]
  generalize SubmissionResponse.ofResponse r = response
  obtain ⟨status, jobId, statusUrl⟩ := response
  by_cases hthrottled : status = statusTooManyRequests
  · subst hthrottled
    rfl
  by_cases haccepted : status = statusAccepted
  · subst haccepted
    cases jobId <;> cases statusUrl <;> rfl
  · simp [classify, if_neg hthrottled, ended?, haccepted]

theorem logs_of_submission {request : Request} {moves : List Move} {submission : Submission}
    (h : (Run.submission request).Path moves submission) :
    ∃ answer later, moves = .submit request answer :: later ∧
      accepts answer.result = (ended? submission).isNone ∧
      Logs (if ended? submission = some .submitIncomplete ∨
        ended? submission = some .submitUnexpected then 1 else 0) 0 0 (entriesOf moves) := by
  simp only [Run.submission, path_submit_iff, path_note_iff] at h
  obtain ⟨⟨result, latency⟩, _, rfl, later, rfl, hrest⟩ := h
  refine ⟨_, _, rfl, ?_⟩
  cases result with
  | error fault =>
      simp only [path_note_iff, path_done_iff] at hrest
      obtain ⟨_, rfl, rfl, rfl⟩ := hrest
      exact ⟨rfl, rfl, rfl, rfl⟩
  | ok response =>
      simp only [path_noteAll_iff, path_done_iff] at hrest
      obtain ⟨_, rfl, rfl, rfl⟩ := hrest
      refine ⟨accepts_ok response, ?_⟩
      rw [entriesOf_submit, entriesOf_note, entriesOf_append, entriesOf_map_note, entriesOf_nil,
        List.append_nil]
      exact logs_classify (.ofResponse response) latency

/-! ## The whole iteration -/

/-- Every path through an iteration logs its failures and nothing else. -/
theorem logs_of_path {plan : Plan} {moves : List Move} {outcome : Outcome}
    (h : plan.iteration.Path moves outcome) :
    ∃ answer later, moves = .submit plan.request answer :: later ∧
      Logs (if outcome = .submitUnexpected ∨ outcome = .submitIncomplete ∨ outcome = .exhausted
          then 1 else 0)
        (if outcome = .errored then 1 else 0)
        ((if accepts answer.result then 1 else 0) + if outcome = .completed then 1 else 0)
        (entriesOf moves) := by
  simp only [Plan.iteration, path_bind_iff] at h
  obtain ⟨first, second, submission, rfl, hfirst, hsecond⟩ := h
  obtain ⟨answer, later, hmoves, haccepts, hlogs⟩ := logs_of_submission hfirst
  refine ⟨answer, later ++ second, by rw [hmoves]; rfl, ?_⟩
  rw [entriesOf_append, haccepts]
  cases submission with
  | accepted job =>
      obtain ⟨hfollowed, hunexpected, hincomplete⟩ := logs_of_follow hsecond
      simpa [ended?, hunexpected, hincomplete] using hlogs.append hfollowed
  | rateLimited | incomplete | unexpected | failed =>
      obtain ⟨rfl, rfl⟩ := path_done_iff.mp hsecond
      simpa [ended?] using hlogs

/-- An iteration that is neither completed nor throttled has an error of its own, a warning of its
own, or a submission that failed. -/
theorem told_of_failure {plan : Plan} {moves : List Move} {outcome : Outcome}
    (h : plan.iteration.Path moves outcome) (hcompleted : outcome ≠ .completed)
    (hsubmit : outcome ≠ .submitRateLimited) (hpoll : outcome ≠ .pollRateLimited) :
    1 ≤ eventsAt .warn (entriesOf moves) + eventsAt .error (entriesOf moves) := by
  obtain ⟨_, _, _, hlogs⟩ := logs_of_path h
  rw [hlogs.warn_eq, hlogs.error_eq]
  have htrace := iterationTrace_of_path h
  cases outcome with
  | submitRateLimited => exact absurd rfl hsubmit
  | pollRateLimited => exact absurd rfl hpoll
  | completed => exact absurd rfl hcompleted
  | submitFailed =>
      have hfailed : 1 ≤ failuresIn (entriesOf moves) := by
        unfold failuresIn
        generalize samplesOf (entriesOf moves) = samples at htrace
        generalize checksOf (entriesOf moves) = checks at htrace
        cases htrace with
        | submitFailed latency => simp
        | followed latency hpolls =>
            cases hpolls with
            | closed hpending hclosing hlength => cases hclosing
      omega
  | submitUnexpected | submitIncomplete | errored | exhausted => simp

/-- Whoever submits and gets a result has got a reply first, and has followed a path that starts
with it. -/
theorem path_of_perform_submit {σ α : Type} {service : Service σ} {request : Request}
    {rest : Answer → Flow α} {w w' : World σ} {result : α}
    (h : (Flow.submit request rest).perform service w = (some result, w')) :
    ∃ reply, (service.submit request w.state).1.reply = some reply ∧
      ∃ moves, (Flow.submit request rest).Path
          (.submit request ⟨reply, (service.submit request w.state).1.delay⟩ :: moves) result ∧
        w'.entries = (entriesOf (.submit request
          ⟨reply, (service.submit request w.state).1.delay⟩ :: moves)).reverse ++ w.entries := by
  simp only [Flow.perform] at h
  split at h
  case h_1 reply hreply =>
      obtain ⟨moves, hpath, hentries⟩ := path_of_perform service _ _ h
      exact ⟨reply, hreply, moves, .submit request _ hpath, hentries⟩
  case h_2 => simp at h

/-- On any service: an iteration comes to an end unless a call is left without a reply.  Then it has
logged a warning for each call without an answer, each unreadable body and each outcome that is a
failure of its own, an error if the job failed, an info for an accepted job and one for a completed
one, and no other warnings, errors or infos; and unless it was completed or throttled there is a
warning or an error. -/
theorem perform_iteration_logs {σ : Type} (plan : Plan) (service : Service σ) (w : World σ) :
    (service.Steady w.state →
      ∃ outcome w', plan.iteration.perform service w = (some outcome, w')) ∧
    ∀ outcome w', plan.iteration.perform service w = (some outcome, w') →
      ∃ entries result, w'.entries = entries.reverse ++ w.entries ∧
        (service.submit plan.request w.state).1.reply = some result ∧
        eventsAt .warn entries = (samplesOf entries).countP (·.status.isNone) +
          (checksOf entries).count ⟨Label.statusBodyParsed, false⟩ +
          (if outcome = .submitUnexpected ∨ outcome = .submitIncomplete ∨ outcome = .exhausted
            then 1 else 0) ∧
        eventsAt .error entries = (if outcome = .errored then 1 else 0) ∧
        eventsAt .info entries =
          (if accepts result then 1 else 0) + (if outcome = .completed then 1 else 0) ∧
        (outcome ≠ .completed → outcome ≠ .submitRateLimited → outcome ≠ .pollRateLimited →
          1 ≤ eventsAt .warn entries + eventsAt .error entries) := by
  refine ⟨perform_eq_some service plan.iteration w, ?_⟩
  intro outcome w' h
  obtain ⟨result, hreply, moves, hpath, hentries⟩ := path_of_perform_submit h
  obtain ⟨answer, later, hmoves, hlogs⟩ := logs_of_path hpath
  obtain rfl : answer = _ := (Move.submit.inj (List.cons.inj hmoves).1).2.symm
  exact ⟨_, result, hentries, hreply, hlogs.warn_eq, hlogs.error_eq, hlogs.info_eq,
    told_of_failure hpath⟩

/-- With the canned answers that are patchy, two warnings are left: one for the poll that failed and
one for the body that is unreadable. -/
theorem perform_iteration_logs_patchy :
    scripted.Steady patchyScripts ∧ ∃ w' entries,
      patchyPlan.iteration.perform scripted ⟨patchyScripts, 0, []⟩ = (some .completed, w') ∧
        w'.entries = entries.reverse ++ [] ∧ eventsAt .warn entries = 2 ∧
        eventsAt .error entries = 0 ∧ eventsAt .info entries = 2 := by
  have hsteady : scripted.Steady patchyScripts := by
    apply scripted_steady
    · simp [patchyScripts, Script.Replies]
    · simp [patchyScripts, Script.Replies]
  have houtcome : (patchyPlan.iteration.perform scripted ⟨patchyScripts, 0, []⟩).1 =
      some .completed := by decide +kernel
  have hfailures : failuresIn
      (patchyPlan.iteration.perform scripted ⟨patchyScripts, 0, []⟩).2.entries.reverse = 2 := by
    decide +kernel
  have hreply : ∀ reply, (scripted.submit patchyPlan.request patchyScripts).1.reply = some reply →
      accepts reply = true := by
    rintro reply ⟨⟩
    decide +kernel
  obtain ⟨hends, hlogs⟩ := perform_iteration_logs patchyPlan scripted ⟨patchyScripts, 0, []⟩
  obtain ⟨outcome, w', hperform⟩ := hends hsteady
  rw [hperform] at houtcome hfailures
  obtain rfl : outcome = .completed := Option.some.inj houtcome
  obtain ⟨entries, result, hentries, hresult, hwarn, herror, hinfo, _⟩ := hlogs _ _ hperform
  rw [hentries, List.append_nil, List.reverse_reverse] at hfailures
  unfold failuresIn at hfailures
  refine ⟨hsteady, w', entries, hperform, hentries, ?_, herror, ?_⟩
  · rw [hwarn, hfailures, if_neg (by decide)]
  · rw [hinfo, if_pos (hreply result hresult), if_pos rfl]

end LoadProbe.Run
