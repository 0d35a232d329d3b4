import LoadProbe.Proofs.Flow.Moves
import LoadProbe.Proofs.Polling.Trace

/-!
# The course of polling

Given the answers to the polls of a job, one after the other, polling takes the only course there
is: it goes on while the answers leave the job pending, and ends with the first that does not or
when no poll is left.

* `Run.Answer.Terminal` says which answers end polling; `Run.Closing` says with what result.
* `Run.PollCourse` is the whole course as a function of the number of polls and the answers.
* `Run.perform_polling_succ` is one poll on a service, `Run.perform_polling` the induction over the
  polls that are left.
* `Run.perform_polling_course` adds what the service hears: nothing but the polls themselves.
* `Run.polling_sleep_cut_short`: an interval beyond the longest sleep is not waited for in full.
-/

namespace LoadProbe.Run

open LoadProbe.Job

variable {σ : Type}

/-! ## Terminal answers -/

namespace Answer

/-- The service sheds load. -/
def Throttles (answer : Answer) : Prop :=
  ∃ r, answer.result = .ok r ∧ r.status = statusTooManyRequests

/-- The body of the answer reads as a status body. -/
def Reads (answer : Answer) (body : StatusBody) : Prop :=
  ∃ r, answer.result = .ok r ∧ StatusBody.parse? r.body = some body

/-- The job is complete. -/
def Completes (answer : Answer) : Prop :=
  ∃ body, answer.Reads body ∧ body.isComplete = true

/-- The job reports an error. -/
def Fails (answer : Answer) (e : JobError) : Prop :=
  ∃ body, answer.Reads body ∧ body.jobError = some e

/-- The answer ends polling. -/
def Terminal (answer : Answer) : Prop :=
  answer.Throttles ∨ answer.Completes ∨ ∃ e, answer.Fails e

@[simp] theorem throttles_ok_iff {r : Response} {latency : Duration} :
    Throttles ⟨.ok r, latency⟩ ↔ r.status = statusTooManyRequests := by
  simp [Throttles]

@[simp] theorem reads_ok_iff {r : Response} {latency : Duration} {body : StatusBody} :
    Reads ⟨.ok r, latency⟩ body ↔ StatusBody.parse? r.body = some body := by
  simp [Reads]

/-- A call that failed is no answer that could end polling. -/
theorem not_terminal_error {fault : Fault} {latency : Duration} :
    ¬Terminal ⟨.error fault, latency⟩ := by
  simp [Terminal, Throttles, Completes, Fails, Reads]

end Answer

/-- The result of polling when the terminal answer comes after `before` others.  Throttling counts
first, then completion, then the error; only the poll that shows an error costs one of the polls
left. -/
inductive Closing (maxPolls before : Nat) (answer : Answer) : PollOutcome → Prop where
  | rateLimited (hthrottles : answer.Throttles) :
      Closing maxPolls before answer ⟨.rateLimited, before + 1, maxPolls - before, none⟩
  | complete (hthrottles : ¬answer.Throttles) (hcompletes : answer.Completes) :
      Closing maxPolls before answer ⟨.complete, before + 1, maxPolls - before, none⟩
  | errored (hthrottles : ¬answer.Throttles) (hcompletes : ¬answer.Completes) (e : JobError)
      (hfails : answer.Fails e) :
      Closing maxPolls before answer
        ⟨.errored, before + 1, maxPolls - (before + 1), some e.label⟩

/-- The result of polling with the given answers. -/
inductive PollCourse (maxPolls : Nat) (answers : Nat → Answer) : PollOutcome → Prop where
  | closed (before : Nat) {ended : PollOutcome} (hbefore : before < maxPolls)
      (hpending : ∀ i < before, ¬(answers i).Terminal)
      (hclosing : Closing maxPolls before (answers before) ended) :
      PollCourse maxPolls answers ended
  | exhausted (hpending : ∀ i < maxPolls, ¬(answers i).Terminal) :
      PollCourse maxPolls answers ⟨.exhausted, maxPolls, 0, none⟩

/-- The same result, reached some polls later. -/
def PollOutcome.later (ended : PollOutcome) (attempts : Nat) : PollOutcome :=
  { ended with attempts := attempts + ended.attempts }

/-- A pending answer in front shifts the course by one poll. -/
theorem PollCourse.cons {maxPolls : Nat} {answers : Nat → Answer} {ended : PollOutcome}
    (hfirst : ¬(answers 0).Terminal) (h : PollCourse maxPolls (fun i => answers (i + 1)) ended) :
    PollCourse (maxPolls + 1) answers (ended.later 1) := by
  have hshift : ∀ n, (∀ i < n, ¬(answers (i + 1)).Terminal) →
      ∀ i < n + 1, ¬(answers i).Terminal := by
    intro n hpending i hi
    cases i with
    | zero => exact hfirst
    | succ i => exact hpending i (by omega)
  cases h with
  | closed before hbefore hpending hclosing =>
      refine .closed (before + 1) (by omega) (hshift before hpending) ?_
      have hattempts : 1 + (before + 1) = before + 1 + 1 := by omega
      have hremaining : maxPolls + 1 - (before + 1) = maxPolls - before := by omega
      have hconsumed : maxPolls + 1 - (before + 1 + 1) = maxPolls - (before + 1) := by omega
      cases hclosing with
      | rateLimited hthrottles =>
          rw [PollOutcome.later, hattempts, ← hremaining]
          exact .rateLimited hthrottles
      | complete hthrottles hcompletes =>
          rw [PollOutcome.later, hattempts, ← hremaining]
          exact .complete hthrottles hcompletes
      | errored hthrottles hcompletes e hfails =>
          rw [PollOutcome.later, hattempts, ← hconsumed]
          exact .errored hthrottles hcompletes e hfails
  | exhausted hpending =>
      rw [PollOutcome.later, Nat.add_comm 1 maxPolls]
      exact .exhausted (hshift maxPolls hpending)

/-- The verdict on the first answer: it leaves the job pending, or it closes the course. -/
theorem verdict_of_poll (job : Handles) (remaining : Nat) (answer : Answer) :
    ((pollNoted job (remaining + 1) answer).value.state = .polling ∧ ¬answer.Terminal) ∨
      ((pollNoted job (remaining + 1) answer).value.state ≠ .polling ∧
        Closing (remaining + 1) 0 answer
          (endedBy (pollNoted job (remaining + 1) answer).value 1)) := by
  have hnoted := pollNoted_observed job (remaining + 1) answer
  generalize pollNoted job (remaining + 1) answer = noted at hnoted
  obtain ⟨result, latency⟩ := answer
  cases result with
  | error fault =>
      cases hnoted with
      | unanswered => exact .inl ⟨rfl, Answer.not_terminal_error⟩
  | ok r =>
      cases hnoted with
      | throttled _ hstatus =>
          exact .inr ⟨by simp, .rateLimited (Answer.throttles_ok_iff.mpr hstatus)⟩
      | unreadable _ hstatus hbody =>
          refine .inl ⟨rfl, ?_⟩
          simp [Answer.Terminal, Answer.Completes, Answer.Fails, hstatus, hbody]
      | complete _ body hstatus hbody hcomplete =>
          have hcompletes : Answer.Completes ⟨.ok r, latency⟩ :=
            ⟨body, Answer.reads_ok_iff.mpr hbody, hcomplete⟩
          exact .inr ⟨by simp, .complete (by simpa using hstatus) hcompletes⟩
      | failed _ body e hstatus hbody hcomplete herror =>
          have hfails : Answer.Fails ⟨.ok r, latency⟩ e :=
            ⟨body, Answer.reads_ok_iff.mpr hbody, herror⟩
          have hincomplete : ¬Answer.Completes ⟨.ok r, latency⟩ := by
            simp [Answer.Completes, hbody, hcomplete]
          exact .inr ⟨by simp, .errored (by simpa using hstatus) hincomplete e hfails⟩
      | pending _ body hstatus hbody hcomplete herror =>
          refine .inl ⟨rfl, ?_⟩
          simp [Answer.Terminal, Answer.Completes, Answer.Fails, hstatus, hbody, hcomplete, herror]

/-! ## The polls on a service -/

namespace Service

/-- The state of a service after a number of status requests. -/
def afterPolls (service : Service σ) (url : String) : Nat → σ → σ
  | 0, state => state
  | polls + 1, state => service.afterPolls url polls (service.fetch url state).2

/-- What comes of a status request after a number of others. -/
def pollAfter (service : Service σ) (url : String) (polls : Nat) (state : σ) : Exchange :=
  (service.fetch url (service.afterPolls url polls state)).1

end Service

/-- A call as the service hears it. -/
inductive Call where
  | submit (request : Request)
  | fetch (url : String)

/-- The service that remembers every call, the latest first. -/
def Service.heard (service : Service σ) : Service (σ × List Call) where
  submit request s :=
    let (x, state) := service.submit request s.1
    (x, state, .submit request :: s.2)
  fetch url s :=
    let (x, state) := service.fetch url s.1
    (x, state, .fetch url :: s.2)

theorem heard_afterPolls (service : Service σ) (url : String) (polls : Nat)
    (s : σ × List Call) :
    service.heard.afterPolls url polls s =
      (service.afterPolls url polls s.1, List.replicate polls (.fetch url) ++ s.2) := by
  induction polls generalizing s with
  | zero => rfl
  | succ polls ih =>
      have hcalls : List.replicate polls (Call.fetch url) ++ .fetch url :: s.2 =
          List.replicate (polls + 1) (.fetch url) ++ s.2 := by
        rw [List.replicate_succ', List.append_assoc, List.singleton_append]
      rw [Service.afterPolls, ih, ← hcalls]
      rfl

@[simp] theorem heard_pollAfter (service : Service σ) (url : String) (polls : Nat)
    (s : σ × List Call) :
    service.heard.pollAfter url polls s = service.pollAfter url polls s.1 := by
  rw [Service.pollAfter, heard_afterPolls]
  rfl

theorem perform_noteAll {α : Type} (service : Service σ) (entries : List Entry) (rest : Flow α)
    (w : World σ) :
    (Flow.noteAll entries rest).perform service w =
      rest.perform service { w with entries := entries.reverse ++ w.entries } := by
  induction entries generalizing w with
  | nil => rfl
  | cons entry entries ih =>
      have hfold : Flow.noteAll (entry :: entries) rest = .note entry (.noteAll entries rest) := rfl
      rw [hfold, Flow.perform, ih]
      simp

/-- The world after a poll: the service has heard it, the clock has gone on by the sleep and the
latency, and the sample and the entries of the poll are recorded. -/
def World.polled (service : Service σ) (job : Handles) (interval : Duration) (remaining : Nat)
    (answer : Answer) (w : World σ) : World σ where
  state := (service.fetch job.statusUrl w.state).2
  clock := w.clock + (interval.asleep + answer.latency)
  entries := (.sample (pollSample answer) :: pollEntries job remaining answer).reverse ++ w.entries

/-- One poll that is answered: polling goes on in the world after it if the job is pending, and is
over there if it is not. -/
theorem perform_polling_succ (service : Service σ) (job : Handles) (interval : Duration)
    (attempts remaining : Nat) (answer : Answer) (w : World σ)
    (hanswer : (service.fetch job.statusUrl w.state).1 = answer.exchange) :
    (polling job interval attempts (remaining + 1)).perform service w =
      if (pollNoted job (remaining + 1) answer).value.state = .polling then
        (polling job interval (attempts + 1) remaining).perform service
          (w.polled service job interval (remaining + 1) answer)
      else (some (endedBy (pollNoted job (remaining + 1) answer).value (attempts + 1)),
        w.polled service job interval (remaining + 1) answer) := by
  rw [polling_succ]
  simp only [Flow.perform, hanswer, Answer.exchange, perform_noteAll]
  have hworld : (⟨(service.fetch job.statusUrl w.state).2,
      w.clock + interval.asleep + answer.latency,
      (pollEntries job (remaining + 1) answer).reverse ++
        .sample (pollSample answer) :: w.entries⟩ : World σ) =
      w.polled service job interval (remaining + 1) answer := by
    simp [World.polled, Nat.add_assoc]
  rw [hworld]
  split
  case isTrue => rfl
  case isFalse => rfl

/-- Polling on a service that answers takes its course.  The service has heard as many status
requests as there were polls, every poll has left its sample, and the clock has gone on by the
sleeps and the latencies. -/
theorem perform_polling (service : Service σ) (job : Handles) (interval : Duration)
    (attempts remaining : Nat) (answers : Nat → Answer) (w : World σ)
    (hanswers : ∀ i < remaining, (∀ j < i, ¬(answers j).Terminal) →
      service.pollAfter job.statusUrl i w.state = (answers i).exchange) :
    ∃ ended w' entries,
      (polling job interval attempts remaining).perform service w =
        (some (ended.later attempts), w') ∧
      PollCourse remaining answers ended ∧
      w'.state = service.afterPolls job.statusUrl ended.attempts w.state ∧
      w'.entries = entries.reverse ++ w.entries ∧
      samplesOf entries = (List.range ended.attempts).map (fun i => pollSample (answers i)) ∧
      w'.clock =
        w.clock + ∑ i ∈ Finset.range ended.attempts, (interval.asleep + (answers i).latency) := by
  induction remaining generalizing attempts answers w with
  | zero =>
      exact ⟨⟨.exhausted, 0, 0, none⟩, _, [.event (.budgetSpent job.jobId attempts)], rfl,
        .exhausted (by simp), rfl, rfl, rfl, rfl⟩
  | succ remaining ih =>
      have hfirst : (service.fetch job.statusUrl w.state).1 = (answers 0).exchange :=
        hanswers 0 (Nat.succ_pos remaining) (by simp)
      rw [perform_polling_succ service job interval attempts remaining (answers 0) w hfirst]
      rcases verdict_of_poll job remaining (answers 0) with ⟨hstate, hpending⟩ | ⟨hstate, hclosing⟩
      · -- The answers to the polls that follow are those after the first.
        have hlater : ∀ i < remaining, (∀ j < i, ¬(answers (j + 1)).Terminal) →
            service.pollAfter job.statusUrl i
              (w.polled service job interval (remaining + 1) (answers 0)).state =
                (answers (i + 1)).exchange := by
          intro i hi hbefore
          refine hanswers (i + 1) (by omega) ?_
          intro j hj
          cases j with
          | zero => exact hpending
          | succ j => exact hbefore j (by omega)
        obtain ⟨ended, w', entries, hperform, hcourse, hservice, hentries, hsamples, hclock⟩ :=
          ih (attempts + 1) (fun i => answers (i + 1))
            (w.polled service job interval (remaining + 1) (answers 0)) hlater
        refine ⟨ended.later 1, w', .sample (pollSample (answers 0)) ::
          (pollEntries job (remaining + 1) (answers 0) ++ entries), ?_, hcourse.cons hpending,
          ?_, ?_, ?_, ?_⟩
        · rw [if_pos hstate, hperform]
          simp [PollOutcome.later, Nat.add_assoc]
        · rw [hservice, PollOutcome.later, Nat.add_comm 1]
          rfl
        · simp [hentries, World.polled]
        · rw [PollOutcome.later, Nat.add_comm 1, List.range_succ_eq_map]
          simp [hsamples]
        · rw [hclock, PollOutcome.later, Nat.add_comm 1, Finset.sum_range_succ', World.polled,
            Nat.add_assoc, Nat.add_comm (interval.asleep + (answers 0).latency)]
      · refine ⟨endedBy (pollNoted job (remaining + 1) (answers 0)).value 1,
          w.polled service job interval (remaining + 1) (answers 0),
          .sample (pollSample (answers 0)) :: pollEntries job (remaining + 1) (answers 0), ?_,
          .closed 0 (Nat.succ_pos remaining) (by simp) hclosing, rfl, rfl, ?_, ?_⟩
        · rw [if_neg hstate]
          rfl
        · simp [endedBy]
        · simp [endedBy, World.polled]

/-- Polling ends, for every interval, every number of polls and every sequence of answers.  Its
result is the course of the answers; the service has heard nothing but the polls, all with the
address of the job; there is one sample for each poll in order, with its latency; and the time that
has passed is that of the sleeps and the latencies. -/
theorem perform_polling_course (service : Service σ) (job : Handles) (interval : Duration)
    (maxPolls : Nat) (answers : Nat → Answer) (w : World (σ × List Call))
    (hanswers : ∀ i < maxPolls, (∀ j < i, ¬(answers j).Terminal) →
      service.pollAfter job.statusUrl i w.state.1 = (answers i).exchange) :
    ∃ ended w' entries,
      (polling job interval 0 maxPolls).perform service.heard w = (some ended, w') ∧
      PollCourse maxPolls answers ended ∧
      w'.state.2 = List.replicate ended.attempts (.fetch job.statusUrl) ++ w.state.2 ∧
      w'.entries = entries.reverse ++ w.entries ∧
      samplesOf entries = (List.range ended.attempts).map (fun i => pollSample (answers i)) ∧
      w'.clock =
        w.clock + ∑ i ∈ Finset.range ended.attempts, (interval.asleep + (answers i).latency) := by
  have hheard : ∀ i < maxPolls, (∀ j < i, ¬(answers j).Terminal) →
      service.heard.pollAfter job.statusUrl i w.state = (answers i).exchange := by
    simpa using hanswers
  obtain ⟨ended, w', entries, hperform, hcourse, hstate, hentries, hsamples, hclock⟩ :=
    perform_polling service.heard job interval 0 maxPolls answers w hheard
  have hlater : ended.later 0 = ended := by simp [PollOutcome.later]
  refine ⟨ended, w', entries, by rw [hperform, hlater], hcourse, ?_, hentries, hsamples, hclock⟩
  rw [hstate, heard_afterPolls]

/-- The answers to the polls of a job: the first has no body to speak of, the second throttles. -/
def throttledAnswers : Nat → Answer
  | 0 => ⟨.ok ⟨200, "\x7b\x7d"⟩, 3⟩
  | _ => ⟨.ok ⟨429, ""⟩, 4⟩

/-- The same as canned answers. -/
def throttledScripts : Scripts where
  submits := ⟨[], none⟩
  statuses := ⟨[(throttledAnswers 0).exchange, (throttledAnswers 1).exchange], none⟩

theorem perform_polling_course_throttled :
    (∀ i < 2, (∀ j < i, ¬(throttledAnswers j).Terminal) →
      scripted.pollAfter "status/7" i throttledScripts = (throttledAnswers i).exchange) ∧
    ∃ ended w' entries,
      (polling ⟨"7", "status/7"⟩ 5 0 2).perform scripted.heard ⟨(throttledScripts, []), 0, []⟩ =
        (some ended, w') ∧
      PollCourse 2 throttledAnswers ended ∧
      w'.state.2 = List.replicate ended.attempts (.fetch "status/7") ++ [] ∧
      w'.entries = entries.reverse ++ [] ∧
      samplesOf entries =
        (List.range ended.attempts).map (fun i => pollSample (throttledAnswers i)) ∧
      w'.clock = 0 + ∑ i ∈ Finset.range ended.attempts,
        (Duration.asleep 5 + (throttledAnswers i).latency) := by
  have hanswers : ∀ i < 2, (∀ j < i, ¬(throttledAnswers j).Terminal) →
      scripted.pollAfter "status/7" i throttledScripts = (throttledAnswers i).exchange := by
    intro i hi _
    interval_cases i
    · rfl
    · rfl
  exact ⟨hanswers, perform_polling_course scripted ⟨"7", "status/7"⟩ 5 2 throttledAnswers
    ⟨(throttledScripts, []), 0, []⟩ hanswers⟩

/-- The longest sleep is shorter than some intervals: a job that is throttled at its only poll, an
interval of thirty years and a millisecond after its start, is over a millisecond before that. -/
theorem polling_sleep_cut_short :
    ∃ ended w',
      (polling ⟨"j1", "status/j1"⟩ (Duration.ofMillis 946080000001) 0 1).perform scripted
        ⟨⟨⟨[], none⟩, ⟨[⟨0, some (.ok ⟨429, ""⟩)⟩], none⟩, [], []⟩, 0, []⟩ = (some ended, w') ∧
      ended = ⟨.rateLimited, 1, 1, none⟩ ∧
      w'.clock = Duration.ofMillis 946080000000 ∧
      w'.clock ≠ ∑ _i ∈ Finset.range ended.attempts, (Duration.ofMillis 946080000001 + 0) := by
  have hsum : ∑ _i ∈ Finset.range 1, (Duration.ofMillis 946080000001 + 0) =
      Duration.ofMillis 946080000001 := Finset.sum_range_one _
  refine ⟨⟨.rateLimited, 1, 1, none⟩, _, rfl, rfl, rfl, ?_⟩
  rw [hsum]
  decide

end LoadProbe.Run
