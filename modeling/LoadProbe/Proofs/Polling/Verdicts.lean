import LoadProbe.Proofs.Polling.Observation

/-!
# Verdicts on answers

Every answer to a poll is judged on its own.  Neither the polls that are left nor the answers before
it, terminal ones among them, have a part in its verdict or in its checks; all that answers leave
behind for each other is the budget.

* `Job.Judged` gives the verdict and the checks of an answer, in the order in which the answer is
  looked at; `Job.judged_iff_observe` says that they are what applying the answer comes to, with
  any budget.
* `Job.observeAll` applies answers one after the other, `Job.budget_of_observe` is what one of them
  does to the budget and `Job.budget_of_observeAll` the induction over all of them.
* `Job.observeAll_judged` puts both together, for answers of any number and in any order.
-/

namespace LoadProbe.Job

open LoadProbe.Json

/-! ## The verdict on one answer -/

/-- The text is there and not empty. -/
def isFilled (text : Option String) : Bool := text.any (· ≠ "")

/-- What a status body says of an error counts only if it is true. -/
def StatusBody.Fails (body : StatusBody) (e : Value) : Prop :=
  body.error = some e ∧ e.isTruthy = true

/-- The checks of a completed job: its chat, and then its answer, or the code of its error if there
is one. -/
inductive Validated (body : StatusBody) : List Check → Prop where
  | answered (herror : ∀ e, ¬body.Fails e) :
      Validated body
        [⟨Label.hasChatId, isFilled body.chatId⟩, ⟨Label.hasAnswerText, isFilled body.answer⟩]
  | failed (e : Value) (herror : body.Fails e) :
      Validated body
        [⟨Label.hasChatId, isFilled body.chatId⟩,
          ⟨Label.hasError, (e.member? "code").any Value.isTruthy⟩]

/-- The verdict on an answer and its checks.  Throttling counts first, whatever the body; then
completion, whatever the status and even with an error; then the error. -/
inductive Judged : Option Response → PollState → List Check → Prop where
  | throttled (r : Response) (hstatus : r.status = statusTooManyRequests) :
      Judged (some r) .rateLimited [⟨Label.statusRateLimit, true⟩]
  | unanswered : Judged none .polling [⟨Label.statusFetchOk, false⟩]
  | unreadable (r : Response) (hstatus : r.status ≠ statusTooManyRequests)
      (hbody : StatusBody.parse? r.body = none) :
      Judged (some r) .polling
        [⟨Label.statusFetchOk, r.status = statusOk⟩, ⟨Label.statusBodyParsed, false⟩]
  | complete (r : Response) (body : StatusBody) (checks : List Check)
      (hstatus : r.status ≠ statusTooManyRequests) (hbody : StatusBody.parse? r.body = some body)
      (hcomplete : body.status = some .complete) (hchecks : Validated body checks) :
      Judged (some r) .complete
        (⟨Label.statusFetchOk, r.status = statusOk⟩ :: ⟨Label.statusBodyParsed, true⟩ :: checks)
  | errored (r : Response) (body : StatusBody) (e : Value)
      (hstatus : r.status ≠ statusTooManyRequests) (hbody : StatusBody.parse? r.body = some body)
      (hcomplete : body.status ≠ some .complete) (herror : body.Fails e) :
      Judged (some r) .errored
        [⟨Label.statusFetchOk, r.status = statusOk⟩, ⟨Label.statusBodyParsed, true⟩]
  | pending (r : Response) (body : StatusBody) (hstatus : r.status ≠ statusTooManyRequests)
      (hbody : StatusBody.parse? r.body = some body) (hcomplete : body.status ≠ some .complete)
      (herror : ∀ e, ¬body.Fails e) :
      Judged (some r) .polling
        [⟨Label.statusFetchOk, r.status = statusOk⟩, ⟨Label.statusBodyParsed, true⟩]

namespace StatusBody

variable {body : StatusBody}

theorem isComplete_iff_status : body.isComplete = true ↔ body.status = some .complete :=
  decide_eq_true_iff

theorem isComplete_eq_false_iff : body.isComplete = false ↔ body.status ≠ some .complete :=
  decide_eq_false_iff_not

/-- The failure of a job is the error that is true, by its code. -/
theorem jobError_eq_some_iff {failure : JobError} :
    body.jobError = some failure ↔ ∃ e, body.Fails e ∧ failure = ⟨e.member? "code"⟩ := by
  simp only [jobError, Option.map_eq_some_iff, Option.filter_eq_some_iff, Fails]
  constructor
  · rintro ⟨e, herror, rfl⟩
    exact ⟨e, herror, rfl⟩
  · rintro ⟨e, herror, rfl⟩
    exact ⟨e, herror, rfl⟩

theorem jobError_eq_none_iff : body.jobError = none ↔ ∀ e, ¬body.Fails e := by
  constructor
  · intro hnone e herror
    have hsome := jobError_eq_some_iff.mpr ⟨e, herror, rfl⟩
    rw [hnone] at hsome
    cases hsome
  · intro hnone
    cases hfailure : body.jobError with
    | none => rfl
    | some failure =>
        obtain ⟨e, herror, -⟩ := jobError_eq_some_iff.mp hfailure
        exact absurd herror (hnone e)

end StatusBody

/-- Validation leaves the checks of a completed job. -/
theorem validated_validate (jobId : String) (body : StatusBody) :
    Validated body (checksOf (validate jobId body)) := by
  unfold validate
  cases hfailure : body.jobError with
  | none =>
      have hanswer : decide (body.answer.getD "" ≠ "") = isFilled body.answer := by
        cases body.answer with
        | none => rfl
        | some text => rfl
      simp only [checksOf_check, checksOf_event, checksOf_nil, hanswer]
      exact .answered (StatusBody.jobError_eq_none_iff.mp hfailure)
  | some failure =>
      obtain ⟨e, herror, rfl⟩ := StatusBody.jobError_eq_some_iff.mp hfailure
      exact .failed e herror

/-- Completed jobs are not checked in two ways. -/
theorem Validated.unique {body : StatusBody} {checks checks' : List Check}
    (h : Validated body checks) (h' : Validated body checks') : checks = checks' := by
  cases h with
  | answered herror =>
      cases h' with
      | answered _ => rfl
      | failed e herror' => exact absurd herror' (herror e)
  | failed e herror =>
      cases h' with
      | answered herror' => exact absurd herror (herror' e)
      | failed e' herror' =>
          obtain rfl : e = e' := Option.some.inj (herror.1.symm.trans herror'.1)
          rfl

/-- Applying an answer gives a verdict and checks that the answer has. -/
theorem judged_observe (jobId : String) (budget : Budget) (answer : Option Response) :
    Judged answer (observe jobId budget answer).value.state
      (checksOf (observe jobId budget answer).entries) := by
  have hnoted := observe_observed jobId budget answer
  generalize observe jobId budget answer = noted at hnoted
  cases hnoted with
  | unanswered => exact .unanswered
  | throttled r hstatus => exact .throttled r hstatus
  | unreadable r hstatus hbody => exact .unreadable r hstatus hbody
  | complete r body hstatus hbody hcomplete =>
      exact .complete r body _ hstatus hbody (StatusBody.isComplete_iff_status.mp hcomplete)
        (validated_validate jobId body)
  | failed r body failure hstatus hbody hcomplete herror =>
      obtain ⟨e, hfails, -⟩ := StatusBody.jobError_eq_some_iff.mp herror
      exact .errored r body e hstatus hbody (StatusBody.isComplete_eq_false_iff.mp hcomplete) hfails
  | pending r body hstatus hbody hcomplete herror =>
      exact .pending r body hstatus hbody (StatusBody.isComplete_eq_false_iff.mp hcomplete)
        (StatusBody.jobError_eq_none_iff.mp herror)

/-- An answer has no other verdict and no other checks: what is looked at first decides. -/
theorem Judged.observe_eq {answer : Option Response} {state : PollState} {checks : List Check}
    (h : Judged answer state checks) (jobId : String) (budget : Budget) :
    (observe jobId budget answer).value.state = state ∧
      checksOf (observe jobId budget answer).entries = checks := by
  cases h with
  | throttled r hstatus => simp [observe, hstatus]
  | unanswered => exact ⟨rfl, rfl⟩
  | unreadable r hstatus hbody => simp [observe, hstatus, hbody]
  | complete r body checks hstatus hbody hcomplete hchecks =>
      have hcomplete := StatusBody.isComplete_iff_status.mpr hcomplete
      have hvalidated := (validated_validate jobId body).unique hchecks
      simp [observe, observeBody, hstatus, hbody, hcomplete, hvalidated]
  | errored r body e hstatus hbody hcomplete herror =>
      have hcomplete := StatusBody.isComplete_eq_false_iff.mpr hcomplete
      have hfailure := StatusBody.jobError_eq_some_iff.mpr ⟨e, herror, rfl⟩
      simp [observe, observeBody, hstatus, hbody, hcomplete, hfailure]
  | pending r body hstatus hbody hcomplete herror =>
      have hcomplete := StatusBody.isComplete_eq_false_iff.mpr hcomplete
      have hfailure := StatusBody.jobError_eq_none_iff.mpr herror
      simp [observe, observeBody, hstatus, hbody, hcomplete, hfailure]

/-- The verdict and the checks of an answer are what applying it comes to, with any budget. -/
theorem judged_iff_observe (jobId : String) (budget : Budget) {answer : Option Response}
    {state : PollState} {checks : List Check} :
    Judged answer state checks ↔ (observe jobId budget answer).value.state = state ∧
      checksOf (observe jobId budget answer).entries = checks := by
  constructor
  · exact fun h => h.observe_eq jobId budget
  · rintro ⟨rfl, rfl⟩
    exact judged_observe jobId budget answer

/-- No answer exhausts the budget by itself: that is noticed before the next poll. -/
theorem Judged.ne_exhausted {answer : Option Response} {state : PollState} {checks : List Check}
    (h : Judged answer state checks) : state ≠ .exhausted := by
  cases h <;> exact fun heq => by cases heq

/-! ## Answers one after the other -/

/-- Applies answers one after the other, each with the budget that the one before has left. -/
def observeAll (jobId : String) (budget : Budget) : List (Option Response) → List (Noted Verdict)
  | [] => []
  | answer :: answers =>
      observe jobId budget answer ::
        observeAll jobId (observe jobId budget answer).value.budget answers

/-- Whether the verdict is one that costs a poll. -/
def Verdict.isCharged (v : Verdict) : Bool := v.state = .polling || v.state = .errored

/-- The verdicts that cost a poll. -/
def chargesIn (noted : List (Noted Verdict)) : Nat := noted.countP fun n => n.value.isCharged

/-- An answer costs one poll or none, as its verdict says. -/
theorem budget_of_observe (jobId : String) (budget : Budget) (answer : Option Response) :
    (observe jobId budget answer).value.budget.remaining =
      budget.remaining - chargesIn [observe jobId budget answer] := by
  have hnoted := observe_observed jobId budget answer
  generalize observe jobId budget answer = noted at hnoted
  cases hnoted <;> rfl

/-- The polls that are left after each answer are those of the beginning less the verdicts so far
that cost one, and never fewer than none. -/
theorem budget_of_observeAll (jobId : String) (budget : Budget) (answers : List (Option Response))
    {i : Nat} {noted : Noted Verdict}
    (hnoted : (observeAll jobId budget answers)[i]? = some noted) :
    noted.value.budget.remaining =
      budget.remaining - chargesIn ((observeAll jobId budget answers).take (i + 1)) := by
  induction answers generalizing budget i with
  | nil => simp [observeAll] at hnoted
  | cons answer answers ih =>
      have hfirst := budget_of_observe jobId budget answer
      rw [observeAll] at hnoted ⊢
      cases i with
      | zero =>
          obtain rfl := Option.some.inj hnoted
          exact hfirst
      | succ i =>
          -- The first answer has left the budget with which the others are applied.
          have hrest := ih (observe jobId budget answer).value.budget hnoted
          have hcharges : ∀ rest : List (Noted Verdict),
              chargesIn (observe jobId budget answer :: rest) =
                chargesIn [observe jobId budget answer] + chargesIn rest := by
            intro rest
            simp [chargesIn, List.countP_cons, Nat.add_comm]
          rw [List.take_succ_cons, hcharges, hrest, hfirst]
          omega

/-- Each of the answers is applied with some budget. -/
theorem exists_observe_of_getElem? (jobId : String) (budget : Budget)
    {answers : List (Option Response)} {i : Nat} {answer : Option Response}
    (hanswer : answers[i]? = some answer) :
    ∃ left, (observeAll jobId budget answers)[i]? = some (observe jobId left answer) := by
  induction answers generalizing budget i with
  | nil => simp at hanswer
  | cons first answers ih =>
      cases i with
      | zero =>
          obtain rfl := Option.some.inj hanswer
          exact ⟨budget, rfl⟩
      | succ i => exact ih _ hanswer

/-- Of answers applied one after the other, after terminal ones and with no polls left as well, each
has the verdict and the checks that it has on its own, none of them exhaustion, and leaves as many
polls as there were at the beginning less one for each answer so far that left the job pending or
showed an error, but never fewer than none. -/
theorem observeAll_judged (jobId : String) (maxPolls : Nat) (answers : List (Option Response))
    (i : Nat) (answer : Option Response) (hanswer : answers[i]? = some answer) :
    ∃ noted, (observeAll jobId ⟨maxPolls⟩ answers)[i]? = some noted ∧
      (∀ state checks, Judged answer state checks ↔
        noted.value.state = state ∧ checksOf noted.entries = checks) ∧
      noted.value.state ≠ .exhausted ∧
      noted.value.budget.remaining =
        maxPolls - chargesIn ((observeAll jobId ⟨maxPolls⟩ answers).take (i + 1)) := by
  obtain ⟨left, hnoted⟩ := exists_observe_of_getElem? jobId ⟨maxPolls⟩ hanswer
  refine ⟨observe jobId left answer, hnoted, ?_, ?_, ?_⟩
  · intro state checks
    exact judged_iff_observe jobId left
  · exact (judged_observe jobId left answer).ne_exhausted
  · exact budget_of_observeAll jobId ⟨maxPolls⟩ answers hnoted

/-- Two failed polls, a throttled one, and a completed job with an error. -/
def lateAnswers : List (Option Response) :=
  [none, none, some ⟨429, ""⟩,
    some ⟨500, "\x7b\"result\":\x7b\"status\":\"COMPLETE\"\x7d,\"error\":\x7b\"code\":0\x7d\x7d"⟩]

/-- The completed job is seen although the only poll was spent long before. -/
theorem observeAll_judged_late :
    lateAnswers[3]? = some lateAnswers[3] ∧
      ∃ noted, (observeAll "j1" ⟨1⟩ lateAnswers)[3]? = some noted ∧
        Judged lateAnswers[3] .complete
          [⟨Label.statusFetchOk, false⟩, ⟨Label.statusBodyParsed, true⟩, ⟨Label.hasChatId, false⟩,
            ⟨Label.hasError, false⟩] ∧
        noted.value.state ≠ .exhausted ∧ noted.value.budget.remaining = 0 := by
  refine ⟨rfl, ?_⟩
  obtain ⟨noted, hnoted, hjudged, hstate, hbudget⟩ :=
    observeAll_judged "j1" 1 lateAnswers 3 lateAnswers[3] rfl
  have hseen : ((observeAll "j1" ⟨1⟩ lateAnswers)[3]?.map fun noted =>
      (noted.value.state, checksOf noted.entries)) = some (.complete,
        [⟨Label.statusFetchOk, false⟩, ⟨Label.statusBodyParsed, true⟩, ⟨Label.hasChatId, false⟩,
          ⟨Label.hasError, false⟩]) := by
    decide +kernel
  rw [hnoted] at hseen
  obtain ⟨hcomplete, hchecks⟩ := Prod.mk.inj (Option.some.inj hseen)
  have hspent : 1 - chargesIn ((observeAll "j1" ⟨1⟩ lateAnswers).take (3 + 1)) = 0 := by
    decide +kernel
  exact ⟨noted, hnoted, (hjudged _ _).mpr ⟨hcomplete, hchecks⟩, hstate, hbudget.trans hspent⟩

end LoadProbe.Job
