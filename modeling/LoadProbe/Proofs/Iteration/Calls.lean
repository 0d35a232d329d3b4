import LoadProbe.Proofs.Flow.Moves
import LoadProbe.Proofs.Iteration.Trace

/-!
# The calls of an iteration

An iteration submits its job first and then does nothing but poll it, at the address that the answer
to its own submission gave.  Every call leaves its sample, and apart from the calls time passes only
in the waits before the polls.

* `Run.Polls` says so of the moves after the submission; `Run.polls_of_path` is the induction over
  the polls that are left.
* `Run.Conducted` says so of a whole iteration, and `Run.conducted_of_path` that it holds of every
  path.
-/

namespace LoadProbe.Run

open LoadProbe.Job

/-- The answer to a submission: the job was accepted and can be polled at this address. -/
def Answer.Names (answer : Answer) (url : String) : Prop :=
  ∃ r, answer.result = .ok r ∧ r.status = statusAccepted ∧
    (SubmissionResponse.ofResponse r).statusUrl = some url

/-- How long the calls among some moves take: a submission as long as its answer, a status request
as long as its answer and the interval before it. -/
def Plan.spent (plan : Plan) (moves : List Move) : Duration :=
  ((submissionsOf moves).map fun call => call.2.latency).sum +
    ((fetchesOf moves).map fun call => plan.interval.asleep + call.2.latency).sum

/-! ## Polls -/

/-- The moves poll at one address, with an interval before each poll, and record all samples. -/
structure Polls (interval : Duration) (url : String) (moves : List Move) : Prop where
  samples_eq : samplesOf (entriesOf moves) = samplesIn moves
  time_eq : timeOf moves =
    ((fetchesOf moves).map fun call => interval.asleep + call.2.latency).sum
  submissions_eq : submissionsOf moves = []
  url_eq : ∀ call ∈ fetchesOf moves, call.1 = url

variable {interval : Duration} {url : String}

theorem Polls.append {first second : List Move} (hfirst : Polls interval url first)
    (hsecond : Polls interval url second) : Polls interval url (first ++ second) where
  samples_eq := by simp [hfirst.samples_eq, hsecond.samples_eq]
  time_eq := by simp [hfirst.time_eq, hsecond.time_eq]
  submissions_eq := by simp [hfirst.submissions_eq, hsecond.submissions_eq]
  url_eq := by
    intro call hcall
    rw [fetchesOf_append, List.mem_append] at hcall
    exact hcall.elim (hfirst.url_eq call) (hsecond.url_eq call)

/-- Recording something other than samples. -/
theorem polls_notes (interval : Duration) (url : String) (entries : List Entry)
    (h : samplesOf entries = []) : Polls interval url (entries.map .note) :=
  ⟨by simp [h], by simp, by simp, by simp⟩

theorem polls_pollMoves (job : Handles) (interval : Duration) (remaining : Nat) (answer : Answer) :
    Polls interval job.statusUrl (pollMoves job interval remaining answer) := by
  have hcall : Polls interval job.statusUrl
      [.wait interval, .fetch job.statusUrl answer, .note (.sample (pollSample answer))] :=
    ⟨rfl, rfl, rfl, by simp [fetchesOf, Move.fetch?]⟩
  exact hcall.append
    (polls_notes interval job.statusUrl _ (samplesOf_pollEntries job remaining answer))

/-- Whatever the service answers, polling polls. -/
theorem polls_of_path {job : Handles} {attempts remaining : Nat} {moves : List Move}
    {ended : PollOutcome} (h : (polling job interval attempts remaining).Path moves ended) :
    Polls interval job.statusUrl moves := by
  induction remaining generalizing attempts moves with
  | zero =>
      simp only [polling, path_note_iff, path_done_iff] at h
      obtain ⟨_, rfl, rfl, _⟩ := h
      exact polls_notes interval job.statusUrl [_] rfl
  | succ remaining ih =>
      obtain ⟨answer, later, rfl, ⟨_, hlater⟩ | ⟨_, rfl, _⟩⟩ := path_polling_succ h
      · exact (polls_pollMoves job interval (remaining + 1) answer).append (ih hlater)
      · rw [List.append_nil]
        exact polls_pollMoves job interval (remaining + 1) answer

theorem polls_of_follow {plan : Plan} {job : Handles} {moves : List Move} {outcome : Outcome}
    (h : (plan.follow job).Path moves outcome) : Polls plan.interval job.statusUrl moves := by
  simp only [Plan.follow, path_note_iff, path_bind_iff] at h
  obtain ⟨_, rfl, polls, last, ended, rfl, hpolls, hlast⟩ := h
  have hlastPolls : Polls plan.interval job.statusUrl last := by
    split at hlast
    · simp only [path_note_iff, path_done_iff] at hlast
      obtain ⟨_, rfl, rfl, _⟩ := hlast
      exact polls_notes _ _ [_] rfl
    · obtain ⟨rfl, _⟩ := path_done_iff.mp hlast
      exact polls_notes _ _ [] rfl
  have hfirst : Polls plan.interval job.statusUrl [.note (.event (.accepted job))] :=
    polls_notes _ _ [_] rfl
  exact hfirst.append ((polls_of_path hpolls).append hlastPolls)

/-! ## The whole iteration -/

theorem names_of_accepted {r : Response} {job : Handles} {latency : Duration}
    (h : (classify (.ofResponse r)).value = .accepted job) :
    Answer.Names ⟨.ok r, latency⟩ job.statusUrl := by
  have hstatus : (SubmissionResponse.ofResponse r).status = r.status := rfl
  generalize hresponse : SubmissionResponse.ofResponse r = response at h hstatus
  obtain ⟨status, jobId, statusUrl⟩ := response
  unfold classify at h
  split at h
  · simp at h
  split at h
  case isTrue haccepted =>
      refine ⟨r, rfl, hstatus ▸ haccepted, ?_⟩
      rw [hresponse]
      cases jobId <;> cases statusUrl <;> simp [ofHandles] at h ⊢
      rw [← h]
  case isFalse => simp at h

/-- A submission is a call and what is recorded about it; an accepted job is at the address that
the answer names. -/
theorem call_of_submission {request : Request} {moves : List Move} {submission : Submission}
    (h : (Run.submission request).Path moves submission) :
    ∃ answer entries,
      moves = .submit request answer :: .note (sampleOf .submit answer) :: entries.map .note ∧
      samplesOf entries = [] ∧
      ∀ job, submission = .accepted job → answer.Names job.statusUrl := by
  simp only [Run.submission, path_submit_iff, path_note_iff] at h
  obtain ⟨⟨result, latency⟩, _, rfl, later, rfl, hrest⟩ := h
  cases result with
  | error fault =>
      simp only [path_note_iff, path_done_iff] at hrest
      obtain ⟨_, rfl, rfl, rfl⟩ := hrest
      exact ⟨_, [.event (.submitFailed fault)], rfl, rfl, by simp⟩
  | ok response =>
      simp only [path_noteAll_iff, path_done_iff] at hrest
      obtain ⟨_, rfl, rfl, rfl⟩ := hrest
      refine ⟨⟨.ok response, latency⟩, (classify (.ofResponse response)).entries, by simp,
        (submitted_classify (.ofResponse response) latency).2, ?_⟩
      intro job hjob
      exact names_of_accepted hjob

/-- How the calls of an iteration go: it submits its job once and first, and polls it at the
address that the answer names; every call leaves its sample, and all time is spent on calls and in
the waits before polls. -/
structure Conducted (plan : Plan) (moves : List Move) : Prop where
  samples_eq : samplesOf (entriesOf moves) = samplesIn moves
  time_eq : timeOf moves = plan.spent moves
  calls : ∃ answer later, moves = .submit plan.request answer :: later ∧
    submissionsOf later = [] ∧ ∀ call ∈ fetchesOf later, answer.Names call.1

/-- A submission, its sample, and polls. -/
theorem Polls.conducted {plan : Plan} {later : List Move} (h : Polls plan.interval url later)
    {answer : Answer} (hnames : ∀ call ∈ fetchesOf later, answer.Names call.1) :
    Conducted plan (.submit plan.request answer :: .note (sampleOf .submit answer) :: later) where
  samples_eq := congrArg (_ :: ·) h.samples_eq
  time_eq := by
    have htime : timeOf (.submit plan.request answer :: .note (sampleOf .submit answer) :: later) =
        answer.latency + timeOf later := by simp [timeOf, Move.time]
    have hsubmissions : submissionsOf (.submit plan.request answer ::
        .note (sampleOf .submit answer) :: later) = [(plan.request, answer)] :=
      congrArg (_ :: ·) h.submissions_eq
    rw [htime, h.time_eq, Plan.spent, hsubmissions]
    rfl
  calls := ⟨answer, _, rfl, h.submissions_eq, hnames⟩

/-- The calls of every iteration go like that. -/
theorem conducted_of_path {plan : Plan} {moves : List Move} {outcome : Outcome}
    (h : plan.iteration.Path moves outcome) : Conducted plan moves := by
  simp only [Plan.iteration, path_bind_iff] at h
  obtain ⟨_, second, submission, rfl, hfirst, hsecond⟩ := h
  obtain ⟨answer, entries, rfl, hentries, haccepted⟩ := call_of_submission hfirst
  -- Only an accepted job is polled; otherwise the iteration is over.
  have hpolls : ∃ url, Polls plan.interval url second ∧
      ∀ call ∈ fetchesOf second, answer.Names call.1 := by
    cases submission with
    | accepted job =>
        have hpolls := polls_of_follow hsecond
        refine ⟨job.statusUrl, hpolls, ?_⟩
        intro call hcall
        rw [hpolls.url_eq call hcall]
        exact haccepted job rfl
    | rateLimited | incomplete | unexpected | failed =>
        obtain ⟨rfl, _⟩ := path_done_iff.mp hsecond
        exact ⟨"", polls_notes _ _ [] rfl, by simp [fetchesOf]⟩
  obtain ⟨url, hpolls, hnames⟩ := hpolls
  refine ((polls_notes _ url entries hentries).append hpolls).conducted ?_
  simpa using hnames

end LoadProbe.Run
