import LoadProbe.Proofs.Iteration.Calls

/-!
# How much an iteration can come to

An iteration submits once, polls no more often than its budget says, and records a few entries about
each call.  So there is a greatest length for the ways through it, and if calls take limited time,
so does the iteration.

* `Run.polling_bounds`: the polls of a job are within the budget; the induction over the polls that
  are left.
* `Run.iteration_bounds`: the calls and the length of a whole iteration.
* `Run.spent_le`: the time that an iteration takes.
-/

namespace LoadProbe

open LoadProbe.Job

namespace Job

/-- A completed job is worth three entries. -/
theorem length_validate (jobId : String) (body : StatusBody) :
    (validate jobId body).length = 3 := by
  unfold validate
  cases body.jobError with
  | none => rfl
  | some e => rfl

/-- Looking at an answer leaves few entries. -/
theorem Observed.length_entries_le {jobId : String} {budget : Budget} {answer : Option Response}
    {noted : Noted Verdict} (h : Observed jobId budget answer noted) :
    noted.entries.length ≤ 5 := by
  cases h <;> simp [length_validate]

/-- So does the answer to a submission. -/
theorem length_classify_le (r : SubmissionResponse) : (classify r).entries.length ≤ 4 := by
  obtain ⟨status, jobId, statusUrl⟩ := r
  unfold classify
  split
  · simp
  split
  · cases jobId <;> cases statusUrl <;> simp [ofHandles]
  · simp

end Job

namespace Run

/-! ## Polls -/

theorem length_pollEntries_le (job : Handles) (remaining : Nat) (answer : Answer) :
    (pollEntries job remaining answer).length ≤ 5 := by
  cases hresult : answer.result with
  | error fault =>
      -- Without an answer there is one entry about the fault and one check.
      simp [pollEntries, pollNoted, hresult, pollFault, observe, Except.toOption]
  | ok response =>
      simpa [pollEntries, pollFault, hresult] using
        (pollNoted_observed job remaining answer).length_entries_le

theorem length_pollMoves_le (job : Handles) (interval : Duration) (remaining : Nat)
    (answer : Answer) : (pollMoves job interval remaining answer).length ≤ 8 := by
  have hentries := length_pollEntries_le job remaining answer
  simp only [pollMoves, List.length_cons, List.length_map]
  omega

theorem fetchesOf_pollMoves (job : Handles) (interval : Duration) (remaining : Nat)
    (answer : Answer) :
    fetchesOf (pollMoves job interval remaining answer) = [(job.statusUrl, answer)] :=
  congrArg (_ :: ·) (fetchesOf_map_note (pollEntries job remaining answer))

/-- Polling makes no more calls than it may, and few moves for each. -/
theorem polling_bounds {job : Handles} {interval : Duration} {attempts remaining : Nat}
    {moves : List Move} {ended : PollOutcome}
    (h : (polling job interval attempts remaining).Path moves ended) :
    (fetchesOf moves).length ≤ remaining ∧ moves.length ≤ 8 * remaining + 1 := by
  induction remaining generalizing attempts moves with
  | zero =>
      simp only [polling, path_note_iff, path_done_iff] at h
      obtain ⟨_, rfl, rfl, _⟩ := h
      exact ⟨le_rfl, le_rfl⟩
  | succ remaining ih =>
      obtain ⟨answer, later, rfl, hrest⟩ := path_polling_succ h
      have hpoll := length_pollMoves_le job interval (remaining + 1) answer
      have hlater : (fetchesOf later).length ≤ remaining ∧ later.length ≤ 8 * remaining + 1 := by
        rcases hrest with ⟨_, hlater⟩ | ⟨_, rfl, _⟩
        · exact ih hlater
        · exact ⟨Nat.zero_le _, Nat.zero_le _⟩
      rw [fetchesOf_append, fetchesOf_pollMoves, List.length_append, List.length_append,
        List.length_singleton]
      omega

theorem follow_bounds {plan : Plan} {job : Handles} {moves : List Move} {outcome : Outcome}
    (h : (plan.follow job).Path moves outcome) :
    (fetchesOf moves).length ≤ plan.maxPolls ∧ moves.length ≤ 8 * plan.maxPolls + 3 := by
  simp only [Plan.follow, path_note_iff, path_bind_iff] at h
  obtain ⟨_, rfl, polls, last, ended, rfl, hpolls, hlast⟩ := h
  have hlastBounds : fetchesOf last = [] ∧ last.length ≤ 1 := by
    split at hlast
    · simp only [path_note_iff, path_done_iff] at hlast
      obtain ⟨_, rfl, rfl, _⟩ := hlast
      exact ⟨rfl, le_rfl⟩
    · obtain ⟨rfl, _⟩ := path_done_iff.mp hlast
      exact ⟨rfl, Nat.zero_le _⟩
  obtain ⟨hfetches, hlength⟩ := polling_bounds hpolls
  have hall : fetchesOf (.note (.event (.accepted job)) :: (polls ++ last)) = fetchesOf polls := by
    rw [← List.append_nil (fetchesOf polls), ← hlastBounds.1, ← fetchesOf_append]
    rfl
  rw [hall, List.length_cons, List.length_append]
  omega

/-! ## The whole iteration -/

theorem submission_bounds {request : Request} {moves : List Move} {submission : Submission}
    (h : (Run.submission request).Path moves submission) :
    fetchesOf moves = [] ∧ moves.length ≤ 6 := by
  simp only [Run.submission, path_submit_iff, path_note_iff] at h
  obtain ⟨⟨result, latency⟩, _, rfl, later, rfl, hrest⟩ := h
  cases result with
  | error fault =>
      simp only [path_note_iff, path_done_iff] at hrest
      obtain ⟨_, rfl, rfl, rfl⟩ := hrest
      exact ⟨rfl, by simp⟩
  | ok response =>
      simp only [path_noteAll_iff, path_done_iff] at hrest
      obtain ⟨_, rfl, rfl, rfl⟩ := hrest
      have hentries := length_classify_le (.ofResponse response)
      refine ⟨?_, ?_⟩
      · rw [List.append_nil]
        exact fetchesOf_map_note _
      · simp only [List.append_nil, List.length_cons, List.length_map]
        omega

/-- No iteration makes more moves than this. -/
def Plan.longest (plan : Plan) : Nat := 8 * plan.maxPolls + 9

/-- An iteration submits once, polls within its budget, and makes few moves for each call. -/
theorem iteration_bounds {plan : Plan} {moves : List Move} {outcome : Outcome}
    (h : plan.iteration.Path moves outcome) :
    (submissionsOf moves).length = 1 ∧ (fetchesOf moves).length ≤ plan.maxPolls ∧
      moves.length ≤ plan.longest := by
  obtain ⟨answer, later, hmoves, hlater, -⟩ := (conducted_of_path h).calls
  have hsubmissions : submissionsOf moves = [(plan.request, answer)] := by
    rw [hmoves]
    exact congrArg (_ :: ·) hlater
  simp only [Plan.iteration, path_bind_iff] at h
  obtain ⟨first, second, submission, rfl, hfirst, hsecond⟩ := h
  obtain ⟨hnone, hfirstLength⟩ := submission_bounds hfirst
  have hsecondBounds :
      (fetchesOf second).length ≤ plan.maxPolls ∧ second.length ≤ 8 * plan.maxPolls + 3 := by
    cases submission with
    | accepted job => exact follow_bounds hsecond
    | rateLimited | incomplete | unexpected | failed =>
        obtain ⟨rfl, _⟩ := path_done_iff.mp hsecond
        exact ⟨Nat.zero_le _, Nat.zero_le _⟩
  refine ⟨by rw [hsubmissions]; rfl, ?_, ?_⟩
  · rw [fetchesOf_append, hnone]
    exact hsecondBounds.1
  · rw [List.length_append, Plan.longest]
    omega

/-- If submissions and status requests take limited time, so does an iteration. -/
theorem spent_le {plan : Plan} {moves : List Move} {outcome : Outcome}
    (h : plan.iteration.Path moves outcome) {submitMost fetchMost : Duration}
    (hsubmit : ∀ call ∈ submissionsOf moves, call.2.latency ≤ submitMost)
    (hfetch : ∀ call ∈ fetchesOf moves, call.2.latency ≤ fetchMost) :
    plan.spent moves ≤ submitMost + plan.maxPolls * (plan.interval + fetchMost) := by
  obtain ⟨hsubmissions, hfetches, -⟩ := iteration_bounds h
  have hfirst : ((submissionsOf moves).map fun call => call.2.latency).sum ≤ submitMost := by
    have hsum := List.sum_le_card_nsmul ((submissionsOf moves).map fun call => call.2.latency)
      submitMost (List.forall_mem_map.mpr hsubmit)
    rwa [List.length_map, hsubmissions, one_nsmul] at hsum
  have hlater : ((fetchesOf moves).map fun call => plan.interval.asleep + call.2.latency).sum ≤
      (fetchesOf moves).length * (plan.interval + fetchMost) := by
    have hsum := List.sum_le_card_nsmul
      ((fetchesOf moves).map fun call => plan.interval.asleep + call.2.latency)
      (plan.interval + fetchMost) (List.forall_mem_map.mpr fun call hcall =>
        Nat.add_le_add (Nat.min_le_left _ _) (hfetch call hcall))
    rwa [List.length_map, smul_eq_mul] at hsum
  exact Nat.add_le_add hfirst (hlater.trans (Nat.mul_le_mul_right _ hfetches))

end Run

end LoadProbe
