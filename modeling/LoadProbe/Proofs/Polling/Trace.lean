import LoadProbe.Proofs.Flow.Path
import LoadProbe.Proofs.Polling.Observation

/-!
# The trace of polling

Every poll leaves one sample and a block of checks.  Polling leaves one block after another, and
only the last can be anything but a block of a pending job.

* `Run.PendingBlock` and `Run.ClosingBlock` are the checks of one poll beside its sample;
  `Run.PollTrace` strings them together.
* `Run.polling_succ` is polling unfolded by one poll; `Run.path_polling_succ` takes the first poll
  off a path.
* `Run.pollTrace_of_path` is the induction over the polls that are left.
-/

namespace LoadProbe.Run

open LoadProbe.Job

/-- The check on the status of an answered poll. -/
def fetchCheck (status : Nat) : Check := ⟨Label.statusFetchOk, status = statusOk⟩

/-- A poll that leaves its job pending: its sample and its checks. -/
inductive PendingBlock : Sample → List Check → Prop where
  | unanswered (latency : Duration) :
      PendingBlock ⟨.status, none, latency⟩ [⟨Label.statusFetchOk, false⟩]
  | answered (status : Nat) (latency : Duration) (parsed : Bool)
      (hstatus : status ≠ statusTooManyRequests) :
      PendingBlock ⟨.status, some status, latency⟩
        [fetchCheck status, ⟨Label.statusBodyParsed, parsed⟩]

/-- A poll that ends the polling of its job: the outcome, its sample and its checks. -/
inductive ClosingBlock : Outcome → Sample → List Check → Prop where
  | rateLimited (latency : Duration) :
      ClosingBlock .pollRateLimited ⟨.status, some statusTooManyRequests, latency⟩
        [⟨Label.statusRateLimit, true⟩]
  | completed (status : Nat) (latency : Duration) (chatId passed : Bool) (label : String)
      (hlabel : label = Label.hasAnswerText ∨ label = Label.hasError)
      (hstatus : status ≠ statusTooManyRequests) :
      ClosingBlock .completed ⟨.status, some status, latency⟩
        [fetchCheck status, ⟨Label.statusBodyParsed, true⟩, ⟨Label.hasChatId, chatId⟩,
          ⟨label, passed⟩]
  | errored (status : Nat) (latency : Duration) (hstatus : status ≠ statusTooManyRequests) :
      ClosingBlock .errored ⟨.status, some status, latency⟩
        [fetchCheck status, ⟨Label.statusBodyParsed, true⟩]

/-- The samples of the polls of an accepted job and the checks of each: pending polls, and after
them a closing one unless all of the `maxPolls` polls were spent on pending ones. -/
inductive PollTrace (maxPolls : Nat) : Outcome → List Sample → List (List Check) → Prop where
  | exhausted {polls : List Sample} {blocks : List (List Check)}
      (hpending : List.Forall₂ PendingBlock polls blocks) (hlength : polls.length = maxPolls) :
      PollTrace maxPolls .exhausted polls blocks
  | closed {outcome : Outcome} {polls : List Sample} {blocks : List (List Check)} {poll : Sample}
      {block : List Check} (hpending : List.Forall₂ PendingBlock polls blocks)
      (hclosing : ClosingBlock outcome poll block) (hlength : polls.length < maxPolls) :
      PollTrace maxPolls outcome (polls ++ [poll]) (blocks ++ [block])

/-- One more pending poll in front. -/
theorem PollTrace.cons {maxPolls : Nat} {outcome : Outcome} {poll : Sample} {block : List Check}
    {polls : List Sample} {blocks : List (List Check)} (hpoll : PendingBlock poll block)
    (h : PollTrace maxPolls outcome polls blocks) :
    PollTrace (maxPolls + 1) outcome (poll :: polls) (block :: blocks) := by
  cases h with
  | exhausted hpending hlength => exact .exhausted (.cons hpoll hpending) (by simp [hlength])
  | closed hpending hclosing hlength =>
      exact .closed (.cons hpoll hpending) hclosing (by simpa using hlength)

/-! ## One poll -/

/-- The sample of a poll. -/
def pollSample (answer : Answer) : Sample :=
  ⟨.status, answer.result.toOption.map (·.status), answer.latency⟩

/-- What comes of an answer when `remaining` polls were left before it. -/
def pollNoted (job : Handles) (remaining : Nat) (answer : Answer) : Noted Verdict :=
  observe job.jobId ⟨remaining⟩ answer.result.toOption

/-- What a poll records besides its sample. -/
def pollEntries (job : Handles) (remaining : Nat) (answer : Answer) : List Entry :=
  pollFault job.jobId answer.result ++ (pollNoted job remaining answer).entries

/-- The moves of a poll. -/
def pollMoves (job : Handles) (interval : Duration) (remaining : Nat) (answer : Answer) :
    List Move :=
  .wait interval :: .fetch job.statusUrl answer :: .note (.sample (pollSample answer)) ::
    (pollEntries job remaining answer).map .note

/-- The result of polling that ends with the given verdict. -/
def endedBy (verdict : Verdict) (attempts : Nat) : PollOutcome :=
  ⟨verdict.state, attempts, verdict.budget.remaining, verdict.errorCode⟩

theorem pollNoted_observed (job : Handles) (remaining : Nat) (answer : Answer) :
    Observed job.jobId ⟨remaining⟩ answer.result.toOption (pollNoted job remaining answer) :=
  observe_observed _ _ _

/-- A poll waits, calls, records, and then polling goes on or is over. -/
theorem polling_succ (job : Handles) (interval : Duration) (attempts remaining : Nat) :
    polling job interval attempts (remaining + 1) =
      .wait interval (.fetch job.statusUrl fun answer =>
        .note (.sample (pollSample answer)) <|
          .noteAll (pollEntries job (remaining + 1) answer) <|
            if (pollNoted job (remaining + 1) answer).value.state = .polling then
              polling job interval (attempts + 1) remaining
            else .done (endedBy (pollNoted job (remaining + 1) answer).value (attempts + 1))) := by
  simp only [pollEntries, Flow.noteAll, List.foldr_append]
  rfl

/-- A poll, and then either the polls that follow it or nothing. -/
theorem path_polling_succ {job : Handles} {interval : Duration} {attempts remaining : Nat}
    {moves : List Move} {ended : PollOutcome}
    (h : (polling job interval attempts (remaining + 1)).Path moves ended) :
    ∃ answer later, moves = pollMoves job interval (remaining + 1) answer ++ later ∧
      ((pollNoted job (remaining + 1) answer).value.state = .polling ∧
          (polling job interval (attempts + 1) remaining).Path later ended ∨
        (pollNoted job (remaining + 1) answer).value.state ≠ .polling ∧ later = [] ∧
          ended = endedBy (pollNoted job (remaining + 1) answer).value (attempts + 1)) := by
  rw [polling_succ] at h
  simp only [path_wait_iff, path_fetch_iff, path_note_iff, path_noteAll_iff] at h
  obtain ⟨_, rfl, answer, _, rfl, _, rfl, later, rfl, hrest⟩ := h
  refine ⟨answer, later, rfl, ?_⟩
  split at hrest
  case isTrue hstate => exact .inl ⟨hstate, hrest⟩
  case isFalse hstate => exact .inr ⟨hstate, path_done_iff.mp hrest⟩

@[simp] theorem samplesOf_pollEntries (job : Handles) (remaining : Nat) (answer : Answer) :
    samplesOf (pollEntries job remaining answer) = [] := by
  have hnoted := (pollNoted_observed job remaining answer).samplesOf_eq_nil
  cases hresult : answer.result with
  | error fault => simp [pollEntries, pollFault, hresult, hnoted]
  | ok response => simp [pollEntries, pollFault, hresult, hnoted]

theorem checksOf_pollEntries (job : Handles) (remaining : Nat) (answer : Answer) :
    checksOf (pollEntries job remaining answer) =
      checksOf (pollNoted job remaining answer).entries := by
  cases hresult : answer.result with
  | error fault => simp [pollEntries, pollFault, hresult]
  | ok response => simp [pollEntries, pollFault, hresult]

/-- The checks of one poll are a block, and the verdict tells which kind of block. -/
theorem block_of_poll (job : Handles) (remaining : Nat) (answer : Answer) :
    ((pollNoted job remaining answer).value.state = .polling →
      PendingBlock (pollSample answer) (checksOf (pollEntries job remaining answer))) ∧
    ((pollNoted job remaining answer).value.state ≠ .polling →
      ClosingBlock (.ofPollState (pollNoted job remaining answer).value.state) (pollSample answer)
        (checksOf (pollEntries job remaining answer))) := by
  rw [checksOf_pollEntries, pollSample]
  have hnoted := pollNoted_observed job remaining answer
  generalize pollNoted job remaining answer = noted at hnoted
  generalize answer.result.toOption = response at hnoted
  cases hnoted with
  | unanswered => exact ⟨fun _ => .unanswered _, fun h => absurd rfl h⟩
  | throttled r hstatus =>
      refine ⟨fun h => by simp at h, fun _ => ?_⟩
      rw [Option.map_some, hstatus]
      exact .rateLimited _
  | unreadable r hstatus =>
      exact ⟨fun _ => .answered r.status _ false hstatus, fun h => absurd rfl h⟩
  | complete r body hstatus =>
      refine ⟨fun h => by simp at h, fun _ => ?_⟩
      obtain ⟨chatId, passed, label, hlabel, hchecks⟩ := checksOf_validate job.jobId body
      simp only [checksOf_check, hchecks]
      exact .completed r.status _ chatId passed label hlabel hstatus
  | failed r body e hstatus =>
      exact ⟨fun h => by simp at h, fun _ => .errored r.status _ hstatus⟩
  | pending r body hstatus =>
      exact ⟨fun _ => .answered r.status _ true hstatus, fun h => absurd rfl h⟩

/-! ## All polls -/

/-- Whatever the service answers, the polls leave a trace. -/
theorem pollTrace_of_path {job : Handles} {interval : Duration} {attempts remaining : Nat}
    {moves : List Move} {ended : PollOutcome}
    (h : (polling job interval attempts remaining).Path moves ended) :
    ∃ blocks, checksOf (entriesOf moves) = blocks.flatten ∧
      PollTrace remaining (.ofPollState ended.state) (samplesOf (entriesOf moves)) blocks := by
  induction remaining generalizing attempts moves with
  | zero =>
      simp only [polling, path_note_iff, path_done_iff] at h
      obtain ⟨_, rfl, rfl, rfl⟩ := h
      exact ⟨[], rfl, .exhausted .nil rfl⟩
  | succ remaining ih =>
      obtain ⟨answer, later, rfl, hcase⟩ := path_polling_succ h
      obtain ⟨hpending, hclosing⟩ := block_of_poll job (remaining + 1) answer
      rcases hcase with ⟨hstate, hlater⟩ | ⟨hstate, rfl, rfl⟩
      · obtain ⟨blocks, hchecks, htrace⟩ := ih hlater
        refine ⟨checksOf (pollEntries job (remaining + 1) answer) :: blocks, ?_, ?_⟩
        · simp [pollMoves, hchecks]
        · simpa [pollMoves] using htrace.cons (hpending hstate)
      · refine ⟨[checksOf (pollEntries job (remaining + 1) answer)], ?_, ?_⟩
        · simp [pollMoves]
        · simpa [pollMoves, endedBy] using
            PollTrace.closed .nil (hclosing hstate) (Nat.succ_pos remaining)

end LoadProbe.Run
