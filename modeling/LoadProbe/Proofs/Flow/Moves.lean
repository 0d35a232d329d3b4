import LoadProbe.Proofs.Flow.Path

/-!
# Moves, time and calls

Some moves of a way through a flow take time, and some are calls that a service hears.

* `Run.Move.time` is how long a move takes, `Run.timeOf` how long all moves of a way take.
* `Run.submissionsOf` and `Run.fetchesOf` are the calls among the moves with their answers;
  `Run.samplesIn` are the samples that calls should leave.
* `Run.Service.Hears` says that the calls among some moves, made one after the other, got the
  answers that the service gave.
* `Run.served_of_hears`: of canned answers each call gets the one that is next, whoever makes it.
-/

namespace LoadProbe.Run

open LoadProbe.Job

variable {σ : Type}

/-- The reply to a call that gets an answer. -/
def Answer.exchange (answer : Answer) : Exchange := ⟨answer.latency, some answer.result⟩

/-- The sample that a call with this answer should leave. -/
def Answer.sample (endpoint : Endpoint) (answer : Answer) : Sample :=
  ⟨endpoint, answer.result.toOption.map (·.status), answer.latency⟩

namespace Move

/-- How long a move takes. -/
def time : Move → Duration
  | note _ => 0
  | wait duration => duration.asleep
  | submit _ answer | fetch _ answer => answer.latency

/-- A submission with its answer. -/
def submission? : Move → Option (Request × Answer)
  | submit request answer => some (request, answer)
  | _ => none

/-- A status request with its answer. -/
def fetch? : Move → Option (String × Answer)
  | fetch url answer => some (url, answer)
  | _ => none

/-- The sample that a call should leave. -/
def sample? : Move → Option Sample
  | submit _ answer => some (answer.sample .submit)
  | fetch _ answer => some (answer.sample .status)
  | _ => none

/-- If the move is a call, it brings the service from one state to another, and the answer is the
one that the service gave; otherwise the service does not notice. -/
def Through (service : Service σ) (before after : σ) : Move → Prop
  | note _ | wait _ => after = before
  | submit request answer => service.submit request before = (answer.exchange, after)
  | fetch url answer => service.fetch url before = (answer.exchange, after)

end Move

/-- How long some moves take. -/
def timeOf (moves : List Move) : Duration := (moves.map Move.time).sum

/-- The submissions among the moves, in order. -/
def submissionsOf (moves : List Move) : List (Request × Answer) :=
  moves.filterMap Move.submission?

/-- The status requests among the moves, in order. -/
def fetchesOf (moves : List Move) : List (String × Answer) := moves.filterMap Move.fetch?

/-- The samples that the calls among the moves should leave, in order. -/
def samplesIn (moves : List Move) : List Sample := moves.filterMap Move.sample?

section Append

variable (first second : List Move)

@[simp] theorem timeOf_append : timeOf (first ++ second) = timeOf first + timeOf second := by
  simp [timeOf]

@[simp] theorem submissionsOf_append :
    submissionsOf (first ++ second) = submissionsOf first ++ submissionsOf second := by
  simp [submissionsOf, Move.submission?]

@[simp] theorem fetchesOf_append :
    fetchesOf (first ++ second) = fetchesOf first ++ fetchesOf second := by
  simp [fetchesOf, Move.fetch?]

@[simp] theorem samplesIn_append :
    samplesIn (first ++ second) = samplesIn first ++ samplesIn second := by
  simp [samplesIn]

end Append

section Notes

variable (entries : List Entry)

@[simp] theorem timeOf_map_note : timeOf (entries.map .note) = 0 := by
  simp [timeOf, Function.comp_def, Move.time]

@[simp] theorem submissionsOf_map_note : submissionsOf (entries.map .note) = [] := by
  simp [submissionsOf, List.filterMap_map, Move.submission?]

@[simp] theorem fetchesOf_map_note : fetchesOf (entries.map .note) = [] := by
  simp [fetchesOf, List.filterMap_map, Move.fetch?]

@[simp] theorem samplesIn_map_note : samplesIn (entries.map .note) = [] := by
  simp [samplesIn, List.filterMap_map, Move.sample?]

end Notes

/-- The samples of the calls are those of the submissions and those of the status requests. -/
theorem samplesIn_perm (moves : List Move) :
    (samplesIn moves).Perm
      ((submissionsOf moves).map (fun call => call.2.sample .submit) ++
        (fetchesOf moves).map fun call => call.2.sample .status) := by
  induction moves with
  | nil => exact .refl _
  | cons move moves ih =>
      cases move with
      | note entry => exact ih
      | wait duration => exact ih
      | submit request answer => exact ih.cons _
      | fetch url answer => exact (ih.cons _).trans List.perm_middle.symm

/-! ## What a service hears -/

/-- The calls among the moves bring the service from its start to a state. -/
inductive Service.Hears (service : Service σ) (start : σ) : List Move → σ → Prop where
  | start : Hears service start [] start
  | move {moves : List Move} {before after : σ} (move : Move) (h : Hears service start moves before)
      (hthrough : move.Through service before after) : Hears service start (moves ++ [move]) after

namespace Script

/-- The answer to a call after `n` others: that in the queue, or else the one to every call after
the queue, or else there is none left. -/
def answer (s : Script) (n : Nat) : Exchange :=
  ((s.queue[n]?).getD (s.fallback.getD .missing)).slept

/-- The script without its first `n` answers. -/
def after (s : Script) (n : Nat) : Script := { s with queue := s.queue.drop n }

theorem next_after (s : Script) (n : Nat) : (s.after n).next = (s.answer n, s.after (n + 1)) := by
  obtain ⟨queue, fallback⟩ := s
  by_cases hn : n < queue.length
  · simp only [next, after, answer, List.drop_eq_getElem_cons hn, List.getElem?_eq_getElem hn,
      Option.getD_some]
  · have hlength : queue.length ≤ n := Nat.le_of_not_lt hn
    simp only [next, after, answer, List.drop_eq_nil_of_le hlength,
      List.drop_eq_nil_of_le (Nat.le_succ_of_le hlength), List.getElem?_eq_none hlength,
      Option.getD_none]

end Script

/-- Canned answers before the first call. -/
def Scripts.fresh (submits statuses : Script) : Scripts := ⟨submits, statuses, [], []⟩

/-- A scripted service has answered the calls among the moves, and no others. -/
structure Scripts.Served (submits statuses : Script) (moves : List Move) (s : Scripts) : Prop where
  submits_eq : s.submits = submits.after (submissionsOf moves).length
  statuses_eq : s.statuses = statuses.after (fetchesOf moves).length
  submitted_eq : s.submitted = ((submissionsOf moves).map (·.1)).reverse
  polled_eq : s.polled = ((fetchesOf moves).map (·.1)).reverse
  submissions_eq : (submissionsOf moves).map (·.2.exchange) =
    (List.range (submissionsOf moves).length).map submits.answer
  fetches_eq : (fetchesOf moves).map (·.2.exchange) =
    (List.range (fetchesOf moves).length).map statuses.answer

/-- A move that is no call changes nothing about it. -/
theorem Scripts.Served.append {submits statuses : Script} {moves : List Move} {s : Scripts}
    (h : s.Served submits statuses moves) {move : Move} (hsubmission : move.submission? = none)
    (hfetch : move.fetch? = none) : s.Served submits statuses (moves ++ [move]) := by
  have hsubmissions : submissionsOf (moves ++ [move]) = submissionsOf moves := by
    simp [submissionsOf, hsubmission]
  have hfetches : fetchesOf (moves ++ [move]) = fetchesOf moves := by simp [fetchesOf, hfetch]
  constructor
  case submits_eq => rw [hsubmissions, h.submits_eq]
  case statuses_eq => rw [hfetches, h.statuses_eq]
  case submitted_eq => rw [hsubmissions, h.submitted_eq]
  case polled_eq => rw [hfetches, h.polled_eq]
  case submissions_eq => rw [hsubmissions, h.submissions_eq]
  case fetches_eq => rw [hfetches, h.fetches_eq]

/-- Every call took the answer that was next. -/
theorem served_of_hears {submits statuses : Script} {moves : List Move} {s : Scripts}
    (h : scripted.Hears (.fresh submits statuses) moves s) :
    s.Served submits statuses moves := by
  induction h with
  | start => exact ⟨rfl, rfl, rfl, rfl, rfl, rfl⟩
  | @move moves before state move h hthrough ih =>
      cases move with
      | note entry =>
          obtain rfl : state = before := hthrough
          exact ih.append rfl rfl
      | wait duration =>
          obtain rfl : state = before := hthrough
          exact ih.append rfl rfl
      | submit request answer =>
          simp only [Move.Through, scripted, ih.submits_eq, Script.next_after, Prod.mk.injEq]
            at hthrough
          obtain ⟨hanswer, rfl⟩ := hthrough
          have hsubmissions : submissionsOf (moves ++ [.submit request answer]) =
              submissionsOf moves ++ [(request, answer)] := by
            simp [submissionsOf, Move.submission?]
          have hfetches : fetchesOf (moves ++ [.submit request answer]) = fetchesOf moves := by
            simp [fetchesOf, Move.fetch?]
          constructor
          case submits_eq => simp [hsubmissions]
          case statuses_eq => rw [hfetches, ← ih.statuses_eq]
          case submitted_eq => simp [hsubmissions, ih.submitted_eq]
          case polled_eq => rw [hfetches, ← ih.polled_eq]
          case submissions_eq => simp [hsubmissions, ih.submissions_eq, hanswer, List.range_succ]
          case fetches_eq => rw [hfetches, ih.fetches_eq]
      | fetch url answer =>
          simp only [Move.Through, scripted, ih.statuses_eq, Script.next_after, Prod.mk.injEq]
            at hthrough
          obtain ⟨hanswer, rfl⟩ := hthrough
          have hfetches : fetchesOf (moves ++ [.fetch url answer]) =
              fetchesOf moves ++ [(url, answer)] := by simp [fetchesOf, Move.fetch?]
          have hsubmissions :
              submissionsOf (moves ++ [.fetch url answer]) = submissionsOf moves := by
            simp [submissionsOf, Move.submission?]
          constructor
          case submits_eq => rw [hsubmissions, ← ih.submits_eq]
          case statuses_eq => simp [hfetches]
          case submitted_eq => rw [hsubmissions, ← ih.submitted_eq]
          case polled_eq => simp [hfetches, ih.polled_eq]
          case submissions_eq => rw [hsubmissions, ih.submissions_eq]
          case fetches_eq => simp [hfetches, ih.fetches_eq, hanswer, List.range_succ]

end LoadProbe.Run
