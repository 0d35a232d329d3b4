import LoadProbe.Proofs.Crowd.Limits
import LoadProbe.Proofs.Metrics.Multiples

/-!
# Users that do not disturb each other

If a service gives every submission the same answer, and every status request, then there is only
one way through an iteration.  All users go that way again and again, in step with each other, so a
run with many users is that of one user, multiplied.

* `Run.Flow.course` is the only way through a flow, and `Run.path_eq_course` says that every path
  with these answers is that one.
* `Run.Account.begins_eq_mul`: the iterations of a user begin at the multiples of one time.
* `Run.Crowd.Lockstep` is how a run ends; `Run.lockstep_of_run` says that every run does.
* `Run.crowd_scales` compares the run of one user with that of many.
-/

namespace LoadProbe.Run

open LoadProbe.Job LoadProbe.Metrics

/-! ## Answers that do not change -/

/-- Canned answers of which none is in the queue: every call gets the same one, if there is any. -/
def Script.always (fallback : Option (Duration × Response)) : Script :=
  ⟨[], fallback.map fun (delay, response) => ⟨delay, some (.ok response)⟩⟩

/-- The answer to every call. -/
def constantAnswer : Option (Duration × Response) → Answer
  | some (delay, response) => ⟨.ok response, delay.asleep⟩
  | none => ⟨.error (.transport "no scripted response left"), 0⟩

theorem answer_always (fallback : Option (Duration × Response)) (n : Nat) :
    (Script.always fallback).answer n = (constantAnswer fallback).exchange := by
  cases fallback with
  | none => rfl
  | some fallback => rfl

theorem replies_always (fallback : Option (Duration × Response)) :
    (Script.always fallback).Replies := by
  refine ⟨by simp [Script.always], ?_⟩
  cases fallback <;> simp [Script.always]

/-- All submissions among the moves got one answer, and all status requests did. -/
structure Answered (submit fetch : Answer) (moves : List Move) : Prop where
  submissions : ∀ call ∈ submissionsOf moves, call.2 = submit
  fetches : ∀ call ∈ fetchesOf moves, call.2 = fetch

theorem Answered.of_subset {submit fetch : Answer} {moves moves' : List Move}
    (h : Answered submit fetch moves) (hsubset : moves' ⊆ moves) :
    Answered submit fetch moves' := by
  constructor
  · intro call hcall
    exact h.submissions call (List.filterMap_subset _ hsubset hcall)
  · intro call hcall
    exact h.fetches call (List.filterMap_subset _ hsubset hcall)

theorem eq_of_exchange_eq {answer answer' : Answer} (h : answer.exchange = answer'.exchange) :
    answer = answer' := by
  obtain ⟨result, latency⟩ := answer
  obtain ⟨result', latency'⟩ := answer'
  simp only [Answer.exchange, Exchange.mk.injEq, Option.some.injEq] at h
  rw [h.1, h.2]

/-- Calls that took the answers of constant scripts got the constant answers. -/
theorem answered_of_served {submits statuses : Option (Duration × Response)} {moves : List Move}
    {s : Scripts} (h : s.Served (.always submits) (.always statuses) moves) :
    Answered (constantAnswer submits) (constantAnswer statuses) moves := by
  constructor
  · intro call hcall
    have hmem : call.2.exchange ∈ (submissionsOf moves).map (·.2.exchange) :=
      List.mem_map_of_mem hcall
    rw [h.submissions_eq] at hmem
    obtain ⟨n, -, hn⟩ := List.mem_map.mp hmem
    exact eq_of_exchange_eq (hn.symm.trans (answer_always submits n))
  · intro call hcall
    have hmem : call.2.exchange ∈ (fetchesOf moves).map (·.2.exchange) :=
      List.mem_map_of_mem hcall
    rw [h.fetches_eq] at hmem
    obtain ⟨n, -, hn⟩ := List.mem_map.mp hmem
    exact eq_of_exchange_eq (hn.symm.trans (answer_always statuses n))

/-! ## The only way through a flow -/

/-- The moves and the result of a flow all of whose calls get the given answers. -/
def Flow.course {α : Type} (submit fetch : Answer) : Flow α → List Move × α
  | .done result => ([], result)
  | .note entry rest => (rest.course submit fetch).map (.note entry :: ·) id
  | .wait duration rest => (rest.course submit fetch).map (.wait duration :: ·) id
  | .submit request rest =>
      ((rest submit).course submit fetch).map (.submit request submit :: ·) id
  | .fetch url rest => ((rest fetch).course submit fetch).map (.fetch url fetch :: ·) id

theorem path_eq_course {α : Type} {submit fetch : Answer} {flow : Flow α} {moves : List Move}
    {result : α} (h : flow.Path moves result) (hanswered : Answered submit fetch moves) :
    (moves, result) = flow.course submit fetch := by
  induction h with
  | done result => rfl
  | note entry hrest ih =>
      rw [Flow.course, ← ih (hanswered.of_subset (List.subset_cons_self _ _))]
      rfl
  | wait duration hrest ih =>
      rw [Flow.course, ← ih (hanswered.of_subset (List.subset_cons_self _ _))]
      rfl
  | submit request answer hrest ih =>
      obtain rfl : answer = submit := hanswered.submissions (request, answer) List.mem_cons_self
      rw [Flow.course, ← ih (hanswered.of_subset (List.subset_cons_self _ _))]
      rfl
  | fetch url answer hrest ih =>
      obtain rfl : answer = fetch := hanswered.fetches (url, answer) List.mem_cons_self
      rw [Flow.course, ← ih (hanswered.of_subset (List.subset_cons_self _ _))]
      rfl

/-! ## One user -/

/-- What every iteration does and how it ends. -/
def Load.course (load : Load) (submit fetch : Answer) : List Move × Outcome :=
  load.plan.iteration.course submit fetch

/-- How long every iteration takes, the pause after it included. -/
def Load.period (load : Load) (submit fetch : Answer) : Duration :=
  load.plan.spent (load.course submit fetch).1 + load.pauseAfter (load.course submit fetch).2

section User

variable {load : Load} {submit fetch : Answer} {begins : Nat → Duration} {strides : List Stride}
  {reports : List Report} {due : Duration} {u : User}

/-- Every iteration that is reported went the only way there is. -/
theorem Ledger.eq_course (h : Ledger load.plan strides reports u)
    (hanswered : Answered submit fetch (strides.map (·.move))) {r : Report} (hr : r ∈ reports)
    (huser : r.user = u.id) :
    (movesIn strides r.user r.iteration, r.outcome) = load.course submit fetch ∧
      r.entries = entriesOf (load.course submit fetch).1 := by
  obtain ⟨hpath, hentries⟩ := h.reported r hr huser
  have hcourse := path_eq_course hpath
    (hanswered.of_subset (List.map_subset _ (List.filter_subset_self _)))
  rw [huser]
  exact ⟨hcourse, hentries.trans (congrArg (fun course => entriesOf course.1) hcourse)⟩

/-- Iterations begin at the multiples of the time that each of them takes. -/
theorem Account.begins_eq_mul (h : Account load begins strides reports due u)
    (hanswered : Answered submit fetch (strides.map (·.move))) {k : Nat} (hk : k ≤ u.completed) :
    begins k = k * load.period submit fetch := by
  induction k with
  | zero => rw [h.punctual.zero, Nat.zero_mul]
  | succ k ih =>
      obtain ⟨r, hr, huser, -, hnext⟩ := h.begins_succ hk
      obtain ⟨hmoves, houtcome⟩ := Prod.mk.inj (h.ledger.eq_course hanswered hr huser).1
      rw [hnext, ih (Nat.le_of_succ_le hk), Nat.succ_mul, hmoves, houtcome]
      rfl

/-- A user does not begin an iteration at whose time the gate refuses. -/
theorem Account.started_le (h : Account load begins strides reports due u)
    (hanswered : Answered submit fetch (strides.map (·.move))) {count : Nat}
    (hrefuses : load.gate.Refuses (count * load.period submit fetch) count) :
    u.started ≤ count := by
  by_contra hmore
  have hmore := Nat.lt_of_not_le hmore
  have hcompleted : count ≤ u.completed :=
    Nat.le_of_lt_succ (hmore.trans_le (LoadProbe.Run.started_le u))
  have hadmitted := h.punctual.admitted count hmore
  rw [h.begins_eq_mul hanswered hcompleted, refuses_iff.mp hrefuses] at hadmitted
  exact Bool.false_ne_true hadmitted

/-- A user who was refused has done as many iterations as it takes until the gate refuses. -/
theorem Account.isLeast_completed (h : Account load begins strides reports due u)
    (hanswered : Answered submit fetch (strides.map (·.move))) (hstopped : u.activity = .stopped) :
    IsLeast {k | load.gate.Refuses (k * load.period submit fetch) k} u.completed := by
  obtain ⟨hrefused, hleast⟩ := h.punctual.count_least hstopped
  -- Beyond the last iteration `begins` says nothing, but what is least is not beyond it.
  have hbegins : ∀ k ≤ u.completed, begins k = k * load.period submit fetch :=
    fun k hk => h.begins_eq_mul hanswered hk
  constructor
  · change load.gate.Refuses (u.completed * load.period submit fetch) u.completed
    rw [← hbegins u.completed le_rfl]
    exact hrefused
  · intro k hk
    change load.gate.Refuses (k * load.period submit fetch) k at hk
    by_contra hlt
    rw [← hbegins k (Nat.le_of_not_le hlt)] at hk
    exact hlt (hleast hk)

end User

/-! ## All users -/

section Crowd

variable {load : Load} {submits statuses : Option (Duration × Response)} {users : Nat}

/-- Scripts that always give the same answers. -/
def Scripts.always (submits statuses : Option (Duration × Response)) : Scripts :=
  .fresh (.always submits) (.always statuses)

theorem steady_always (submits statuses : Option (Duration × Response)) :
    scripted.Steady (.always submits statuses) :=
  scripted_steady (replies_always submits) (replies_always statuses)

theorem answered_after (load : Load) (submits statuses : Option (Duration × Response))
    (users steps : Nat) :
    Answered (constantAnswer submits) (constantAnswer statuses)
      ((Crowd.strides load scripted steps (.start users (.always submits statuses))).map
        (·.move)) := by
  obtain ⟨r, -, hattended⟩ := attended_after (steady_always submits statuses) load users steps
  exact answered_of_served (served_of_hears hattended.hears)

/-- All users have done the same: `count` iterations, each the only way there is. -/
structure Crowd.Lockstep (load : Load) (submit fetch : Answer) (users count : Nat)
    (s : Crowd Scripts) : Prop where
  clock_eq : s.clock = count * load.period submit fetch
  told_eq : s.reports.reverse.map Report.told = List.replicate (users * count)
    ((load.course submit fetch).2, entriesOf (load.course submit fetch).1)

/-- A run ends with all of its users in step. -/
theorem lockstep_of_run {fuel : Nat} {s : Crowd Scripts}
    (hrun : Crowd.run load scripted fuel (.start users (.always submits statuses)) = some s)
    (husers : 1 ≤ users) :
    ∃ count, IsLeast {k | load.gate.Refuses
        (k * load.period (constantAnswer submits) (constantAnswer statuses)) k} count ∧
      s.Lockstep load (constantAnswer submits) (constantAnswer statuses) users count := by
  have hanswered := answered_after load submits statuses users fuel
  have hstopped : ∀ u ∈ s.gone, u.activity = .stopped := fun u hu =>
    stopped_of_gone hrun (unlost_of_steady (steady_always submits statuses) load users) hu
  have hleast : ∀ u ∈ s.gone, IsLeast {k | load.gate.Refuses
      (k * load.period (constantAnswer submits) (constantAnswer statuses)) k} u.completed := by
    intro u hu
    obtain ⟨begins, due, -, haccount⟩ := account_of_gone hrun hu
    exact haccount.isLeast_completed hanswered (hstopped u hu)
  -- All have done as many iterations as the first one.
  obtain ⟨first, hfirst, -⟩ := exists_gone hrun husers
  have hsame : ∀ u ∈ s.gone, u.completed = first.completed :=
    fun u hu => (hleast u hu).unique (hleast first hfirst)
  refine ⟨first.completed, hleast first hfirst, ?_, ?_⟩
  · obtain ⟨begins, due, hdue, haccount⟩ := account_of_gone hrun hfirst
    rw [haccount.due_eq (hstopped first hfirst), haccount.begins_eq_mul hanswered le_rfl] at hdue
    rcases exists_last hrun with hnone | ⟨u, hu, begins, haccount⟩
    · exact le_antisymm (hnone ▸ Nat.zero_le _) hdue
    · rw [haccount.due_eq (hstopped u hu), haccount.begins_eq_mul hanswered le_rfl, hsame u hu]
  · -- The reports are alike, and there are as many as all users have done iterations.
    have hknown : ∀ r ∈ s.reports.reverse, r.user < users := by
      obtain ⟨rfl, -⟩ := run_eq_some_iff.mp hrun
      exact fun r hr => report_user_lt (List.mem_reverse.mp hr)
    refine List.eq_replicate_iff.mpr ⟨?_, ?_⟩
    · have hiterations : ∀ i : Fin users,
          (iterationsOf i s.reports.reverse).length = first.completed := by
        intro i
        obtain ⟨u, hu, hid⟩ := exists_gone hrun i.isLt
        obtain ⟨begins, due, -, haccount⟩ := account_of_gone hrun hu
        obtain ⟨admissions, hkept⟩ := haccount.kept
        rw [← hid, hkept.inOrder, List.length_range, hsame u hu]
      rw [List.length_map, length_eq_sum_iterationsOf hknown]
      simp [hiterations]
    · intro told htold
      obtain ⟨r, hr, rfl⟩ := List.mem_map.mp htold
      obtain ⟨u, hu, hid⟩ := exists_gone hrun (hknown r hr)
      obtain ⟨begins, due, -, haccount⟩ := account_of_gone hrun hu
      obtain ⟨hcourse, hentries⟩ := haccount.ledger.eq_course hanswered hr hid.symm
      exact Prod.ext (congrArg Prod.snd hcourse) hentries

/-- On a service that always gives the same answers, under any gate: if the run of one user ends, so
does the run of any number of users, after the same time; and its summary has so many times the
numbers of the other, for the same checks, outcomes and statuses, and the same greatest
latencies. -/
theorem crowd_scales (load : Load) (submits statuses : Option (Duration × Response))
    (startedAt : Timestamp) {fuel : Nat} {s : Crowd Scripts}
    (hrun : Crowd.run load scripted fuel (.start 1 (.always submits statuses)) = some s)
    {users : Nat} (husers : 1 ≤ users) :
    ∃ fuel' s', Crowd.run load scripted fuel' (.start users (.always submits statuses)) = some s' ∧
      (Aggregate.ofCrowd users s').elapsed = (Aggregate.ofCrowd 1 s).elapsed ∧
      Summary.Multiple users ((Aggregate.ofCrowd 1 s).summary startedAt)
        ((Aggregate.ofCrowd users s').summary startedAt) := by
  obtain ⟨count, hleast, hone⟩ := lockstep_of_run hrun le_rfl
  -- The run of one user limits what each of many begins, so that theirs is over some time, too.
  have hstarted : ∀ steps, ∀ u ∈
      ((Crowd.start users (.always submits statuses)).after load scripted steps).users,
      u.started ≤ count := by
    intro steps u hu
    obtain ⟨begins, due, haccount⟩ := account_of_mem hu
    exact haccount.started_le (answered_after load submits statuses users steps) hleast.1
  obtain ⟨fuel', s', hrun'⟩ :=
    run_ends (unlost_of_steady (steady_always submits statuses) load users) hstarted
  obtain ⟨count', hleast', hmany⟩ := lockstep_of_run hrun' husers
  obtain rfl := hleast.unique hleast'
  have helapsed : s'.clock = s.clock := hmany.clock_eq.trans hone.clock_eq.symm
  refine ⟨fuel', s', hrun', helapsed, ?_⟩
  have hrepeated : Repeated users (s.reports.reverse.map Report.told)
      (s'.reports.reverse.map Report.told) := by
    rw [Repeated, hone.told_eq, hmany.told_eq, List.flatten_replicate_replicate, Nat.one_mul]
  have hmultiple := multiple_of_repeated husers hrepeated 1 users s.clock startedAt
  rw [Aggregate.ofCrowd, Aggregate.ofCrowd, helapsed]
  exact hmultiple

end Crowd

/-- Every submission is accepted. -/
def acceptance : Option (Duration × Response) :=
  some (2, ⟨202, "\x7b\"id\":1,\"status_url\":\"a\"\x7d"⟩)

/-- Every status request finds the job complete. -/
def completion : Option (Duration × Response) :=
  some (1, ⟨200, "\x7b\"result\":\x7b\"status\":\"COMPLETE\"\x7d\x7d"⟩)

/-- One user does two iterations, the second of which is over long after the deadline, with two
calls each; three users do as much each in the same time. -/
theorem crowd_scales_three :
    ∃ s s', Crowd.run pacedLoad scripted 40 (.start 1 (.always acceptance completion)) = some s ∧
      (∃ fuel, Crowd.run pacedLoad scripted fuel (.start 3 (.always acceptance completion)) =
        some s') ∧
      (Aggregate.ofCrowd 3 s').elapsed = 36 ∧
      ((Aggregate.ofCrowd 3 s').summary ⟨0, 0⟩).iterations = 3 * 2 ∧
      ((Aggregate.ofCrowd 3 s').summary ⟨0, 0⟩).requests = 3 * 4 := by
  have hone : (Crowd.run pacedLoad scripted 40 (.start 1 (.always acceptance completion))).map
      (fun s => ((Aggregate.ofCrowd 1 s).elapsed,
        ((Aggregate.ofCrowd 1 s).summary ⟨0, 0⟩).iterations,
        ((Aggregate.ofCrowd 1 s).summary ⟨0, 0⟩).requests)) = some (36, 2, 4) := by
    decide +kernel
  obtain ⟨s, hrun, hnumbers⟩ := Option.map_eq_some_iff.mp hone
  simp only [Prod.mk.injEq] at hnumbers
  obtain ⟨hlapse, hiterations, hrequests⟩ := hnumbers
  obtain ⟨fuel, s', hrun', helapsed, hmultiple⟩ :=
    crowd_scales pacedLoad acceptance completion ⟨0, 0⟩ hrun (by decide : 1 ≤ 3)
  refine ⟨s, s', hrun, ⟨fuel, hrun'⟩, helapsed.trans hlapse, ?_, ?_⟩
  · rw [hmultiple.iterations_eq, hiterations]
  · rw [hmultiple.requests_eq, hrequests]

end LoadProbe.Run
