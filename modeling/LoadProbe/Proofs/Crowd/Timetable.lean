import LoadProbe.Proofs.Crowd.ExactlyOnce
import LoadProbe.Proofs.Crowd.Punctual

/-!
# The timetable of a crowd

Many users share one clock, one service and one queue, but none keeps another waiting: each begins
its iterations at the times at which it would begin them alone, if it got the same answers.

* `Run.pairwise_enqueue`: the queue stays in the order of the times.
* `Run.Crowd.OnTime` is what holds of a crowd at any time; `Run.Crowd.OnTime.step` keeps it through
  a step, `Run.onTime_after` through any number of steps.
* `Run.Timetable` is the schedule of one user, and `Run.crowd_timetable` says that every user keeps
  to its own and that the run is over when the last one is.
* `Run.pause_cut_short`: a pause beyond the longest sleep is not waited for in full.
-/

namespace LoadProbe.Run

open LoadProbe.Job LoadProbe.Metrics

variable {σ : Type} {users : Nat}

/-! ## The queue -/

theorem mem_enqueue {time : Duration} {u : User} {queue : List (Duration × User)}
    {e : Duration × User} : e ∈ enqueue time u queue ↔ e = (time, u) ∨ e ∈ queue := by
  rw [(enqueue_perm time u queue).mem_iff, List.mem_cons]

theorem pairwise_enqueue {queue : List (Duration × User)}
    (h : queue.Pairwise fun a b => a.1 ≤ b.1) (time : Duration) (u : User) :
    (enqueue time u queue).Pairwise fun a b => a.1 ≤ b.1 := by
  induction queue with
  | nil => exact List.pairwise_singleton _ _
  | cons first queue ih =>
      obtain ⟨t, v⟩ := first
      obtain ⟨hfirst, hqueue⟩ := List.pairwise_cons.mp h
      unfold enqueue
      split
      case isTrue htime =>
          refine List.pairwise_cons.mpr ⟨?_, ih hqueue⟩
          intro e he
          rcases mem_enqueue.mp he with rfl | he
          · exact htime
          · exact hfirst e he
      case isFalse htime =>
          have hle : time ≤ t := (Nat.lt_of_not_le htime).le
          refine List.pairwise_cons.mpr ⟨?_, h⟩
          intro e he
          rcases List.mem_cons.mp he with rfl | he
          · exact hle
          · exact hle.trans (hfirst e he)

/-- Wherever a user is put back, it is due when it has slept. -/
theorem mem_requeue {now sleep : Duration} {u : User} {queue : List (Duration × User)}
    {e : Duration × User} :
    (e ∈ if sleep = 0 then (now, u) :: queue else enqueue (now + sleep) u queue) ↔
      e = (now + sleep, u) ∨ e ∈ queue := by
  split
  case isTrue hsleep => simp [hsleep]
  case isFalse => exact mem_enqueue

theorem pairwise_requeue {now : Duration} {queue : List (Duration × User)}
    (hfirst : ∀ e ∈ queue, now ≤ e.1) (hqueue : queue.Pairwise fun a b => a.1 ≤ b.1)
    (sleep : Duration) (u : User) :
    (if sleep = 0 then (now, u) :: queue else enqueue (now + sleep) u queue).Pairwise
      fun a b => a.1 ≤ b.1 := by
  split
  case isTrue => exact List.pairwise_cons.mpr ⟨hfirst, hqueue⟩
  case isFalse => exact pairwise_enqueue hqueue (now + sleep) u

/-- No two users of a crowd have the same number. -/
theorem Crowd.Follows.nodup_ids {s : Crowd σ} {r : Relay users σ} (h : s.Follows r)
    (hid : ∀ i, (r.user i).id = i) : ((s.due.map (·.2) ++ s.gone).map (·.id)).Nodup := by
  have hids : (List.ofFn r.user).map (·.id) = List.ofFn fun i : Fin users => (i : Nat) := by
    rw [List.map_ofFn]
    exact congrArg List.ofFn (funext hid)
  rw [(h.users_perm.map _).nodup_iff, hids]
  exact List.nodup_ofFn.mpr Fin.val_injective

/-! ## All users -/

/-- Every user is due when its iterations say, the queue is in order and does not lag behind the
clock, and when nobody is left the clock shows when the last user left. -/
structure Crowd.OnTime (load : Load) (begins : Nat → Nat → Duration) (strides : List Stride)
    (s : Crowd σ) : Prop where
  due : ∀ e ∈ s.due, Punctual load (begins e.2.id) strides s.reports.reverse e.1 e.2
  gone : ∀ u ∈ s.gone, ∃ t ≤ s.clock, Punctual load (begins u.id) strides s.reports.reverse t u
  sorted : s.due.Pairwise fun a b => a.1 ≤ b.1
  clock_le : ∀ e ∈ s.due, s.clock ≤ e.1
  last : s.due = [] → s.clock = 0 ∨
    ∃ u ∈ s.gone, Punctual load (begins u.id) strides s.reports.reverse s.clock u

theorem onTime_start (load : Load) (users : Nat) (state : σ) :
    (Crowd.start users state).OnTime load (fun _ _ => 0) [] where
  due := by
    intro e he
    obtain ⟨id, -, rfl⟩ := List.mem_map.mp he
    exact ⟨rfl, by simp [Crowd.start], by simp [User.isBusy], by simp, by simp, fun _ => rfl⟩
  gone := by simp [Crowd.start]
  sorted := by
    refine List.pairwise_map.mpr ?_
    exact List.pairwise_of_forall fun _ _ => le_rfl
  clock_le := fun e _ => Nat.zero_le e.1
  last := fun _ => .inl rfl

variable {load : Load} {service : Service σ} {strides : List Stride}

section Step

variable {s : Crowd σ} {begins : Nat → Nat → Duration} {now : Duration} {u : User}
  {queue : List (Duration × User)}

/-- A user who has left leaves the queue, and it is known since when. -/
theorem Crowd.OnTime.leave (h : s.OnTime load begins strides) (hdue : s.due = (now, u) :: queue) :
    Crowd.OnTime load begins strides
      { s with clock := now, due := queue, gone := u :: s.gone } := by
  have hnow : (now, u) ∈ s.due := by simp [hdue]
  have hclock := h.clock_le _ hnow
  have hlater : ∀ e ∈ queue, e ∈ s.due := fun e he => by simp [hdue, he]
  have hsorted := h.sorted
  rw [hdue, List.pairwise_cons] at hsorted
  refine ⟨fun e he => h.due e (hlater e he), ?_, hsorted.2, hsorted.1, ?_⟩
  · intro v hv
    rcases List.mem_cons.mp hv with rfl | hv
    · exact ⟨now, le_rfl, h.due _ hnow⟩
    · obtain ⟨t, ht, hpunctual⟩ := h.gone v hv
      exact ⟨t, ht.trans hclock, hpunctual⟩
  · exact fun _ => .inr ⟨u, List.mem_cons_self, h.due _ hnow⟩

/-- A user that takes a step is due again when it has slept; the others are due as before, since
what it does and reports is not theirs. -/
theorem Crowd.OnTime.turn (h : s.OnTime load begins strides) (hdue : s.due = (now, u) :: queue)
    (hothers : ∀ v ∈ queue.map (·.2) ++ s.gone, v.id ≠ u.id) {times : Nat → Duration}
    {strides' : List Stride} {turn : Turn σ} {events : List Event}
    (hstrides : ∀ x ∈ strides', x.user = u.id) (hreports : ∀ r ∈ turn.report.toList, r.user = u.id)
    (hid : turn.user.id = u.id)
    (hpunctual : Punctual load times (strides ++ strides')
      (s.reports.reverse ++ turn.report.toList) (now + turn.sleep) turn.user) :
    Crowd.OnTime load (Function.update begins u.id times) (strides ++ strides')
      { clock := now
        state := turn.state
        due := if turn.sleep = 0 then (now, turn.user) :: queue
          else enqueue (now + turn.sleep) turn.user queue
        gone := s.gone
        reports := turn.report.toList ++ s.reports
        events := events } := by
  have hclock := h.clock_le (now, u) (by simp [hdue])
  have hlater : ∀ e ∈ queue, e ∈ s.due := fun e he => by simp [hdue, he]
  have hsorted := h.sorted
  rw [hdue, List.pairwise_cons] at hsorted
  obtain ⟨hfirst, hqueue⟩ := hsorted
  have hkept : ∀ v ∈ queue.map (·.2) ++ s.gone, ∀ t,
      Punctual load (begins v.id) strides s.reports.reverse t v →
        Punctual load (Function.update begins u.id times v.id) (strides ++ strides')
          (s.reports.reverse ++ turn.report.toList) t v := by
    intro v hv t hold
    have hne := hothers v hv
    rw [Function.update_of_ne hne]
    exact hold.of_others (fun x hx => hstrides x hx ▸ hne.symm) fun r hr => hreports r hr ▸ hne.symm
  refine ⟨?_, ?_, pairwise_requeue hfirst hqueue turn.sleep turn.user, ?_, ?_⟩
  · intro e he
    rw [reverse_reports]
    -- It is the user of this turn or one that was due before.
    rcases mem_requeue.mp he with rfl | he
    · rw [hid, Function.update_self]
      exact hpunctual
    · exact hkept e.2 (List.mem_append_left _ (List.mem_map_of_mem he)) e.1 (h.due e (hlater e he))
  · intro v hv
    rw [reverse_reports]
    obtain ⟨t, ht, hgone⟩ := h.gone v hv
    exact ⟨t, ht.trans hclock, hkept v (List.mem_append_right _ hv) t hgone⟩
  · intro e he
    rcases mem_requeue.mp he with rfl | he
    · exact Nat.le_add_right now turn.sleep
    · exact hfirst e he
  · intro hempty
    exact absurd hempty (List.ne_nil_of_mem (mem_requeue.mpr (.inl rfl)))

theorem Crowd.OnTime.step (h : s.OnTime load begins strides) {r : Relay users σ}
    (hfollows : s.Follows r) (htracked : r.Tracked load.plan strides) (service : Service σ) :
    ∃ begins', (s.step load service).OnTime load begins'
      (strides ++ (s.stride? service).toList) := by
  cases hdue : s.due with
  | nil =>
      have hstep : s.step load service = s := by simp [Crowd.step, hdue]
      have hstride : s.stride? service = none := by simp [Crowd.stride?, hdue]
      exact ⟨begins, by simpa [hstep, hstride] using h⟩
  | cons first queue =>
      obtain ⟨now, u⟩ := first
      by_cases hleft : u.hasLeft = true
      · have hstride : s.stride? service = none := by
          simp [Crowd.stride?, hdue, stride?_of_hasLeft hleft]
        rw [step_of_hasLeft hdue hleft, hstride, Option.toList_none, List.append_nil]
        exact ⟨begins, h.leave hdue⟩
      · -- The user is one of the run, and all others have other numbers.
        have hnodup := hfollows.nodup_ids htracked.sound.id_eq
        rw [hdue, List.map_cons, List.cons_append, List.map_cons, List.nodup_cons] at hnodup
        have hothers : ∀ v ∈ queue.map (·.2) ++ s.gone, v.id ≠ u.id :=
          fun v hv hid => hnodup.1 (hid ▸ List.mem_map_of_mem hv)
        obtain ⟨i, rfl⟩ : ∃ i, r.user i = u := by
          have hmem : u ∈ s.due.map (·.2) ++ s.gone := by simp [hdue]
          simpa [List.mem_ofFn] using hfollows.users_perm.subset hmem
        have hsent : r.sent = s.reports.reverse := by
          simp [Relay.sent, hfollows.received_eq, hfollows.channel_eq]
        have hstepped := step_stepped load service now s.state (r.user i)
        obtain ⟨times, hpunctual⟩ := hstepped.punctual (h.due (now, r.user i) (by simp [hdue]))
          (hsent ▸ htracked.ledger i)
          fun r' hr' hid => (htracked.sound.kept i).iteration_lt (hsent ▸ hr') hid
        have hstride : (s.stride? service).toList =
            (((r.user i).move? service s.state).map ((r.user i).stride now)).toList := by
          simp [Crowd.stride?, hdue, User.stride?]
        have hown : ∀ x ∈ (s.stride? service).toList, x.user = (r.user i).id := by
          intro x hx
          rw [hstride, Option.mem_toList] at hx
          obtain ⟨move, -, rfl⟩ := Option.map_eq_some_iff.mp hx
          rfl
        rw [step_of_not_hasLeft hdue hleft rfl]
        exact ⟨_, h.turn hdue hothers hown
          (fun r' hr' => hstepped.report_user r' (Option.mem_toList.mp hr')) hstepped.id_eq
          (hstride ▸ hpunctual)⟩

end Step

/-- After any number of steps everybody is in time. -/
theorem onTime_after (load : Load) (service : Service σ) (users : Nat) (state : σ) (steps : Nat) :
    ∃ (begins : Nat → Nat → Duration) (r : Relay users σ),
      ((Crowd.start users state).after load service steps).OnTime load begins
        (Crowd.strides load service steps (.start users state)) ∧
      ((Crowd.start users state).after load service steps).Follows r ∧
      r.Tracked load.plan (Crowd.strides load service steps (.start users state)) := by
  have hstep : ∀ (strides : List Stride) (s : Crowd σ),
      (∃ (begins : Nat → Nat → Duration) (r : Relay users σ),
        s.OnTime load begins strides ∧ s.Follows r ∧ r.Tracked load.plan strides) →
      ∃ (begins : Nat → Nat → Duration) (r : Relay users σ),
        (s.step load service).OnTime load begins (strides ++ (s.stride? service).toList) ∧
        (s.step load service).Follows r ∧
        r.Tracked load.plan (strides ++ (s.stride? service).toList) := by
    rintro strides s ⟨begins, r, honTime, hfollows, htracked⟩
    obtain ⟨begins', hnext⟩ := honTime.step hfollows htracked service
    obtain ⟨actions, -, hstrides, hfollowed⟩ := hfollows.step load service
    exact ⟨begins', _, hnext, hfollowed, hstrides ▸ htracked.run service actions⟩
  exact after_induction hstep ⟨_, _, onTime_start load users state, follows_start users state,
    Relay.tracked_start load.plan state⟩ steps

/-- At the end of a run everybody has left in time. -/
theorem onTime_run {state : σ} {s : Crowd σ} {fuel : Nat}
    (hrun : Crowd.run load service fuel (.start users state) = some s) :
    ∃ (begins : Nat → Nat → Duration) (r : Relay users σ),
      s.OnTime load begins (Crowd.strides load service fuel (.start users state)) ∧ s.Follows r ∧
      r.Tracked load.plan (Crowd.strides load service fuel (.start users state)) ∧ s.due = [] := by
  obtain ⟨rfl, hdue⟩ := run_eq_some_iff.mp hrun
  obtain ⟨begins, r, honTime, hfollows, htracked⟩ := onTime_after load service users state fuel
  exact ⟨begins, r, honTime, hfollows, htracked, hdue⟩

/-! ## Timetables -/

/-- The gate turns a user away: the deadline has come, or the cap is reached. -/
def Gate.Refuses (gate : Gate) (now : Duration) (completed : Nat) : Prop :=
  (∃ deadline, gate.deadline = some deadline ∧ deadline ≤ now) ∨
    ∃ cap, gate.cap = some cap ∧ cap ≤ completed

theorem refuses_iff {gate : Gate} {now : Duration} {completed : Nat} :
    gate.Refuses now completed ↔ gate.mayStart now completed = false := by
  obtain ⟨deadline, cap⟩ := gate
  cases deadline <;> cases cap <;> simp [Gate.Refuses, Gate.mayStart, or_iff_not_imp_left]

/-- The schedule of a user: its iterations begin at `begins 0`, `begins 1`, …, each when the calls
and the pause of the one before are over, and there are `count` of them, since that is the number
of the first at whose time the gate refuses the user. -/
structure Timetable (load : Load) (strides : List Stride) (reports : List Report) (id : Nat)
    (begins : Nat → Duration) (count : Nat) : Prop where
  begins_zero : begins 0 = 0
  begins_succ : ∀ r ∈ reports, r.user = id → begins (r.iteration + 1) =
    begins r.iteration + load.plan.spent (movesIn strides id r.iteration) +
      load.pauseAfter r.outcome
  count_least : IsLeast {k | load.gate.Refuses (begins k) k} count
  /-- The iterations before `count` are reported, each once, and there are no others. -/
  iterations_eq : iterationsOf id reports = List.range count
  iteration_lt : ∀ x ∈ strides, x.user = id → x.iteration < count
  /-- An iteration goes through the plan to its own outcome. -/
  told : ∀ r ∈ reports, r.user = id →
    load.plan.iteration.Path (movesIn strides id r.iteration) r.outcome ∧
      r.entries = entriesOf (movesIn strides id r.iteration)
  /-- The first move of an iteration is its submission, at the time at which it begins. -/
  submitted : ∀ k < count, ∃ answer later,
    strides.filter (fun x => x.user = id ∧ x.iteration = k) =
      ⟨id, k, begins k, .submit load.plan.request answer⟩ :: later
  in_time : ∀ k < count, ∀ deadline, load.gate.deadline = some deadline → begins k < deadline

/-- The first stride of a reported iteration is its submission, at the time at which it begins. -/
theorem Punctual.first_stride {times : Nat → Duration} {reports : List Report} {due : Duration}
    {u : User} (h : Punctual load times strides reports due u)
    (hledger : Ledger load.plan strides reports u) {r : Report} (hr : r ∈ reports)
    (huser : r.user = u.id) :
    ∃ answer later, strides.filter (fun x => x.user = u.id ∧ x.iteration = r.iteration) =
      ⟨u.id, r.iteration, times r.iteration, .submit load.plan.request answer⟩ :: later := by
  obtain ⟨answer, later, hmoves, -⟩ := (conducted_of_path (hledger.reported r hr huser).1).calls
  obtain ⟨x, rest, hstrides, hmove, -⟩ := List.map_eq_cons_iff.mp hmoves
  have hx : x ∈ strides.filter fun x => x.user = u.id ∧ x.iteration = r.iteration := by
    rw [hstrides]
    exact List.mem_cons_self
  obtain ⟨hmem, hkey⟩ := List.mem_filter.mp hx
  obtain ⟨hid, hiteration⟩ := of_decide_eq_true hkey
  have htime := h.submitted x hmem hid (by rw [hmove]; rfl)
  obtain ⟨id, iteration, time, move⟩ := x
  obtain ⟨rfl, rfl, rfl, rfl⟩ : id = u.id ∧ iteration = r.iteration ∧
      move = .submit load.plan.request answer ∧ time = times iteration :=
    ⟨hid, hiteration, hmove, htime⟩
  exact ⟨answer, rest, hstrides⟩

/-- A user who was refused was refused for the first time. -/
theorem Punctual.count_least {times : Nat → Duration} {reports : List Report} {due : Duration}
    {u : User} (h : Punctual load times strides reports due u) (hstopped : u.activity = .stopped) :
    IsLeast {k | load.gate.Refuses (times k) k} u.completed := by
  refine ⟨refuses_iff.mpr (h.refused hstopped), ?_⟩
  intro k hk
  by_contra hlt
  have hadmitted := h.admitted k (Nat.lt_add_right _ (Nat.lt_of_not_le hlt))
  rw [refuses_iff.mp hk] at hadmitted
  exact Bool.false_ne_true hadmitted

/-- A user who was refused has kept to its timetable, and it left at the end of that. -/
theorem Punctual.timetable {times : Nat → Duration} {reports : List Report} {due : Duration}
    {u : User} (h : Punctual load times strides reports due u)
    (hledger : Ledger load.plan strides reports u) {admissions : Nat}
    (hkept : Kept load.plan reports admissions u) (hstopped : u.activity = .stopped) :
    Timetable load strides reports u.id times u.completed ∧ due = times u.completed := by
  have hidle : u.isBusy = false := by simp [User.isBusy, hstopped]
  refine ⟨⟨h.zero, h.succ, h.count_least hstopped, hkept.inOrder, ?_, hledger.reported, ?_, ?_⟩,
    h.now_eq hledger hidle⟩
  · intro x hx hid
    obtain ⟨r, hr, huser, hiteration⟩ := hledger.mem_reports hkept hidle hx hid
    rw [← hiteration]
    exact hkept.iteration_lt hr huser
  · intro k hk
    -- Iteration `k` is over, so it is reported and has gone through the whole plan.
    obtain ⟨r, hr, huser, rfl⟩ : ∃ r ∈ reports, r.user = u.id ∧ r.iteration = k := by
      rwa [← mem_iterationsOf, hkept.inOrder, List.mem_range]
    exact h.first_stride hledger hr huser
  · intro k hk deadline hdeadline
    have hadmitted := h.admitted k (Nat.lt_add_right _ hk)
    simp only [Gate.mayStart, hdeadline, Bool.and_eq_true, Option.all_some, decide_eq_true_eq]
      at hadmitted
    exact hadmitted.1

/-- With any number of users, on any service, under any gate: if a run comes to its end and nobody
is lost, every user has a timetable of its own and has kept to it.  All of its iterations, and no
others, are counted, and the run has lasted until the last user left, the pause after its last
iteration included. -/
theorem crowd_timetable (load : Load) (service : Service σ) (users : Nat) (state : σ) {fuel : Nat}
    {s : Crowd σ} (hrun : Crowd.run load service fuel (.start users state) = some s)
    (hlost : ∀ u ∈ s.gone, u.isLost = false) :
    ∃ (begins : Fin users → Nat → Duration) (count : Fin users → Nat),
      (∀ i : Fin users, Timetable load (Crowd.strides load service fuel (.start users state))
        s.reports.reverse i (begins i) (count i)) ∧
      (Aggregate.ofCrowd users s).iterations = ∑ i, count i ∧
      (Aggregate.ofCrowd users s).elapsed = Finset.univ.sup fun i => begins i (count i) := by
  obtain ⟨times, r, honTime, hfollows, htracked, hdue⟩ := onTime_run hrun
  have hsent : r.sent = s.reports.reverse := by
    simp [Relay.sent, hfollows.received_eq, hfollows.channel_eq]
  have hgone : s.gone.Perm (List.ofFn r.user) := by simpa [hdue] using hfollows.users_perm
  -- Whoever is gone has left by its own timetable.
  have hleft : ∀ (i : Fin users) (t : Duration),
      Punctual load (times i) (Crowd.strides load service fuel (.start users state))
        s.reports.reverse t (r.user i) →
        Timetable load (Crowd.strides load service fuel (.start users state)) s.reports.reverse i
          (times i) (r.user i).completed ∧ t = times i (r.user i).completed := by
    intro i t hpunctual
    have hmem : r.user i ∈ s.gone := hgone.symm.subset (List.mem_ofFn.mpr ⟨i, rfl⟩)
    have hstopped := stopped_of_hasLeft (hfollows.left _ hmem) (hlost _ hmem)
    have htimetable := hpunctual.timetable (hsent ▸ htracked.ledger i)
      (hsent ▸ htracked.sound.kept i) hstopped
    rwa [htracked.sound.id_eq] at htimetable
  have hends : ∀ i : Fin users, ∃ t ≤ s.clock,
      Punctual load (times i) (Crowd.strides load service fuel (.start users state))
        s.reports.reverse t (r.user i) := by
    intro i
    have hend := honTime.gone _ (hgone.symm.subset (List.mem_ofFn.mpr ⟨i, rfl⟩))
    rwa [htracked.sound.id_eq] at hend
  refine ⟨fun i => times i, fun i => (r.user i).completed, ?_, ?_, ?_⟩
  · intro i
    obtain ⟨t, -, hpunctual⟩ := hends i
    exact (hleft i t hpunctual).1
  · have hknown : ∀ r' ∈ s.reports.reverse, r'.user < users := hsent ▸ htracked.sound.known
    have htotal : (Aggregate.ofCrowd users s).iterations = s.reports.reverse.length :=
      (Aggregate.iterations_foldl_record { users } s.reports.reverse).trans (Nat.zero_add _)
    rw [htotal, length_eq_sum_iterationsOf hknown]
    refine Finset.sum_congr rfl fun i _ => ?_
    have hinOrder := (htracked.sound.kept i).inOrder
    rw [hsent, htracked.sound.id_eq] at hinOrder
    rw [hinOrder, List.length_range]
  · refine le_antisymm ?_ (Finset.sup_le fun i _ => ?_)
    · -- The clock shows when the last user left, and that one's end is at most the latest.
      rcases honTime.last hdue with hclock | ⟨u, hu, hpunctual⟩
      · exact hclock.trans_le (Nat.zero_le _)
      · obtain ⟨i, rfl⟩ := List.mem_ofFn.mp (hgone.subset hu)
        rw [htracked.sound.id_eq] at hpunctual
        exact (hleft i _ hpunctual).2.trans_le
          (Finset.le_sup (f := fun i : Fin users => times i (r.user i).completed)
            (Finset.mem_univ i))
    · obtain ⟨t, ht, hpunctual⟩ := hends i
      exact (hleft i t hpunctual).2.symm.trans_le ht

/-- A deadline twenty nanoseconds after the start, and a pause of ten. -/
def pacedLoad : Load := ⟨⟨⟨"hi", ""⟩, 5, 2⟩, 10, ⟨some 20, none⟩⟩

/-- The first submission is answered with an error, and all others are throttled. -/
def pacedScripts : Scripts :=
  .fresh ⟨[⟨3, some (.ok ⟨500, ""⟩)⟩], some ⟨7, some (.ok ⟨429, ""⟩)⟩⟩ ⟨[], none⟩

/-- Two users: the first one pauses once and is refused just at the deadline, the second one never
pauses and is refused after it. -/
theorem crowd_timetable_paced :
    ∃ s, Crowd.run pacedLoad scripted 60 (.start 2 pacedScripts) = some s ∧
      (∀ u ∈ s.gone, u.isLost = false) ∧ s.reports.length = 5 ∧ s.clock = 21 ∧
      ∃ (begins : Fin 2 → Nat → Duration) (count : Fin 2 → Nat),
        (∀ i : Fin 2, Timetable pacedLoad
          (Crowd.strides pacedLoad scripted 60 (.start 2 pacedScripts)) s.reports.reverse i
          (begins i) (count i)) ∧
        (Aggregate.ofCrowd 2 s).iterations = ∑ i, count i ∧
        (Aggregate.ofCrowd 2 s).elapsed = Finset.univ.sup fun i => begins i (count i) := by
  have hfacts : (Crowd.run pacedLoad scripted 60 (.start 2 pacedScripts)).map
      (fun s => (s.gone.all fun u => !u.isLost, s.reports.length, s.clock)) =
      some (true, 5, 21) := by
    decide +kernel
  obtain ⟨s, hrun, hfacts⟩ := Option.map_eq_some_iff.mp hfacts
  simp only [Prod.mk.injEq, List.all_eq_true, Bool.not_eq_true'] at hfacts
  obtain ⟨hlost, hreports, hclock⟩ := hfacts
  exact ⟨s, hrun, hlost, hreports, hclock,
    crowd_timetable pacedLoad scripted 2 pacedScripts hrun hlost⟩

/-- One iteration for each user, and a pause of thirty years and a millisecond. -/
def patientLoad : Load := ⟨⟨⟨"hi", ""⟩, 5, 2⟩, Duration.ofMillis 946080000001, ⟨none, some 1⟩⟩

/-- Every submission is answered with an error. -/
def erringScripts : Scripts := .fresh ⟨[], some ⟨0, some (.ok ⟨500, ""⟩)⟩⟩ ⟨[], none⟩

/-- The longest sleep is shorter than some pauses: if the only iteration of the only user were to be
followed by the whole pause, the run would be over a millisecond later than it is. -/
theorem pause_cut_short :
    ∃ s, Crowd.run patientLoad scripted 10 (.start 1 erringScripts) = some s ∧
      (∀ u ∈ s.gone, u.isLost = false) ∧ iterationsOf 0 s.reports.reverse = List.range 1 ∧
      ∀ begins : Nat → Duration, begins 0 = 0 →
        (∀ r ∈ s.reports, begins (r.iteration + 1) = begins r.iteration +
          patientLoad.plan.spent
            (movesIn (Crowd.strides patientLoad scripted 10 (.start 1 erringScripts)) 0
              r.iteration) +
          if r.outcome.pausesAfter then patientLoad.pause else 0) →
        (Aggregate.ofCrowd 1 s).elapsed ≠ begins 1 := by
  have hfacts : (Crowd.run patientLoad scripted 10 (.start 1 erringScripts)).map
      (fun s => (s.gone.all fun u => !u.isLost,
        s.reports.map fun r => (r.user, r.iteration, r.outcome), s.clock)) =
        some (true, [(0, 0, .submitUnexpected)], Duration.ofMillis 946080000000) := by
    decide +kernel
  have hspent : patientLoad.plan.spent
      (movesIn (Crowd.strides patientLoad scripted 10 (.start 1 erringScripts)) 0 0) = 0 := by
    decide +kernel
  obtain ⟨s, hrun, hfacts⟩ := Option.map_eq_some_iff.mp hfacts
  simp only [Prod.mk.injEq, List.all_eq_true, Bool.not_eq_true'] at hfacts
  obtain ⟨hlost, hreports, hclock⟩ := hfacts
  obtain ⟨r, rest, hcons, hr, hrest⟩ := List.map_eq_cons_iff.mp hreports
  obtain rfl := List.map_eq_nil_iff.mp hrest
  obtain ⟨user, iteration, outcome, entries⟩ := r
  obtain ⟨rfl, rfl, rfl⟩ : user = 0 ∧ iteration = 0 ∧ outcome = .submitUnexpected := by
    simpa using hr
  refine ⟨s, hrun, hlost, by simp [hcons, iterationsOf], ?_⟩
  intro begins hzero hsucc helapsed
  have hone := hsucc _ (hcons ▸ List.mem_cons_self)
  have hpauses : Outcome.submitUnexpected.pausesAfter = true := by decide
  rw [hspent, hzero, if_pos hpauses] at hone
  have hclaimed : s.clock = 0 + 0 + patientLoad.pause := helapsed.trans hone
  rw [hclock] at hclaimed
  exact absurd hclaimed (by decide)

end LoadProbe.Run
