import LoadProbe.Proofs.Crowd.Strides

/-!
# The schedule of a crowd

A crowd lets the user who is due first take a step and keeps what it reports.  That is a run with a
channel in which every turn is followed by a receipt.

* `Run.Crowd.after` is a crowd after some steps, and `Run.run_eq_some_iff` says that a run is over
  when nobody is left.  `Run.after_induction` is the induction over the steps of a crowd,
  `Run.run_induction` that over the steps of a run.
* `Run.Crowd.Follows` relates a crowd to such a run; `Run.Crowd.Follows.step` keeps the two together
  for a step of the crowd, `Run.Crowd.Follows.run` for a whole run.
* `Run.crowd_followed`: a run of a crowd that is over followed a schedule, and it settles with the
  run that followed it; `Run.Crowd.Settled` says what that means.  Both make the same moves.
-/

namespace LoadProbe.Run

open LoadProbe.Metrics

variable {σ : Type} {users : Nat}

/-- The queue has the same users whether one is put in its place or in front. -/
theorem enqueue_perm (time : Duration) (u : User) (queue : List (Duration × User)) :
    (enqueue time u queue).Perm ((time, u) :: queue) := by
  induction queue with
  | nil => exact .refl _
  | cons first queue ih =>
      obtain ⟨t, v⟩ := first
      unfold enqueue
      split
      · exact (ih.cons (t, v)).trans (.swap (time, u) (t, v) queue)
      · exact .refl _

/-- Wherever a user is put back, the queue has the users it had and this one. -/
theorem requeue_perm (now sleep : Duration) (u : User) (queue : List (Duration × User)) :
    ((if sleep = 0 then (now, u) :: queue else enqueue (now + sleep) u queue).map (·.2)).Perm
      (u :: queue.map (·.2)) := by
  split
  case isTrue => exact .refl _
  case isFalse => exact (enqueue_perm (now + sleep) u queue).map _

/-- Exchanging one value of a function exchanges one of its values in a list of them all. -/
theorem perm_ofFn_update {α : Type} {f : Fin users → α} {i : Fin users} {rest : List α}
    (h : (f i :: rest).Perm (List.ofFn f)) (x : α) :
    (x :: rest).Perm (List.ofFn (Function.update f i x)) := by
  -- Split off the place that changes; `f` is the same as before in all others.
  have hsplit : (List.finRange users).Perm (i :: (List.finRange users).erase i) :=
    List.perm_cons_erase (List.mem_finRange i)
  have hkept : ((List.finRange users).erase i).map (Function.update f i x) =
      ((List.finRange users).erase i).map f := by
    apply List.map_congr_left
    intro j hj
    have hji : j ≠ i := ((List.nodup_finRange users).mem_erase_iff.mp hj).1
    exact Function.update_of_ne hji x f
  have hrest : rest.Perm (((List.finRange users).erase i).map f) := by
    rw [List.ofFn_eq_map] at h
    exact (h.trans (hsplit.map f)).cons_inv
  have hall := hsplit.map (Function.update f i x)
  rw [List.map_cons, Function.update_self, hkept] at hall
  rw [List.ofFn_eq_map]
  exact (hrest.cons x).trans hall.symm

/-- The crowd has the users and the service of the run, all reports were received, and those who
are no longer due have left. -/
structure Crowd.Follows (s : Crowd σ) (r : Relay users σ) : Prop where
  users_perm : (s.due.map (·.2) ++ s.gone).Perm (List.ofFn r.user)
  left : ∀ u ∈ s.gone, u.hasLeft = true
  state_eq : r.state = s.state
  received_eq : r.received = s.reports.reverse
  channel_eq : r.channel = []

theorem follows_start (users : Nat) (state : σ) :
    (Crowd.start users state).Follows (Relay.start users state) where
  users_perm := by
    have husers : ((Crowd.start users state).due.map (·.2) ++ (Crowd.start users state).gone) =
        List.ofFn (Relay.start users state).user := by
      simp only [Crowd.start, Relay.start, List.append_nil, List.ofFn_eq_map,
        ← List.map_coe_finRange_eq_range, List.map_map]
      rfl
    rw [husers]
  left := by simp [Crowd.start]
  state_eq := rfl
  received_eq := rfl
  channel_eq := rfl

/-- A turn and a receipt on an empty channel leave the channel empty. -/
theorem turn_receive {r : Relay users σ} (hchannel : r.channel = []) (load : Load)
    (service : Service σ) (i : Fin users) (gate : Gate) (now : Duration) {turn : Turn σ}
    (hturn : (r.user i).step { load with gate } service now r.state = turn) :
    (r.turn load service i gate now).receive.user = Function.update r.user i turn.user ∧
      (r.turn load service i gate now).receive.state = turn.state ∧
      (r.turn load service i gate now).receive.received = r.received ++ turn.report.toList ∧
      (r.turn load service i gate now).receive.channel = [] := by
  cases hreport : turn.report with
  | none => simp [Relay.turn, Relay.receive, hturn, hchannel, hreport]
  | some report => simp [Relay.turn, Relay.receive, hturn, hchannel, hreport]

/-- The stride that comes of the next step. -/
def Crowd.stride? (service : Service σ) (s : Crowd σ) : Option Stride :=
  match s.due with
  | [] => none
  | (now, u) :: _ => u.stride? service now s.state

/-- The strides that come of a number of steps, in order. -/
def Crowd.strides (load : Load) (service : Service σ) : Nat → Crowd σ → List Stride
  | 0, _ => []
  | steps + 1, s => (s.stride? service).toList ++ strides load service steps (s.step load service)

/-- The crowd after a number of steps. -/
def Crowd.after (load : Load) (service : Service σ) : Nat → Crowd σ → Crowd σ
  | 0, s => s
  | steps + 1, s => after load service steps (s.step load service)

/-- Whoever has left makes no more moves. -/
theorem stride?_of_hasLeft {u : User} (hleft : u.hasLeft = true) (service : Service σ)
    (now : Duration) (state : σ) : u.stride? service now state = none := by
  rcases hasLeft_iff.mp hleft with hactivity | hactivity
  · simp [User.stride?, User.move?, hactivity]
  · simp [User.stride?, User.move?, hactivity]

/-- Without users nothing happens any more. -/
theorem strides_eq_nil {s : Crowd σ} (hdue : s.due = []) (load : Load) (service : Service σ)
    (steps : Nat) : s.strides load service steps = [] := by
  have hstep : s.step load service = s := by simp [Crowd.step, hdue]
  induction steps with
  | zero => rfl
  | succ steps ih => simp [Crowd.strides, Crowd.stride?, hdue, hstep, ih]

theorem after_eq_self {s : Crowd σ} (hdue : s.due = []) (load : Load) (service : Service σ)
    (steps : Nat) : s.after load service steps = s := by
  have hstep : s.step load service = s := by simp [Crowd.step, hdue]
  induction steps with
  | zero => rfl
  | succ steps ih => rw [Crowd.after, hstep, ih]

theorem after_add (load : Load) (service : Service σ) (s : Crowd σ) (first second : Nat) :
    s.after load service (first + second) =
      (s.after load service first).after load service second := by
  induction first generalizing s with
  | zero => rw [Nat.zero_add, Crowd.after]
  | succ first ih => rw [Nat.succ_add, Crowd.after, ih, Crowd.after]

theorem strides_add (load : Load) (service : Service σ) (s : Crowd σ) (first second : Nat) :
    s.strides load service (first + second) =
      s.strides load service first ++
        (s.after load service first).strides load service second := by
  induction first generalizing s with
  | zero => rw [Nat.zero_add, Crowd.strides, List.nil_append, Crowd.after]
  | succ first ih =>
      rw [Nat.succ_add, Crowd.strides, ih, Crowd.strides, List.append_assoc, Crowd.after]

/-- A run is over after so many steps if nobody is left then. -/
theorem run_eq_some_iff {load : Load} {service : Service σ} {fuel : Nat} {s s' : Crowd σ} :
    Crowd.run load service fuel s = some s' ↔ s.after load service fuel = s' ∧ s'.due = [] := by
  induction fuel generalizing s with
  | zero =>
      unfold Crowd.run Crowd.after
      split
      case isTrue hdue =>
          rw [Option.some_inj]
          exact ⟨fun h => ⟨h, h ▸ List.isEmpty_iff.mp hdue⟩, And.left⟩
      case isFalse hdue =>
          refine ⟨fun h => (nomatch h), ?_⟩
          rintro ⟨rfl, hnone⟩
          exact absurd (List.isEmpty_iff.mpr hnone) hdue
  | succ fuel ih =>
      unfold Crowd.run
      split
      case isTrue hdue =>
          have hdue := List.isEmpty_iff.mp hdue
          rw [after_eq_self hdue, Option.some_inj]
          exact ⟨fun h => ⟨h, h ▸ hdue⟩, And.left⟩
      case isFalse => exact ih

/-- When a run is over nothing happens any more. -/
theorem after_of_run {load : Load} {service : Service σ} {fuel : Nat} {s s' : Crowd σ}
    (hrun : Crowd.run load service fuel s = some s') {steps : Nat} (hsteps : fuel ≤ steps) :
    s.after load service steps = s' ∧
      s.strides load service steps = s.strides load service fuel := by
  obtain ⟨more, rfl⟩ := Nat.exists_eq_add_of_le hsteps
  obtain ⟨hafter, hdue⟩ := run_eq_some_iff.mp hrun
  rw [after_add, strides_add, hafter, after_eq_self hdue, strides_eq_nil hdue, List.append_nil]
  exact ⟨rfl, rfl⟩

/-- What a turn reports comes after the reports before it. -/
theorem reverse_reports (turn : Turn σ) (reports : List Report) :
    (turn.report.toList ++ reports).reverse = reports.reverse ++ turn.report.toList := by
  cases turn.report <;> simp

section Step

variable {s : Crowd σ} {now : Duration} {u : User} {queue : List (Duration × User)}

theorem step_of_hasLeft (hdue : s.due = (now, u) :: queue) (hleft : u.hasLeft = true) (load : Load)
    (service : Service σ) :
    s.step load service = { s with clock := now, due := queue, gone := u :: s.gone } := by
  simp [Crowd.step, hdue, hleft]

theorem step_of_not_hasLeft (hdue : s.due = (now, u) :: queue) (hleft : ¬u.hasLeft = true)
    {load : Load} {service : Service σ} {turn : Turn σ}
    (hturn : u.step load service now s.state = turn) :
    s.step load service =
      { clock := now
        state := turn.state
        due := if turn.sleep = 0 then (now, turn.user) :: queue
          else enqueue (now + turn.sleep) turn.user queue
        gone := s.gone
        reports := turn.report.toList ++ s.reports
        events := turn.event.toList ++ s.events } := by
  simp [Crowd.step, hdue, hleft, hturn]

end Step

/-- A step of the crowd is a turn and a receipt, or nothing if the user leaves the queue. -/
theorem Crowd.Follows.step {s : Crowd σ} {r : Relay users σ} (h : s.Follows r) (load : Load)
    (service : Service σ) :
    ∃ actions : List (Action users), (∀ action ∈ actions, action.Asks load.gate) ∧
      r.strides load service actions = (s.stride? service).toList ∧
      (s.step load service).Follows (r.run load service actions) := by
  cases hdue : s.due with
  | nil => exact ⟨[], by simp, by simp [Relay.strides, Crowd.stride?, hdue],
      by simpa [Crowd.step, hdue] using h⟩
  | cons first queue =>
      obtain ⟨now, u⟩ := first
      have hperm : (u :: (queue.map (·.2) ++ s.gone)).Perm (List.ofFn r.user) := by
        simpa [hdue] using h.users_perm
      by_cases hleft : u.hasLeft = true
      · refine ⟨[], by simp, ?_, ?_⟩
        · simp [Relay.strides, Crowd.stride?, hdue, stride?_of_hasLeft hleft]
        rw [step_of_hasLeft hdue hleft]
        exact ⟨List.perm_middle.trans hperm, List.forall_mem_cons.mpr ⟨hleft, h.left⟩, h.state_eq,
          h.received_eq, h.channel_eq⟩
      · obtain ⟨i, rfl⟩ : ∃ i, r.user i = u := by
          simpa [List.mem_ofFn] using hperm.subset List.mem_cons_self
        refine ⟨[.turn i load.gate now, .receive], by simp [Action.Asks], ?_, ?_⟩
        · simp [Relay.strides, Relay.stride?, Crowd.stride?, hdue, h.state_eq]
        -- Both sides take the same step, since the user and the state of the service agree.
        generalize hturn : (r.user i).step load service now s.state = turn
        obtain ⟨huser, hstate, hreceived, hchannel⟩ :=
          turn_receive h.channel_eq load service i load.gate now (h.state_eq ▸ hturn)
        have hrequeued := requeue_perm now turn.sleep turn.user queue
        rw [step_of_not_hasLeft hdue hleft hturn]
        refine ⟨?_, h.left, hstate, ?_, hchannel⟩
        · rw [run_cons, run_cons, run_nil, Relay.step, Relay.step, huser]
          exact (hrequeued.append_right s.gone).trans (perm_ofFn_update hperm turn.user)
        · rw [run_cons, run_cons, run_nil, Relay.step, Relay.step, hreceived, reverse_reports,
            h.received_eq]

/-- Whatever holds of a crowd and its moves so far and is kept by every step holds after any number
of steps. -/
theorem after_induction {load : Load} {service : Service σ} {P : List Stride → Crowd σ → Prop}
    (hstep : ∀ strides s, P strides s →
      P (strides ++ (s.stride? service).toList) (s.step load service))
    {strides : List Stride} {s : Crowd σ} (h : P strides s) (steps : Nat) :
    P (strides ++ s.strides load service steps) (s.after load service steps) := by
  induction steps generalizing s strides with
  | zero => simpa [Crowd.strides, Crowd.after] using h
  | succ steps ih =>
      rw [Crowd.strides, ← List.append_assoc]
      exact ih (hstep strides s h)

/-- Whatever holds of a crowd and its moves so far and is kept by every step holds at the end of a
run, when nobody is left. -/
theorem run_induction {load : Load} {service : Service σ} {P : List Stride → Crowd σ → Prop}
    (hstep : ∀ strides s, P strides s →
      P (strides ++ (s.stride? service).toList) (s.step load service))
    {strides : List Stride} {s s' : Crowd σ} (h : P strides s) {fuel : Nat}
    (hrun : Crowd.run load service fuel s = some s') :
    P (strides ++ s.strides load service fuel) s' ∧ s'.due = [] := by
  obtain ⟨rfl, hdue⟩ := run_eq_some_iff.mp hrun
  exact ⟨after_induction hstep h fuel, hdue⟩

/-- A run of the crowd that is over followed a schedule. -/
theorem Crowd.Follows.run {s s' : Crowd σ} {r : Relay users σ} (h : s.Follows r) {load : Load}
    {service : Service σ} {fuel : Nat} (hrun : Crowd.run load service fuel s = some s') :
    ∃ actions : List (Action users), (∀ action ∈ actions, action.Asks load.gate) ∧
      r.strides load service actions = s.strides load service fuel ∧
      s'.Follows (r.run load service actions) ∧ s'.due = [] := by
  have hstep : ∀ (strides : List Stride) (s : Crowd σ),
      (∃ actions : List (Action users), (∀ action ∈ actions, action.Asks load.gate) ∧
        r.strides load service actions = strides ∧ s.Follows (r.run load service actions)) →
      ∃ actions : List (Action users), (∀ action ∈ actions, action.Asks load.gate) ∧
        r.strides load service actions = strides ++ (s.stride? service).toList ∧
        (s.step load service).Follows (r.run load service actions) := by
    rintro strides s ⟨first, hfirst, rfl, hfollows⟩
    obtain ⟨later, hlater, hstrides, hnext⟩ := hfollows.step load service
    refine ⟨first ++ later, ?_, by rw [strides_append, hstrides], by rwa [run_append]⟩
    intro action haction
    rcases List.mem_append.mp haction with haction | haction
    · exact hfirst action haction
    · exact hlater action haction
  obtain ⟨⟨actions, hasks, hstrides, hfollows⟩, hdue⟩ :=
    run_induction hstep ⟨[], by simp, rfl, h⟩ hrun
  exact ⟨actions, hasks, hstrides, hfollows, hdue⟩

/-- The run is over, and the crowd ended with its users, its reports in their order and its
totals. -/
structure Crowd.Settled (s : Crowd σ) (r : Relay users σ) : Prop where
  closed : r.closed = true
  users_perm : s.gone.Perm (List.ofFn r.user)
  received_eq : r.received = s.reports.reverse
  metrics_eq : r.metrics.finish s.clock = Aggregate.ofCrowd users s

/-- A run of a crowd that is over followed a schedule at the end of which the channel was closed. -/
theorem crowd_followed {load : Load} {service : Service σ} {fuel : Nat} {state : σ} {s : Crowd σ}
    (hrun : Crowd.run load service fuel (.start users state) = some s) :
    ∃ actions : List (Action users), (∀ action ∈ actions, action.Asks load.gate) ∧
      s.Settled (Relay.following load service state actions) ∧
      (Relay.following load service state actions).state = s.state ∧
      (Relay.start users state).strides load service actions =
        Crowd.strides load service fuel (.start users state) := by
  obtain ⟨actions, hasks, hstrides, hfollows, hdue⟩ := (follows_start users state).run hrun
  rw [← Relay.following] at hfollows
  have hfolded := (sound_run load service state actions).folded
  have hperm : s.gone.Perm (List.ofFn (Relay.following load service state actions).user) := by
    simpa [hdue] using hfollows.users_perm
  have hclose : Relay.following load service state (actions ++ [.close]) =
      { Relay.following load service state actions with closed := true } := by
    rw [Relay.following, run_append, run_cons, run_nil, Relay.step, Relay.close, if_pos]
    · rfl
    · refine ⟨List.isEmpty_iff.mpr hfollows.channel_eq, ?_⟩
      intro i
      apply hfollows.left
      exact hperm.symm.subset (List.mem_ofFn.mpr ⟨i, rfl⟩)
  refine ⟨actions ++ [.close], ?_, ?_, ?_, ?_⟩
  · intro action haction
    rcases List.mem_append.mp haction with haction | haction
    · exact hasks action haction
    · obtain rfl := List.mem_singleton.mp haction
      trivial
  · rw [hclose]
    exact ⟨rfl, hperm, hfollows.received_eq,
      by rw [Aggregate.ofCrowd, hfolded]; exact hfollows.received_eq ▸ rfl⟩
  · rw [hclose]
    exact hfollows.state_eq
  · rw [strides_append, hstrides]
    simp [Relay.strides, Relay.stride?]

/-- The schedule that a crowd followed, and how the run with it settles. -/
theorem crowd_schedule {load : Load} {service : Service σ} {fuel : Nat} {state : σ} {s : Crowd σ}
    (hrun : Crowd.run load service fuel (.start users state) = some s) :
    ∃ actions : List (Action users), (∀ action ∈ actions, action.Asks load.gate) ∧
      s.Settled (Relay.following load service state actions) := by
  obtain ⟨actions, hasks, hsettled, -⟩ := crowd_followed hrun
  exact ⟨actions, hasks, hsettled⟩

end LoadProbe.Run
