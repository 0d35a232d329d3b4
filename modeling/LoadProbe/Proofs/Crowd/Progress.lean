import LoadProbe.Proofs.Crowd.Timetable
import LoadProbe.Proofs.Crowd.Traffic
import LoadProbe.Proofs.Iteration.Bounds

/-!
# The progress of a crowd

Every step of a crowd is progress: a user makes a move, or goes on to its next activity, or leaves
the queue.  Moves are made in iterations, and no iteration has many.  So a run in which no user
begins more than some number of iterations comes to its end.

* `Run.Crowd.progress` measures what is not a move; `Run.progress_after` says that steps are moves
  and progress.
* `Run.Account.calls_le` bounds the calls and moves of a user by the iterations that it has begun.
* `Run.run_ends` says when a run comes to its end.
-/

namespace LoadProbe.Run

open LoadProbe.Job LoadProbe.Metrics

variable {σ : Type}

/-! ## Steps are progress -/

/-- All users of a crowd: those who are due, and those who have left. -/
def Crowd.users (s : Crowd σ) : List User := s.due.map (·.2) ++ s.gone

/-- The number of iterations that a user has begun. -/
def User.started (u : User) : Nat := u.completed + if u.isBusy then 1 else 0

theorem completed_le_started (u : User) : u.completed ≤ u.started := Nat.le_add_right _ _

theorem started_le (u : User) : u.started ≤ u.completed + 1 := by
  unfold User.started
  split <;> simp

/-- How far a user has come, moves apart. -/
def User.progress (u : User) : Nat :=
  2 * u.completed + match u.activity with
    | .deciding => 0
    | .working .. | .stopped => 1
    | .aborted => 2

/-- How far a crowd has come, moves apart. -/
def Crowd.progress (s : Crowd σ) : Nat := (s.users.map User.progress).sum + s.gone.length

theorem progress_le (u : User) : u.progress ≤ 2 * u.started + 1 := by
  cases hactivity : u.activity <;> simp [User.progress, User.started, User.isBusy, hactivity]

variable {load : Load} {service : Service σ}

/-- A step of a user who has not left is a move or one more step ahead. -/
theorem Stepped.progress {now : Duration} {state : σ} {u : User} {move : Option Move}
    {turn : Turn σ} (h : Stepped load service now state u move turn) (hleft : ¬u.hasLeft = true) :
    turn.user.progress + move.toList.length = u.progress + 1 := by
  cases h with
  | admitted hactivity | refused hactivity | moved _ _ _ _ _ _ hactivity | lost _ _ _ _ hactivity =>
      simp [User.progress, hactivity]
  | reported outcome entries hactivity =>
      simp only [User.progress, hactivity, Option.toList_none, List.length_nil]
      omega
  | idle hidle => exact absurd hidle hleft

theorem progress_step {s : Crowd σ} (hdue : s.due ≠ []) :
    (s.step load service).progress + (s.stride? service).toList.length = s.progress + 1 := by
  obtain ⟨⟨now, u⟩, queue, hcons⟩ := List.exists_cons_of_ne_nil hdue
  by_cases hleft : u.hasLeft = true
  · -- The user goes from the queue to those who are gone, and that is the step ahead.
    have hstride : s.stride? service = none := by
      simp [Crowd.stride?, hcons, stride?_of_hasLeft hleft]
    rw [step_of_hasLeft hcons hleft, hstride]
    simp only [Crowd.progress, Crowd.users, hcons, List.map_cons, List.map_append, List.sum_append,
      List.sum_cons, List.length_cons, Option.toList_none, List.length_nil]
    omega
  · have hprogress := (step_stepped load service now s.state u).progress hleft
    have hstride : (s.stride? service).toList.length = (u.move? service s.state).toList.length := by
      cases hmove : u.move? service s.state <;>
        simp [Crowd.stride?, hcons, User.stride?, hmove]
    rw [step_of_not_hasLeft hcons hleft rfl, hstride]
    -- It does not matter for the sum where in the queue the user goes.
    have hqueue := ((requeue_perm now (u.step load service now s.state).sleep
      (u.step load service now s.state).user queue).map User.progress).sum_eq
    simp only [Crowd.progress, Crowd.users, hcons, List.map_cons, List.map_append, List.sum_append,
      List.sum_cons] at hqueue ⊢
    omega

/-- While somebody is left, every step is a move or progress. -/
theorem progress_after {s : Crowd σ} {steps : Nat} (hdue : (s.after load service steps).due ≠ []) :
    (s.after load service steps).progress + (s.strides load service steps).length =
      s.progress + steps := by
  induction steps generalizing s with
  | zero => rfl
  | succ steps ih =>
      -- Somebody is left now, as nobody comes back.
      have hleft : s.due ≠ [] := by
        intro hnone
        rw [after_eq_self hnone] at hdue
        exact hdue hnone
      have hfirst : (s.step load service).progress + (s.stride? service).toList.length =
          s.progress + 1 := progress_step hleft
      have hlater := ih hdue
      rw [Crowd.after, Crowd.strides, List.length_append]
      omega

/-! ## Iterations are short -/

theorem length_le_of_classes {α : Type} {items : List α} (key : α → Nat) {keys most : Nat}
    (hkeys : ∀ a ∈ items, key a < keys)
    (hclass : ∀ k < keys, (items.filter fun a => key a = k).length ≤ most) :
    items.length ≤ keys * most := by
  have hgroups := (regroup_perm key (List.nodup_range (n := keys)) fun a ha =>
    List.mem_range.mpr (hkeys a ha)).length_eq
  rw [List.length_flatMap] at hgroups
  have hsum := List.sum_le_card_nsmul
    ((List.range keys).map fun k => (items.filter fun a => key a = k).length) most
    (List.forall_mem_map.mpr fun k hk => hclass k (List.mem_range.mp hk))
  rwa [List.length_map, List.length_range, smul_eq_mul, hgroups] at hsum

/-- What a user did in all of its iterations, in order. -/
def movesBy (strides : List Stride) (id : Nat) : List Move :=
  (strides.filter fun x => x.user = id).map (·.move)

/-- What is known of a user who is due at the time `due`: its times, what it has done and what it
has reported. -/
structure Account (load : Load) (begins : Nat → Duration) (strides : List Stride)
    (reports : List Report) (due : Duration) (u : User) : Prop where
  punctual : Punctual load begins strides reports due u
  ledger : Ledger load.plan strides reports u
  kept : ∃ admissions, Kept load.plan reports admissions u

section User

variable {plan : Plan} {begins : Nat → Duration} {strides : List Stride} {reports : List Report}
  {due : Duration} {u : User}

/-- A user has reported the iterations before the one that it is at. -/
theorem Account.exists_report (h : Account load begins strides reports due u) {k : Nat}
    (hk : k < u.completed) : ∃ r ∈ reports, r.user = u.id ∧ r.iteration = k := by
  obtain ⟨admissions, hkept⟩ := h.kept
  rwa [← mem_iterationsOf, hkept.inOrder, List.mem_range]

/-- Every move of a user belongs to an iteration that it has begun. -/
theorem Ledger.lt_started (h : Ledger plan strides reports u) {x : Stride} (hx : x ∈ strides)
    (hid : x.user = u.id) : x.iteration < u.started := by
  have hle := h.within x hx hid
  unfold User.started
  split
  case isTrue => omega
  case isFalse hidle =>
      refine lt_of_le_of_ne hle fun heq => ?_
      have hmem : x.move ∈ movesIn strides u.id u.completed :=
        List.mem_map_of_mem (List.mem_filter.mpr ⟨hx, by simp [hid, heq]⟩)
      simp [h.idle (Bool.eq_false_of_not_eq_true hidle)] at hmem

/-- What a user did in an iteration that it has begun is a path of the plan or the beginning of
one, unless it was lost. -/
theorem Account.exists_path (h : Account load begins strides reports due u)
    (hlost : u.isLost = false) {k : Nat} (hk : k < u.started) :
    ∃ later outcome, load.plan.iteration.Path (movesIn strides u.id k ++ later) outcome := by
  rcases Nat.lt_or_ge k u.completed with hdone | hcurrent
  · obtain ⟨r, hr, huser, rfl⟩ := h.exists_report hdone
    exact ⟨[], r.outcome, by simpa using (h.ledger.reported r hr huser).1⟩
  · -- The user is at this iteration, so it is in the middle of it.
    cases hactivity : u.activity with
    | working flow entries =>
        have hbusy : k = u.completed := by simp [User.started, User.isBusy, hactivity] at hk; omega
        obtain ⟨later, outcome, hpath⟩ := LoadProbe.Run.exists_path flow
        exact ⟨later, outcome,
          hbusy ▸ (h.ledger.underway flow entries hactivity).2 later outcome hpath⟩
    | deciding | stopped => simp [User.started, User.isBusy, hactivity] at hk; omega
    | aborted => simp [User.isLost, hactivity] at hlost

/-- Moves of which no iteration has many are limited by the iterations begun. -/
theorem Ledger.countP_movesBy_le (h : Ledger plan strides reports u) (p : Move → Bool) {most : Nat}
    (hmost : ∀ k < u.started, (movesIn strides u.id k).countP p ≤ most) :
    (movesBy strides u.id).countP p ≤ u.started * most := by
  have hcount : (movesBy strides u.id).countP p =
      (strides.filter fun x => x.user = u.id ∧ p x.move).length := by
    rw [movesBy, List.countP_map, List.countP_filter, List.countP_eq_length_filter]
    refine congrArg List.length (List.filter_congr fun x _ => ?_)
    simp [Bool.and_comm]
  rw [hcount]
  refine length_le_of_classes (·.iteration) ?_ ?_
  · intro x hx
    obtain ⟨hx, hown⟩ := List.mem_filter.mp hx
    exact h.lt_started hx (of_decide_eq_true hown).1
  · intro k hk
    refine le_trans (le_of_eq ?_) (hmost k hk)
    rw [movesIn, List.countP_map, List.countP_filter, List.countP_eq_length_filter,
      List.filter_filter]
    refine congrArg List.length (List.filter_congr fun x _ => ?_)
    cases hp : p x.move <;> simp [hp, Bool.and_comm]

/-- A user submits no more often than it begins iterations, and polls within the budget of
each. -/
theorem Account.calls_le (h : Account load begins strides reports due u)
    (hlost : u.isLost = false) :
    (submissionsOf (movesBy strides u.id)).length ≤ u.started ∧
      (fetchesOf (movesBy strides u.id)).length ≤ u.started * load.plan.maxPolls ∧
      (movesBy strides u.id).length ≤ u.started * load.plan.longest := by
  have hbounds : ∀ k < u.started, (submissionsOf (movesIn strides u.id k)).length ≤ 1 ∧
      (fetchesOf (movesIn strides u.id k)).length ≤ load.plan.maxPolls ∧
      (movesIn strides u.id k).length ≤ load.plan.longest := by
    intro k hk
    obtain ⟨later, outcome, hpath⟩ := h.exists_path hlost hk
    have hwhole := iteration_bounds hpath
    rw [submissionsOf_append, fetchesOf_append, List.length_append, List.length_append,
      List.length_append] at hwhole
    omega
  simp only [submissionsOf, fetchesOf, List.length_filterMap_eq_countP] at hbounds ⊢
  refine ⟨?_, ?_, ?_⟩
  · simpa using h.ledger.countP_movesBy_le _ fun k hk => (hbounds k hk).1
  · exact h.ledger.countP_movesBy_le _ fun k hk => (hbounds k hk).2.1
  · have hall : ∀ k < u.started,
        (movesIn strides u.id k).countP (fun _ => true) ≤ load.plan.longest := by
      intro k hk
      simpa using (hbounds k hk).2.2
    simpa using h.ledger.countP_movesBy_le (fun _ => true) hall

end User

/-! ## Users at any time -/

section Users

variable {users : Nat} {state : σ} {steps : Nat} {u : User}

theorem length_users_after (load : Load) (service : Service σ) (users : Nat) (state : σ)
    (steps : Nat) : ((Crowd.start users state).after load service steps).users.length = users := by
  obtain ⟨-, r, -, hfollows, -⟩ := onTime_after load service users state steps
  exact hfollows.users_perm.length_eq.trans List.length_ofFn

/-- Every number is that of a user. -/
theorem exists_user (load : Load) (service : Service σ) (state : σ) (steps : Nat) {id : Nat}
    (hid : id < users) :
    ∃ u ∈ ((Crowd.start users state).after load service steps).users, u.id = id := by
  obtain ⟨-, r, -, hfollows, htracked⟩ := onTime_after load service users state steps
  exact ⟨r.user ⟨id, hid⟩, hfollows.users_perm.symm.subset (List.mem_ofFn.mpr ⟨_, rfl⟩),
    htracked.sound.id_eq ⟨id, hid⟩⟩

theorem stride_user_lt {x : Stride}
    (hx : x ∈ Crowd.strides load service steps (.start users state)) : x.user < users := by
  obtain ⟨-, r, -, -, htracked⟩ := onTime_after load service users state steps
  exact htracked.known x hx

theorem report_user_lt {r : Report}
    (hr : r ∈ ((Crowd.start users state).after load service steps).reports) : r.user < users := by
  obtain ⟨-, relay, -, hfollows, htracked⟩ := onTime_after load service users state steps
  refine htracked.sound.known r (List.mem_append_left _ ?_)
  rw [hfollows.received_eq]
  exact List.mem_reverse.mpr hr

/-- The strides and the reports of a user are as they should be, whenever it is due. -/
theorem account_of_punctual (hu : u ∈ ((Crowd.start users state).after load service steps).users)
    {begins : Nat → Duration} {due : Duration}
    (hpunctual : Punctual load begins (Crowd.strides load service steps (.start users state))
      ((Crowd.start users state).after load service steps).reports.reverse due u) :
    Account load begins (Crowd.strides load service steps (.start users state))
      ((Crowd.start users state).after load service steps).reports.reverse due u := by
  obtain ⟨-, r, -, hfollows, htracked⟩ := onTime_after load service users state steps
  have hsent : r.sent =
      ((Crowd.start users state).after load service steps).reports.reverse := by
    simp [Relay.sent, hfollows.received_eq, hfollows.channel_eq]
  obtain ⟨i, hi⟩ := List.mem_ofFn.mp (hfollows.users_perm.subset hu)
  exact ⟨hpunctual, hi ▸ hsent ▸ htracked.ledger i, _, hi ▸ hsent ▸ htracked.sound.kept i⟩

theorem account_of_mem (hu : u ∈ ((Crowd.start users state).after load service steps).users) :
    ∃ begins due, Account load begins (Crowd.strides load service steps (.start users state))
      ((Crowd.start users state).after load service steps).reports.reverse due u := by
  obtain ⟨begins, -, honTime, -, -⟩ := onTime_after load service users state steps
  rcases List.mem_append.mp hu with hdue | hgone
  · obtain ⟨e, he, rfl⟩ := List.mem_map.mp hdue
    exact ⟨begins e.2.id, e.1, account_of_punctual hu (honTime.due e he)⟩
  · obtain ⟨t, -, hpunctual⟩ := honTime.gone u hgone
    exact ⟨begins u.id, t, account_of_punctual hu hpunctual⟩

end Users

/-! ## The end of a run -/

/-- No user is lost at any time of the run. -/
def Unlost (load : Load) (service : Service σ) (users : Nat) (state : σ) : Prop :=
  ∀ steps, ∀ u ∈ ((Crowd.start users state).after load service steps).users, u.isLost = false

/-- On a steady service the calls of all users have been heard at any time. -/
theorem attended_after {state : σ} (hsteady : service.Steady state) (load : Load)
    (users steps : Nat) :
    ∃ r : Relay users σ, ((Crowd.start users state).after load service steps).Follows r ∧
      r.Attended service state (Crowd.strides load service steps (.start users state)) := by
  have hstep : ∀ (strides : List Stride) (s : Crowd σ),
      (∃ r : Relay users σ, s.Follows r ∧ r.Attended service state strides) →
      ∃ r : Relay users σ, (s.step load service).Follows r ∧
        r.Attended service state (strides ++ (s.stride? service).toList) := by
    rintro strides s ⟨r, hfollows, hattended⟩
    obtain ⟨actions, -, hstrides, hfollowed⟩ := hfollows.step load service
    exact ⟨_, hfollowed, hstrides ▸ hattended.run hsteady load actions⟩
  have hstart : (Relay.start users state).Attended service state [] := ⟨.start, fun _ => rfl⟩
  exact after_induction hstep ⟨_, follows_start users state, hstart⟩ steps

/-- On a steady service nobody is lost. -/
theorem unlost_of_steady {state : σ} (hsteady : service.Steady state) (load : Load) (users : Nat) :
    Unlost load service users state := by
  intro steps u hu
  obtain ⟨r, hfollows, hattended⟩ := attended_after hsteady load users steps
  obtain ⟨i, rfl⟩ := List.mem_ofFn.mp (hfollows.users_perm.subset hu)
  exact hattended.unlost i

section Over

variable {users fuel : Nat} {state : σ} {s : Crowd σ}
  (hrun : Crowd.run load service fuel (.start users state) = some s)
include hrun

/-- Everybody is gone at the end of a run. -/
theorem exists_gone {id : Nat} (hid : id < users) : ∃ u ∈ s.gone, u.id = id := by
  obtain ⟨rfl, hdue⟩ := run_eq_some_iff.mp hrun
  obtain ⟨u, hu, hid⟩ := exists_user load service state fuel hid
  rw [Crowd.users, hdue] at hu
  exact ⟨u, hu, hid⟩

/-- Whoever is gone and was not lost was refused. -/
theorem stopped_of_gone (hunlost : Unlost load service users state) {u : User} (hu : u ∈ s.gone) :
    u.activity = .stopped := by
  obtain ⟨-, r, -, hfollows, -, -⟩ := onTime_run hrun
  obtain ⟨rfl, -⟩ := run_eq_some_iff.mp hrun
  exact stopped_of_hasLeft (hfollows.left u hu) (hunlost fuel u (List.mem_append_right _ hu))

/-- Nobody left after the end of the run. -/
theorem account_of_gone {u : User} (hu : u ∈ s.gone) :
    ∃ begins, ∃ due ≤ s.clock, Account load begins
      (Crowd.strides load service fuel (.start users state)) s.reports.reverse due u := by
  obtain ⟨begins, -, honTime, -, -, -⟩ := onTime_run hrun
  obtain ⟨rfl, -⟩ := run_eq_some_iff.mp hrun
  obtain ⟨due, hdue, hpunctual⟩ := honTime.gone u hu
  exact ⟨begins u.id, due, hdue, account_of_punctual (List.mem_append_right _ hu) hpunctual⟩

/-- The run was over when the last user left. -/
theorem exists_last : s.clock = 0 ∨ ∃ u ∈ s.gone, ∃ begins, Account load begins
    (Crowd.strides load service fuel (.start users state)) s.reports.reverse s.clock u := by
  obtain ⟨begins, -, honTime, -, -, hdue⟩ := onTime_run hrun
  obtain ⟨rfl, -⟩ := run_eq_some_iff.mp hrun
  rcases honTime.last hdue with hnone | ⟨u, hu, hpunctual⟩
  · exact .inl hnone
  · exact .inr ⟨u, hu, begins u.id, account_of_punctual (List.mem_append_right _ hu) hpunctual⟩

end Over

variable {users : Nat} {state : σ}

/-- If nobody is lost and nobody begins more than `most` iterations, there are only so many
moves. -/
theorem length_strides_le (hunlost : Unlost load service users state) {steps most : Nat}
    (hstarted : ∀ u ∈ ((Crowd.start users state).after load service steps).users,
      u.started ≤ most) :
    (Crowd.strides load service steps (.start users state)).length ≤
      users * (most * load.plan.longest) := by
  refine length_le_of_classes (·.user) (fun x hx => stride_user_lt hx) fun id hid => ?_
  obtain ⟨u, hu, rfl⟩ := exists_user load service state steps hid
  obtain ⟨begins, due, haccount⟩ := account_of_mem hu
  have hmoves := (haccount.calls_le (hunlost steps u hu)).2.2
  rw [movesBy, List.length_map] at hmoves
  exact hmoves.trans (Nat.mul_le_mul_right _ (hstarted u hu))

/-- If nobody is lost and nobody begins more than `most` iterations, the run comes to its end. -/
theorem run_ends (hunlost : Unlost load service users state) {most : Nat}
    (hstarted : ∀ steps, ∀ u ∈ ((Crowd.start users state).after load service steps).users,
      u.started ≤ most) :
    ∃ fuel s, Crowd.run load service fuel (.start users state) = some s := by
  -- After so many steps there would be more progress than there can be.
  let fuel := users * (2 * most + 1) + users + users * (most * load.plan.longest) + 1
  refine ⟨fuel, (Crowd.start users state).after load service fuel,
    run_eq_some_iff.mpr ⟨rfl, ?_⟩⟩
  by_contra hdue
  have hsteps := progress_after hdue
  have hmoves := length_strides_le hunlost (hstarted fuel)
  have husers := length_users_after load service users state fuel
  have hstart : (Crowd.start users state).progress = 0 := by
    simp [Crowd.progress, Crowd.users, Crowd.start, Function.comp_def, User.progress]
  have hprogress : ((((Crowd.start users state).after load service fuel).users.map
      User.progress).sum) ≤ users * (2 * most + 1) := by
    have hsum := List.sum_le_card_nsmul
      (((Crowd.start users state).after load service fuel).users.map User.progress) (2 * most + 1)
      (List.forall_mem_map.mpr fun u hu =>
        (progress_le u).trans (by have := hstarted fuel u hu; omega))
    rwa [List.length_map, husers, smul_eq_mul] at hsum
  have hgone : ((Crowd.start users state).after load service fuel).gone.length ≤ users := by
    rw [Crowd.users, List.length_append] at husers
    omega
  rw [Crowd.progress] at hsteps
  omega

end LoadProbe.Run
