import LoadProbe.Metrics.Aggregate
import LoadProbe.Proofs.Crowd.Step

/-!
# Users, a channel and the totals

The users of a run send their reports through a channel, and whoever keeps the totals receives them
one after the other.  Who goes on when is up to a schedule: users take their steps and reports are
received in any order.

* `Run.Relay` is a run with reports in flight, `Run.Action` is what a schedule can do next, and
  `Run.Relay.following` follows a schedule from the beginning.  Every turn brings its own gate and
  its own time, so that the verdicts of any gate, even of one that changes its mind, are those of
  some schedule.
* `Run.Kept` is what the reports of one user have to do with that user, `Run.Relay.Sound` what holds
  of all of them.  `Run.Stepped.kept` keeps the former through a step of the user,
  `Run.Relay.Sound.step` the latter through an action, and `Run.sound_run` through a schedule.
* `Run.WithinCap` is what a cap on the iterations of each user comes to.
-/

namespace LoadProbe.Run

open LoadProbe.Job LoadProbe.Metrics

variable {σ : Type} {users : Nat}

/-- A run whose reports go through a channel. -/
structure Relay (users : Nat) (σ : Type) where
  user : Fin users → User
  state : σ
  /-- The reports that were sent and not received, the oldest first. -/
  channel : List Report
  /-- The reports that were received, in that order. -/
  received : List Report
  metrics : Aggregate
  /-- Who was admitted by the gate, the latest first. -/
  admitted : List (Fin users)
  /-- The channel was found empty with nobody left who could send. -/
  closed : Bool

/-- What can happen next. -/
inductive Action (users : Nat) where
  | turn (user : Fin users) (gate : Gate) (now : Duration)
  | receive
  | close

/-- If the gate is asked, it is this one. -/
def Action.Asks (gate : Gate) : Action users → Prop
  | turn _ asked _ => asked = gate
  | _ => True

namespace Relay

/-- All users at the beginning of a run. -/
def start (users : Nat) (state : σ) : Relay users σ where
  user i := ⟨i, 0, .deciding⟩
  state := state
  channel := []
  received := []
  metrics := { users }
  admitted := []
  closed := false

/-- The reports that were sent, in that order. -/
def sent (s : Relay users σ) : List Report := s.received ++ s.channel

/-- A user takes a step and sends what it reports. -/
def turn (load : Load) (service : Service σ) (i : Fin users) (gate : Gate) (now : Duration)
    (s : Relay users σ) : Relay users σ :=
  let turn := (s.user i).step { load with gate } service now s.state
  { s with
    user := Function.update s.user i turn.user
    state := turn.state
    channel := s.channel ++ turn.report.toList
    admitted := if (s.user i).admittedBy gate now then i :: s.admitted else s.admitted }

/-- The oldest report in the channel is received and added to the totals. -/
def receive (s : Relay users σ) : Relay users σ :=
  match s.channel with
  | [] => s
  | r :: channel =>
      { s with channel, received := s.received ++ [r], metrics := s.metrics.record r }

/-- The channel is closed if it is empty and every user has left. -/
def close (s : Relay users σ) : Relay users σ :=
  if s.channel.isEmpty ∧ ∀ i, (s.user i).hasLeft = true then { s with closed := true } else s

/-- One action. -/
def step (load : Load) (service : Service σ) (s : Relay users σ) : Action users → Relay users σ
  | .turn i gate now => s.turn load service i gate now
  | .receive => s.receive
  | .close => s.close

/-- All actions of a schedule, one after the other. -/
def run (load : Load) (service : Service σ) (s : Relay users σ) (actions : List (Action users)) :
    Relay users σ :=
  actions.foldl (step load service) s

/-- The run that follows a schedule from its beginning. -/
def following (load : Load) (service : Service σ) (state : σ) (actions : List (Action users)) :
    Relay users σ :=
  (start users state).run load service actions

end Relay

@[simp] theorem run_nil (load : Load) (service : Service σ) (s : Relay users σ) :
    s.run load service [] = s := rfl

@[simp] theorem run_cons (load : Load) (service : Service σ) (s : Relay users σ)
    (action : Action users) (actions : List (Action users)) :
    s.run load service (action :: actions) =
      (s.step load service action).run load service actions := rfl

theorem run_append (load : Load) (service : Service σ) (s : Relay users σ)
    (first second : List (Action users)) :
    s.run load service (first ++ second) =
      (s.run load service first).run load service second := by
  rw [Relay.run, List.foldl_append]
  rfl

section Frame

variable (load : Load) (service : Service σ) (i : Fin users) (gate : Gate) (now : Duration)
  (s : Relay users σ)

@[simp] theorem turn_user_self :
    (s.turn load service i gate now).user i =
      ((s.user i).step { load with gate } service now s.state).user := by
  simp [Relay.turn]

theorem turn_user_of_ne {j : Fin users} (hj : j ≠ i) :
    (s.turn load service i gate now).user j = s.user j := by
  simp [Relay.turn, hj]

theorem turn_sent :
    (s.turn load service i gate now).sent =
      s.sent ++ ((s.user i).step { load with gate } service now s.state).report.toList := by
  simp [Relay.sent, Relay.turn]

theorem turn_count_self :
    (s.turn load service i gate now).admitted.count i =
      s.admitted.count i + if (s.user i).admittedBy gate now then 1 else 0 := by
  unfold Relay.turn
  split <;> simp

theorem turn_count_of_ne {j : Fin users} (hj : j ≠ i) :
    (s.turn load service i gate now).admitted.count j = s.admitted.count j := by
  unfold Relay.turn
  split <;> simp [Ne.symm hj]

@[simp] theorem receive_user : s.receive.user = s.user := by
  unfold Relay.receive
  split <;> rfl

@[simp] theorem close_user : s.close.user = s.user := by
  unfold Relay.close
  split <;> rfl

@[simp] theorem receive_sent : s.receive.sent = s.sent := by
  unfold Relay.receive
  split
  case h_1 => rfl
  case h_2 r channel hchannel => simp [Relay.sent, hchannel]

@[simp] theorem close_sent : s.close.sent = s.sent := by
  unfold Relay.close
  split <;> rfl

@[simp] theorem receive_state : s.receive.state = s.state := by
  unfold Relay.receive
  split <;> rfl

@[simp] theorem close_state : s.close.state = s.state := by
  unfold Relay.close
  split <;> rfl

end Frame

/-! ## The reports of one user -/

/-- The numbers of the iterations that a user reported, in the order of the reports. -/
def iterationsOf (id : Nat) (reports : List Report) : List Nat :=
  (reports.filter (·.user = id)).map (·.iteration)

@[simp] theorem iterationsOf_nil (id : Nat) : iterationsOf id [] = [] := rfl

@[simp] theorem iterationsOf_append (id : Nat) (first second : List Report) :
    iterationsOf id (first ++ second) = iterationsOf id first ++ iterationsOf id second := by
  simp [iterationsOf]

theorem mem_iterationsOf {id iteration : Nat} {reports : List Report} :
    iteration ∈ iterationsOf id reports ↔ ∃ r ∈ reports, r.user = id ∧ r.iteration = iteration := by
  simp [iterationsOf, and_assoc]

/-- What the reports that were sent and the number of admissions have to do with a user: it has
reported its iterations in order, and it owes a report only for the iteration it is at. -/
structure Kept (plan : Plan) (reports : List Report) (admissions : Nat) (u : User) : Prop where
  inOrder : iterationsOf u.id reports = List.range u.completed
  admissions_eq : admissions = u.completed + if u.isBusy then 1 else 0
  underway : Underway plan u

/-- A user is past the iterations that it has reported. -/
theorem Kept.iteration_lt {plan : Plan} {reports : List Report} {admissions : Nat} {u : User}
    (h : Kept plan reports admissions u) {r : Report} (hr : r ∈ reports) (hid : r.user = u.id) :
    r.iteration < u.completed := by
  have hmem := mem_iterationsOf.mpr ⟨r, hr, hid, rfl⟩
  rwa [h.inOrder, List.mem_range] at hmem

section Stepped

variable {load : Load} {service : Service σ} {now : Duration} {state : σ} {u : User}
  {move : Option Move} {turn : Turn σ}

/-- A user reports under its own number. -/
theorem Stepped.report_user (h : Stepped load service now state u move turn) :
    ∀ r ∈ turn.report, r.user = u.id := by
  cases h <;> simp

/-- Whoever has left does nothing. -/
theorem Stepped.of_hasLeft (h : Stepped load service now state u move turn)
    (hleft : u.hasLeft = true) :
    turn.user = u ∧ turn.report = none := by
  cases h with
  | idle => exact ⟨rfl, rfl⟩
  | admitted hactivity => simp [hasLeft_iff, hactivity] at hleft
  | refused hactivity => simp [hasLeft_iff, hactivity] at hleft
  | moved _ _ _ _ _ _ hactivity => simp [hasLeft_iff, hactivity] at hleft
  | lost _ _ _ _ hactivity => simp [hasLeft_iff, hactivity] at hleft
  | reported _ _ hactivity => simp [hasLeft_iff, hactivity] at hleft

/-- A step of a user keeps its reports in order and its admissions accounted for. -/
theorem Stepped.kept {reports : List Report} {admissions : Nat}
    (h : Stepped load service now state u move turn)
    (hkept : Kept load.plan reports admissions u) :
    Kept load.plan (reports ++ turn.report.toList)
      (admissions + if u.admittedBy load.gate now then 1 else 0) turn.user := by
  obtain ⟨hinOrder, rfl, hunderway⟩ := hkept
  have hlater := (h.underway hunderway).1
  -- An admission makes the user busy, and only a report clears it again; being lost does not.
  cases h with
  | admitted hactivity hgate =>
      exact ⟨by simpa using hinOrder, by simp [User.isBusy, User.admittedBy, hactivity, hgate],
        hlater⟩
  | refused hactivity hgate =>
      exact ⟨by simpa using hinOrder, by simp [User.isBusy, User.admittedBy, hactivity, hgate],
        hlater⟩
  | moved flow rest entries move after event hactivity =>
      exact ⟨by simpa using hinOrder, by simp [User.isBusy, User.admittedBy, hactivity], hlater⟩
  | lost flow entries sleep after hactivity =>
      exact ⟨by simpa using hinOrder, by simp [User.isBusy, User.admittedBy, hactivity], hlater⟩
  | reported outcome entries hactivity =>
      have hreported : iterationsOf u.id [⟨u.id, u.completed, outcome, entries.reverse⟩] =
          [u.completed] := by simp [iterationsOf]
      exact ⟨by simp [hinOrder, hreported, List.range_succ],
        by simp [User.isBusy, User.admittedBy, hactivity], hlater⟩
  | idle hleft =>
      have hasks : u.admittedBy load.gate now = false := by
        rcases hasLeft_iff.mp hleft with hactivity | hactivity
        · simp [User.admittedBy, hactivity]
        · simp [User.admittedBy, hactivity]
      exact ⟨by simpa using hinOrder, by simp [hasks], hlater⟩

end Stepped

/-- Reports of others do not matter. -/
theorem Kept.of_others {plan : Plan} {reports : List Report} {admissions : Nat} {u : User}
    (h : Kept plan reports admissions u) (others : List Report)
    (hothers : ∀ r ∈ others, r.user ≠ u.id) : Kept plan (reports ++ others) admissions u := by
  have hnone : iterationsOf u.id others = [] := by
    simpa [iterationsOf] using hothers
  exact ⟨by simp [hnone, h.inOrder], h.admissions_eq, h.underway⟩

/-! ## All reports -/

/-- What holds of a run at any time: every user's reports are in order, there are no others, all
are genuine, the totals are those of the reports that were received, and nothing is left to happen
once the channel is closed. -/
structure Relay.Sound (plan : Plan) (s : Relay users σ) : Prop where
  id_eq : ∀ i, (s.user i).id = i
  kept : ∀ i, Kept plan s.sent (s.admitted.count i) (s.user i)
  known : ∀ r ∈ s.sent, r.user < users
  genuine : ∀ r ∈ s.sent, r.Genuine plan
  folded : s.metrics = s.received.foldl Aggregate.record { users }
  ended : s.closed = true → s.channel = [] ∧ ∀ i, (s.user i).hasLeft = true

theorem sound_start (plan : Plan) (state : σ) : (Relay.start users state).Sound plan where
  id_eq _ := rfl
  kept _ := ⟨rfl, rfl, by rintro flow entries ⟨⟩⟩
  known := by simp [Relay.sent, Relay.start]
  genuine := by simp [Relay.sent, Relay.start]
  folded := rfl
  ended := by simp [Relay.start]

/-- A turn of one user adds its report to those that were sent and leaves the other users alone. -/
theorem Relay.Sound.turn {load : Load} {s : Relay users σ} (h : s.Sound load.plan)
    (service : Service σ) (i : Fin users) (gate : Gate) (now : Duration) :
    (s.turn load service i gate now).Sound load.plan := by
  have hstep := step_stepped { load with gate } service now s.state (s.user i)
  have hgenuine := (hstep.underway (h.kept i).underway).2
  have hreport : ∀ r ∈ ((s.user i).step { load with gate } service now s.state).report.toList,
      r.user = i := by
    intro r hr
    rw [hstep.report_user r (by simpa using hr), h.id_eq]
  refine ⟨?_, ?_, ?_, ?_, h.folded, ?_⟩
  · intro j
    by_cases hj : j = i
    · subst hj
      rw [turn_user_self, hstep.id_eq, h.id_eq]
    · rw [turn_user_of_ne load service i gate now s hj, h.id_eq]
  · intro j
    rw [turn_sent]
    by_cases hj : j = i
    · subst hj
      rw [turn_count_self, turn_user_self]
      exact hstep.kept (h.kept j)
    · rw [turn_count_of_ne load service i gate now s hj,
        turn_user_of_ne load service i gate now s hj]
      refine (h.kept j).of_others _ ?_
      intro r hr
      rw [hreport r hr, h.id_eq]
      exact fun hij => hj (Fin.ext hij.symm)
  · intro r hr
    rw [turn_sent, List.mem_append] at hr
    rcases hr with hr | hr
    · exact h.known r hr
    · rw [hreport r hr]
      exact i.isLt
  · intro r hr
    rw [turn_sent, List.mem_append] at hr
    rcases hr with hr | hr
    · exact h.genuine r hr
    · exact hgenuine r (by simpa using hr)
  · -- Nobody who could take a turn is left once the channel is closed.
    intro hclosed
    obtain ⟨hchannel, hleft⟩ := h.ended hclosed
    obtain ⟨huser, hnone⟩ := hstep.of_hasLeft (hleft i)
    have hupdate : (s.turn load service i gate now).user = s.user := by
      simp [Relay.turn, huser]
    rw [hupdate]
    exact ⟨by simp [Relay.turn, hchannel, hnone], hleft⟩

/-- Receiving a report moves it from the channel to the totals. -/
theorem Relay.Sound.receive {plan : Plan} {s : Relay users σ} (h : s.Sound plan) :
    s.receive.Sound plan := by
  cases hchannel : s.channel with
  | nil =>
      have hreceive : s.receive = s := by simp [Relay.receive, hchannel]
      rwa [hreceive]
  | cons r channel =>
      have hreceive : s.receive = { s with
          channel, received := s.received ++ [r], metrics := s.metrics.record r } := by
        simp [Relay.receive, hchannel]
      have hsent := receive_sent s
      rw [hreceive] at hsent ⊢
      refine ⟨h.id_eq, ?_, ?_, ?_, ?_, ?_⟩
      · rw [hsent]
        exact h.kept
      · rw [hsent]
        exact h.known
      · rw [hsent]
        exact h.genuine
      · simp [h.folded]
      · intro hclosed
        simpa [hchannel] using (h.ended hclosed).1

theorem Relay.Sound.close {plan : Plan} {s : Relay users σ} (h : s.Sound plan) :
    s.close.Sound plan := by
  unfold Relay.close
  split
  case isTrue hempty =>
      exact ⟨h.id_eq, h.kept, h.known, h.genuine, h.folded,
        fun _ => ⟨List.isEmpty_iff.mp hempty.1, hempty.2⟩⟩
  case isFalse => exact h

theorem Relay.Sound.step {load : Load} {s : Relay users σ} (h : s.Sound load.plan)
    (service : Service σ) (action : Action users) :
    (s.step load service action).Sound load.plan := by
  cases action with
  | turn i gate now => exact h.turn service i gate now
  | receive => exact h.receive
  | close => exact h.close

/-- Whatever the schedule, a run is sound at any time. -/
theorem sound_run (load : Load) (service : Service σ) (state : σ) (actions : List (Action users)) :
    (Relay.following load service state actions).Sound load.plan := by
  have hrun : ∀ s : Relay users σ, s.Sound load.plan →
      (s.run load service actions).Sound load.plan := by
    induction actions with
    | nil => exact fun s h => h
    | cons action actions ih => exact fun s h => ih _ (h.step service action)
  exact hrun _ (sound_start load.plan state)

/-! ## A cap on the iterations of each user -/

/-- The user has not exceeded the cap, and it has not stopped before it. -/
def WithinCap (cap : Nat) (u : User) : Prop :=
  match u.activity with
  | .deciding => u.completed ≤ cap
  | .working .. | .aborted => u.completed < cap
  | .stopped => u.completed = cap

theorem Stepped.withinCap {service : Service σ} {now : Duration} {state : σ} {u : User}
    {move : Option Move} {turn : Turn σ} {plan : Plan} {pause : Duration} {cap : Nat}
    (h : Stepped ⟨plan, pause, ⟨none, some cap⟩⟩ service now state u move turn)
    (hcap : WithinCap cap u) : WithinCap cap turn.user := by
  unfold WithinCap at hcap
  cases h with
  | admitted hactivity hgate => simpa [WithinCap, Gate.mayStart] using hgate
  | refused hactivity hgate =>
      simp only [hactivity] at hcap
      have hrefused : cap ≤ u.completed := by simpa [Gate.mayStart] using hgate
      exact Nat.le_antisymm hcap hrefused
  | moved flow rest entries move after event hactivity =>
      simpa [WithinCap, hactivity] using hcap
  | lost flow entries sleep after hactivity => simpa [WithinCap, hactivity] using hcap
  | reported outcome entries hactivity =>
      simp only [hactivity] at hcap
      exact hcap
  | idle => exact hcap

/-- Under a gate with nothing but a cap, every user keeps within it. -/
theorem withinCap_run (load : Load) {cap : Nat} (service : Service σ)
    {actions : List (Action users)} (hasks : ∀ action ∈ actions, action.Asks ⟨none, some cap⟩)
    {s : Relay users σ} (hcap : ∀ i, WithinCap cap (s.user i)) :
    ∀ i, WithinCap cap ((s.run load service actions).user i) := by
  induction actions generalizing s with
  | nil => exact hcap
  | cons action actions ih =>
      refine ih (fun later hlater => hasks later (List.mem_cons_of_mem action hlater)) ?_
      intro i
      cases action with
      | turn j gate now =>
          obtain rfl : gate = ⟨none, some cap⟩ := hasks _ List.mem_cons_self
          have hturn := (step_stepped { load with gate := ⟨none, some cap⟩ } service now s.state
            (s.user j)).withinCap (hcap j)
          rw [Relay.step]
          by_cases hi : i = j
          · subst hi
            rw [turn_user_self]
            exact hturn
          · rw [turn_user_of_ne load service j _ now s hi]
            exact hcap i
      | receive =>
          rw [Relay.step, receive_user]
          exact hcap i
      | close =>
          rw [Relay.step, close_user]
          exact hcap i

end LoadProbe.Run
