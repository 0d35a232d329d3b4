import LoadProbe.Proofs.Crowd.Relay

/-!
# The moves of many users

A run leaves a list of moves: who made each, in which iteration and when.  The users take turns in
it, but the moves of one user in one iteration are a way through the plan.

* `Run.Stride` is one entry of the list; `Run.Relay.strides` is the list of a run that follows a
  schedule, `Run.movesIn` what one user did in one iteration.
* `Run.Ledger` is what the list says about one user.  `Run.Stepped.ledger` keeps it through a step
  of that user and `Run.Ledger.of_others` through the steps of others; `Run.Relay.Tracked.run` is
  the induction over a schedule.
* `Run.Relay.Tracked.ended`: at the end every move belongs to an iteration that was reported, unless
  users were lost.
* `Run.Relay.Attended`: on a steady service nobody is lost, and the service has heard the calls of
  all users one after the other.
-/

namespace LoadProbe.Run

open LoadProbe.Job LoadProbe.Metrics

variable {σ : Type} {users : Nat}

/-- A move of a user, in which iteration and when. -/
structure Stride where
  user : Nat
  iteration : Nat
  time : Duration
  move : Move

/-- What a user did in an iteration, in order. -/
def movesIn (strides : List Stride) (id iteration : Nat) : List Move :=
  (strides.filter fun x => x.user = id ∧ x.iteration = iteration).map (·.move)

/-- The stride that a move of the user makes. -/
def User.stride (u : User) (now : Duration) (move : Move) : Stride :=
  ⟨u.id, u.completed, now, move⟩

/-- The stride that the user is about to make. -/
def User.stride? (service : Service σ) (now : Duration) (state : σ) (u : User) : Option Stride :=
  (u.move? service state).map (u.stride now)

namespace Relay

/-- The stride that comes of an action. -/
def stride? (service : Service σ) (s : Relay users σ) : Action users → Option Stride
  | .turn i _ now => (s.user i).stride? service now s.state
  | _ => none

/-- The strides that come of the actions of a schedule, in order. -/
def strides (load : Load) (service : Service σ) : Relay users σ → List (Action users) → List Stride
  | _, [] => []
  | s, action :: actions =>
      (s.stride? service action).toList ++ strides load service (s.step load service action) actions

end Relay

theorem strides_append (load : Load) (service : Service σ) (s : Relay users σ)
    (first second : List (Action users)) :
    s.strides load service (first ++ second) =
      s.strides load service first ++ (s.run load service first).strides load service second := by
  induction first generalizing s with
  | nil => rfl
  | cons action first ih => simp [Relay.strides, ih]

@[simp] theorem movesIn_nil (id iteration : Nat) : movesIn [] id iteration = [] := rfl

@[simp] theorem movesIn_append (first second : List Stride) (id iteration : Nat) :
    movesIn (first ++ second) id iteration =
      movesIn first id iteration ++ movesIn second id iteration := by
  simp [movesIn]

theorem movesIn_eq_nil {strides : List Stride} {id iteration : Nat}
    (h : ∀ x ∈ strides, x.user = id → x.iteration ≠ iteration) :
    movesIn strides id iteration = [] := by
  simpa [movesIn] using h

/-- A step adds its move to those of its user and iteration. -/
theorem movesIn_append_stride (strides : List Stride) (u : User) (now : Duration)
    (move : Option Move) (iteration : Nat) :
    movesIn (strides ++ (move.map (u.stride now)).toList) u.id iteration =
      movesIn strides u.id iteration ++ if iteration = u.completed then move.toList else [] := by
  rw [movesIn_append]
  cases move with
  | none => simp
  | some move =>
      split
      case isTrue h => simp [movesIn, User.stride, h]
      case isFalse h => simp [movesIn, User.stride, Ne.symm h]

theorem movesIn_append_of_others (strides : List Stride) {strides' : List Stride} {id : Nat}
    (h : ∀ x ∈ strides', x.user ≠ id) (iteration : Nat) :
    movesIn (strides ++ strides') id iteration = movesIn strides id iteration := by
  rw [movesIn_append, movesIn_eq_nil fun x hx hid => absurd hid (h x hx), List.append_nil]

/-! ## The moves of one user -/

/-- What the strides and the reports say about a user: every report tells of the moves that the user
made in that iteration, and the moves of the iteration that the user is at, and any way through
the rest of it, make up a path of the plan. -/
structure Ledger (plan : Plan) (strides : List Stride) (reports : List Report) (u : User) :
    Prop where
  reported : ∀ r ∈ reports, r.user = u.id →
    plan.iteration.Path (movesIn strides u.id r.iteration) r.outcome ∧
      r.entries = entriesOf (movesIn strides u.id r.iteration)
  within : ∀ x ∈ strides, x.user = u.id → x.iteration ≤ u.completed
  underway : ∀ flow entries, u.activity = .working flow entries →
    entries = (entriesOf (movesIn strides u.id u.completed)).reverse ∧
      ∀ later outcome, flow.Path later outcome →
        plan.iteration.Path (movesIn strides u.id u.completed ++ later) outcome
  idle : u.isBusy = false → movesIn strides u.id u.completed = []

variable {load : Load} {service : Service σ} {now : Duration} {state : σ} {u : User}
  {move : Option Move} {turn : Turn σ} {plan : Plan} {strides : List Stride} {reports : List Report}

/-- Nothing has been done yet of the iteration after the one that the user is at. -/
theorem Ledger.movesIn_succ (h : Ledger plan strides reports u) :
    movesIn strides u.id (u.completed + 1) = [] :=
  movesIn_eq_nil fun x hx hid => (Nat.lt_succ_of_le (h.within x hx hid)).ne

/-- A step of a user adds its move and its report. -/
theorem Stepped.ledger (h : Stepped load service now state u move turn)
    (hledger : Ledger load.plan strides reports u)
    (hbefore : ∀ r ∈ reports, r.user = u.id → r.iteration < u.completed) :
    Ledger load.plan (strides ++ (move.map (u.stride now)).toList) (reports ++ turn.report.toList)
      turn.user := by
  have hmoves := movesIn_append_stride strides u now move
  cases h with
  | admitted hactivity hgate =>
      simp only [Option.map_none, Option.toList_none, List.append_nil]
      have hnone := hledger.idle (by simp [User.isBusy, hactivity])
      refine ⟨hledger.reported, hledger.within, ?_, by simp [User.isBusy]⟩
      rintro flow entries ⟨⟩
      simp [hnone]
  | refused hactivity hgate =>
      simp only [Option.map_none, Option.toList_none, List.append_nil]
      have hnone := hledger.idle (by simp [User.isBusy, hactivity])
      exact ⟨hledger.reported, hledger.within, by rintro flow entries ⟨⟩, fun _ => hnone⟩
  | moved flow rest entries move after event hactivity hpath hthrough =>
      obtain ⟨hentries, hunderway⟩ := hledger.underway flow entries hactivity
      simp only [Option.toList_none, List.append_nil]
      refine ⟨?_, ?_, ?_, by simp [User.isBusy]⟩
      · intro r hr hid
        -- Only iterations before this one are reported, and the move is not theirs.
        rw [hmoves, if_neg (hbefore r hr hid).ne, List.append_nil]
        exact hledger.reported r hr hid
      · intro x hx hid
        rcases List.mem_append.mp hx with hx | hx
        · exact hledger.within x hx hid
        · obtain rfl : x = u.stride now move := by simpa using hx
          exact le_refl u.completed
      · rintro _ _ ⟨⟩
        rw [hmoves, if_pos rfl]
        refine ⟨?_, ?_⟩
        · cases hrecorded : move.recorded? <;> simp [hentries, entriesOf, hrecorded]
        · intro later outcome hlater
          simpa using hunderway (move :: later) outcome (hpath later outcome hlater)
  | lost flow entries sleep after hactivity hservice =>
      simp only [Option.map_none, Option.toList_none, List.append_nil]
      exact ⟨hledger.reported, hledger.within, by rintro _ _ ⟨⟩, by simp [User.isBusy]⟩
  | reported outcome entries hactivity =>
      obtain ⟨hentries, hunderway⟩ := hledger.underway (.done outcome) entries hactivity
      simp only [Option.map_none, Option.toList_none, List.append_nil]
      refine ⟨?_, ?_, by rintro _ _ ⟨⟩, ?_⟩
      · intro r hr hid
        rcases List.mem_append.mp hr with hr | hr
        · exact hledger.reported r hr hid
        · -- Nothing is left to do, so the moves so far are a whole path.
          obtain rfl : r = _ := List.mem_singleton.mp hr
          have hpath := hunderway [] outcome (.done outcome)
          rw [List.append_nil] at hpath
          exact ⟨hpath, by simp [hentries]⟩
      · intro x hx hid
        exact Nat.le_succ_of_le (hledger.within x hx hid)
      · intro _
        exact hledger.movesIn_succ
  | idle hleft =>
      simpa using hledger

/-- Strides and reports of others do not matter. -/
theorem Ledger.of_others (h : Ledger plan strides reports u) {strides' : List Stride}
    {reports' : List Report} (hstrides : ∀ x ∈ strides', x.user ≠ u.id)
    (hreports : ∀ r ∈ reports', r.user ≠ u.id) :
    Ledger plan (strides ++ strides') (reports ++ reports') u := by
  have hmoves := movesIn_append_of_others strides hstrides
  refine ⟨?_, ?_, ?_, ?_⟩
  · intro r hr hid
    rw [hmoves]
    rcases List.mem_append.mp hr with hr | hr
    · exact h.reported r hr hid
    · exact absurd hid (hreports r hr)
  · intro x hx hid
    rcases List.mem_append.mp hx with hx | hx
    · exact h.within x hx hid
    · exact absurd hid (hstrides x hx)
  · rw [hmoves]
    exact h.underway
  · rw [hmoves]
    exact h.idle

/-- Every move of a user who owes no report belongs to an iteration that it has reported. -/
theorem Ledger.mem_reports {admissions : Nat} (h : Ledger plan strides reports u)
    (hkept : Kept plan reports admissions u) (hidle : u.isBusy = false) {x : Stride}
    (hx : x ∈ strides) (hid : x.user = u.id) :
    ∃ r ∈ reports, r.user = u.id ∧ r.iteration = x.iteration := by
  have hne : x.iteration ≠ u.completed := by
    intro heq
    have hmem : x.move ∈ movesIn strides u.id u.completed :=
      List.mem_map_of_mem (List.mem_filter.mpr ⟨hx, by simp [hid, heq]⟩)
    simp [h.idle hidle] at hmem
  have hlt := lt_of_le_of_ne (h.within x hx hid) hne
  rwa [← mem_iterationsOf, hkept.inOrder, List.mem_range]

/-! ## The moves of all users -/

namespace Relay

/-- The strides of a run say about each of its users what they should. -/
structure Tracked (plan : Plan) (strides : List Stride) (s : Relay users σ) : Prop where
  sound : s.Sound plan
  ledger : ∀ i, Ledger plan strides s.sent (s.user i)
  known : ∀ x ∈ strides, x.user < users

theorem tracked_start (plan : Plan) (state : σ) : (start users state).Tracked plan [] where
  sound := sound_start plan state
  ledger i := ⟨by simp [sent, start], by simp, by rintro flow entries ⟨⟩, fun _ => rfl⟩
  known := by simp

theorem Tracked.step {s : Relay users σ} (h : s.Tracked load.plan strides) (service : Service σ)
    (action : Action users) :
    (s.step load service action).Tracked load.plan
      (strides ++ (s.stride? service action).toList) := by
  have hsound := h.sound.step service action
  cases action with
  | turn i gate now =>
      have hstep := step_stepped { load with gate } service now s.state (s.user i)
      have hstride : ∀ x ∈ (s.stride? service (.turn i gate now)).toList, x.user = i := by
        intro x hx
        obtain ⟨move, -, rfl⟩ := Option.map_eq_some_iff.mp (Option.mem_toList.mp hx)
        exact h.sound.id_eq i
      have hreport : ∀ r ∈ ((s.user i).step { load with gate } service now s.state).report.toList,
          r.user = i := by
        intro r hr
        rw [hstep.report_user r (by simpa using hr), h.sound.id_eq]
      refine ⟨hsound, ?_, ?_⟩
      · intro j
        rw [Relay.step, turn_sent]
        by_cases hj : j = i
        · subst hj
          rw [turn_user_self]
          exact hstep.ledger (h.ledger j) fun r hr hid => (h.sound.kept j).iteration_lt hr hid
        · rw [turn_user_of_ne load service i gate now s hj]
          have hne : (i : Nat) ≠ (s.user j).id := by
            rw [h.sound.id_eq]
            exact fun hij => hj (Fin.ext hij.symm)
          exact (h.ledger j).of_others (fun x hx => by rwa [hstride x hx])
            fun r hr => by rwa [hreport r hr]
      · intro x hx
        rcases List.mem_append.mp hx with hx | hx
        · exact h.known x hx
        · rw [hstride x hx]
          exact i.isLt
  | receive | close =>
      exact ⟨hsound, by simpa [stride?, Relay.step] using h.ledger,
        by simpa [stride?] using h.known⟩

theorem Tracked.run {s : Relay users σ} (h : s.Tracked load.plan strides) (service : Service σ)
    (actions : List (Action users)) :
    (s.run load service actions).Tracked load.plan
      (strides ++ s.strides load service actions) := by
  induction actions generalizing s strides with
  | nil => simpa [Relay.strides] using h
  | cons action actions ih =>
      rw [Relay.strides, ← List.append_assoc]
      exact ih (h.step service action)

/-- When the channel is closed and nobody was lost, every move belongs to an iteration whose report
was received. -/
theorem Tracked.ended {s : Relay users σ} (h : s.Tracked plan strides) (hclosed : s.closed = true)
    (hlost : ∀ i, (s.user i).isLost = false) {x : Stride} (hx : x ∈ strides) :
    ∃ r ∈ s.received, r.user = x.user ∧ r.iteration = x.iteration := by
  obtain ⟨hchannel, hleft⟩ := h.sound.ended hclosed
  obtain ⟨i, hi⟩ : ∃ i : Fin users, (s.user i).id = x.user :=
    ⟨⟨x.user, h.known x hx⟩, h.sound.id_eq _⟩
  have hidle : (s.user i).isBusy = false := by rw [isBusy_eq_isLost (hleft i), hlost i]
  obtain ⟨r, hr, hid, hiteration⟩ := (h.ledger i).mem_reports (h.sound.kept i) hidle hx hi.symm
  have hsent : s.sent = s.received := by simp [sent, hchannel]
  exact ⟨r, hsent ▸ hr, hid.trans hi, hiteration⟩

end Relay

/-! ## Runs on a steady service -/

theorem Service.Hears.reaches {start : σ} {moves : List Move}
    (h : service.Hears start moves state) : service.Reaches start state := by
  induction h with
  | start => exact .start
  | move move _ hthrough ih =>
      cases move with
      | note entry => exact hthrough ▸ ih
      | wait duration => exact hthrough ▸ ih
      | submit request answer =>
          have hreached := ih.submit request
          rwa [hthrough] at hreached
      | fetch url answer =>
          have hreached := ih.fetch url
          rwa [hthrough] at hreached

/-- On a steady service a step is heard and the user is not lost. -/
theorem Stepped.attended (h : Stepped load service now state u move turn) {start : σ}
    {moves : List Move} (hsteady : service.Steady start) (hears : service.Hears start moves state)
    (hlost : u.isLost = false) :
    service.Hears start (moves ++ move.toList) turn.state ∧ turn.user.isLost = false := by
  cases h with
  | admitted | refused | reported => exact ⟨by simpa using hears, rfl⟩
  | moved flow rest entries move after event hactivity hpath hthrough =>
      exact ⟨hears.move move hthrough, rfl⟩
  | lost flow entries sleep after hactivity hservice =>
      exact absurd (hsteady.of_reaches hears.reaches) hservice
  | idle => exact ⟨by simpa using hears, hlost⟩

/-- The service has heard the calls of all users, and nobody is lost. -/
structure Relay.Attended (service : Service σ) (start : σ) (strides : List Stride)
    (s : Relay users σ) : Prop where
  hears : service.Hears start (strides.map (·.move)) s.state
  unlost : ∀ i, (s.user i).isLost = false

theorem Relay.Attended.step {s : Relay users σ} {start : σ} (h : s.Attended service start strides)
    (hsteady : service.Steady start) (load : Load) (action : Action users) :
    (s.step load service action).Attended service start
      (strides ++ (s.stride? service action).toList) := by
  cases action with
  | turn i gate now =>
      obtain ⟨hears, hlost⟩ := (step_stepped { load with gate } service now s.state
        (s.user i)).attended hsteady h.hears (h.unlost i)
      have hmoves : ((s.stride? service (.turn i gate now)).toList).map (·.move) =
          ((s.user i).move? service s.state).toList := by
        cases hmove : (s.user i).move? service s.state <;>
          simp [Relay.stride?, User.stride?, User.stride, hmove]
      refine ⟨?_, ?_⟩
      · rw [List.map_append, hmoves]
        exact hears
      · intro j
        rw [Relay.step]
        by_cases hj : j = i
        · subst hj
          rw [turn_user_self]
          exact hlost
        · rw [turn_user_of_ne load service i gate now s hj]
          exact h.unlost j
  | receive | close =>
      exact ⟨by simpa [Relay.step, Relay.stride?] using h.hears,
        by simpa [Relay.step] using h.unlost⟩

theorem Relay.Attended.run {s : Relay users σ} {start : σ} (h : s.Attended service start strides)
    (hsteady : service.Steady start) (load : Load) (actions : List (Action users)) :
    (s.run load service actions).Attended service start
      (strides ++ s.strides load service actions) := by
  induction actions generalizing s strides with
  | nil => simpa [Relay.strides] using h
  | cons action actions ih =>
      rw [Relay.strides, ← List.append_assoc]
      exact ih (h.step hsteady load action)

end LoadProbe.Run
