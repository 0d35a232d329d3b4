import LoadProbe.Proofs.Crowd.Strides
import LoadProbe.Proofs.Iteration.Calls

/-!
# The times of one user

Whenever a user takes a step, it is due at a time that its own iterations tell: those before the one
it is at began one after the other, each when the calls and the pause of the one before were
over.

* `Run.Punctual` says so of a user who is due.
* `Run.Stepped.punctual` keeps it through a step of that user, who is due again when it has slept;
  `Run.Punctual.of_others` keeps it through the steps of others.
-/

namespace LoadProbe.Run

open LoadProbe.Job

variable {σ : Type}

/-- The pause after an iteration with the given outcome. -/
def Load.pauseAfter (load : Load) (outcome : Outcome) : Duration :=
  if outcome.pausesAfter then load.pause.asleep else 0

/-- What the iterations of a user that is due at the time `due` tell of its times: iteration `k`
began at `begins k`. -/
structure Punctual (load : Load) (begins : Nat → Duration) (strides : List Stride)
    (reports : List Report) (due : Duration) (u : User) : Prop where
  zero : begins 0 = 0
  succ : ∀ r ∈ reports, r.user = u.id → begins (r.iteration + 1) =
    begins r.iteration + load.plan.spent (movesIn strides u.id r.iteration) +
      load.pauseAfter r.outcome
  admitted : ∀ k < u.completed + (if u.isBusy then 1 else 0),
    load.gate.mayStart (begins k) k = true
  refused : u.activity = .stopped → load.gate.mayStart (begins u.completed) u.completed = false
  submitted : ∀ x ∈ strides, x.user = u.id → x.move.submission?.isSome = true →
    x.time = begins x.iteration
  due_eq : u.isLost = false →
    due = begins u.completed + timeOf (movesIn strides u.id u.completed)

theorem exists_path {α : Type} (flow : Flow α) : ∃ moves result, flow.Path moves result := by
  induction flow with
  | done result => exact ⟨[], result, .done result⟩
  | note entry rest ih =>
      obtain ⟨moves, result, hpath⟩ := ih
      exact ⟨_, result, .note entry hpath⟩
  | wait duration rest ih =>
      obtain ⟨moves, result, hpath⟩ := ih
      exact ⟨_, result, .wait duration hpath⟩
  | submit request rest ih =>
      obtain ⟨moves, result, hpath⟩ := ih ⟨.ok default, 0⟩
      exact ⟨_, result, .submit request _ hpath⟩
  | fetch url rest ih =>
      obtain ⟨moves, result, hpath⟩ := ih ⟨.ok default, 0⟩
      exact ⟨_, result, .fetch url _ hpath⟩

/-- An iteration submits before it does anything else. -/
theorem eq_nil_of_path {plan : Plan} {before later : List Move} {move : Move} {outcome : Outcome}
    (h : plan.iteration.Path (before ++ move :: later) outcome)
    (hmove : move.submission?.isSome = true) : before = [] := by
  obtain ⟨answer, rest, hmoves, hrest, -⟩ := (conducted_of_path h).calls
  cases before with
  | nil => rfl
  | cons first before =>
      -- Otherwise the move would be one of those that follow the submission.
      obtain ⟨-, hlater⟩ := List.cons.inj hmoves
      obtain ⟨call, hcall⟩ := Option.isSome_iff_exists.mp hmove
      have hmem : call ∈ submissionsOf rest :=
        List.mem_filterMap.mpr ⟨move, by simp [← hlater], hcall⟩
      simp [hrest] at hmem

variable {load : Load} {service : Service σ} {now : Duration} {state : σ} {u : User}
  {move : Option Move} {turn : Turn σ} {begins : Nat → Duration} {strides : List Stride}
  {reports : List Report}

/-! ## The steps of the user -/

/-- Whoever is between two iterations is due when the next one begins. -/
theorem Punctual.now_eq (h : Punctual load begins strides reports now u)
    (hledger : Ledger load.plan strides reports u) (hidle : u.isBusy = false) :
    now = begins u.completed := by
  have hlost : u.isLost = false := by
    unfold User.isBusy at hidle
    unfold User.isLost
    split at hidle <;> simp_all
  have hdue := h.due_eq hlost
  simpa [hledger.idle hidle, timeOf] using hdue

theorem Punctual.admit (h : Punctual load begins strides reports now u)
    (hledger : Ledger load.plan strides reports u) (hactivity : u.activity = .deciding)
    (hgate : load.gate.mayStart now u.completed = true) (flow : Flow Outcome)
    (entries : List Entry) :
    Punctual load begins strides reports now { u with activity := .working flow entries } := by
  have hnow := h.now_eq hledger (by simp [User.isBusy, hactivity])
  have hdue := h.due_eq (by simp [User.isLost, hactivity])
  refine ⟨h.zero, h.succ, ?_, by simp, h.submitted, fun _ => hdue⟩
  intro k hk
  have hk : k ≤ u.completed := by simpa [User.isBusy] using hk
  rcases hk.lt_or_eq with hk | rfl
  · exact h.admitted k (Nat.lt_add_right _ hk)
  · rwa [← hnow]

theorem Punctual.refuse (h : Punctual load begins strides reports now u)
    (hledger : Ledger load.plan strides reports u) (hactivity : u.activity = .deciding)
    (hgate : load.gate.mayStart now u.completed = false) :
    Punctual load begins strides reports now { u with activity := .stopped } := by
  have hnow := h.now_eq hledger (by simp [User.isBusy, hactivity])
  have hdue := h.due_eq (by simp [User.isLost, hactivity])
  refine ⟨h.zero, h.succ, ?_, ?_, h.submitted, fun _ => hdue⟩
  · intro k hk
    exact h.admitted k (Nat.lt_add_right _ hk)
  · intro _
    rwa [← hnow]

/-- A move takes its time, and a submission is made when the iteration begins. -/
theorem Punctual.stride {flow rest : Flow Outcome} {entries entries' : List Entry} {move : Move}
    (h : Punctual load begins strides reports now u) (hledger : Ledger load.plan strides reports u)
    (hbefore : ∀ r ∈ reports, r.user = u.id → r.iteration < u.completed)
    (hactivity : u.activity = .working flow entries)
    (hpath : ∀ later outcome, rest.Path later outcome → flow.Path (move :: later) outcome) :
    Punctual load begins (strides ++ [u.stride now move]) reports (now + move.time)
      { u with activity := .working rest entries' } := by
  have hmoves := movesIn_append_stride strides u now (some move)
  simp only [Option.map_some, Option.toList_some] at hmoves
  have hdue := h.due_eq (by simp [User.isLost, hactivity])
  refine ⟨h.zero, ?_, ?_, by simp, ?_, ?_⟩
  · intro r hr hid
    rw [hmoves, if_neg (hbefore r hr hid).ne, List.append_nil]
    exact h.succ r hr hid
  · intro k hk
    exact h.admitted k (by simpa [User.isBusy, hactivity] using hk)
  · intro x hx hid hsubmission
    rcases List.mem_append.mp hx with hx | hx
    · exact h.submitted x hx hid hsubmission
    · -- The submission comes first, so no time has passed in the iteration.
      obtain rfl := List.mem_singleton.mp hx
      obtain ⟨later, outcome, hlater⟩ := exists_path rest
      obtain ⟨-, hunderway⟩ := hledger.underway flow entries hactivity
      have hnone := eq_nil_of_path (hunderway _ outcome (hpath later outcome hlater)) hsubmission
      have hnow : now = begins u.completed := by simpa [hnone, timeOf] using hdue
      exact hnow
  · intro _
    rw [hmoves, if_pos rfl, timeOf_append, ← Nat.add_assoc, ← hdue]
    simp [timeOf]

/-- The next iteration begins when the moves of this one and the pause after it are over. -/
theorem Punctual.report {outcome : Outcome} {entries : List Entry}
    (h : Punctual load begins strides reports now u) (hledger : Ledger load.plan strides reports u)
    (hbefore : ∀ r ∈ reports, r.user = u.id → r.iteration < u.completed)
    (hactivity : u.activity = .working (.done outcome) entries) :
    Punctual load
      (Function.update begins (u.completed + 1) (now + load.pauseAfter outcome)) strides
      (reports ++ [⟨u.id, u.completed, outcome, entries.reverse⟩]) (now + load.pauseAfter outcome)
      { u with completed := u.completed + 1, activity := .deciding } := by
  have hdue := h.due_eq (by simp [User.isLost, hactivity])
  have hpath := (hledger.underway (.done outcome) entries hactivity).2 [] outcome (.done outcome)
  rw [List.append_nil] at hpath
  have hold : ∀ k ≤ u.completed, Function.update begins (u.completed + 1)
      (now + load.pauseAfter outcome) k = begins k :=
    fun k hk => Function.update_of_ne (by omega) _ _
  refine ⟨?_, ?_, ?_, by simp, ?_, ?_⟩
  · rw [hold 0 (Nat.zero_le _), h.zero]
  · intro r hr hid
    rcases List.mem_append.mp hr with hr | hr
    · have hlt := hbefore r hr hid
      rw [hold _ hlt, hold _ hlt.le]
      exact h.succ r hr hid
    · obtain rfl := List.mem_singleton.mp hr
      rw [hold _ le_rfl, Function.update_self, ← (conducted_of_path hpath).time_eq, ← hdue]
  · intro k hk
    have hk : k ≤ u.completed := by simpa [User.isBusy, Nat.lt_succ_iff] using hk
    rw [hold k hk]
    exact h.admitted k (by simpa [User.isBusy, hactivity, Nat.lt_succ_iff] using hk)
  · intro x hx hid hsubmission
    rw [hold _ (hledger.within x hx hid)]
    exact h.submitted x hx hid hsubmission
  · intro _
    simp [hledger.movesIn_succ, timeOf]

/-- After a step a user is due again when it has slept, and only the time of the next iteration is
new. -/
theorem Stepped.punctual (h : Stepped load service now state u move turn)
    (hpunctual : Punctual load begins strides reports now u)
    (hledger : Ledger load.plan strides reports u)
    (hbefore : ∀ r ∈ reports, r.user = u.id → r.iteration < u.completed) :
    ∃ begins', Punctual load begins' (strides ++ (move.map (u.stride now)).toList)
      (reports ++ turn.report.toList) (now + turn.sleep) turn.user := by
  cases h with
  | admitted hactivity hgate =>
      exact ⟨begins, by simpa using hpunctual.admit hledger hactivity hgate load.plan.iteration []⟩
  | refused hactivity hgate =>
      exact ⟨begins, by simpa using hpunctual.refuse hledger hactivity hgate⟩
  | moved flow rest entries move after event hactivity hpath hthrough =>
      exact ⟨begins, by simpa using hpunctual.stride hledger hbefore hactivity hpath⟩
  | lost flow entries sleep after hactivity hservice =>
      -- When a lost user would be due does not matter.
      refine ⟨begins, ?_⟩
      simp only [Option.map_none, Option.toList_none, List.append_nil]
      refine ⟨hpunctual.zero, hpunctual.succ, ?_, by simp, hpunctual.submitted,
        by simp [User.isLost]⟩
      intro k hk
      exact hpunctual.admitted k (by simpa [User.isBusy, hactivity] using hk)
  | reported outcome entries hactivity =>
      have hreport := hpunctual.report hledger hbefore hactivity
      exact ⟨_, by simpa [Load.pauseAfter] using hreport⟩
  | idle hleft => exact ⟨begins, by simpa using hpunctual⟩

/-! ## The steps of others -/

/-- Strides and reports of others do not matter. -/
theorem Punctual.of_others {due : Duration} (h : Punctual load begins strides reports due u)
    {strides' : List Stride} {reports' : List Report} (hstrides : ∀ x ∈ strides', x.user ≠ u.id)
    (hreports : ∀ r ∈ reports', r.user ≠ u.id) :
    Punctual load begins (strides ++ strides') (reports ++ reports') due u := by
  have hmoves := movesIn_append_of_others strides hstrides
  refine ⟨h.zero, ?_, h.admitted, h.refused, ?_, ?_⟩
  · intro r hr hid
    rw [hmoves]
    rcases List.mem_append.mp hr with hr | hr
    · exact h.succ r hr hid
    · exact absurd hid (hreports r hr)
  · intro x hx hid
    rcases List.mem_append.mp hx with hx | hx
    · exact h.submitted x hx hid
    · exact absurd hid (hstrides x hx)
  · rw [hmoves]
    exact h.due_eq

end LoadProbe.Run
