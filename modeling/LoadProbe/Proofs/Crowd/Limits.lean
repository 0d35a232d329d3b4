import LoadProbe.Proofs.Crowd.Progress

/-!
# The limits of a run

A gate with a cap limits what each user does, and a gate with a deadline limits how long a run
lasts, whatever the service answers and however many users there are.

* `Run.Punctual.started_le_cap` and `Run.Account.started_le_ceilDiv` limit the iterations that a
  user begins, `Run.Account.begins_lt` the time at which it is through with them.
* `Run.crowd_bounded` says what this comes to for a whole run.
-/

namespace LoadProbe.Run

open LoadProbe.Job LoadProbe.Metrics

variable {σ : Type} {load : Load}

/-! ## One user -/

section User

variable {begins : Nat → Duration} {strides : List Stride} {reports : List Report} {due : Duration}
  {u : User}

/-- A user begins no more iterations than the cap says. -/
theorem Punctual.started_le_cap (h : Punctual load begins strides reports due u) {cap : Nat}
    (hcap : load.gate.cap = some cap) : u.started ≤ cap := by
  by_contra hmore
  have hadmitted := h.admitted cap (Nat.lt_of_not_le hmore)
  simp [Gate.mayStart, hcap] at hadmitted

/-- Whatever iteration a user has begun, it began it before the deadline. -/
theorem Punctual.begins_lt_deadline (h : Punctual load begins strides reports due u)
    {deadline : Duration} (hdeadline : load.gate.deadline = some deadline) {k : Nat}
    (hk : k < u.started) : begins k < deadline := by
  have hadmitted := h.admitted k hk
  simp only [Gate.mayStart, hdeadline, Option.all_some, Bool.and_eq_true, decide_eq_true_eq]
    at hadmitted
  exact hadmitted.1

/-- The next iteration begins when this one and the pause after it are over. -/
theorem Account.begins_succ (h : Account load begins strides reports due u) {k : Nat}
    (hk : k < u.completed) : ∃ r ∈ reports, r.user = u.id ∧ r.iteration = k ∧ begins (k + 1) =
      begins k +
        (load.plan.spent (movesIn strides r.user r.iteration) + load.pauseAfter r.outcome) := by
  obtain ⟨r, hr, huser, rfl⟩ := h.exists_report hk
  exact ⟨r, hr, huser, rfl, by rw [h.punctual.succ r hr huser, huser, Nat.add_assoc]⟩

/-- If no iteration is shorter than `least`, pause included, so many of them take so many times
that. -/
theorem Account.mul_le_begins (h : Account load begins strides reports due u) {least : Duration}
    (hleast : ∀ r ∈ reports,
      least ≤ load.plan.spent (movesIn strides r.user r.iteration) + load.pauseAfter r.outcome)
    {k : Nat} (hk : k ≤ u.completed) : k * least ≤ begins k := by
  induction k with
  | zero => rw [Nat.zero_mul]; exact Nat.zero_le _
  | succ k ih =>
      obtain ⟨r, hr, -, -, hnext⟩ := h.begins_succ hk
      have hlong := hleast r hr
      have hbefore := ih (Nat.le_of_succ_le hk)
      calc (k + 1) * least = k * least + least := Nat.succ_mul k least
        _ ≤ begins k + (load.plan.spent (movesIn strides r.user r.iteration) +
            load.pauseAfter r.outcome) := Nat.add_le_add hbefore hlong
        _ = begins (k + 1) := hnext.symm

/-- If no iteration is shorter than `least`, a user begins only so many before the deadline. -/
theorem Account.started_le_ceilDiv (h : Account load begins strides reports due u)
    {deadline least : Duration} (hdeadline : load.gate.deadline = some deadline) (hpos : 0 < least)
    (hleast : ∀ r ∈ reports,
      least ≤ load.plan.spent (movesIn strides r.user r.iteration) + load.pauseAfter r.outcome) :
    u.started ≤ deadline ⌈/⌉ least := by
  by_contra hmore
  have hmore := Nat.lt_of_not_le hmore
  have hbegan := h.punctual.begins_lt_deadline hdeadline hmore
  -- The iteration after all that fit would begin before the deadline, but no sooner than they end.
  have hcompleted : deadline ⌈/⌉ least ≤ u.completed :=
    Nat.le_of_lt_succ (hmore.trans_le (started_le u))
  have hlong := h.mul_le_begins hleast hcompleted
  have hfit : deadline ≤ least * (deadline ⌈/⌉ least) := (ceilDiv_le_iff_le_mul hpos).mp le_rfl
  rw [Nat.mul_comm] at hfit
  exact absurd (hfit.trans hlong) (Nat.not_le_of_lt hbegan)

/-- When a user is through with its iterations, the deadline is past by less than one of them. -/
theorem Account.begins_lt (h : Account load begins strides reports due u)
    {deadline submitMost fetchMost : Duration} (hdeadline : load.gate.deadline = some deadline)
    (hpos : 0 < deadline)
    (hsubmit : ∀ x ∈ strides, ∀ call ∈ x.move.submission?, call.2.latency ≤ submitMost)
    (hfetch : ∀ x ∈ strides, ∀ call ∈ x.move.fetch?, call.2.latency ≤ fetchMost) :
    begins u.completed < deadline + submitMost +
      load.plan.maxPolls * (load.plan.interval + fetchMost) + load.pause := by
  cases hcompleted : u.completed with
  | zero =>
      rw [h.punctual.zero]
      exact Nat.add_pos_left (Nat.add_pos_left (Nat.add_pos_left hpos _) _) _
  | succ k =>
      -- The last iteration began before the deadline, and all that follows it is its own.
      have hk : k < u.completed := hcompleted ▸ Nat.lt_succ_self k
      obtain ⟨r, hr, huser, rfl, hnext⟩ := h.begins_succ hk
      have hbegan := h.punctual.begins_lt_deadline hdeadline (hk.trans_le (completed_le_started u))
      have hmoves : ∀ move ∈ movesIn strides r.user r.iteration, ∃ x ∈ strides, x.move = move := by
        intro move hmove
        obtain ⟨x, hx, rfl⟩ := List.mem_map.mp hmove
        exact ⟨x, (List.mem_filter.mp hx).1, rfl⟩
      have hspent : load.plan.spent (movesIn strides r.user r.iteration) ≤
          submitMost + load.plan.maxPolls * (load.plan.interval + fetchMost) := by
        refine spent_le (huser ▸ (h.ledger.reported r hr huser).1) ?_ ?_
        · intro call hcall
          obtain ⟨move, hmove, hsubmission⟩ := List.mem_filterMap.mp hcall
          obtain ⟨x, hx, rfl⟩ := hmoves move hmove
          exact hsubmit x hx call hsubmission
        · intro call hcall
          obtain ⟨move, hmove, hfetched⟩ := List.mem_filterMap.mp hcall
          obtain ⟨x, hx, rfl⟩ := hmoves move hmove
          exact hfetch x hx call hfetched
      have hpause : load.pauseAfter r.outcome ≤ load.pause := by
        unfold Load.pauseAfter
        split
        · exact Nat.min_le_left _ _
        · exact Nat.zero_le _
      rw [hnext]
      refine (Nat.add_lt_add_of_lt_of_le hbegan (Nat.add_le_add hspent hpause)).trans_eq ?_
      simp only [Nat.add_assoc]

/-- A user who was refused left when the next iteration would have begun. -/
theorem Account.due_eq (h : Account load begins strides reports due u)
    (hstopped : u.activity = .stopped) : due = begins u.completed :=
  h.punctual.now_eq h.ledger (by simp [User.isBusy, hstopped])

end User

/-! ## All users -/

variable {service : Service σ} {users : Nat} {state : σ}

/-- A run with a deadline ends less than one iteration and one pause after it. -/
theorem clock_lt (hunlost : Unlost load service users state) {fuel : Nat} {s : Crowd σ}
    (hrun : Crowd.run load service fuel (.start users state) = some s)
    {deadline submitMost fetchMost : Duration}
    (hdeadline : load.gate.deadline = some deadline) (hpos : 0 < deadline)
    (hsubmit : ∀ x ∈ Crowd.strides load service fuel (.start users state),
      ∀ call ∈ x.move.submission?, call.2.latency ≤ submitMost)
    (hfetch : ∀ x ∈ Crowd.strides load service fuel (.start users state),
      ∀ call ∈ x.move.fetch?, call.2.latency ≤ fetchMost) :
    s.clock < deadline + submitMost +
      load.plan.maxPolls * (load.plan.interval + fetchMost) + load.pause := by
  rcases exists_last hrun with hnone | ⟨u, hu, begins, haccount⟩
  · rw [hnone]
    exact Nat.add_pos_left (Nat.add_pos_left (Nat.add_pos_left hpos _) _) _
  · rw [haccount.due_eq (stopped_of_gone hrun hunlost hu)]
    exact haccount.begins_lt hdeadline hpos hsubmit hfetch

/-- With any number of users and on any service, if nobody is lost.  With a cap, a user submits no
more often than the cap says and polls within the budget of so many iterations, and the run comes to
its end.  With a deadline, if no iteration is shorter than `least`, the pause after it included, a
user begins no more iterations than it takes to fill the time until the deadline, and the run comes
to its end.  And a run with a deadline, if it ends, does so less than one iteration and one pause
after it. -/
theorem crowd_bounded (load : Load) (service : Service σ) (users : Nat) (state : σ)
    (hunlost : Unlost load service users state) :
    (∀ cap, load.gate.cap = some cap →
      (∀ steps, ∀ id < users,
        (submissionsOf
          (movesBy (Crowd.strides load service steps (.start users state)) id)).length ≤ cap ∧
        (fetchesOf
          (movesBy (Crowd.strides load service steps (.start users state)) id)).length ≤
          cap * load.plan.maxPolls) ∧
      ∃ fuel s, Crowd.run load service fuel (.start users state) = some s) ∧
    (∀ deadline least, load.gate.deadline = some deadline → 0 < least →
      (∀ steps, ∀ r ∈ ((Crowd.start users state).after load service steps).reports,
        least ≤ load.plan.spent
          (movesIn (Crowd.strides load service steps (.start users state)) r.user r.iteration) +
            load.pauseAfter r.outcome) →
      (∀ steps, ∀ u ∈ ((Crowd.start users state).after load service steps).users,
        u.started ≤ deadline ⌈/⌉ least) ∧
      ∃ fuel s, Crowd.run load service fuel (.start users state) = some s) ∧
    ∀ deadline submitMost fetchMost fuel s, load.gate.deadline = some deadline → 0 < deadline →
      Crowd.run load service fuel (.start users state) = some s →
      (∀ x ∈ Crowd.strides load service fuel (.start users state),
        ∀ call ∈ x.move.submission?, call.2.latency ≤ submitMost) →
      (∀ x ∈ Crowd.strides load service fuel (.start users state),
        ∀ call ∈ x.move.fetch?, call.2.latency ≤ fetchMost) →
      (Aggregate.ofCrowd users s).elapsed <
        deadline + submitMost + load.plan.maxPolls * (load.plan.interval + fetchMost) +
          load.pause := by
  refine ⟨fun cap hcap => ?_, fun deadline least hdeadline hpos hleast => ?_, ?_⟩
  · have hstarted : ∀ steps, ∀ u ∈ ((Crowd.start users state).after load service steps).users,
        u.started ≤ cap := by
      intro steps u hu
      obtain ⟨begins, due, haccount⟩ := account_of_mem hu
      exact haccount.punctual.started_le_cap hcap
    refine ⟨fun steps id hid => ?_, run_ends hunlost hstarted⟩
    obtain ⟨u, hu, rfl⟩ := exists_user load service state steps hid
    obtain ⟨begins, due, haccount⟩ := account_of_mem hu
    obtain ⟨hsubmissions, hfetches, -⟩ := haccount.calls_le (hunlost steps u hu)
    have hcapped := hstarted steps u hu
    exact ⟨hsubmissions.trans hcapped, hfetches.trans (Nat.mul_le_mul_right _ hcapped)⟩
  · have hstarted : ∀ steps, ∀ u ∈ ((Crowd.start users state).after load service steps).users,
        u.started ≤ deadline ⌈/⌉ least := by
      intro steps u hu
      obtain ⟨begins, due, haccount⟩ := account_of_mem hu
      exact haccount.started_le_ceilDiv hdeadline hpos fun r hr =>
        hleast steps r (List.mem_reverse.mp hr)
    exact ⟨hstarted, run_ends hunlost hstarted⟩
  · intro deadline submitMost fetchMost fuel s hdeadline hpos hrun hsubmit hfetch
    exact clock_lt hunlost hrun hdeadline hpos hsubmit hfetch

/-- At most two iterations for each user, and none from twenty nanoseconds after the start on. -/
def limitedLoad : Load := { pacedLoad with gate := ⟨some 20, some 2⟩ }

/-- Two users whose iterations take at least seven nanoseconds each. -/
theorem crowd_bounded_paced :
    Unlost limitedLoad scripted 2 pacedScripts ∧
      (∀ steps, ∀ id < 2, (submissionsOf (movesBy
        (Crowd.strides limitedLoad scripted steps (.start 2 pacedScripts)) id)).length ≤ 2) ∧
      (∀ steps, ∀ u ∈ ((Crowd.start 2 pacedScripts).after limitedLoad scripted steps).users,
        u.started ≤ 20 ⌈/⌉ 7) ∧
      ∃ s, Crowd.run limitedLoad scripted 60 (.start 2 pacedScripts) = some s ∧
        (Aggregate.ofCrowd 2 s).elapsed < 20 + 7 + 2 * (5 + 0) + 10 := by
  have hunlost : Unlost limitedLoad scripted 2 pacedScripts :=
    unlost_of_steady (scripted_steady (by simp [pacedScripts, Scripts.fresh, Script.Replies])
      (by simp [pacedScripts, Scripts.fresh, Script.Replies])) limitedLoad 2
  obtain ⟨hcapped, hpaced, hends⟩ := crowd_bounded limitedLoad scripted 2 pacedScripts hunlost
  have hover : (Crowd.run limitedLoad scripted 60 (.start 2 pacedScripts)).isSome = true := by
    decide +kernel
  obtain ⟨s, hrun⟩ := Option.isSome_iff_exists.mp hover
  have hshort : ∀ steps < 61,
      ∀ r ∈ ((Crowd.start 2 pacedScripts).after limitedLoad scripted steps).reports,
        7 ≤ limitedLoad.plan.spent
          (movesIn (Crowd.strides limitedLoad scripted steps (.start 2 pacedScripts)) r.user
            r.iteration) + limitedLoad.pauseAfter r.outcome := by
    decide +kernel
  have hlong : ∀ steps,
      ∀ r ∈ ((Crowd.start 2 pacedScripts).after limitedLoad scripted steps).reports,
        7 ≤ limitedLoad.plan.spent
          (movesIn (Crowd.strides limitedLoad scripted steps (.start 2 pacedScripts)) r.user
            r.iteration) + limitedLoad.pauseAfter r.outcome := by
    intro steps
    rcases Nat.lt_or_ge steps 61 with hfew | hmany
    · exact hshort steps hfew
    · obtain ⟨hafter, hstrides⟩ := after_of_run hrun (Nat.le_of_succ_le hmany)
      have hlast := hshort 60 (by decide)
      rwa [(run_eq_some_iff.mp hrun).1, ← hafter, ← hstrides] at hlast
  refine ⟨hunlost, fun steps id hid => ((hcapped 2 rfl).1 steps id hid).1,
    (hpaced 20 7 rfl (by decide) hlong).1, s, hrun, ?_⟩
  have hdelays : ∀ x ∈ Crowd.strides limitedLoad scripted 60 (.start 2 pacedScripts),
      (∀ call ∈ x.move.submission?, call.2.latency ≤ 7) ∧
        ∀ call ∈ x.move.fetch?, call.2.latency ≤ 0 := by
    decide +kernel
  exact hends 20 7 0 60 s rfl (by decide) hrun (fun x hx => (hdelays x hx).1)
    fun x hx => (hdelays x hx).2

end LoadProbe.Run
