import LoadProbe.Proofs.Crowd.Limits
import LoadProbe.Settings.Check

/-!
# Who takes part in a run

Settings are checked before a run so that the run means something: at the least every user should
start an iteration.  At the start of a run no deadline has come, so only a cap can turn a user away
that has started none, and only a cap of none does.  Such a cap passes the check.

* `Run.accepted_window` is what the check says about users, deadlines and caps.
* `Run.mayStart_first_iff` says whom the gate of a run lets start at its beginning.
* `Run.accepted_participation`: with settings that pass the check every user takes part if and only
  if the cap is not a cap of none.
-/

namespace LoadProbe.Run

open LoadProbe.Job LoadProbe.Metrics

variable {σ : Type}

theorem require_ok_iff {condition : Bool} {reason : String} :
    Settings.require condition reason = .ok () ↔ condition = true := by
  cases condition <;> simp [Settings.require]

theorem bind_ok_iff {first : Except Fault Unit} {rest : Unit → Except Fault Unit} :
    (first >>= rest) = .ok () ↔ first = .ok () ∧ rest () = .ok () := by
  cases first with
  | error fault => simp [bind, Except.bind]
  | ok result => simp [bind, Except.bind]

/-- Settings that pass the check have users, and a deadline or a cap. -/
theorem accepted_window {settings : Settings} (hcheck : settings.check = .ok ()) :
    1 ≤ settings.schedule.users ∧
      (settings.schedule.durationSeconds ≠ 0 ∨ settings.schedule.iterations.isSome = true) := by
  unfold Settings.check at hcheck
  obtain ⟨-, hcheck⟩ := bind_ok_iff.mp hcheck
  obtain ⟨husers, hcheck⟩ := bind_ok_iff.mp hcheck
  obtain ⟨-, hcheck⟩ := bind_ok_iff.mp hcheck
  obtain ⟨hwindow, -⟩ := bind_ok_iff.mp hcheck
  rw [require_ok_iff] at husers hwindow
  exact ⟨Nat.one_le_iff_ne_zero.mpr (of_decide_eq_true husers), by simpa using hwindow⟩

/-- When a run starts its gate admits whoever has started no iteration, unless the cap is none. -/
theorem mayStart_first_iff (start window : Duration) (cap : Option Nat) :
    (Gate.ofWindow start window cap).mayStart start 0 = true ↔ cap ≠ some 0 := by
  have hdeadline :
      (Gate.ofWindow start window cap).deadline.all (fun deadline => start < deadline) = true := by
    simp only [Gate.ofWindow]
    split
    case isTrue hpos => exact decide_eq_true (Nat.lt_add_of_pos_right hpos)
    case isFalse => rfl
  rw [Gate.mayStart, hdeadline, Bool.true_and]
  show cap.all (fun cap => 0 < cap) = true ↔ cap ≠ some 0
  cases cap with
  | none => simp
  | some cap => simp [Nat.pos_iff_ne_zero]

section User

variable {load : Load} {begins : Nat → Duration} {strides : List Stride} {reports : List Report}
  {due : Duration} {u : User}

/-- A gate that admits at the start refuses nobody who has started no iteration, and whoever has
started none asks it at the start. -/
theorem Account.waits_or_started (h : Account load begins strides reports due u)
    (hfirst : load.gate.mayStart 0 0 = true) :
    1 ≤ u.started ∨ u.activity = .deciding ∧ due = 0 := by
  by_cases hstarted : 1 ≤ u.started
  · exact .inl hstarted
  have hcompleted : u.completed = 0 := by
    have := completed_le_started u
    omega
  cases hactivity : u.activity with
  | working flow entries => simp [User.started, User.isBusy, hactivity] at hstarted
  | aborted => simp [User.started, User.isBusy, hactivity] at hstarted
  | stopped =>
      have hrefused := h.punctual.refused hactivity
      rw [hcompleted, h.punctual.zero, hfirst] at hrefused
      cases hrefused
  | deciding =>
      have hdue := h.punctual.now_eq h.ledger (by simp [User.isBusy, hactivity])
      rw [hcompleted, h.punctual.zero] at hdue
      exact .inr ⟨rfl, hdue⟩

/-- A timetable has a first iteration if and only if the gate admits at the start. -/
theorem Timetable.count_pos_iff {id count : Nat}
    (h : Timetable load strides reports id begins count) :
    1 ≤ count ↔ load.gate.mayStart 0 0 = true := by
  obtain ⟨hrefused, hleast⟩ := h.count_least
  have hzero : load.gate.Refuses (begins 0) 0 ↔ load.gate.mayStart 0 0 = false := by
    rw [h.begins_zero]
    exact refuses_iff
  constructor
  · intro hpos
    by_contra hnot
    have hle := hleast (hzero.mpr (Bool.eq_false_of_not_eq_true hnot))
    omega
  · intro hfirst
    by_contra hnone
    obtain rfl : count = 0 := by omega
    rw [hzero.mp hrefused] at hfirst
    cases hfirst

end User

variable {load : Load} {service : Service σ} {users : Nat} {state : σ}

/-- Under a gate that admits at the start nobody is ever turned away before its first iteration:
whoever has not started one is about to ask, and the clock still shows the start. -/
theorem waits_or_started_after (hfirst : load.gate.mayStart 0 0 = true) (steps : Nat) {u : User}
    (hu : u ∈ ((Crowd.start users state).after load service steps).users) :
    1 ≤ u.started ∨
      u.activity = .deciding ∧
        (0, u) ∈ ((Crowd.start users state).after load service steps).due := by
  obtain ⟨begins, r, honTime, hfollows, -⟩ := onTime_after load service users state steps
  rcases List.mem_append.mp hu with hdue | hgone
  · obtain ⟨e, he, rfl⟩ := List.mem_map.mp hdue
    rcases (account_of_punctual hu (honTime.due e he)).waits_or_started hfirst with hstarted |
      ⟨hactivity, htime⟩
    · exact .inl hstarted
    · refine .inr ⟨hactivity, ?_⟩
      rwa [← htime]
  · obtain ⟨t, -, hpunctual⟩ := honTime.gone u hgone
    rcases (account_of_punctual hu hpunctual).waits_or_started hfirst with hstarted |
      ⟨hactivity, -⟩
    · exact .inl hstarted
    · have hleft := hfollows.left u hgone
      simp [User.hasLeft, hactivity] at hleft

/-- If a run comes to its end and nobody is lost, either everybody has reported a first iteration or
nobody has reported anything, as the gate says at the start. -/
theorem participation_of_run {fuel : Nat} {s : Crowd σ}
    (hunlost : Unlost load service users state)
    (hrun : Crowd.run load service fuel (.start users state) = some s) :
    (load.gate.mayStart 0 0 = true →
      (∀ id < users, ∃ r ∈ s.reports, r.user = id ∧ r.iteration = 0) ∧
        users ≤ (Aggregate.ofCrowd users s).iterations) ∧
    (load.gate.mayStart 0 0 = false → (Aggregate.ofCrowd users s).iterations = 0) := by
  have hlost : ∀ u ∈ s.gone, u.isLost = false := by
    intro u hu
    simp [User.isLost, stopped_of_gone hrun hunlost hu]
  obtain ⟨begins, count, htimetable, htotal, -⟩ :=
    crowd_timetable load service users state hrun hlost
  refine ⟨fun hfirst => ⟨fun id hid => ?_, ?_⟩, fun hrefused => ?_⟩
  · have hpos := (htimetable ⟨id, hid⟩).count_pos_iff.mpr hfirst
    have hmem : 0 ∈ iterationsOf id s.reports.reverse := by
      rw [(htimetable ⟨id, hid⟩).iterations_eq, List.mem_range]
      exact hpos
    obtain ⟨r, hr, huser, hiteration⟩ := mem_iterationsOf.mp hmem
    exact ⟨r, List.mem_reverse.mp hr, huser, hiteration⟩
  · calc users = ∑ _i : Fin users, 1 := by simp
      _ ≤ ∑ i, count i := Finset.sum_le_sum fun i _ => (htimetable i).count_pos_iff.mpr hfirst
      _ = (Aggregate.ofCrowd users s).iterations := htotal.symm
  · rw [htotal]
    refine Finset.sum_eq_zero fun i _ => ?_
    have hnone := (not_congr (htimetable i).count_pos_iff).mpr (by simp [hrefused])
    omega

/-- With settings that pass the check there is at least one user.  Unless the cap is none, every
user takes part: at no time has anybody been turned away who has not started an iteration, and in a
run that is over everybody has reported a first iteration, so at least as many are counted as there
are users.  With a cap of none the run comes to its end, and none is counted. -/
theorem accepted_participation (settings : Settings) (service : Service σ) (state : σ)
    (hcheck : settings.check = .ok ())
    (hunlost : Unlost (settings.load 0) service settings.schedule.users state) :
    1 ≤ settings.schedule.users ∧
    (settings.schedule.iterations ≠ some 0 →
      (∀ steps, ∀ u ∈ ((Crowd.start settings.schedule.users state).after (settings.load 0) service
          steps).users,
        1 ≤ u.started ∨ u.activity = .deciding ∧
          (0, u) ∈ ((Crowd.start settings.schedule.users state).after (settings.load 0) service
            steps).due) ∧
      ∀ fuel s,
        Crowd.run (settings.load 0) service fuel (.start settings.schedule.users state) = some s →
        (∀ id < settings.schedule.users, ∃ r ∈ s.reports, r.user = id ∧ r.iteration = 0) ∧
          settings.schedule.users ≤ (Aggregate.ofCrowd settings.schedule.users s).iterations) ∧
    (settings.schedule.iterations = some 0 →
      (∃ fuel s,
        Crowd.run (settings.load 0) service fuel (.start settings.schedule.users state) = some s) ∧
      ∀ fuel s,
        Crowd.run (settings.load 0) service fuel (.start settings.schedule.users state) = some s →
        (Aggregate.ofCrowd settings.schedule.users s).iterations = 0) := by
  have hgate : (settings.load 0).gate.mayStart 0 0 = true ↔
      settings.schedule.iterations ≠ some 0 := mayStart_first_iff _ _ _
  refine ⟨(accepted_window hcheck).1, fun hcap => ⟨?_, ?_⟩, fun hnone => ⟨?_, ?_⟩⟩
  · intro steps u hu
    exact waits_or_started_after (hgate.mpr hcap) steps hu
  · intro fuel s hrun
    exact (participation_of_run hunlost hrun).1 (hgate.mpr hcap)
  · have hstarted : ∀ steps, ∀ u ∈ ((Crowd.start settings.schedule.users state).after
        (settings.load 0) service steps).users, u.started ≤ 0 := by
      intro steps u hu
      obtain ⟨begins, due, haccount⟩ := account_of_mem hu
      exact haccount.punctual.started_le_cap hnone
    exact run_ends hunlost hstarted
  · intro fuel s hrun
    refine (participation_of_run hunlost hrun).2 ?_
    exact Bool.eq_false_of_not_eq_true fun hfirst => hgate.mp hfirst hnone

/-- Three users, one iteration each, and no deadline. -/
def briefSettings : Settings :=
  { schedule := { users := 3, durationSeconds := 0, iterations := some 1 } }

/-- All three take part. -/
theorem accepted_participation_brief :
    briefSettings.check = .ok () ∧ Unlost (briefSettings.load 0) scripted 3 erringScripts ∧
      ∃ s, Crowd.run (briefSettings.load 0) scripted 60 (.start 3 erringScripts) = some s ∧
        (∀ id < 3, ∃ r ∈ s.reports, r.user = id ∧ r.iteration = 0) ∧
        3 ≤ (Aggregate.ofCrowd 3 s).iterations := by
  have hcheck : briefSettings.check = .ok () := by decide +kernel
  have hunlost : Unlost (briefSettings.load 0) scripted 3 erringScripts :=
    unlost_of_steady (scripted_steady (by simp [erringScripts, Scripts.fresh, Script.Replies])
      (by simp [erringScripts, Scripts.fresh, Script.Replies])) (briefSettings.load 0) 3
  have hover : (Crowd.run (briefSettings.load 0) scripted 60 (.start 3 erringScripts)).isSome =
      true := by decide +kernel
  obtain ⟨s, hrun⟩ := Option.isSome_iff_exists.mp hover
  obtain ⟨-, hdriven, -⟩ :=
    accepted_participation briefSettings scripted erringScripts hcheck hunlost
  obtain ⟨hreported, hcounted⟩ := (hdriven (by decide)).2 60 s hrun
  exact ⟨hcheck, hunlost, s, hrun, hreported, hcounted⟩

/-- One user who may start no iteration. -/
def idleSettings : Settings :=
  { schedule := { users := 1, durationSeconds := 0, iterations := some 0 } }

/-- These settings pass the check although the run comes to its end without one iteration. -/
theorem accepted_without_participation :
    idleSettings.check = .ok () ∧ scripted.Steady erringScripts ∧
      ∃ s, Crowd.run (idleSettings.load 0) scripted 3
          (.start idleSettings.schedule.users erringScripts) = some s ∧
        s.reports = [] ∧ (Aggregate.ofCrowd idleSettings.schedule.users s).iterations = 0 ∧
        ¬idleSettings.schedule.users ≤
          (Aggregate.ofCrowd idleSettings.schedule.users s).iterations := by
  have hcheck : idleSettings.check = .ok () := by decide +kernel
  have hfacts : (Crowd.run (idleSettings.load 0) scripted 3
      (.start idleSettings.schedule.users erringScripts)).map
        (fun s =>
          (s.reports.isEmpty, (Aggregate.ofCrowd idleSettings.schedule.users s).iterations)) =
      some (true, 0) := by decide +kernel
  obtain ⟨s, hrun, hfacts⟩ := Option.map_eq_some_iff.mp hfacts
  obtain ⟨hreports, hnone⟩ := Prod.mk.inj hfacts
  refine ⟨hcheck, ?_, s, hrun, List.isEmpty_iff.mp hreports, hnone, ?_⟩
  · exact scripted_steady (by simp [erringScripts, Scripts.fresh, Script.Replies])
      (by simp [erringScripts, Scripts.fresh, Script.Replies])
  · rw [hnone]
    decide

end LoadProbe.Run
