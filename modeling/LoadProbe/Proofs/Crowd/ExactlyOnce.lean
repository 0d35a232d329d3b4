import LoadProbe.Proofs.Crowd.Schedule

/-!
# Every iteration is counted exactly once

Users may be lost in the middle of an iteration, and reports may wait in the channel while others
are received.  Still, when the channel is closed the totals are those of every iteration that came
to an end, each counted once and in the order of its user.

* `Run.ExactlyOnce` says so of a run.
* `Run.length_eq_sum_iterationsOf` counts the reports user by user.
* `Run.closed_exactly_once` holds of every schedule, and a run of a crowd is one of them.
-/

namespace LoadProbe.Run

open LoadProbe.Job LoadProbe.Metrics

variable {σ : Type} {users : Nat}

/-- The totals are those of the reports that were received.  Those of each user tell of its
iterations `0`, `1`, … up to the number that it finished, in this order, and of no others; a user
finished all iterations to which it was admitted, but for the last one if it was lost. -/
structure ExactlyOnce (plan : Plan) (s : Relay users σ) (finished : Fin users → Nat) : Prop where
  folded : s.metrics = s.received.foldl Aggregate.record { users }
  inOrder : ∀ i : Fin users, iterationsOf i s.received = List.range (finished i)
  known : ∀ r ∈ s.received, r.user < users
  genuine : ∀ r ∈ s.received, r.Genuine plan
  admissions : ∀ i, s.admitted.count i = finished i + if (s.user i).isLost then 1 else 0
  total : s.metrics.iterations = ∑ i, finished i

/-- Every report is that of one user. -/
theorem length_eq_sum_iterationsOf {reports : List Report} (h : ∀ r ∈ reports, r.user < users) :
    reports.length = ∑ i : Fin users, (iterationsOf i reports).length := by
  induction reports with
  | nil => simp
  | cons r reports ih =>
      -- The first report lengthens the list of its own user and no other.
      have hone : ∀ i : Fin users, (iterationsOf i (r :: reports)).length =
          (iterationsOf i reports).length +
            if (⟨r.user, h r List.mem_cons_self⟩ : Fin users) = i then 1 else 0 := by
        intro i
        by_cases hi : r.user = i
        · simp [iterationsOf, hi]
        · have hne : (⟨r.user, h r List.mem_cons_self⟩ : Fin users) ≠ i :=
            fun heq => hi (congrArg Fin.val heq)
          simp [iterationsOf, hi, hne]
      rw [List.length_cons, ih fun r' hr' => h r' (List.mem_cons_of_mem r hr'),
        Finset.sum_congr rfl fun i _ => hone i, Finset.sum_add_distrib]
      simp

/-- A sound run whose channel is closed has counted everything. -/
theorem Relay.Sound.exactlyOnce {plan : Plan} {s : Relay users σ} (h : s.Sound plan)
    (hclosed : s.closed = true) : ExactlyOnce plan s fun i => (s.user i).completed := by
  obtain ⟨hchannel, hleft⟩ := h.ended hclosed
  have hsent : s.sent = s.received := by simp [Relay.sent, hchannel]
  have hinOrder : ∀ i : Fin users,
      iterationsOf i s.received = List.range (s.user i).completed := by
    intro i
    have hkept := (h.kept i).inOrder
    rwa [h.id_eq, hsent] at hkept
  have hknown : ∀ r ∈ s.received, r.user < users := hsent ▸ h.known
  refine ⟨h.folded, hinOrder, hknown, hsent ▸ h.genuine, ?_, ?_⟩
  · intro i
    rw [(h.kept i).admissions_eq, isBusy_eq_isLost (hleft i)]
  · rw [h.folded, Aggregate.iterations_foldl_record, length_eq_sum_iterationsOf hknown]
    simp [hinOrder]

/-- With any number of users, on any service, whatever the gate says to each user at each time and
in whichever order users go on and reports are received: when the channel is closed, every iteration
that was finished has been counted exactly once.  Under a gate with nothing but a cap, that is as
many iterations as the cap says for each user who was not lost.  A run of a crowd comes to the
totals of such a schedule. -/
theorem closed_exactly_once (load : Load) (service : Service σ) (users : Nat) (state : σ) :
    (∀ actions : List (Action users),
      (Relay.following load service state actions).closed = true →
        ∃ finished,
          ExactlyOnce load.plan (Relay.following load service state actions) finished ∧
          ∀ cap, (∀ action ∈ actions, action.Asks ⟨none, some cap⟩) →
            (∀ i, ((Relay.following load service state actions).user i).isLost = false →
              finished i = cap) ∧
            ((∀ i, ((Relay.following load service state actions).user i).isLost = false) →
              (Relay.following load service state actions).metrics.iterations = cap * users)) ∧
    ∀ fuel s, Crowd.run load service fuel (.start users state) = some s →
      ∃ actions : List (Action users), (∀ action ∈ actions, action.Asks load.gate) ∧
        s.Settled (Relay.following load service state actions) := by
  refine ⟨?_, fun fuel s hrun => crowd_schedule hrun⟩
  intro actions hclosed
  have hsound := sound_run load service state actions
  have honce := hsound.exactlyOnce hclosed
  refine ⟨_, honce, ?_⟩
  intro cap hasks
  have hcap : ∀ i, ((Relay.following load service state actions).user i).isLost = false →
      ((Relay.following load service state actions).user i).completed = cap := by
    intro i hlost
    have hstart : ∀ i, WithinCap cap ((Relay.start users state).user i) :=
      fun _ => Nat.zero_le cap
    have hwithin : WithinCap cap ((Relay.following load service state actions).user i) :=
      withinCap_run load service hasks hstart i
    -- Whoever stopped within the cap was refused by it, so it had reached it.
    have hstopped := stopped_of_hasLeft ((hsound.ended hclosed).2 i) hlost
    unfold WithinCap at hwithin
    rwa [hstopped] at hwithin
  refine ⟨hcap, ?_⟩
  intro hlost
  rw [honce.total, Finset.sum_congr rfl fun i _ => hcap i (hlost i)]
  simp [Nat.mul_comm]

/-- One iteration for each user. -/
def onceLoad : Load := ⟨⟨⟨"hi", ""⟩, 2, 1⟩, 1, ⟨none, some 1⟩⟩

/-- Canned answers: the first call gets no reply, and the second one fails. -/
def lossyScripts : Scripts where
  submits := ⟨[⟨0, none⟩, ⟨0, some (.error (.transport "reset"))⟩], none⟩
  statuses := ⟨[], none⟩

/-- Two users, the first of whom is lost: the run is over with one report, and there is a schedule
that says why that is all. -/
theorem closed_exactly_once_lossy :
    ∃ s, Crowd.run onceLoad scripted 20 (.start 2 lossyScripts) = some s ∧ s.reports.length = 1 ∧
      ∃ (actions : List (Action 2)) (finished : Fin 2 → Nat),
        s.Settled (Relay.following onceLoad scripted lossyScripts actions) ∧
        ExactlyOnce onceLoad.plan (Relay.following onceLoad scripted lossyScripts actions)
          finished ∧
        ∀ i, ((Relay.following onceLoad scripted lossyScripts actions).user i).isLost = false →
          finished i = 1 := by
  obtain ⟨hschedules, hcrowd⟩ := closed_exactly_once onceLoad scripted 2 lossyScripts
  have hreports : (Crowd.run onceLoad scripted 20 (.start 2 lossyScripts)).map
      (fun s => s.reports.length) = some 1 := by decide +kernel
  obtain ⟨s, hrun, hlength⟩ := Option.map_eq_some_iff.mp hreports
  obtain ⟨actions, hasks, hsettled⟩ := hcrowd 20 s hrun
  obtain ⟨finished, honce, hcap⟩ := hschedules actions hsettled.closed
  exact ⟨s, hrun, hlength, actions, finished, hsettled, honce, (hcap 1 hasks).1⟩

end LoadProbe.Run
