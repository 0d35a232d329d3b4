import LoadProbe.Proofs.Crowd.ExactlyOnce
import LoadProbe.Proofs.Iteration.Calls
import LoadProbe.Proofs.Metrics.Reconciliation

/-!
# The traffic of a run

The users of a run share two lists of canned answers, and whoever calls next gets the answer that is
next.  Still every answer is given once, every answer that is given is counted once, and the
calls of an iteration have to do with the answers to that iteration only.

* `Run.regroup_perm`: grouping the members of a list by a key loses none and repeats none.
* `Run.Matched.reportedSamples_perm`: the samples of all reports are those of all calls.
* `Run.Traffic` is what the service, the calls and the summary of a run have to do with each other;
  `Run.closed_traffic` holds of every schedule, and of every run of a crowd.
-/

namespace LoadProbe.Run

open LoadProbe.Job LoadProbe.Metrics

variable {users : Nat}

/-! ## Moves, report by report -/

/-- The members of a list, grouped by a key. -/
theorem regroup_perm {α κ : Type} [DecidableEq κ] (key : α → κ) {keys : List κ}
    (hnodup : keys.Nodup) {items : List α} (hkeys : ∀ a ∈ items, key a ∈ keys) :
    (keys.flatMap fun k => items.filter fun a => key a = k).Perm items := by
  induction keys generalizing items with
  | nil =>
      have hnone : items = [] :=
        List.eq_nil_iff_forall_not_mem.mpr fun a ha => by simpa using hkeys a ha
      simp [hnone]
  | cons k keys ih =>
      obtain ⟨hk, hnodup⟩ := List.nodup_cons.mp hnodup
      -- The items with other keys are grouped as before.
      have hrest : ∀ a ∈ items.filter (fun a => ¬key a = k), key a ∈ keys := by
        intro a ha
        obtain ⟨ha, hne⟩ := List.mem_filter.mp ha
        exact (List.mem_cons.mp (hkeys a ha)).resolve_left (by simpa using hne)
      have hgroups : (keys.flatMap fun k' => items.filter fun a => key a = k') =
          keys.flatMap fun k' => (items.filter fun a => ¬key a = k).filter fun a => key a = k' := by
        refine List.flatMap_congr fun k' hk' => ?_
        rw [List.filter_filter]
        refine List.filter_congr fun a _ => ?_
        have hne : k' ≠ k := fun heq => hk (heq ▸ hk')
        by_cases ha : key a = k'
        · simp [ha, hne]
        · simp [ha]
      rw [List.flatMap_cons, hgroups]
      have hsplit :
          (items.filter (fun a => key a = k) ++ items.filter fun a => ¬key a = k).Perm items := by
        simpa using List.filter_append_perm (fun a => decide (key a = k)) items
      exact ((ih hnodup hrest).append_left _).trans hsplit

/-- The user and the iteration of a report. -/
def Report.key (r : Report) : Nat × Nat := (r.user, r.iteration)

/-- The user and the iteration of a stride. -/
def Stride.key (x : Stride) : Nat × Nat := (x.user, x.iteration)

/-- Every report tells of the moves that its user made in its iteration, no two of the same
iteration, and there are no other moves. -/
structure Matched (plan : Plan) (strides : List Stride) (reports : List Report) : Prop where
  told : ∀ r ∈ reports, plan.iteration.Path (movesIn strides r.user r.iteration) r.outcome ∧
    r.entries = entriesOf (movesIn strides r.user r.iteration)
  nodup_keys : (reports.map Report.key).Nodup
  covered : ∀ x ∈ strides, x.key ∈ reports.map Report.key

theorem nodup_keys_of_iterationsOf {reports : List Report}
    (h : ∀ id, (iterationsOf id reports).Nodup) : (reports.map Report.key).Nodup := by
  induction reports with
  | nil => exact List.nodup_nil
  | cons r reports ih =>
      have hone :
          iterationsOf r.user (r :: reports) = r.iteration :: iterationsOf r.user reports := by
        simp [iterationsOf]
      have hlater : ∀ id, (iterationsOf id reports).Nodup := by
        intro id
        have hsplit := iterationsOf_append id [r] reports
        rw [List.singleton_append] at hsplit
        exact (List.nodup_append.mp (hsplit ▸ h id)).2.1
      refine List.nodup_cons.mpr ⟨?_, ih hlater⟩
      intro hmem
      obtain ⟨r', hr', hkey⟩ := List.mem_map.mp hmem
      obtain ⟨huser, hiteration⟩ := Prod.mk.inj hkey
      have hagain : r.iteration ∈ iterationsOf r.user reports :=
        mem_iterationsOf.mpr ⟨r', hr', huser, hiteration⟩
      exact (List.nodup_cons.mp (hone ▸ h r.user)).1 hagain

/-- When the channel is closed and nobody was lost, moves and reports match. -/
theorem Relay.Tracked.matched {σ : Type} {plan : Plan} {strides : List Stride}
    {s : Relay users σ} (h : s.Tracked plan strides) (hclosed : s.closed = true)
    (hlost : ∀ i, (s.user i).isLost = false) : Matched plan strides s.received := by
  have honce := h.sound.exactlyOnce hclosed
  have hsent : s.sent = s.received := by simp [Relay.sent, (h.sound.ended hclosed).1]
  refine ⟨?_, ?_, ?_⟩
  · intro r hr
    have htold := (h.ledger ⟨r.user, honce.known r hr⟩).reported r (hsent ▸ hr)
    rw [h.sound.id_eq] at htold
    exact htold rfl
  · refine nodup_keys_of_iterationsOf fun id => ?_
    by_cases hid : id < users
    · rw [honce.inOrder ⟨id, hid⟩]
      exact List.nodup_range
    · have hnone : iterationsOf id s.received = [] := by
        refine List.eq_nil_iff_forall_not_mem.mpr fun k hk => ?_
        obtain ⟨r, hr, rfl, -⟩ := mem_iterationsOf.mp hk
        exact hid (honce.known r hr)
      rw [hnone]
      exact List.nodup_nil
  · intro x hx
    obtain ⟨r, hr, huser, hiteration⟩ := h.ended hclosed hlost hx
    exact List.mem_map.mpr ⟨r, hr, Prod.ext huser hiteration⟩

variable {plan : Plan} {strides : List Stride} {reports : List Report}

theorem Matched.conducted (h : Matched plan strides reports) {r : Report} (hr : r ∈ reports) :
    Conducted plan (movesIn strides r.user r.iteration) :=
  conducted_of_path (h.told r hr).1

/-- The samples of a report are those of the calls of its iteration. -/
theorem Matched.samplesOf_eq (h : Matched plan strides reports) {r : Report} (hr : r ∈ reports) :
    samplesOf r.entries = samplesIn (movesIn strides r.user r.iteration) := by
  rw [(h.told r hr).2, (h.conducted hr).samples_eq]

/-- The samples of all reports are those of all calls. -/
theorem Matched.reportedSamples_perm (h : Matched plan strides reports) :
    (reportedSamples reports).Perm (samplesIn (strides.map (·.move))) := by
  have hmoves : ∀ r : Report, samplesIn (movesIn strides r.user r.iteration) =
      (strides.filter fun x => x.key = r.key).filterMap fun x => x.move.sample? := by
    intro r
    simp only [samplesIn, movesIn, List.filterMap_map, Stride.key, Report.key, Prod.mk.injEq]
    rfl
  have hsamples : reportedSamples reports =
      ((reports.map Report.key).flatMap fun k => strides.filter fun x => x.key = k).filterMap
        fun x => x.move.sample? := by
    rw [reportedSamples, List.filterMap_flatMap, List.flatMap_map]
    refine List.flatMap_congr fun r hr => ?_
    rw [h.samplesOf_eq hr, hmoves]
  have hall : samplesIn (strides.map (·.move)) = strides.filterMap fun x => x.move.sample? := by
    rw [samplesIn, List.filterMap_map]
    rfl
  rw [hsamples, hall]
  exact (regroup_perm Stride.key h.nodup_keys h.covered).filterMap _

/-- Every submission is that of its iteration, so all submit the job of the plan. -/
theorem Matched.request_eq (h : Matched plan strides reports) {request : Request} {answer : Answer}
    (hcall : (request, answer) ∈ submissionsOf (strides.map (·.move))) :
    request = plan.request := by
  obtain ⟨move, hmove, hsubmission⟩ := List.mem_filterMap.mp hcall
  obtain ⟨x, hx, rfl⟩ := List.mem_map.mp hmove
  obtain ⟨r, hr, hkey⟩ := List.mem_map.mp (h.covered x hx)
  obtain ⟨huser, hiteration⟩ := Prod.mk.inj hkey
  obtain ⟨answer', later, hmoves, hlater, -⟩ := (h.conducted hr).calls
  have hmem : (request, answer) ∈ submissionsOf (movesIn strides r.user r.iteration) := by
    refine List.mem_filterMap.mpr ⟨x.move, List.mem_map_of_mem (List.mem_filter.mpr ⟨hx, ?_⟩),
      hsubmission⟩
    simp [huser, hiteration]
  have honly : submissionsOf (movesIn strides r.user r.iteration) = [(plan.request, answer')] := by
    rw [hmoves]
    exact congrArg (_ :: ·) hlater
  rw [honly, List.mem_singleton] at hmem
  exact congrArg Prod.fst hmem

/-! ## What the service has seen and what is counted -/

/-- The status that comes with a reply, if there is one. -/
def Exchange.status? (x : Exchange) : Option Nat :=
  match x.reply with
  | some (.ok r) => some r.status
  | _ => none

/-- The first answers to submissions and the first answers to status requests. -/
def firstAnswers (submits statuses : Script) (submissions polls : Nat) : List Exchange :=
  (List.range submissions).map submits.answer ++ (List.range polls).map statuses.answer

/-- What the service has seen, the calls that users have made and the summary have to do with each
other. -/
structure Traffic (plan : Plan) (submits statuses : Script) (s : Scripts) (strides : List Stride)
    (reports : List Report) (summary : Summary) : Prop where
  /-- The service has seen one submission for each iteration. -/
  submitted_length : s.submitted.length = summary.iterations
  submitLatency_count : summary.submitLatency.count = s.submitted.length
  statusLatency_count : summary.statusLatency.count = s.polled.length
  /-- All submissions are alike. -/
  request_eq : ∀ request ∈ s.submitted, request = plan.request
  /-- The service has seen the calls that users have made, and no others. -/
  submitted_eq : s.submitted.reverse = (submissionsOf (strides.map (·.move))).map (·.1)
  polled_eq : s.polled.reverse = (fetchesOf (strides.map (·.move))).map (·.1)
  /-- The calls got the answers of the scripts one after the other. -/
  submissions_answered : (submissionsOf (strides.map (·.move))).map (·.2.exchange) =
    (List.range s.submitted.length).map submits.answer
  fetches_answered : (fetchesOf (strides.map (·.move))).map (·.2.exchange) =
    (List.range s.polled.length).map statuses.answer
  /-- These answers were counted, each once. -/
  statuses_counts : summary.statuses.Counts
    (((firstAnswers submits statuses s.submitted.length s.polled.length).filterMap
      Exchange.status?).map Text.decimal)
  transportErrors_eq : summary.transportErrors =
    (firstAnswers submits statuses s.submitted.length s.polled.length).countP (·.status?.isNone)
  /-- Every call was made in an iteration that was reported. -/
  matched : Matched plan strides reports
  /-- The calls of an iteration are its submission and polls of the job that was accepted then. -/
  conducted : ∀ r ∈ reports, Conducted plan (movesIn strides r.user r.iteration)
  /-- An iteration reports the answers to its own calls. -/
  samplesOf_eq : ∀ r ∈ reports,
    samplesOf r.entries = samplesIn (movesIn strides r.user r.iteration)

theorem status_sample (endpoint : Endpoint) (answer : Answer) :
    (answer.sample endpoint).status = answer.exchange.status? := by
  obtain ⟨result, latency⟩ := answer
  cases result <;> rfl

/-- The statuses in the samples of the calls are those in the answers. -/
theorem map_status_perm (moves : List Move) :
    ((samplesIn moves).map (·.status)).Perm
      (((submissionsOf moves).map (·.2.exchange) ++
        (fetchesOf moves).map (·.2.exchange)).map Exchange.status?) := by
  refine ((samplesIn_perm moves).map _).trans (.of_eq ?_)
  simp [Function.comp_def, status_sample]

theorem requestsTo_samplesIn (moves : List Move) :
    requestsTo .submit (samplesIn moves) = (submissionsOf moves).length ∧
      requestsTo .status (samplesIn moves) = (fetchesOf moves).length := by
  have hperm := samplesIn_perm moves
  simp only [requestsTo, (hperm.filter _).length_eq]
  simp [Answer.sample, List.filter_map, Function.comp_def]

/-- The summary of matching reports counts the answers that the service has given. -/
theorem Matched.traffic (h : Matched plan strides reports) {submits statuses : Script} {s : Scripts}
    (hserved : s.Served submits statuses (strides.map (·.move))) (users : Nat) (elapsed : Duration)
    (startedAt : Timestamp) :
    Traffic plan submits statuses s strides reports
      (((reports.foldl Aggregate.record { users }).finish elapsed).summary startedAt) := by
  have hrecounts := ((tallies_foldl_record users reports).finish elapsed).recounts startedAt
  have hgenuine : ∀ r ∈ reports, r.Genuine plan := fun r hr => ⟨_, h.told r hr⟩
  have hreconciled := reconciles_of_genuine hgenuine users elapsed startedAt
  generalize ((reports.foldl Aggregate.record { users }).finish elapsed).summary startedAt =
    summary at hrecounts hreconciled ⊢
  -- What the services were asked is what the users did, call by call.
  have hsubmitted : s.submitted.length = (submissionsOf (strides.map (·.move))).length := by
    simp [hserved.submitted_eq]
  have hpolled : s.polled.length = (fetchesOf (strides.map (·.move))).length := by
    simp [hserved.polled_eq]
  -- What is reported is the same in another order, which no number depends on.
  have hsamples := h.reportedSamples_perm
  have hrequests : ∀ endpoint, requestsTo endpoint (reportedSamples reports) =
      requestsTo endpoint (samplesIn (strides.map (·.move))) :=
    fun endpoint => (hsamples.filter _).length_eq
  obtain ⟨hsubmits, hpolls⟩ := requestsTo_samplesIn (strides.map (·.move))
  have hcount : summary.submitLatency.count = s.submitted.length := by
    rw [hrecounts.submitLatency_count, hrequests, hsubmits, hsubmitted]
  have hanswers : firstAnswers submits statuses s.submitted.length s.polled.length =
      (submissionsOf (strides.map (·.move))).map (·.2.exchange) ++
        (fetchesOf (strides.map (·.move))).map (·.2.exchange) := by
    rw [firstAnswers, hsubmitted, hpolled, hserved.submissions_eq, hserved.fetches_eq]
  have hstatuses : ((reportedSamples reports).map (·.status)).Perm
      ((firstAnswers submits statuses s.submitted.length s.polled.length).map
        Exchange.status?) := by
    rw [hanswers]
    exact (hsamples.map _).trans (map_status_perm _)
  refine
    { submitted_length := ?_
      submitLatency_count := hcount
      statusLatency_count := by
        rw [hrecounts.statusLatency_count, hrequests, hpolls, hpolled]
      request_eq := ?_
      submitted_eq := by rw [hserved.submitted_eq, List.reverse_reverse]
      polled_eq := by rw [hserved.polled_eq, List.reverse_reverse]
      submissions_answered := by rw [hsubmitted, hserved.submissions_eq]
      fetches_answered := by rw [hpolled, hserved.fetches_eq]
      statuses_counts := ?_
      transportErrors_eq := ?_
      matched := h
      conducted := fun r hr => h.conducted hr
      samplesOf_eq := fun r hr => h.samplesOf_eq hr }
  · rw [← hcount]
    exact hreconciled.reconciled.submits_eq
  · intro request hrequest
    rw [hserved.submitted_eq, List.mem_reverse] at hrequest
    obtain ⟨⟨_, answer⟩, hcall, rfl⟩ := List.mem_map.mp hrequest
    exact h.request_eq hcall
  · have hperm := (hstatuses.filterMap id).map Text.decimal
    rw [List.filterMap_map, List.filterMap_map] at hperm
    exact hrecounts.statuses_counts.perm hperm
  · have hcounted := hstatuses.countP_eq (·.isNone)
    rw [List.countP_map, List.countP_map] at hcounted
    exact hrecounts.transportErrors_eq.trans hcounted

/-- The traffic of a run that follows a schedule until the channel is closed. -/
theorem relay_traffic (load : Load) {submits statuses : Script} (hsubmits : submits.Replies)
    (hstatuses : statuses.Replies) (actions : List (Action users))
    (hclosed : (Relay.following load scripted (.fresh submits statuses) actions).closed = true)
    (elapsed : Duration) (startedAt : Timestamp) :
    Traffic load.plan submits statuses
      (Relay.following load scripted (.fresh submits statuses) actions).state
      ((Relay.start users (.fresh submits statuses)).strides load scripted actions)
      (Relay.following load scripted (.fresh submits statuses) actions).received
      (((Relay.following load scripted (.fresh submits statuses) actions).metrics.finish
        elapsed).summary startedAt) := by
  have hsteady : scripted.Steady (.fresh submits statuses) := scripted_steady hsubmits hstatuses
  have hstart : (Relay.start users (.fresh submits statuses)).Attended scripted
      (.fresh submits statuses) [] := ⟨.start, fun _ => rfl⟩
  have hattended := hstart.run hsteady load actions
  have htracked := (Relay.tracked_start load.plan (.fresh submits statuses)).run scripted actions
  have hmatched := htracked.matched hclosed hattended.unlost
  have hmetrics := htracked.sound.folded
  rw [← Relay.following] at hmatched hmetrics hattended
  rw [hmetrics]
  exact hmatched.traffic (served_of_hears hattended.hears) users elapsed startedAt

/-- With canned answers that always come, any number of users and any order in which their calls
reach the service: when the channel is closed, the service has seen one submission for each
iteration and nothing but submissions of the plan and polls; the calls have got the answers of the
scripts one after the other, and just these are counted in the summary; and the polls of each
iteration are polls of the job that the answer to its own submission named.  So it is with a run of
a crowd. -/
theorem closed_traffic (load : Load) (users : Nat) {submits statuses : Script}
    (hsubmits : submits.Replies) (hstatuses : statuses.Replies) (startedAt : Timestamp) :
    (∀ actions : List (Action users),
      (Relay.following load scripted (.fresh submits statuses) actions).closed = true →
        ∀ elapsed, Traffic load.plan submits statuses
          (Relay.following load scripted (.fresh submits statuses) actions).state
          ((Relay.start users (.fresh submits statuses)).strides load scripted actions)
          (Relay.following load scripted (.fresh submits statuses) actions).received
          (((Relay.following load scripted (.fresh submits statuses) actions).metrics.finish
            elapsed).summary startedAt)) ∧
    ∀ fuel s, Crowd.run load scripted fuel (.start users (.fresh submits statuses)) = some s →
      Traffic load.plan submits statuses s.state
        (Crowd.strides load scripted fuel (.start users (.fresh submits statuses)))
        s.reports.reverse ((Aggregate.ofCrowd users s).summary startedAt) := by
  refine ⟨fun actions hclosed elapsed =>
    relay_traffic load hsubmits hstatuses actions hclosed elapsed startedAt, ?_⟩
  intro fuel s hrun
  obtain ⟨actions, -, hsettled, hstate, hstrides⟩ := crowd_followed hrun
  have htraffic := relay_traffic load hsubmits hstatuses actions hsettled.closed s.clock startedAt
  rwa [hstate, hstrides, hsettled.received_eq, hsettled.metrics_eq] at htraffic

/-- Canned answers to two submissions: two jobs at different addresses. -/
def twoJobs : Script :=
  ⟨[⟨1, some (.ok ⟨202, "\x7b\"id\":1,\"status_url\":\"a\"\x7d"⟩)⟩,
    ⟨1, some (.ok ⟨202, "\x7b\"id\":2,\"status_url\":\"b\"\x7d"⟩)⟩], none⟩

/-- One canned answer to a status request. -/
def oneStatus : Script := ⟨[⟨1, some (.ok ⟨429, ""⟩)⟩], none⟩

/-- Two users: each polls its own job, and for the second poll there is no answer left. -/
theorem closed_traffic_two_jobs :
    twoJobs.Replies ∧ oneStatus.Replies ∧
      ∃ s, Crowd.run onceLoad scripted 40 (.start 2 (.fresh twoJobs oneStatus)) = some s ∧
        Traffic onceLoad.plan twoJobs oneStatus s.state
          (Crowd.strides onceLoad scripted 40 (.start 2 (.fresh twoJobs oneStatus)))
          s.reports.reverse ((Aggregate.ofCrowd 2 s).summary ⟨0, 0⟩) ∧
        s.state.polled = ["b", "a"] := by
  have hsubmits : twoJobs.Replies := by simp [twoJobs, Script.Replies]
  have hstatuses : oneStatus.Replies := by simp [oneStatus, Script.Replies]
  have hpolled : (Crowd.run onceLoad scripted 40 (.start 2 (.fresh twoJobs oneStatus))).map
      (fun s => s.state.polled) = some ["b", "a"] := by decide +kernel
  obtain ⟨s, hrun, hurls⟩ := Option.map_eq_some_iff.mp hpolled
  exact ⟨hsubmits, hstatuses, s, hrun,
    (closed_traffic onceLoad 2 hsubmits hstatuses ⟨0, 0⟩).2 40 s hrun, hurls⟩

end LoadProbe.Run
