import LoadProbe.Proofs.Crowd.ExactlyOnce
import LoadProbe.Proofs.Iteration.Trace
import LoadProbe.Proofs.Metrics.Bookkeeping

/-!
# Reconciliation

Outcomes, checks and requests are recorded by different parts of an iteration, and each has a tally
of its own.  What they say about a run is not independent: every iteration leaves a trace, and over
a trace the tallies balance.

* `Metrics.Figures` are the numbers that are compared, `Metrics.Figures.Reconciled` the equations
  between them.  The equations are linear, so they hold of a sum if they hold of its parts
  (`Metrics.Figures.Reconciled.add`).
* `Metrics.reconciled_of_trace`: they hold of every iteration.  `Metrics.reconciled_of_pendings` is
  the induction over its polls, `Metrics.reconciled_of_reports` that over the reports of a run.
* `Metrics.run_reconciled`: they hold of the summary of every run, also if users were lost.
-/

namespace LoadProbe.Metrics

open LoadProbe.Job LoadProbe.Run

/-- The figures of a run that have to do with each other. -/
@[ext]
structure Figures where
  iterations : Nat
  outcomes : Outcome → Nat
  tally : String → Tally
  requests : Nat
  /-- The requests that submitted a job. -/
  submits : Nat
  /-- The requests that polled a job. -/
  polls : Nat
  /-- The requests without a status. -/
  errors : Nat
  /-- The requests that were throttled. -/
  throttled : Nat

namespace Figures

/-- The figures of what was recorded. -/
def ofRecords (outcomes : List Outcome) (checks : List Check) (samples : List Sample) :
    Figures where
  iterations := outcomes.length
  outcomes := fun o => outcomes.count o
  tally := tallyOf checks
  requests := samples.length
  submits := requestsTo .submit samples
  polls := requestsTo .status samples
  errors := samples.countP (·.status.isNone)
  throttled := samples.countP (·.status == some statusTooManyRequests)

/-- The figures of two parts of a run together. -/
def add (f g : Figures) : Figures where
  iterations := f.iterations + g.iterations
  outcomes o := f.outcomes o + g.outcomes o
  tally label :=
    ⟨(f.tally label).passes + (g.tally label).passes, (f.tally label).fails + (g.tally label).fails⟩
  requests := f.requests + g.requests
  submits := f.submits + g.submits
  polls := f.polls + g.polls
  errors := f.errors + g.errors
  throttled := f.throttled + g.throttled

/-- The equations between the figures of a run. -/
structure Reconciled (f : Figures) : Prop where
  outcomes_sum : (Outcome.all.map f.outcomes).sum = f.iterations
  requests_eq : f.requests = f.submits + f.polls
  submits_eq : f.submits = f.iterations
  rateLimitHit_eq : f.tally Label.rateLimitHit = ⟨f.outcomes .submitRateLimited, 0⟩
  jobAccepted_passes : (f.tally Label.jobAccepted).passes + f.outcomes .submitRateLimited +
    f.outcomes .submitUnexpected + f.outcomes .submitFailed = f.iterations
  jobAccepted_fails : (f.tally Label.jobAccepted).fails = 0
  hasJobId_total : (f.tally Label.hasJobId).total = (f.tally Label.jobAccepted).passes
  hasStatusUrl_total : (f.tally Label.hasStatusUrl).total = (f.tally Label.jobAccepted).passes
  missing_ge : f.outcomes .submitIncomplete ≤
    (f.tally Label.hasJobId).fails + (f.tally Label.hasStatusUrl).fails
  missing_le : (f.tally Label.hasJobId).fails + (f.tally Label.hasStatusUrl).fails ≤
    2 * f.outcomes .submitIncomplete
  statusRateLimit_eq : f.tally Label.statusRateLimit = ⟨f.outcomes .pollRateLimited, 0⟩
  hasChatId_total : (f.tally Label.hasChatId).total = f.outcomes .completed
  validated_total : (f.tally Label.hasAnswerText).total + (f.tally Label.hasError).total =
    f.outcomes .completed
  polls_eq : (f.tally Label.statusFetchOk).total + f.outcomes .pollRateLimited = f.polls
  errors_eq : f.errors + (f.tally Label.statusBodyParsed).total =
    f.outcomes .submitFailed + (f.tally Label.statusFetchOk).total
  throttled_eq : f.throttled = f.outcomes .submitRateLimited + f.outcomes .pollRateLimited

/-- What holds of two parts holds of both together. -/
theorem Reconciled.add {f g : Figures} (hf : f.Reconciled) (hg : g.Reconciled) :
    (f.add g).Reconciled := by
  have hsum : (Outcome.all.map (f.add g).outcomes).sum =
      (Outcome.all.map f.outcomes).sum + (Outcome.all.map g.outcomes).sum :=
    List.sum_map_add
  constructor
  case outcomes_sum => rw [hsum, hf.outcomes_sum, hg.outcomes_sum, Figures.add]
  case rateLimitHit_eq => simp [Figures.add, hf.rateLimitHit_eq, hg.rateLimitHit_eq]
  case statusRateLimit_eq => simp [Figures.add, hf.statusRateLimit_eq, hg.statusRateLimit_eq]
  -- The others are linear in the figures, so each is the sum of the same equation for the parts.
  all_goals
    cases hf
    cases hg
    simp only [Figures.add, Tally.total] at *
    omega

theorem ofRecords_append (outcomes outcomes' : List Outcome) (checks checks' : List Check)
    (samples samples' : List Sample) :
    ofRecords (outcomes ++ outcomes') (checks ++ checks') (samples ++ samples') =
      (ofRecords outcomes checks samples).add (ofRecords outcomes' checks' samples') := by
  ext <;> simp [ofRecords, add, tallyOf, requestsTo]

/-- The order of the checks and the samples does not matter. -/
theorem ofRecords_perm (outcomes : List Outcome) {checks checks' : List Check}
    {samples samples' : List Sample} (hchecks : checks.Perm checks')
    (hsamples : samples.Perm samples') :
    ofRecords outcomes checks samples = ofRecords outcomes checks' samples' := by
  ext <;> simp [ofRecords, tallyOf, requestsTo, hchecks.count_eq, hsamples.countP_eq,
    hsamples.length_eq, (hsamples.filter _).length_eq]

end Figures

@[simp] theorem tallyOf_nil (label : String) : tallyOf [] label = {} := rfl

theorem tallyOf_cons (c : Check) (checks : List Check) (label : String) :
    tallyOf (c :: checks) label =
      if c.label = label then (tallyOf checks label).add c.passed else tallyOf checks label := by
  obtain ⟨l, passed⟩ := c
  by_cases hl : l = label
  · cases passed <;> simp [tallyOf, Tally.add, hl]
  · simp [tallyOf, hl]

@[simp] theorem total_add (t : Tally) (passed : Bool) : (t.add passed).total = t.total + 1 := by
  cases passed <;> simp [Tally.total, Tally.add] <;> omega

/-- A poll that leaves its job pending. -/
theorem reconciled_of_pending {poll : Sample} {block : List Check} (h : PendingBlock poll block) :
    (Figures.ofRecords [] block [poll]).Reconciled := by
  cases h with
  | unanswered latency =>
      constructor <;> simp +decide [Figures.ofRecords, requestsTo, tallyOf_cons]
  | answered status latency parsed hstatus =>
      constructor <;>
        simp +decide [Figures.ofRecords, requestsTo, tallyOf_cons, fetchCheck, hstatus]

/-- Any number of such polls. -/
theorem reconciled_of_pendings {polls : List Sample} {blocks : List (List Check)}
    (h : List.Forall₂ PendingBlock polls blocks) :
    (Figures.ofRecords [] blocks.flatten polls).Reconciled := by
  induction h with
  | nil => constructor <;> simp [Figures.ofRecords, requestsTo, tallyOf_nil, Tally.total]
  | @cons poll block polls blocks hpoll hpolls ih =>
      have hsplit := Figures.ofRecords_append [] [] block blocks.flatten [poll] polls
      simp only [List.append_nil, List.singleton_append] at hsplit
      rw [List.flatten_cons, hsplit]
      exact (reconciled_of_pending hpoll).add ih

/-- The submission of a job and the poll that closes it. -/
theorem reconciled_of_closing {outcome : Outcome} {poll : Sample} {block : List Check}
    (h : ClosingBlock outcome poll block) (latency : Duration) :
    (Figures.ofRecords [outcome] (acceptedChecks true true ++ block)
      [⟨.submit, some statusAccepted, latency⟩, poll]).Reconciled := by
  cases h with
  | rateLimited =>
      constructor <;> simp +decide [Figures.ofRecords, requestsTo, tallyOf_cons, acceptedChecks]
  | completed status latency chatId passed label hlabel hstatus =>
      rcases hlabel with rfl | rfl
      · constructor <;> simp +decide [Figures.ofRecords, requestsTo, tallyOf_cons, acceptedChecks,
          fetchCheck, hstatus]
      · constructor <;> simp +decide [Figures.ofRecords, requestsTo, tallyOf_cons, acceptedChecks,
          fetchCheck, hstatus]
  | errored status latency hstatus =>
      constructor <;> simp +decide [Figures.ofRecords, requestsTo, tallyOf_cons, acceptedChecks,
        fetchCheck, hstatus]

/-- Whatever comes of an iteration, its figures are reconciled. -/
theorem reconciled_of_trace {maxPolls : Nat} {outcome : Outcome} {checks : List Check}
    {samples : List Sample} (h : IterationTrace maxPolls outcome checks samples) :
    (Figures.ofRecords [outcome] checks samples).Reconciled := by
  cases h with
  | submitRateLimited latency =>
      constructor <;> simp +decide [Figures.ofRecords, requestsTo, tallyOf_cons]
  | submitUnexpected status latency hthrottled haccepted =>
      constructor <;> simp +decide [Figures.ofRecords, requestsTo, hthrottled]
  | submitFailed latency =>
      constructor <;> simp +decide [Figures.ofRecords, requestsTo]
  | submitIncomplete jobId statusUrl latency hmissing =>
      cases jobId <;> cases statusUrl <;> first
        | exact absurd ⟨rfl, rfl⟩ hmissing
        | constructor <;> simp +decide [Figures.ofRecords, requestsTo, tallyOf_cons, acceptedChecks]
  | @followed _ polls blocks latency hpolls =>
      -- The pending polls are a part of their own; the rest is the submission and the closing poll.
      cases hpolls with
      | exhausted hpending hlength =>
          have hsplit := Figures.ofRecords_append [.exhausted] [] (acceptedChecks true true)
            blocks.flatten [⟨.submit, some statusAccepted, latency⟩] polls
          simp only [List.append_nil, List.singleton_append] at hsplit
          rw [hsplit]
          refine .add ?_ (reconciled_of_pendings hpending)
          constructor <;> simp +decide [Figures.ofRecords, requestsTo, tallyOf_cons, acceptedChecks]
      | @closed _ polls blocks poll block hpending hclosing hlength =>
          have hchecks : (acceptedChecks true true ++ (blocks ++ [block]).flatten).Perm
              (acceptedChecks true true ++ block ++ blocks.flatten) := by
            rw [List.flatten_append, List.flatten_singleton, List.append_assoc]
            exact List.perm_append_comm.append_left _
          have hsamples :
              ((⟨.submit, some statusAccepted, latency⟩ : Sample) :: (polls ++ [poll])).Perm
                ([⟨.submit, some statusAccepted, latency⟩, poll] ++ polls) :=
            (List.perm_append_singleton poll polls).cons _
          have hsplit := Figures.ofRecords_append [outcome] [] (acceptedChecks true true ++ block)
            blocks.flatten [⟨.submit, some statusAccepted, latency⟩, poll] polls
          rw [Figures.ofRecords_perm [outcome] hchecks hsamples, ← List.append_nil [outcome],
            hsplit]
          exact (reconciled_of_closing hclosing latency).add (reconciled_of_pendings hpending)

/-! ## Runs -/

/-- The figures of genuine reports are reconciled. -/
theorem reconciled_of_reports {plan : Plan} {reports : List Report}
    (h : ∀ r ∈ reports, r.Genuine plan) :
    (Figures.ofRecords (reports.map (·.outcome)) (reportedChecks reports)
      (reportedSamples reports)).Reconciled := by
  induction reports with
  | nil => exact reconciled_of_pendings .nil
  | cons r reports ih =>
      obtain ⟨moves, hpath, hentries⟩ := h r List.mem_cons_self
      have htrace := iterationTrace_of_path hpath
      rw [← hentries] at htrace
      have hsplit := Figures.ofRecords_append [r.outcome] (reports.map (·.outcome))
        (checksOf r.entries) (reportedChecks reports)
        (samplesOf r.entries) (reportedSamples reports)
      rw [List.map_cons, ← List.singleton_append, reportedChecks, reportedSamples,
        List.flatMap_cons, List.flatMap_cons]
      rw [reportedChecks, reportedSamples] at hsplit ih
      rw [hsplit]
      exact (reconciled_of_trace htrace).add (ih fun r' hr' => h r' (List.mem_cons_of_mem r hr'))

/-- The figures that a summary shows. -/
def Summary.figures (s : Summary) : Figures where
  iterations := s.iterations
  outcomes o := s.outcomes.count o.name
  tally := s.tally
  requests := s.requests
  submits := s.submitLatency.count
  polls := s.statusLatency.count
  errors := s.transportErrors
  throttled := s.statuses.count "429"

theorem Summary.Recounts.figures_eq {s : Summary} {outcomes : List Outcome} {checks : List Check}
    {samples : List Sample} (h : s.Recounts outcomes checks samples) :
    s.figures = .ofRecords outcomes checks samples := by
  have hthrottled : s.statuses.count "429" =
      samples.countP (·.status == some statusTooManyRequests) := by
    have hname := h.statuses_counts.count_name Text.decimal_injective statusTooManyRequests
    rw [List.count_filterMap] at hname
    exact hname
  refine Figures.ext h.iterations_eq ?_ ?_ h.requests_eq h.submitLatency_count
    h.statusLatency_count h.transportErrors_eq hthrottled
  · exact funext fun o => h.outcomes_counts.count_name name_injective_outcome o
  · exact funext fun label => h.tally_eq label

/-- The figures of the summary are reconciled, and it shows how many of the reports have each
outcome. -/
structure Summary.Reconciles (s : Summary) (reports : List Report) : Prop where
  reconciled : s.figures.Reconciled
  iterations_eq : s.figures.iterations = reports.length
  outcomes_eq : ∀ o, s.figures.outcomes o = reports.countP (·.outcome = o)

/-- The totals of genuine reports. -/
theorem reconciles_of_genuine {plan : Plan} {reports : List Report}
    (h : ∀ r ∈ reports, r.Genuine plan) (users : Nat) (elapsed : Duration)
    (startedAt : Timestamp) :
    (((reports.foldl Aggregate.record { users }).finish elapsed).summary startedAt).Reconciles
      reports := by
  have hfigures :=
    (((tallies_foldl_record users reports).finish elapsed).recounts startedAt).figures_eq
  refine ⟨?_, ?_, ?_⟩
  · rw [hfigures]
    exact reconciled_of_reports h
  · rw [hfigures]
    exact List.length_map _
  · intro o
    have hcount : (reports.map (·.outcome)).count o = reports.countP (·.outcome = o) := by
      rw [List.count_eq_countP, List.countP_map]
      rfl
    rw [hfigures]
    exact hcount

/-- At any time of a run that follows a schedule, its summary is reconciled. -/
theorem relay_reconciles {σ : Type} {users : Nat} (load : Load) (service : Service σ) (state : σ)
    (actions : List (Action users)) (elapsed : Duration) (startedAt : Timestamp) :
    (((Relay.following load service state actions).metrics.finish elapsed).summary
      startedAt).Reconciles (Relay.following load service state actions).received := by
  have hsound := sound_run load service state actions
  have hgenuine : ∀ r ∈ (Relay.following load service state actions).received,
      r.Genuine load.plan :=
    fun r hr => hsound.genuine r (List.mem_append_left _ hr)
  rw [hsound.folded]
  exact reconciles_of_genuine hgenuine users elapsed startedAt

/-- With any number of users, on any service, whatever the gate says to each user at each time and
in whichever order users go on and reports are received, and whoever is lost on the way: the summary
of a run is reconciled at any time, and so is the final summary of a crowd. -/
theorem run_reconciled {σ : Type} (load : Load) (service : Service σ) (users : Nat) (state : σ)
    (startedAt : Timestamp) :
    (∀ (actions : List (Action users)) (elapsed : Duration),
      (((Relay.following load service state actions).metrics.finish elapsed).summary
        startedAt).Reconciles (Relay.following load service state actions).received) ∧
    ∀ fuel s, Crowd.run load service fuel (.start users state) = some s →
      ((Aggregate.ofCrowd users s).summary startedAt).Reconciles s.reports := by
  refine ⟨fun actions elapsed => relay_reconciles load service state actions elapsed startedAt, ?_⟩
  intro fuel s hrun
  obtain ⟨actions, -, hsettled⟩ := crowd_schedule hrun
  have hsummary := relay_reconciles load service state actions s.clock startedAt
  rw [hsettled.metrics_eq, hsettled.received_eq] at hsummary
  obtain ⟨hreconciled, hiterations, houtcomes⟩ := hsummary
  exact ⟨hreconciled, by simpa using hiterations, fun o => by simpa using houtcomes o⟩

/-- Two users, the first of whom is lost, and a job that could not be submitted: the final summary
shows one error. -/
theorem run_reconciled_lossy :
    ∃ s, Crowd.run onceLoad scripted 20 (.start 2 lossyScripts) = some s ∧
      ((Aggregate.ofCrowd 2 s).summary ⟨0, 0⟩).Reconciles s.reports ∧
      ((Aggregate.ofCrowd 2 s).summary ⟨0, 0⟩).figures.errors = 1 := by
  have herrors : (Crowd.run onceLoad scripted 20 (.start 2 lossyScripts)).map
      (fun s => ((Aggregate.ofCrowd 2 s).summary ⟨0, 0⟩).figures.errors) = some 1 := by
    decide +kernel
  obtain ⟨s, hrun, herror⟩ := Option.map_eq_some_iff.mp herrors
  exact ⟨s, hrun, (run_reconciled onceLoad scripted 2 lossyScripts ⟨0, 0⟩).2 20 s hrun, herror⟩

end LoadProbe.Metrics
