import LoadProbe.Metrics.Exposition
import LoadProbe.Metrics.Threshold
import LoadProbe.Proofs.Maps.Values
import LoadProbe.Proofs.Metrics.Bookkeeping

/-!
# Reports in another order

Reports arrive in whatever order the users finish.  The totals are maps, histograms and counters
that count occurrences, and a map is known by what it counts, so the order in which the reports
arrive leaves no trace in them, nor does the point between two reports at which the time is set.

* `SortedMap.Counts.unique`: there is one map that counts given keys.
* `Metrics.Aggregate.Tallies.unique`: totals of the same things in the same time are the same.
* `Metrics.after_reordered`: all that is made of the totals is the same for both orders.
-/

namespace LoadProbe

namespace SortedMap

variable {κ : Type} [Ord κ] [Std.LawfulEqOrd κ] [Std.TransOrd κ] [DecidableEq κ]

/-- Maps that count the same keys, in any order, are the same. -/
theorem Counts.unique {m m' : SortedMap κ Nat} {keys keys' : List κ} (h : Counts m keys)
    (h' : Counts m' keys') (hperm : keys.Perm keys') : m = m' :=
  h.sorted.ext h'.sorted fun k => by rw [(h.perm hperm).get?_eq, h'.get?_eq]

end SortedMap

namespace Metrics

open LoadProbe.Job LoadProbe.Run

/-! ## Totals of the same things -/

theorem tallyOf?_perm {checks checks' : List Check} (hperm : checks.Perm checks')
    (label : String) : tallyOf? checks label = tallyOf? checks' label := by
  simp only [tallyOf?, tallyOf, hperm.count_eq, (hperm.map (·.label)).mem_iff]

theorem cellsOf_perm {samples samples' : List Sample} (hperm : samples.Perm samples')
    (endpoint : Endpoint) : (cellsOf endpoint samples).Perm (cellsOf endpoint samples') :=
  (hperm.filter _).map _

theorem histogram_unique {h h' : Histogram} {endpoint : Endpoint} {samples samples' : List Sample}
    (hcounts : h.cells.Counts (cellsOf endpoint samples))
    (hcounts' : h'.cells.Counts (cellsOf endpoint samples')) (hperm : samples.Perm samples') :
    h = h' :=
  congrArg Histogram.mk (hcounts.unique hcounts' (cellsOf_perm hperm endpoint))

/-- Totals that count the same outcomes, checks and samples, for the same users and in the same
time, are the same. -/
theorem Aggregate.Tallies.unique {m m' : Aggregate} {outcomes outcomes' : List Outcome}
    {checks checks' : List Check} {samples samples' : List Sample}
    (h : m.Tallies outcomes checks samples) (h' : m'.Tallies outcomes' checks' samples')
    (houtcomes : outcomes.Perm outcomes') (hchecks : checks.Perm checks')
    (hsamples : samples.Perm samples') (husers : m.users = m'.users)
    (helapsed : m.elapsed = m'.elapsed) : m = m' := by
  -- Field by field: each counts something that both have the same number of times.
  have hiterations : m.iterations = m'.iterations := by
    rw [h.iterations_eq, h'.iterations_eq, houtcomes.length_eq]
  have htallies : m.checks = m'.checks :=
    h.checks_sorted.ext h'.checks_sorted fun label => by
      rw [h.get?_checks, h'.get?_checks, tallyOf?_perm hchecks]
  have hmap := h.outcomes_counts.unique h'.outcomes_counts houtcomes
  have hstatuses := h.statuses_counts.unique h'.statuses_counts (hsamples.filterMap _)
  have herrors : m.transportErrors = m'.transportErrors := by
    rw [h.transportErrors_eq, h'.transportErrors_eq, hsamples.countP_eq]
  have hsubmit := histogram_unique h.submitLatency_counts h'.submitLatency_counts hsamples
  have hstatus := histogram_unique h.statusLatency_counts h'.statusLatency_counts hsamples
  have hchecked := h.checkCounters_counts.unique h'.checkCounters_counts (hchecks.map _)
  have hrequested := h.requestCounters_counts.unique h'.requestCounters_counts (hsamples.map _)
  have hiterated :=
    h.iterationCounters_counts.unique h'.iterationCounters_counts (houtcomes.map _)
  cases m
  cases m'
  simp only at *
  subst_vars
  rfl

/-! ## Updates -/

/-- The time that an update sets. -/
def Update.elapsed? : Update → Option Duration
  | record _ => none
  | finish elapsed => some elapsed

/-- The times that some updates set, in order. -/
def timesOf (updates : List Update) : List Duration := updates.filterMap Update.elapsed?

/-- What no step of a fold changes the fold does not change. -/
theorem foldl_keeps {α : Type} {step : Aggregate → α → Aggregate}
    (hstep : ∀ m a, (step m a).users = m.users ∧ (step m a).elapsed = m.elapsed)
    (items : List α) (m : Aggregate) :
    (items.foldl step m).users = m.users ∧ (items.foldl step m).elapsed = m.elapsed := by
  induction items generalizing m with
  | nil => exact ⟨rfl, rfl⟩
  | cons a items ih =>
      obtain ⟨husers, helapsed⟩ := ih (step m a)
      exact ⟨husers.trans (hstep m a).1, helapsed.trans (hstep m a).2⟩

/-- A report changes neither the number of users nor the time. -/
theorem record_keeps (m : Aggregate) (r : Report) :
    (m.record r).users = m.users ∧ (m.record r).elapsed = m.elapsed := by
  have hcheck : ∀ (m : Aggregate) (c : Check),
      (m.addCheck c).users = m.users ∧ (m.addCheck c).elapsed = m.elapsed :=
    fun m c => ⟨rfl, rfl⟩
  have hsample : ∀ (m : Aggregate) (s : Sample),
      (m.addSample s).users = m.users ∧ (m.addSample s).elapsed = m.elapsed := by
    intro m s
    rw [Aggregate.addSample, Aggregate.addLatency_eq]
    exact ⟨rfl, rfl⟩
  obtain ⟨husers, helapsed⟩ := foldl_keeps hcheck (checksOf r.entries) { m with
    iterations := m.iterations + 1
    outcomes := m.outcomes.increment r.outcome
    iterationCounters := m.iterationCounters.increment [r.outcome.name] }
  obtain ⟨husers', helapsed'⟩ := foldl_keeps hsample (samplesOf r.entries) _
  exact ⟨husers'.trans husers, helapsed'.trans helapsed⟩

/-- The number of users is that of the beginning, and the time is the one that was set last. -/
theorem after_keeps (users : Nat) (updates : List Update) :
    (Aggregate.after users updates).users = users ∧
      (Aggregate.after users updates).elapsed = (timesOf updates).getLast?.getD 0 := by
  induction updates using List.reverseRecOn with
  | nil => exact ⟨rfl, rfl⟩
  | append_singleton updates update ih =>
      have hstep : Aggregate.after users (updates ++ [update]) =
          (Aggregate.after users updates).apply update := by
        simp [Aggregate.after]
      rw [hstep]
      cases update with
      | record report =>
          have htimes : timesOf (updates ++ [.record report]) = timesOf updates := by
            simp [timesOf, Update.elapsed?]
          rw [htimes]
          obtain ⟨husers, helapsed⟩ := record_keeps (Aggregate.after users updates) report
          exact ⟨husers.trans ih.1, helapsed.trans ih.2⟩
      | finish elapsed =>
          have htimes : timesOf (updates ++ [.finish elapsed]) = timesOf updates ++ [elapsed] := by
            simp [timesOf, Update.elapsed?]
          rw [htimes, List.getLast?_concat]
          exact ⟨ih.1, rfl⟩

/-- The same reports in any order, and the same time set last at any point, make the same totals. -/
theorem after_unique (users : Nat) {updates updates' : List Update}
    (hreports : (reportsOf updates).Perm (reportsOf updates'))
    (htime : (timesOf updates).getLast? = (timesOf updates').getLast?) :
    Aggregate.after users updates = Aggregate.after users updates' := by
  obtain ⟨husers, helapsed⟩ := after_keeps users updates
  obtain ⟨husers', helapsed'⟩ := after_keeps users updates'
  exact (tallies_after users updates).unique (tallies_after users updates') (hreports.map _)
    (hreports.flatMap_right _) (hreports.flatMap_right _) (husers.trans husers'.symm)
    (by rw [helapsed, helapsed', htime])

/-! ## The start of a run -/

/-- A summary has the instant of the start as it is given. -/
theorem summary_startedAt (m : Aggregate) (startedAt startedAt' : Timestamp) :
    { m.summary startedAt' with startedAt } = m.summary startedAt := by
  simp only [Aggregate.summary]

/-- No threshold is about the instant of the start. -/
theorem evaluate_startedAt (s : Summary) (startedAt : Timestamp) (thresholds : Thresholds) :
    { s with startedAt }.evaluate thresholds = s.evaluate thresholds :=
  rfl

/-- The same reports in any order, and the same time set last at any point after or between them,
make the same summary but for the instant of the start, with the same result for all thresholds,
and the same text for export. -/
theorem after_reordered (users : Nat) (updates updates' : List Update)
    (startedAt startedAt' : Timestamp)
    (hreports : (reportsOf updates).Perm (reportsOf updates'))
    (htime : (timesOf updates).getLast? = (timesOf updates').getLast?) :
    { (Aggregate.after users updates').summary startedAt' with startedAt } =
        (Aggregate.after users updates).summary startedAt ∧
      (∀ thresholds, ((Aggregate.after users updates').summary startedAt').evaluate thresholds =
        ((Aggregate.after users updates).summary startedAt).evaluate thresholds) ∧
      (Aggregate.after users updates').exposition = (Aggregate.after users updates).exposition := by
  rw [after_unique users hreports htime]
  have hsummary := summary_startedAt (Aggregate.after users updates') startedAt startedAt'
  refine ⟨hsummary, fun thresholds => ?_, rfl⟩
  rw [← hsummary]
  exact (evaluate_startedAt _ startedAt thresholds).symm

/-- A report with a check and a poll. -/
def polledReport (user : Nat) (outcome : Outcome) (passed : Bool) (latency : Duration) : Report :=
  ⟨user, 0, outcome, [.sample ⟨.status, if passed then some 200 else none, latency⟩,
    .check ⟨Label.statusFetchOk, passed⟩]⟩

/-- The totals of three reports do not show in which order they came, nor when the time was set. -/
theorem after_reordered_three :
    let early := polledReport 0 .exhausted false (.ofMillis 70000)
    let late := polledReport 1 .completed true (.ofMillis 5)
    let updates := [.record early, .finish (.ofSeconds 9), .record late, .record early]
    let updates' := [.record late, .record early, .record early, .finish (.ofSeconds 9)]
    (reportsOf updates).Perm (reportsOf updates') ∧
      (timesOf updates).getLast? = (timesOf updates').getLast? ∧
      { (Aggregate.after 2 updates').summary ⟨60, 0⟩ with startedAt := ⟨0, 0⟩ } =
        (Aggregate.after 2 updates).summary ⟨0, 0⟩ ∧
      (Aggregate.after 2 updates').exposition = (Aggregate.after 2 updates).exposition := by
  intro early late updates updates'
  have hreports : (reportsOf updates).Perm (reportsOf updates') := List.Perm.swap late early [early]
  obtain ⟨hsummary, -, hexposition⟩ :=
    after_reordered 2 updates updates' ⟨0, 0⟩ ⟨60, 0⟩ hreports rfl
  exact ⟨hreports, rfl, hsummary, hexposition⟩

end Metrics

end LoadProbe
