import LoadProbe.Metrics.Aggregate
import LoadProbe.Proofs.Maps.Counts

/-!
# What the totals of a run hold

The totals of a run are kept in maps, numbers, histograms and counters.  Each of them counts
something that was recorded: outcomes, checks or request samples.

* `Metrics.Aggregate.Tallies` says what each of them counts.  `Aggregate.Tallies.addCheck` and
  `Aggregate.Tallies.addSample` keep it for one more check or sample, `Aggregate.Tallies.record`
  for one more report.
* `Metrics.tallies_foldl_record` is the induction over the reports of a run.
-/

namespace LoadProbe.Metrics

open LoadProbe.Job LoadProbe.Run

/-- The labels under which a check is exported. -/
def checkKey (c : Check) : List String := [c.label, if c.passed then "pass" else "fail"]

/-- The labels under which a request is exported. -/
def requestKey (s : Sample) : List String := [s.endpoint.name, Aggregate.statusName s.status]

/-- The labels under which an iteration is exported. -/
def outcomeKey (o : Outcome) : List String := [o.name]

/-- The cell that counts a value. -/
def cellOf (v : Nat) : Nat := cellLow (if v ≤ greatestSample then v else overflowSample)

/-- The cells in which the samples of an endpoint are counted. -/
def cellsOf (endpoint : Endpoint) (samples : List Sample) : List Nat :=
  (samples.filter (·.endpoint = endpoint)).map fun s => cellOf s.latency.micros

/-- How often the check with a label passed and failed. -/
def tallyOf (checks : List Check) (label : String) : Tally :=
  ⟨checks.count ⟨label, true⟩, checks.count ⟨label, false⟩⟩

/-- The tally of a label, if there is a check with that label. -/
def tallyOf? (checks : List Check) (label : String) : Option Tally :=
  if label ∈ checks.map (·.label) then some (tallyOf checks label) else none

/-- The totals count the given outcomes, checks and samples. -/
structure Aggregate.Tallies (m : Aggregate) (outcomes : List Outcome) (checks : List Check)
    (samples : List Sample) : Prop where
  iterations_eq : m.iterations = outcomes.length
  outcomes_counts : m.outcomes.Counts outcomes
  iterationCounters_counts : m.iterationCounters.Counts (outcomes.map outcomeKey)
  checks_sorted : m.checks.Sorted
  get?_checks : ∀ label, m.checks.get? label = tallyOf? checks label
  checkCounters_counts : m.checkCounters.Counts (checks.map checkKey)
  statuses_counts : m.statuses.Counts (samples.filterMap (·.status))
  transportErrors_eq : m.transportErrors = samples.countP (·.status.isNone)
  requestCounters_counts : m.requestCounters.Counts (samples.map requestKey)
  submitLatency_counts : m.submitLatency.cells.Counts (cellsOf .submit samples)
  statusLatency_counts : m.statusLatency.cells.Counts (cellsOf .status samples)

instance : Std.LawfulEqOrd Outcome where
  compare_self {a} := by cases a <;> rfl
  eq_of_compare {a b} h := by cases a <;> cases b <;> first | rfl | cases h

instance : Std.TransOrd Outcome where
  eq_swap {a b} := by cases a <;> cases b <;> rfl
  isLE_trans {a b c} := @Std.TransCmp.isLE_trans Nat compare _ a.index b.index c.index

theorem tallies_new (users : Nat) : Aggregate.Tallies { users } [] [] [] where
  iterations_eq := rfl
  outcomes_counts := SortedMap.counts_nil
  iterationCounters_counts := SortedMap.counts_nil
  checks_sorted := List.Pairwise.nil
  get?_checks _ := rfl
  checkCounters_counts := SortedMap.counts_nil
  statuses_counts := SortedMap.counts_nil
  transportErrors_eq := rfl
  requestCounters_counts := SortedMap.counts_nil
  submitLatency_counts := SortedMap.counts_nil
  statusLatency_counts := SortedMap.counts_nil

/-! ## One more check, sample or report -/

/-- A label without checks was counted neither way. -/
theorem tallyOf_of_not_mem {checks : List Check} {label : String}
    (hlabel : label ∉ checks.map (·.label)) : tallyOf checks label = {} := by
  have hnone : ∀ p, checks.count ⟨label, p⟩ = 0 := by
    intro p
    refine List.count_eq_zero_of_not_mem fun hmem => hlabel ?_
    exact List.mem_map_of_mem (f := (·.label)) hmem
  simp [tallyOf, hnone]

@[simp] theorem tallyOf?_getD (checks : List Check) (label : String) :
    (tallyOf? checks label).getD {} = tallyOf checks label := by
  unfold tallyOf?
  split
  case isTrue => rfl
  case isFalse hlabel => rw [tallyOf_of_not_mem hlabel]; rfl

/-- One more check adds to the tally of its label. -/
theorem tallyOf?_append_singleton (checks : List Check) (c : Check) (label : String) :
    tallyOf? (checks ++ [c]) label =
      if label = c.label then some ((tallyOf checks label).add c.passed)
      else tallyOf? checks label := by
  obtain ⟨l, passed⟩ := c
  by_cases hlabel : label = l
  · subst hlabel
    cases passed <;> simp [tallyOf?, tallyOf, Tally.add, List.count_append]
  · have hother : ∀ p, [(⟨l, passed⟩ : Check)].count ⟨label, p⟩ = 0 := by
      intro p
      refine List.count_eq_zero_of_not_mem ?_
      simp [hlabel]
    simp [tallyOf?, tallyOf, hlabel, List.count_append, hother]

namespace Aggregate

variable {m : Aggregate} {outcomes : List Outcome} {checks : List Check} {samples : List Sample}

theorem Tallies.addCheck (h : m.Tallies outcomes checks samples) (c : Check) :
    (m.addCheck c).Tallies outcomes (checks ++ [c]) samples where
  iterations_eq := h.iterations_eq
  outcomes_counts := h.outcomes_counts
  iterationCounters_counts := h.iterationCounters_counts
  checks_sorted := h.checks_sorted.alter c.label _
  get?_checks label := by
    rw [Aggregate.addCheck, SortedMap.get?_alter, tallyOf?_append_singleton]
    simp only [h.get?_checks, tallyOf?_getD]
    split
    case isTrue hlabel => rw [hlabel]
    case isFalse => rfl
  checkCounters_counts := by
    rw [List.map_append]
    exact h.checkCounters_counts.increment (checkKey c)
  statuses_counts := h.statuses_counts
  transportErrors_eq := h.transportErrors_eq
  requestCounters_counts := h.requestCounters_counts
  submitLatency_counts := h.submitLatency_counts
  statusLatency_counts := h.statusLatency_counts

/-- A sample goes into the histogram of its own endpoint, and nothing else changes. -/
theorem addLatency_eq (m : Aggregate) (s : Sample) :
    m.addLatency s = { m with
      submitLatency :=
        if s.endpoint = .submit then m.submitLatency.record s.latency.micros else m.submitLatency
      statusLatency :=
        if s.endpoint = .status then m.statusLatency.record s.latency.micros
        else m.statusLatency } := by
  cases hendpoint : s.endpoint <;> simp [addLatency, hendpoint]

theorem counts_recorded {h : Histogram} {endpoint : Endpoint}
    (hcounts : h.cells.Counts (cellsOf endpoint samples)) (s : Sample) :
    (if s.endpoint = endpoint then h.record s.latency.micros else h).cells.Counts
      (cellsOf endpoint (samples ++ [s])) := by
  split
  case isTrue hendpoint =>
      have hcells := hcounts.increment (cellOf s.latency.micros)
      simpa [cellsOf, hendpoint, Histogram.record, cellOf] using hcells
  case isFalse hendpoint => simpa [cellsOf, hendpoint] using hcounts

theorem Tallies.addSample (h : m.Tallies outcomes checks samples) (s : Sample) :
    (m.addSample s).Tallies outcomes checks (samples ++ [s]) := by
  rw [Aggregate.addSample, addLatency_eq]
  refine ⟨h.iterations_eq, h.outcomes_counts, h.iterationCounters_counts, h.checks_sorted,
    h.get?_checks, h.checkCounters_counts, ?_, ?_, ?_, counts_recorded h.submitLatency_counts s,
    counts_recorded h.statusLatency_counts s⟩
  · cases hstatus : s.status with
    | none => simpa [hstatus] using h.statuses_counts
    | some status => simpa [hstatus] using h.statuses_counts.increment status
  · cases hstatus : s.status with
    | none => simp [hstatus, h.transportErrors_eq]
    | some status => simp [hstatus, h.transportErrors_eq]
  · rw [List.map_append]
    exact h.requestCounters_counts.increment (requestKey s)

theorem Tallies.addOutcome (h : m.Tallies outcomes checks samples) (o : Outcome) :
    Tallies { m with
      iterations := m.iterations + 1
      outcomes := m.outcomes.increment o
      iterationCounters := m.iterationCounters.increment (outcomeKey o) }
      (outcomes ++ [o]) checks samples where
  iterations_eq := by simp [h.iterations_eq]
  outcomes_counts := h.outcomes_counts.increment o
  iterationCounters_counts := by
    rw [List.map_append]
    exact h.iterationCounters_counts.increment (outcomeKey o)
  checks_sorted := h.checks_sorted
  get?_checks := h.get?_checks
  checkCounters_counts := h.checkCounters_counts
  statuses_counts := h.statuses_counts
  transportErrors_eq := h.transportErrors_eq
  requestCounters_counts := h.requestCounters_counts
  submitLatency_counts := h.submitLatency_counts
  statusLatency_counts := h.statusLatency_counts

theorem Tallies.foldl_addCheck (h : m.Tallies outcomes checks samples) (more : List Check) :
    (more.foldl Aggregate.addCheck m).Tallies outcomes (checks ++ more) samples := by
  induction more generalizing m checks with
  | nil => simpa using h
  | cons c more ih => simpa using ih (h.addCheck c)

theorem Tallies.foldl_addSample (h : m.Tallies outcomes checks samples) (more : List Sample) :
    (more.foldl Aggregate.addSample m).Tallies outcomes checks (samples ++ more) := by
  induction more generalizing m samples with
  | nil => simpa using h
  | cons s more ih => simpa using ih (h.addSample s)

/-- A report adds its outcome, its checks and its samples. -/
theorem Tallies.record (h : m.Tallies outcomes checks samples) (r : Report) :
    (m.record r).Tallies (outcomes ++ [r.outcome]) (checks ++ checksOf r.entries)
      (samples ++ samplesOf r.entries) :=
  ((h.addOutcome r.outcome).foldl_addCheck (checksOf r.entries)).foldl_addSample
    (samplesOf r.entries)

/-- How long a run took is not counted. -/
theorem Tallies.finish (h : m.Tallies outcomes checks samples) (elapsed : Duration) :
    (m.finish elapsed).Tallies outcomes checks samples :=
  ⟨h.iterations_eq, h.outcomes_counts, h.iterationCounters_counts, h.checks_sorted, h.get?_checks,
    h.checkCounters_counts, h.statuses_counts, h.transportErrors_eq, h.requestCounters_counts,
    h.submitLatency_counts, h.statusLatency_counts⟩

end Aggregate

/-- The checks of all reports, in order. -/
def reportedChecks (reports : List Report) : List Check :=
  reports.flatMap fun r => checksOf r.entries

/-- The request samples of all reports, in order. -/
def reportedSamples (reports : List Report) : List Sample :=
  reports.flatMap fun r => samplesOf r.entries

/-- The totals of a run count what its reports say. -/
theorem tallies_foldl_record (users : Nat) (reports : List Report) :
    (reports.foldl Aggregate.record { users }).Tallies (reports.map (·.outcome))
      (reportedChecks reports) (reportedSamples reports) := by
  induction reports using List.reverseRecOn with
  | nil => exact tallies_new users
  | append_singleton reports r ih =>
      simpa [reportedChecks, reportedSamples] using ih.record r

end LoadProbe.Metrics
