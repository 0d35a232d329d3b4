import LoadProbe.Proofs.Maps.Values
import LoadProbe.Proofs.Metrics.Bookkeeping

/-!
# Multiples of a run

If what is reported in one run is reported so many times in another, in any order, then every number
in the summary of the second is that of the first, multiplied, and there are entries for the same
things in both.

* `Metrics.Repeated` relates a list to one with each of its items so many times.
* `Metrics.Summary.Multiple` relates the summary of a run to that of its multiple;
  `Metrics.multiple_of_repeated` is what repeating the reports comes to.
-/

namespace LoadProbe

open LoadProbe.Job LoadProbe.Run

namespace Run

/-- What a report says, whoever made it. -/
def Report.told (r : Report) : Outcome × List Entry := (r.outcome, r.entries)

end Run

namespace Metrics

/-! ## Repeated items -/

section Repeated

variable {α β : Type} {factor : Nat} {once all : List α}

/-- The second list has every item of the first one `factor` times as often. -/
def Repeated (factor : Nat) (once all : List α) : Prop :=
  all.Perm (List.replicate factor once).flatten

theorem flatMap_flatten_replicate (factor : Nat) (once : List α) (f : α → List β) :
    ((List.replicate factor once).flatten).flatMap f =
      (List.replicate factor (once.flatMap f)).flatten := by
  induction factor with
  | zero => rfl
  | succ factor ih => simp [List.replicate_succ, ih]

theorem Repeated.flatMap (h : Repeated factor once all) (f : α → List β) :
    Repeated factor (once.flatMap f) (all.flatMap f) := by
  rw [Repeated, ← flatMap_flatten_replicate]
  exact h.flatMap_right f

theorem Repeated.map (h : Repeated factor once all) (f : α → β) :
    Repeated factor (once.map f) (all.map f) := by
  rw [List.map_eq_flatMap, List.map_eq_flatMap]
  exact h.flatMap fun a => [f a]

theorem Repeated.filterMap (h : Repeated factor once all) (f : α → Option β) :
    Repeated factor (once.filterMap f) (all.filterMap f) := by
  rw [List.filterMap_eq_flatMap_toList, List.filterMap_eq_flatMap_toList]
  exact h.flatMap fun a => (f a).toList

theorem Repeated.filter (h : Repeated factor once all) (p : α → Bool) :
    Repeated factor (once.filter p) (all.filter p) := by
  rw [← List.filterMap_eq_filter]
  exact h.filterMap (Option.guard p)

theorem Repeated.countP_eq (h : Repeated factor once all) (p : α → Bool) :
    all.countP p = factor * once.countP p := by
  rw [List.Perm.countP_eq p h, List.countP_flatten, List.map_replicate, List.sum_replicate,
    smul_eq_mul]

theorem Repeated.length_eq (h : Repeated factor once all) : all.length = factor * once.length := by
  simpa using h.countP_eq fun _ => true

theorem Repeated.count_eq [DecidableEq α] (h : Repeated factor once all) (a : α) :
    all.count a = factor * once.count a :=
  h.countP_eq (· == a)

end Repeated

/-! ## Repeated reports -/

/-- The second summary has `factor` times the numbers of the first one, for the same things, in the
same time and with the same greatest latencies. -/
structure Summary.Multiple (factor : Nat) (one many : Summary) : Prop where
  seconds_eq : many.seconds = one.seconds
  iterations_eq : many.iterations = factor * one.iterations
  requests_eq : many.requests = factor * one.requests
  transportErrors_eq : many.transportErrors = factor * one.transportErrors
  checksPassed_eq : many.checksPassed = factor * one.checksPassed
  checksFailed_eq : many.checksFailed = factor * one.checksFailed
  checks_eq : many.checks.map (fun c => (c.label, c.passes, c.fails)) =
    one.checks.map fun c => (c.label, factor * c.passes, factor * c.fails)
  outcomes_eq : many.outcomes = one.outcomes.mapValues (factor * ·)
  statuses_eq : many.statuses = one.statuses.mapValues (factor * ·)
  submitLatency_count : many.submitLatency.count = factor * one.submitLatency.count
  statusLatency_count : many.statusLatency.count = factor * one.statusLatency.count
  submitLatency_max : many.submitLatency.max = one.submitLatency.max
  statusLatency_max : many.statusLatency.max = one.statusLatency.max

/-- The greatest latency depends on the cells used and not on how often they are. -/
theorem max_summary_eq {h h' : Histogram} {factor : Nat}
    (hcells : h'.cells = h.cells.mapValues (factor * ·)) : h'.summary.max = h.summary.max := by
  have hlast : h'.max = h.max := by
    rw [Histogram.max, Histogram.max, hcells, SortedMap.mapValues, List.getLast?_map,
      Option.map_map]
    rfl
  have hempty : h'.cells.isEmpty = h.cells.isEmpty := by
    rw [hcells, SortedMap.mapValues, List.isEmpty_map]
  unfold Histogram.summary
  rw [hempty]
  split
  · rfl
  · exact hlast

section

variable {factor : Nat} {m m' : Aggregate} {outcomes outcomes' : List Outcome}
  {checks checks' : List Check} {samples samples' : List Sample}

/-- Every check has passed and failed `factor` times as often. -/
theorem Aggregate.Tallies.checks_eq_mapValues (h : m.Tallies outcomes checks samples)
    (h' : m'.Tallies outcomes' checks' samples') (hpos : 0 < factor)
    (hchecks : Repeated factor checks checks') :
    m'.checks = m.checks.mapValues fun t => ⟨factor * t.passes, factor * t.fails⟩ := by
  refine h'.checks_sorted.ext (h.checks_sorted.mapValues _) fun label => ?_
  -- As the factor is positive, no label disappears.
  have hlabel : label ∈ checks'.map (·.label) ↔ label ∈ checks.map (·.label) := by
    rw [← List.count_pos_iff, ← List.count_pos_iff, (hchecks.map (·.label)).count_eq,
      Nat.mul_pos_iff_of_pos_left hpos]
  rw [SortedMap.get?_mapValues, h.get?_checks, h'.get?_checks, tallyOf?, tallyOf?]
  simp only [hlabel]
  split
  · simp [tallyOf, hchecks.count_eq]
  · rfl

/-- The samples of an endpoint fall into the same cells, `factor` times as often. -/
theorem cells_eq_mapValues {h h' : Histogram} {endpoint : Endpoint} (hpos : 0 < factor)
    (hsamples : Repeated factor samples samples')
    (hcounts : h.cells.Counts (cellsOf endpoint samples))
    (hcounts' : h'.cells.Counts (cellsOf endpoint samples')) :
    h'.cells = h.cells.mapValues (factor * ·) :=
  hcounts.eq_mapValues hcounts' hpos
    ((hsamples.filter (·.endpoint = endpoint)).map fun s => cellOf s.latency.micros).count_eq

/-- Totals of the same things, each `factor` times as often, have a summary that is a multiple. -/
theorem Aggregate.Tallies.multiple (h : m.Tallies outcomes checks samples)
    (h' : m'.Tallies outcomes' checks' samples') (hpos : 0 < factor)
    (helapsed : m'.elapsed = m.elapsed) (houtcomes : Repeated factor outcomes outcomes')
    (hchecks : Repeated factor checks checks') (hsamples : Repeated factor samples samples')
    (startedAt : Timestamp) :
    Summary.Multiple factor (m.summary startedAt) (m'.summary startedAt) := by
  have hone := h.recounts startedAt
  have hmany := h'.recounts startedAt
  have htallies := h.checks_eq_mapValues h' hpos hchecks
  have hlatency : ∀ endpoint,
      requestsTo endpoint samples' = factor * requestsTo endpoint samples := by
    intro endpoint
    rw [requestsTo, requestsTo, ← List.countP_eq_length_filter, ← List.countP_eq_length_filter]
    exact hsamples.countP_eq _
  have hsum : ∀ f : Tally → Nat,
      (∀ t : Tally, f ⟨factor * t.passes, factor * t.fails⟩ = factor * f t) →
      SortedMap.total (m'.checks.map fun entry => (entry.1, f entry.2)) =
        factor * SortedMap.total (m.checks.map fun entry => (entry.1, f entry.2)) := by
    intro f hf
    rw [total_eq_sum, total_eq_sum, htallies, SortedMap.mapValues, List.map_map, List.map_map,
      List.map_map, ← List.sum_map_mul_left]
    exact congrArg List.sum (List.map_congr_left fun entry _ => hf entry.2)
  constructor
  case seconds_eq => simp only [Aggregate.summary, helapsed]
  case iterations_eq => rw [hmany.iterations_eq, hone.iterations_eq, houtcomes.length_eq]
  case requests_eq => rw [hmany.requests_eq, hone.requests_eq, hsamples.length_eq]
  case transportErrors_eq =>
      rw [hmany.transportErrors_eq, hone.transportErrors_eq, hsamples.countP_eq]
  case checksPassed_eq => exact hsum (·.passes) fun _ => rfl
  case checksFailed_eq => exact hsum (·.fails) fun _ => rfl
  case checks_eq =>
      simp only [Aggregate.summary, htallies, SortedMap.mapValues, List.map_map, Function.comp_def]
  case outcomes_eq =>
      exact hone.outcomes_counts.eq_mapValues hmany.outcomes_counts hpos
        (houtcomes.map (·.name)).count_eq
  case statuses_eq =>
      exact hone.statuses_counts.eq_mapValues hmany.statuses_counts hpos
        ((hsamples.filterMap (·.status)).map Text.decimal).count_eq
  case submitLatency_count =>
      rw [hmany.submitLatency_count, hone.submitLatency_count, hlatency]
  case statusLatency_count =>
      rw [hmany.statusLatency_count, hone.statusLatency_count, hlatency]
  case submitLatency_max =>
      exact max_summary_eq (cells_eq_mapValues hpos hsamples h.submitLatency_counts
        h'.submitLatency_counts)
  case statusLatency_max =>
      exact max_summary_eq (cells_eq_mapValues hpos hsamples h.statusLatency_counts
        h'.statusLatency_counts)

end

/-- Repeating what is reported repeats everything in the summary. -/
theorem multiple_of_repeated {factor : Nat} (hpos : 0 < factor) {one many : List Report}
    (h : Repeated factor (one.map Report.told) (many.map Report.told)) (users users' : Nat)
    (elapsed : Duration) (startedAt : Timestamp) :
    Summary.Multiple factor
      (((one.foldl Aggregate.record { users }).finish elapsed).summary startedAt)
      (((many.foldl Aggregate.record { users := users' }).finish elapsed).summary startedAt) := by
  have houtcomes : Repeated factor (one.map (·.outcome)) (many.map (·.outcome)) := by
    simpa [Report.told, Function.comp_def] using h.map (·.1)
  have hchecks : Repeated factor (reportedChecks one) (reportedChecks many) := by
    simpa [Report.told, reportedChecks, List.flatMap_map] using
      h.flatMap fun told => checksOf told.2
  have hsamples : Repeated factor (reportedSamples one) (reportedSamples many) := by
    simpa [Report.told, reportedSamples, List.flatMap_map] using
      h.flatMap fun told => samplesOf told.2
  exact ((tallies_foldl_record users one).finish elapsed).multiple
    ((tallies_foldl_record users' many).finish elapsed) hpos rfl houtcomes hchecks hsamples
    startedAt

end Metrics

end LoadProbe
