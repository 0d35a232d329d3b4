import LoadProbe.Metrics.Summary
import LoadProbe.Proofs.Metrics.Tallies

/-!
# Bookkeeping

What is recorded goes into the books twice or three times, under different keys: into the maps from
which the summary is made, into the histograms, and into the counters for export.  Whatever is
recorded, the books agree.

* `Metrics.Summary.Recounts` says that a summary counts what was recorded and nothing else.
* `Metrics.Aggregate.Exports` says that the counters for export agree with a summary.
* `Metrics.after_bookkept`: both hold after any updates.
-/

namespace LoadProbe

namespace Text

theorem decimal_injective : Function.Injective decimal := by
  intro n k heq
  have hdigits : Nat.toDigits 10 n = Nat.toDigits 10 k := String.ofList_injective heq
  have hread := congrArg (Nat.ofDigitChars 10 · 0) hdigits
  simpa only [Nat.ofDigitChars_ten_toDigits] using hread

end Text

namespace Metrics

open LoadProbe.Job LoadProbe.Run

/-! ## Names -/

theorem name_injective_outcome : Function.Injective Outcome.name := by
  intro a b heq
  cases a <;> cases b <;> first | rfl | exact absurd heq (by decide)

/-- No status is written like a missing one. -/
theorem decimal_ne_transport_error (status : Nat) : Text.decimal status ≠ "transport_error" := by
  intro heq
  -- A `t` would be among the digits.
  have hdigits : Nat.toDigits 10 status = "transport_error".toList := by
    rw [← heq, Text.decimal, String.toList_ofList]
  have hdigit := Nat.isDigit_of_mem_toDigits (b := 10) (n := status) (c := 't') (by decide)
    (by decide) (by rw [hdigits]; decide)
  exact absurd hdigit (by decide)

theorem statusName_injective : Function.Injective Aggregate.statusName := by
  intro a b heq
  cases a with
  | none =>
      cases b with
      | none => rfl
      | some b => exact absurd heq.symm (decimal_ne_transport_error b)
  | some a =>
      cases b with
      | none => exact absurd heq (decimal_ne_transport_error a)
      | some b => rw [Text.decimal_injective heq]

theorem checkKey_injective : Function.Injective checkKey := by
  rintro ⟨label, passed⟩ ⟨label', passed'⟩ heq
  simp only [checkKey, List.cons.injEq, and_true] at heq
  obtain ⟨rfl, hresult⟩ := heq
  cases passed <;> cases passed' <;> first | rfl | simp at hresult

/-- A request is exported under the name of its endpoint and that of its status. -/
theorem requestKey_eq_iff {s : Sample} {endpoint : Endpoint} {status : Option Nat} :
    requestKey s = [endpoint.name, Aggregate.statusName status] ↔
      s.endpoint = endpoint ∧ s.status = status := by
  have hendpoint : s.endpoint.name = endpoint.name ↔ s.endpoint = endpoint := by
    cases s.endpoint <;> cases endpoint <;> decide
  simp [requestKey, hendpoint, statusName_injective.eq_iff]

/-! ## The summary -/

/-- The tally of a label in a summary. -/
def Summary.tally (s : Summary) (label : String) : Tally :=
  ((s.checks.find? (·.label = label)).map fun c => ⟨c.passes, c.fails⟩).getD {}

/-- The summary counts the given outcomes, checks and samples: each number is that of the
occurrences, and there are entries for what occurred and for nothing else. -/
structure Summary.Recounts (s : Summary) (outcomes : List Outcome) (checks : List Check)
    (samples : List Sample) : Prop where
  iterations_eq : s.iterations = outcomes.length
  outcomes_counts : s.outcomes.Counts (outcomes.map (·.name))
  labels_increase : (s.checks.map (·.label)).Pairwise fun a b => compare a b = .lt
  mem_checks_iff : ∀ c, c ∈ s.checks ↔ ∃ label ∈ checks.map (·.label),
    c = ⟨label, checks.count ⟨label, true⟩, checks.count ⟨label, false⟩,
      (tallyOf checks label).passRate⟩
  tally_eq : ∀ label, s.tally label = tallyOf checks label
  checksPassed_eq : s.checksPassed = (s.checks.map (·.passes)).sum
  checksFailed_eq : s.checksFailed = (s.checks.map (·.fails)).sum
  statuses_counts : s.statuses.Counts ((samples.filterMap (·.status)).map Text.decimal)
  transportErrors_eq : s.transportErrors = samples.countP (·.status.isNone)
  requests_eq : s.requests = samples.length
  requests_eq_latencies : s.requests = s.submitLatency.count + s.statusLatency.count
  submitLatency_count : s.submitLatency.count = requestsTo .submit samples
  statusLatency_count : s.statusLatency.count = requestsTo .status samples

theorem total_eq_sum {κ : Type} (m : SortedMap κ Nat) :
    SortedMap.total m = (m.map (·.2)).sum := by
  rw [SortedMap.total, List.sum_eq_foldl, List.foldl_map]

theorem count_summary (h : Histogram) : h.summary.count = h.count := by
  unfold Histogram.summary
  split
  case isTrue hempty => simp [Histogram.count, List.isEmpty_iff.mp hempty, SortedMap.total]
  case isFalse => rfl

/-- A histogram that counts the samples of an endpoint shows how many there are. -/
theorem count_of_cellsOf {h : Histogram} {endpoint : Endpoint} {samples : List Sample}
    (hcounts : h.cells.Counts (cellsOf endpoint samples)) :
    h.summary.count = requestsTo endpoint samples := by
  rw [count_summary, Histogram.count, total_eq_sum, hcounts.sum_eq, cellsOf, List.length_map,
    requestsTo]

/-- Every sample has a status or counts as an error. -/
theorem length_eq_statuses_add_errors (samples : List Sample) :
    samples.length =
      (samples.filterMap (·.status)).length + samples.countP (·.status.isNone) := by
  induction samples with
  | nil => rfl
  | cons s samples ih =>
      cases hstatus : s.status with
      | none => simp [hstatus, ih]; omega
      | some status => simp [hstatus, ih]; omega

/-- Every sample is one of either endpoint. -/
theorem length_eq_requestsTo_add (samples : List Sample) :
    samples.length = requestsTo .submit samples + requestsTo .status samples := by
  induction samples with
  | nil => rfl
  | cons s samples ih =>
      cases hendpoint : s.endpoint <;> simp [requestsTo, hendpoint] at ih ⊢ <;> omega

section

variable {m : Aggregate} {outcomes : List Outcome} {checks : List Check} {samples : List Sample}

theorem Aggregate.Tallies.check_eq (h : m.Tallies outcomes checks samples) (label : String) :
    m.check label = tallyOf checks label := by
  rw [Aggregate.check, h.get?_checks, tallyOf?_getD]

theorem Aggregate.Tallies.outcomeCount_eq (h : m.Tallies outcomes checks samples) (o : Outcome) :
    m.outcomeCount o = outcomes.count o :=
  h.outcomes_counts.count_eq o

theorem Aggregate.Tallies.mem_checks_iff (h : m.Tallies outcomes checks samples) (label : String)
    (t : Tally) :
    (label, t) ∈ m.checks ↔ label ∈ checks.map (·.label) ∧ t = tallyOf checks label := by
  rw [← SortedMap.get?_eq_some_iff_mem h.checks_sorted, h.get?_checks, tallyOf?]
  split
  case isTrue hlabel => simp [hlabel, eq_comm]
  case isFalse hlabel => simp [hlabel]

theorem Aggregate.Tallies.tally_summary (h : m.Tallies outcomes checks samples)
    (startedAt : Timestamp) (label : String) :
    (m.summary startedAt).tally label = tallyOf checks label := by
  have hfind : (m.summary startedAt).checks.find? (·.label = label) =
      (m.checks.get? label).map fun t => ⟨label, t.passes, t.fails, t.passRate⟩ := by
    -- The labels are in order, so that a search from the first entry stops where a lookup does.
    have hentry := SortedMap.find?_eq_get? h.checks_sorted label
    simp only [Aggregate.summary, List.find?_map, Function.comp_def, hentry, Option.map_map]
  rw [Summary.tally, hfind, h.get?_checks, ← tallyOf?_getD]
  cases tallyOf? checks label <;> rfl

theorem Aggregate.Tallies.requests_eq (h : m.Tallies outcomes checks samples)
    (startedAt : Timestamp) : (m.summary startedAt).requests = samples.length := by
  rw [length_eq_statuses_add_errors, ← h.transportErrors_eq, ← h.statuses_counts.sum_eq,
    ← total_eq_sum]
  rfl

/-- The summary of the totals counts what the totals count. -/
theorem Aggregate.Tallies.recounts (h : m.Tallies outcomes checks samples)
    (startedAt : Timestamp) : (m.summary startedAt).Recounts outcomes checks samples where
  iterations_eq := h.iterations_eq
  outcomes_counts := h.outcomes_counts.ofList_map name_injective_outcome
  labels_increase := by
    have hlabels : (m.summary startedAt).checks.map (·.label) = m.checks.map (·.1) := by
      simp [Aggregate.summary]
    rw [hlabels]
    exact List.pairwise_map.mpr h.checks_sorted
  mem_checks_iff c := by
    have hmem : c ∈ (m.summary startedAt).checks ↔
        ∃ label t, (label, t) ∈ m.checks ∧ c = ⟨label, t.passes, t.fails, t.passRate⟩ := by
      simp [Aggregate.summary, eq_comm]
    rw [hmem]
    simp only [h.mem_checks_iff]
    constructor
    · rintro ⟨label, _, ⟨hlabel, rfl⟩, rfl⟩
      exact ⟨label, hlabel, rfl⟩
    · rintro ⟨label, hlabel, rfl⟩
      exact ⟨label, _, ⟨hlabel, rfl⟩, rfl⟩
  tally_eq := h.tally_summary startedAt
  checksPassed_eq := by simp [Aggregate.summary, total_eq_sum, Function.comp_def]
  checksFailed_eq := by simp [Aggregate.summary, total_eq_sum, Function.comp_def]
  statuses_counts := h.statuses_counts.ofList_map Text.decimal_injective
  transportErrors_eq := h.transportErrors_eq
  requests_eq := h.requests_eq startedAt
  requests_eq_latencies := by
    rw [h.requests_eq, length_eq_requestsTo_add, ← count_of_cellsOf h.submitLatency_counts,
      ← count_of_cellsOf h.statusLatency_counts]
    rfl
  submitLatency_count := count_of_cellsOf h.submitLatency_counts
  statusLatency_count := count_of_cellsOf h.statusLatency_counts

/-! ## The counters for export -/

/-- The counters for export count the given outcomes, checks and samples, and they agree with a
summary of the same totals.  Adding up the counters of requests over both endpoints gives the
statuses and the errors of the summary; adding them up over all statuses gives the number of
latencies of an endpoint. -/
structure Aggregate.Exports (m : Aggregate) (s : Summary) (outcomes : List Outcome)
    (checks : List Check) (samples : List Sample) : Prop where
  checkCounters_counts : m.checkCounters.Counts (checks.map checkKey)
  iterationCounters_counts : m.iterationCounters.Counts (outcomes.map outcomeKey)
  requestCounters_counts : m.requestCounters.Counts (samples.map requestKey)
  check_eq : ∀ label, m.check label = s.tally label
  passes_eq : ∀ label, m.checkCounters.count [label, "pass"] = (s.tally label).passes
  fails_eq : ∀ label, m.checkCounters.count [label, "fail"] = (s.tally label).fails
  outcomeCount_eq : ∀ o : Outcome, m.outcomeCount o = s.outcomes.count o.name
  outcomes_eq : ∀ o : Outcome, m.iterationCounters.count [o.name] = m.outcomeCount o
  statuses_eq : ∀ status,
    m.requestCounters.count ["submit", Text.decimal status] +
      m.requestCounters.count ["status", Text.decimal status] =
        s.statuses.count (Text.decimal status)
  transportErrors_eq :
    m.requestCounters.count ["submit", "transport_error"] +
      m.requestCounters.count ["status", "transport_error"] = s.transportErrors
  submit_sum_eq :
    ((m.requestCounters.filter fun counter => counter.1.head? = some "submit").map (·.2)).sum =
      s.submitLatency.count
  status_sum_eq :
    ((m.requestCounters.filter fun counter => counter.1.head? = some "status").map (·.2)).sum =
      s.statusLatency.count

/-- The counter of a check counts its occurrences. -/
theorem Aggregate.Tallies.count_checkCounters (h : m.Tallies outcomes checks samples)
    (c : Check) : m.checkCounters.count (checkKey c) = checks.count c :=
  h.checkCounters_counts.count_name checkKey_injective c

/-- The counter of an outcome counts its occurrences. -/
theorem Aggregate.Tallies.count_iterationCounters (h : m.Tallies outcomes checks samples)
    (o : Outcome) : m.iterationCounters.count [o.name] = outcomes.count o := by
  have hkey : Function.Injective outcomeKey := by
    intro a b heq
    exact name_injective_outcome (List.cons.inj heq).1
  exact h.iterationCounters_counts.count_name hkey o

/-- The counter of an endpoint and a status counts the requests there that had this status. -/
theorem Aggregate.Tallies.count_requestCounters (h : m.Tallies outcomes checks samples)
    (endpoint : Endpoint) (status : Option Nat) :
    m.requestCounters.count [endpoint.name, Aggregate.statusName status] =
      samples.countP fun s => s.endpoint = endpoint ∧ s.status = status := by
  rw [h.requestCounters_counts.count_eq_countP]
  simp only [requestKey_eq_iff]

/-- The requests with a status are those to either endpoint. -/
theorem countP_status_eq (samples : List Sample) (status : Option Nat) :
    (samples.countP fun s => s.endpoint = .submit ∧ s.status = status) +
      (samples.countP fun s => s.endpoint = .status ∧ s.status = status) =
        samples.countP fun s => s.status == status := by
  induction samples with
  | nil => rfl
  | cons s samples ih =>
      simp only [List.countP_cons]
      cases hendpoint : s.endpoint <;> simp at ih ⊢ <;> omega

/-- The counters of one endpoint add up to the number of its requests. -/
theorem Aggregate.Tallies.sum_requestCounters (h : m.Tallies outcomes checks samples)
    (endpoint : Endpoint) :
    ((m.requestCounters.filter fun counter => counter.1.head? = some endpoint.name).map
      (·.2)).sum = requestsTo endpoint samples := by
  have hendpoint : ∀ s : Sample,
      decide ((requestKey s).head? = some endpoint.name) = decide (s.endpoint = endpoint) := by
    intro s
    cases hs : s.endpoint <;> cases endpoint <;> simp [requestKey, hs, Endpoint.name]
  rw [h.requestCounters_counts.sum_filter fun key => key.head? = some endpoint.name,
    List.countP_map, requestsTo, ← List.countP_eq_length_filter]
  exact List.countP_congr fun s _ => by rw [Function.comp_apply, hendpoint]

/-- The counters of the totals agree with their summary. -/
theorem Aggregate.Tallies.exports (h : m.Tallies outcomes checks samples)
    (startedAt : Timestamp) :
    m.Exports (m.summary startedAt) outcomes checks samples where
  checkCounters_counts := h.checkCounters_counts
  iterationCounters_counts := h.iterationCounters_counts
  requestCounters_counts := h.requestCounters_counts
  check_eq label := by rw [h.check_eq, h.tally_summary]
  passes_eq label := by
    rw [h.tally_summary]
    exact h.count_checkCounters ⟨label, true⟩
  fails_eq label := by
    rw [h.tally_summary]
    exact h.count_checkCounters ⟨label, false⟩
  outcomeCount_eq o := by
    rw [h.outcomeCount_eq]
    exact ((h.recounts startedAt).outcomes_counts.count_name name_injective_outcome o).symm
  outcomes_eq o := by rw [h.count_iterationCounters, h.outcomeCount_eq]
  statuses_eq status := by
    have hsum := countP_status_eq samples (some status)
    rw [← h.count_requestCounters, ← h.count_requestCounters] at hsum
    rw [(h.recounts startedAt).statuses_counts.count_name Text.decimal_injective,
      List.count_filterMap]
    exact hsum
  transportErrors_eq := by
    have hsum := countP_status_eq samples none
    rw [← h.count_requestCounters, ← h.count_requestCounters] at hsum
    have hnone : samples.countP (·.status.isNone) = samples.countP fun s => s.status == none :=
      List.countP_congr fun s _ => by simp
    rw [(h.recounts startedAt).transportErrors_eq, hnone]
    exact hsum
  submit_sum_eq := by
    rw [(h.recounts startedAt).submitLatency_count]
    exact h.sum_requestCounters .submit
  status_sum_eq := by
    rw [(h.recounts startedAt).statusLatency_count]
    exact h.sum_requestCounters .status

end

/-! ## Any updates -/

/-- What can be done with the totals of a run. -/
inductive Update where
  | record (report : Report)
  | finish (elapsed : Duration)

/-- Takes up one update. -/
def Aggregate.apply (m : Aggregate) : Update → Aggregate
  | .record report => m.record report
  | .finish elapsed => m.finish elapsed

/-- The report that an update brings. -/
def Update.report? : Update → Option Report
  | record report => some report
  | finish _ => none

/-- The reports that some updates bring, in order. -/
def reportsOf (updates : List Update) : List Report := updates.filterMap Update.report?

/-- The totals after some updates, from the beginning of a run with a number of users. -/
def Aggregate.after (users : Nat) (updates : List Update) : Aggregate :=
  updates.foldl Aggregate.apply { users }

theorem tallies_after (users : Nat) (updates : List Update) :
    (Aggregate.after users updates).Tallies ((reportsOf updates).map (·.outcome))
      (reportedChecks (reportsOf updates)) (reportedSamples (reportsOf updates)) := by
  induction updates using List.reverseRecOn with
  | nil => exact tallies_new users
  | append_singleton updates update ih =>
      have hstep : Aggregate.after users (updates ++ [update]) =
          (Aggregate.after users updates).apply update := by
        simp [Aggregate.after]
      rw [hstep]
      cases update with
      | record report =>
          have hreports :
              reportsOf (updates ++ [.record report]) = reportsOf updates ++ [report] := by
            simp [reportsOf, Update.report?]
          rw [hreports]
          simpa [Aggregate.apply, reportedChecks, reportedSamples] using ih.record report
      | finish elapsed =>
          have hreports : reportsOf (updates ++ [.finish elapsed]) = reportsOf updates := by
            simp [reportsOf, Update.report?]
          rw [hreports]
          exact ih.finish elapsed

/-- After any updates, with whatever outcomes, checks and samples, the summary counts exactly what
the reports said, and the counters for export agree with it. -/
theorem after_bookkept (users : Nat) (updates : List Update) (startedAt : Timestamp) :
    ((Aggregate.after users updates).summary startedAt).Recounts
        ((reportsOf updates).map (·.outcome)) (reportedChecks (reportsOf updates))
        (reportedSamples (reportsOf updates)) ∧
      (Aggregate.after users updates).Exports ((Aggregate.after users updates).summary startedAt)
        ((reportsOf updates).map (·.outcome)) (reportedChecks (reportsOf updates))
        (reportedSamples (reportsOf updates)) :=
  ⟨(tallies_after users updates).recounts startedAt,
    (tallies_after users updates).exports startedAt⟩

end Metrics

end LoadProbe
