import LoadProbe.Proofs.Binary64.Order
import LoadProbe.Proofs.Metrics.Cells
import LoadProbe.Proofs.Metrics.Reordering

/-!
# How close a latency summary is

The figures of a summary are computed from counts of cells.  Each of them stands for one of the
latencies: a percentile for the one with its rank when they are sorted, the maximum for the
greatest.  What is shown of a latency is never less than it, it is the latency itself if that is
small, and otherwise greater by a part of 1024 at most.

* `Metrics.countP_le_of_sorted` and `Metrics.countP_lt_of_sorted` count the items of a sorted list
  on both sides of one of them.
* `Metrics.quantile_eq`: a quantile is what is shown of the latency with its rank.
* `Metrics.rankOf_mono` and `Metrics.quantile_mono`: the percentiles are in order, whatever rounding
  does to their ranks.
* `Metrics.summary_describes` is all this of the summary of a run.
-/

namespace LoadProbe

open LoadProbe.Job LoadProbe.Run

namespace Metrics

/-! ## Histograms of endpoints -/

/-- The histogram that records the given latencies and no others. -/
def Histogram.ofLatencies (latencies : List Nat) : Histogram :=
  latencies.foldl (fun h v => h.record v) {}

/-- The histogram of an endpoint. -/
def Aggregate.latency (m : Aggregate) : Endpoint → Histogram
  | .submit => m.submitLatency
  | .status => m.statusLatency

/-- The figures of an endpoint. -/
def Summary.latency (s : Summary) : Endpoint → LatencySummary
  | .submit => s.submitLatency
  | .status => s.statusLatency

theorem counts_ofLatencies (latencies : List Nat) :
    (Histogram.ofLatencies latencies).cells.Counts (latencies.map cellOf) := by
  induction latencies using List.reverseRecOn with
  | nil => exact SortedMap.counts_nil
  | append_singleton latencies v ih =>
      rw [Histogram.ofLatencies, List.foldl_append, List.map_append]
      exact ih.increment (cellOf v)

/-- The latencies of an endpoint are all that its histogram has recorded. -/
theorem latency_eq_ofLatencies {m : Aggregate} {outcomes : List Outcome} {checks : List Check}
    {samples : List Sample} (h : m.Tallies outcomes checks samples) (endpoint : Endpoint) :
    m.latency endpoint = .ofLatencies (latenciesTo endpoint samples) := by
  have hcounts : (m.latency endpoint).cells.Counts ((latenciesTo endpoint samples).map cellOf) := by
    rw [← cellsOf_eq_map]
    cases endpoint with
    | submit => exact h.submitLatency_counts
    | status => exact h.statusLatency_counts
  exact congrArg Histogram.mk (hcounts.unique (counts_ofLatencies _) (.refl _))

/-! ## Sorted latencies -/

section Sorted

variable {sorted : List Nat} (hsorted : sorted.Pairwise (· ≤ ·)) {i : Nat} {v : Nat}
  (hitem : sorted[i]? = some v)
include hsorted hitem

/-- The items up to one of them are not greater. -/
theorem countP_le_of_sorted : i + 1 ≤ sorted.countP (· ≤ v) := by
  induction sorted generalizing i with
  | nil => simp at hitem
  | cons first sorted ih =>
      obtain ⟨hfirst, hrest⟩ := List.pairwise_cons.mp hsorted
      cases i with
      | zero =>
          obtain rfl := Option.some.inj hitem
          simp
      | succ i =>
          have hle : first ≤ v := hfirst v (List.mem_of_getElem? hitem)
          have hcount := ih hrest hitem
          rw [List.countP_cons_of_pos (by simpa using hle)]
          omega

/-- No more items are less than one of them than stand in front of it. -/
theorem countP_lt_of_sorted : sorted.countP (· < v) ≤ i := by
  induction sorted generalizing i with
  | nil => simp at hitem
  | cons first sorted ih =>
      obtain ⟨hfirst, hrest⟩ := List.pairwise_cons.mp hsorted
      cases i with
      | zero =>
          obtain rfl := Option.some.inj hitem
          have hnone : (first :: sorted).countP (· < first) = 0 := by
            rw [List.countP_eq_zero]
            intro w hw
            rcases List.mem_cons.mp hw with rfl | hw
            · simp
            · simpa using hfirst w hw
          exact hnone.le
      | succ i =>
          have hcount := ih hrest hitem
          rw [List.countP_cons]
          split <;> omega

end Sorted

/-- The latency with a rank, the least one having rank one. -/
def ofRank? (rank : Nat) (latencies : List Nat) : Option Nat :=
  (latencies.mergeSort (· ≤ ·))[rank - 1]?

theorem pairwise_mergeSort_le (latencies : List Nat) :
    (latencies.mergeSort (· ≤ ·)).Pairwise (· ≤ ·) := by
  have hsorted : (latencies.mergeSort (· ≤ ·)).Pairwise fun a b => decide (a ≤ b) = true :=
    List.pairwise_mergeSort (fun a b c hab hbc => by simp only [decide_eq_true_eq] at *; omega)
      (fun a b => by simp only [Bool.or_eq_true, decide_eq_true_eq]; omega) latencies
  exact hsorted.imp of_decide_eq_true

/-- There is a latency with every rank that is not too great. -/
theorem exists_ofRank? {rank : Nat} {latencies : List Nat} (hone : 1 ≤ rank)
    (hrank : rank ≤ latencies.length) : ∃ v, ofRank? rank latencies = some v := by
  have hlt : rank - 1 < (latencies.mergeSort (· ≤ ·)).length := by
    rw [List.length_mergeSort]
    omega
  exact ⟨_, List.getElem?_eq_getElem hlt⟩

/-- As many latencies as the rank says are not greater than the one with that rank, and fewer are
less. -/
theorem countP_of_ofRank? {rank : Nat} {latencies : List Nat} {v : Nat} (hone : 1 ≤ rank)
    (h : ofRank? rank latencies = some v) :
    rank ≤ latencies.countP (· ≤ v) ∧ latencies.countP (· < v) < rank := by
  have hsorted := pairwise_mergeSort_le latencies
  have hperm := List.mergeSort_perm latencies (fun a b => decide (a ≤ b))
  have hle := countP_le_of_sorted hsorted h
  have hlt := countP_lt_of_sorted hsorted h
  rw [hperm.countP_eq] at hle hlt
  omega

theorem mem_of_ofRank? {rank : Nat} {latencies : List Nat} {v : Nat}
    (h : ofRank? rank latencies = some v) : v ∈ latencies :=
  (List.mergeSort_perm latencies _).mem_iff.mp (List.mem_of_getElem? h)

/-! ## Percentiles and the maximum -/

theorem portion_p50 : (Binary64.ofRatio false 50 100).Portion := by
  constructor <;> decide +kernel

theorem portion_p90 : (Binary64.ofRatio false 90 100).Portion := by
  constructor <;> decide +kernel

/-- The greater portion has the greater rank. -/
theorem rankOf_mono {q q' : Binary64} (hq : q.Portion) (hq' : q'.Portion)
    (hle : q.units ≤ q'.units) (n : Nat) : Histogram.rankOf q n ≤ Histogram.rankOf q' n :=
  max_le_max le_rfl (hq.saturate_ceil_mono hq' hle n)

section Figures

variable {h : Histogram} {latencies : List Nat}
  (hcounts : h.cells.Counts (latencies.map cellOf)) (hsome : 1 ≤ latencies.length)
include hcounts hsome

/-- The greater portion has the greater quantile. -/
theorem quantile_mono {q q' : Binary64} (hq : q.Portion) (hq' : q'.Portion)
    (hle : q.units ≤ q'.units) : h.quantile q ≤ h.quantile q' := by
  rw [quantile_le_iff_countP hcounts hq hsome]
  have hrank := (quantile_le_iff_countP hcounts hq' hsome (h.quantile q')).mp le_rfl
  exact (rankOf_mono hq hq' hle _).trans hrank

/-- If all latencies have a cell, a quantile is what is shown of the one with its rank. -/
theorem quantile_eq {q : Binary64} (hq : q.Portion)
    (hwithin : ∀ v ∈ latencies, v ≤ greatestSample) :
    ∃ v, ofRank? (Histogram.rankOf q latencies.length) latencies = some v ∧
      h.quantile q = cellHigh v := by
  have hone := one_le_rankOf q latencies.length
  obtain ⟨v, hv⟩ := exists_ofRank? hone (rankOf_le hq hsome)
  obtain ⟨hle, hlt⟩ := countP_of_ofRank? hone hv
  refine ⟨v, hv, le_antisymm ?_ ?_⟩
  · -- The latencies up to that one are shown within its cell.
    rw [quantile_le_iff_countP hcounts hq hsome]
    refine hle.trans (List.countP_mono_left fun w hw hwv => ?_)
    rw [decide_eq_true_eq] at hwv ⊢
    rw [shown_of_le (hwithin w hw)]
    exact cellHigh_mono hwv
  · -- Below its cell only the latencies less than that one are shown.
    by_contra hbelow
    have hrank := (quantile_le_iff_countP hcounts hq hsome (h.quantile q)).mp le_rfl
    have hfew : latencies.countP (shown · ≤ h.quantile q) ≤ latencies.countP (· < v) := by
      refine List.countP_mono_left fun w hw hshown => ?_
      rw [decide_eq_true_eq] at hshown ⊢
      rw [shown_of_le (hwithin w hw)] at hshown
      by_contra hge
      have hmono := cellHigh_mono (Nat.le_of_not_lt hge)
      omega
    omega

/-- The last cell is that of one of the latencies, and none is shown above it. -/
theorem max_shown : (∃ v ∈ latencies, h.max = shown v) ∧ ∀ v ∈ latencies, shown v ≤ h.max := by
  have hne : h.cells ≠ [] := by
    intro hnil
    have hlength := hcounts.sum_eq
    rw [hnil, List.length_map] at hlength
    simp only [List.map_nil, List.sum_nil] at hlength
    omega
  obtain ⟨before, ⟨cell, n⟩, hcells⟩ := List.eq_nil_or_concat h.cells |>.resolve_left hne
  rw [List.concat_eq_append] at hcells
  have hmax : h.max = cellHigh cell := by
    rw [Histogram.max, hcells, List.getLast?_append]
    rfl
  constructor
  · have hmem : (cell, n) ∈ h.cells := by simp [hcells]
    obtain ⟨v, hv, rfl⟩ := List.mem_map.mp ((hcounts.mem_iff cell n).mp hmem).1
    exact ⟨v, hv, hmax⟩
  · intro v hv
    have hmem := (hcounts.mem_iff (cellOf v) _).mpr ⟨List.mem_map_of_mem hv, rfl⟩
    have hsorted := hcounts.sorted
    rw [hcells] at hmem hsorted
    rw [hmax]
    rcases List.mem_append.mp hmem with hbefore | hlast
    · -- Cells stand in the order of what they hold.
      have horder := (List.pairwise_append.mp hsorted).2.2 _ hbefore _ (List.mem_singleton_self _)
      have hlt : cellOf v < cell := Nat.compare_eq_lt.mp horder
      exact cellHigh_mono hlt.le
    · obtain rfl := (Prod.mk.inj (List.mem_singleton.mp hlast)).1
      exact le_rfl

theorem quantile_le_max {q : Binary64} (hq : q.Portion) : h.quantile q ≤ h.max := by
  rw [quantile_le_iff_countP hcounts hq hsome]
  have hall : latencies.countP (shown · ≤ h.max) = latencies.length := by
    rw [List.countP_eq_length]
    intro v hv
    exact decide_eq_true ((max_shown hcounts hsome).2 v hv)
  rw [hall]
  exact rankOf_le hq hsome

/-- If all latencies have a cell, the maximum is what is shown of the greatest. -/
theorem max_eq (hwithin : ∀ v ∈ latencies, v ≤ greatestSample) :
    ∃ v ∈ latencies, (∀ w ∈ latencies, w ≤ v) ∧ h.max = cellHigh v := by
  obtain ⟨⟨last, hlast, hmax⟩, hall⟩ := max_shown hcounts hsome
  obtain ⟨v, hv⟩ := exists_ofRank? hsome le_rfl
  have hmem := mem_of_ofRank? hv
  have hgreatest : ∀ w ∈ latencies, w ≤ v := by
    have hle := (countP_of_ofRank? hsome hv).1
    have hlength := latencies.countP_le_length (p := (· ≤ v))
    intro w hw
    exact of_decide_eq_true (List.countP_eq_length.mp (le_antisymm hlength hle) w hw)
  refine ⟨v, hmem, hgreatest, le_antisymm ?_ ?_⟩
  · rw [hmax, shown_of_le (hwithin last hlast)]
    exact cellHigh_mono (hgreatest last hlast)
  · rw [← shown_of_le (hwithin v hmem)]
    exact hall v hmem

end Figures

/-! ## The figures of a summary -/

/-- A figure stands for a latency: it is not less, it is the latency itself if that is small, and
otherwise it is greater by a part of 1024 at most. -/
structure StandsFor (figure latency : Nat) : Prop where
  le : latency ≤ figure
  eq : latency < 2048 → figure = latency
  close : 1024 * figure ≤ 1025 * latency

/-- The end of the cell stands for all that is in it. -/
theorem standsFor_cellHigh (v : Nat) : StandsFor (cellHigh v) v where
  le := le_cellHigh v
  eq hv := by
    rw [cellHigh, cellLow, cellWidth_of_lt hv, Nat.div_one, Nat.mul_one, Nat.add_sub_cancel]
  close := cellHigh_le v

/-- The figures are those of the given latencies.  Their number and the order of the figures are
right whatever the latencies are; if all of these have a cell, each figure stands for the latency
with its rank, and the maximum for the greatest. -/
structure LatencySummary.Describes (figures : LatencySummary) (latencies : List Nat) : Prop where
  count_eq : figures.count = latencies.length
  p50_le : figures.p50 ≤ figures.p90
  p90_le : figures.p90 ≤ figures.p99
  p99_le : figures.p99 ≤ figures.max
  eq_of_nil : latencies = [] → figures = ⟨0, 0, 0, 0, 0, 0⟩
  p50_standsFor : latencies ≠ [] → (∀ v ∈ latencies, v ≤ greatestSample) →
    ∃ v, ofRank? (Histogram.rankOf (.ofRatio false 50 100) latencies.length) latencies = some v ∧
      StandsFor figures.p50 v
  p90_standsFor : latencies ≠ [] → (∀ v ∈ latencies, v ≤ greatestSample) →
    ∃ v, ofRank? (Histogram.rankOf (.ofRatio false 90 100) latencies.length) latencies = some v ∧
      StandsFor figures.p90 v
  p99_standsFor : latencies ≠ [] → (∀ v ∈ latencies, v ≤ greatestSample) →
    ∃ v, ofRank? (Histogram.rankOf (.ofRatio false 99 100) latencies.length) latencies = some v ∧
      StandsFor figures.p99 v
  max_standsFor : latencies ≠ [] → (∀ v ∈ latencies, v ≤ greatestSample) →
    ∃ v ∈ latencies, (∀ w ∈ latencies, w ≤ v) ∧ StandsFor figures.max v

/-- The figures of a histogram are those of the latencies that it has recorded. -/
theorem describes_summary {h : Histogram} {latencies : List Nat}
    (hcounts : h.cells.Counts (latencies.map cellOf)) : h.summary.Describes latencies := by
  by_cases hnil : latencies = []
  · subst hnil
    have hsummary : h.summary = ⟨0, 0, 0, 0, 0, 0⟩ := by
      simp [Histogram.summary, hcounts.eq_nil]
    rw [hsummary]
    constructor <;> simp
  · have hsome : 1 ≤ latencies.length := List.length_pos_iff.mpr hnil
    have hcells : h.cells.isEmpty = false := by
      rw [List.isEmpty_eq_false_iff]
      intro hempty
      have hlength := hcounts.sum_eq
      rw [hempty, List.length_map] at hlength
      simp only [List.map_nil, List.sum_nil] at hlength
      omega
    have hsummary : h.summary = ⟨h.count, h.quantile (.ofRatio false 50 100),
        h.quantile (.ofRatio false 90 100), h.quantile (.ofRatio false 99 100), h.max,
        h.mean.truncate⟩ := by
      simp [Histogram.summary, hcells]
    have hfigure : ∀ {q : Binary64}, q.Portion → (∀ v ∈ latencies, v ≤ greatestSample) →
        ∃ v, ofRank? (Histogram.rankOf q latencies.length) latencies = some v ∧
          StandsFor (h.quantile q) v := by
      intro q hq hwithin
      obtain ⟨v, hv, heq⟩ := quantile_eq hcounts hsome hq hwithin
      exact ⟨v, hv, heq ▸ standsFor_cellHigh v⟩
    rw [hsummary]
    refine ⟨?_, quantile_mono hcounts hsome portion_p50 portion_p90 (by decide +kernel),
      quantile_mono hcounts hsome portion_p90 portion_p99 (by decide +kernel),
      quantile_le_max hcounts hsome portion_p99, fun h => absurd h hnil,
      fun _ => hfigure portion_p50, fun _ => hfigure portion_p90, fun _ => hfigure portion_p99,
      fun _ hwithin => ?_⟩
    · change h.count = latencies.length
      rw [Histogram.count, total_eq_sum, hcounts.sum_eq, List.length_map]
    · obtain ⟨v, hv, hgreatest, heq⟩ := max_eq hcounts hsome hwithin
      exact ⟨v, hv, hgreatest, heq ▸ standsFor_cellHigh v⟩

/-- After any updates, the figures of each endpoint in the summary are those of a histogram that has
recorded its latencies and nothing else, and they describe these. -/
theorem summary_describes (users : Nat) (updates : List Update) (startedAt : Timestamp)
    (endpoint : Endpoint) :
    ((Aggregate.after users updates).summary startedAt).latency endpoint =
        (Histogram.ofLatencies
          (latenciesTo endpoint (reportedSamples (reportsOf updates)))).summary ∧
      (((Aggregate.after users updates).summary startedAt).latency endpoint).Describes
        (latenciesTo endpoint (reportedSamples (reportsOf updates))) := by
  have hlatency := latency_eq_ofLatencies (tallies_after users updates) endpoint
  have hfigures : ((Aggregate.after users updates).summary startedAt).latency endpoint =
      (Histogram.ofLatencies
        (latenciesTo endpoint (reportedSamples (reportsOf updates)))).summary := by
    rw [← hlatency]
    cases endpoint <;> rfl
  refine ⟨hfigures, ?_⟩
  rw [hfigures]
  exact describes_summary (counts_ofLatencies _)

/-- A submission and three polls, the longest of them of twelve seconds. -/
def mixedUpdates : List Update :=
  [.record ⟨0, 0, .errored, [.sample ⟨.submit, some 202, .ofMillis 90000⟩,
      .sample ⟨.status, some 200, .ofMillis 12345⟩, .sample ⟨.status, some 200, 1999⟩]⟩,
    .record ⟨0, 1, .exhausted, [.sample ⟨.status, none, .ofMillis 3⟩]⟩]

/-- The submission is too long for the histogram, but the polls are not. -/
theorem summary_describes_mixed :
    (latenciesTo .status (reportedSamples (reportsOf mixedUpdates)) ≠ [] ∧
      ∀ v ∈ latenciesTo .status (reportedSamples (reportsOf mixedUpdates)), v ≤ greatestSample) ∧
      ∃ v, ofRank? 2 [12345000, 1, 3000] = some v ∧
        StandsFor (((Aggregate.after 1 mixedUpdates).summary ⟨0, 0⟩).latency .status).p50 v := by
  have hlatencies : latenciesTo .status (reportedSamples (reportsOf mixedUpdates)) =
      [12345000, 1, 3000] := by decide
  have hrank : Histogram.rankOf (.ofRatio false 50 100) 3 = 2 := by decide +kernel
  have hsome : latenciesTo .status (reportedSamples (reportsOf mixedUpdates)) ≠ [] := by
    rw [hlatencies]
    decide
  have hwithin : ∀ v ∈ latenciesTo .status (reportedSamples (reportsOf mixedUpdates)),
      v ≤ greatestSample := by
    rw [hlatencies]
    decide
  have hp50 := (summary_describes 1 mixedUpdates ⟨0, 0⟩ .status).2.p50_standsFor hsome hwithin
  rw [hlatencies] at hp50
  simp only [List.length_cons, List.length_nil, Nat.reduceAdd, hrank] at hp50
  exact ⟨⟨hsome, hwithin⟩, hp50⟩

end Metrics

end LoadProbe
