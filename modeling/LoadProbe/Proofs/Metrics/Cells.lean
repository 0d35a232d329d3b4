import LoadProbe.Proofs.Binary64.Rounding
import LoadProbe.Proofs.Metrics.Bookkeeping

/-!
# What a histogram shows of its samples

A histogram keeps of a sample only the cell that it falls into, and it shows the greatest value of
that cell.  Cells do not overlap, they are in the order of what they hold, and none is wider than a
thousandth of what it holds.  So counting cells from the least one on is counting samples.

* `Metrics.cellHigh_mono` and `Metrics.cellHigh_le` are what matters of the geometry of cells.
* `Metrics.shown` is what a histogram shows of a sample, also of one that is too great to have a
  cell of its own: that is counted in a lower cell.
* `Metrics.rankOf_le`: the rank of a quantile is that of one of the samples.
* `Metrics.quantile_le_iff_countP`: a quantile is within a limit if and only if as many latencies as
  its rank says are shown within the limit; `Metrics.quantile_le_iff` is this of the samples of an
  endpoint.
-/

namespace LoadProbe.Metrics

open LoadProbe.Job

/-! ## The geometry of cells -/

section Cells

variable {u v : Nat}

theorem cellWidth_of_lt (h : v < 2048) : cellWidth v = 1 := if_pos h

theorem cellWidth_of_le (h : 2048 ≤ v) : cellWidth v = 2 ^ (Nat.log2 v - 10) := by
  rw [cellWidth, if_neg (Nat.not_lt_of_le h), Nat.pow_eq]

theorem cellWidth_pos (v : Nat) : 0 < cellWidth v := by
  rcases lt_or_ge v 2048 with h | h
  · rw [cellWidth_of_lt h]
    exact Nat.one_pos
  · rw [cellWidth_of_le h]
    exact Nat.two_pow_pos _

theorem cellLow_le (v : Nat) : cellLow v ≤ v := Nat.div_mul_le_self v (cellWidth v)

theorem lt_cellLow_add (v : Nat) : v < cellLow v + cellWidth v :=
  Nat.lt_div_mul_add (cellWidth_pos v)

theorem le_cellHigh (v : Nat) : v ≤ cellHigh v := Nat.le_sub_one_of_lt (lt_cellLow_add v)

theorem log2_of_le (h : 2048 ≤ v) : 11 ≤ Nat.log2 v := (Nat.le_log2 (by omega)).mpr h

/-- From 2048 on there are 1024 cells between two powers of two. -/
theorem two_pow_log2 (h : 2048 ≤ v) : 2 ^ Nat.log2 v = 1024 * cellWidth v := by
  have hlog := log2_of_le h
  have hsplit : Nat.log2 v = 10 + (Nat.log2 v - 10) := by omega
  rw [cellWidth_of_le h, hsplit, pow_add, Nat.add_sub_cancel_left]
  norm_num

/-- Wider cells are made of narrower ones. -/
theorem cellWidth_dvd (h : u ≤ v) : cellWidth u ∣ cellWidth v := by
  rcases lt_or_ge u 2048 with hu | hu
  · rw [cellWidth_of_lt hu]
    exact one_dvd _
  · rw [cellWidth_of_le hu, cellWidth_of_le (hu.trans h), Nat.log2_eq_log_two, Nat.log2_eq_log_two]
    exact pow_dvd_pow 2 (Nat.sub_le_sub_right (Nat.log_mono_right h) 10)

/-- What is below a cell is in cells below it. -/
theorem cellHigh_lt (h : u < cellLow v) : cellHigh u < cellLow v := by
  have huv : u ≤ v := h.le.trans (cellLow_le v)
  -- The cell of `v` begins where a cell as narrow as that of `u` does.
  obtain ⟨places, hplaces⟩ : cellWidth u ∣ cellLow v :=
    (cellWidth_dvd huv).trans (Nat.dvd_mul_left _ _)
  have hplace : u / cellWidth u < places := by
    rw [Nat.div_lt_iff_lt_mul (cellWidth_pos u), Nat.mul_comm, ← hplaces]
    exact h
  have hnext : (u / cellWidth u + 1) * cellWidth u ≤ cellLow v := by
    rw [hplaces, Nat.mul_comm (cellWidth u)]
    exact Nat.mul_le_mul_right _ hplace
  have hpos := cellWidth_pos u
  rw [Nat.succ_mul] at hnext
  unfold cellHigh
  rw [cellLow]
  omega

/-- All values of a cell have a cell of the same width. -/
theorem cellWidth_eq (hlow : cellLow v ≤ u) (hhigh : u ≤ cellHigh v) :
    cellWidth u = cellWidth v := by
  rcases lt_or_ge v 2048 with hv | hv
  · have hwidth := cellWidth_of_lt hv
    have heq : u = v := by
      simp only [cellHigh, cellLow, hwidth, Nat.div_one, Nat.mul_one] at hlow hhigh
      omega
    rw [heq]
  · -- A cell does not reach over a power of two.
    have hpow := two_pow_log2 hv
    have hpos := cellWidth_pos v
    have hbelow : 2 ^ Nat.log2 v ≤ cellLow v := by
      have hplace : 1024 ≤ v / cellWidth v := by
        rw [Nat.le_div_iff_mul_le hpos, ← hpow]
        exact Nat.log2_self_le (by omega)
      rw [hpow]
      exact Nat.mul_le_mul_right _ hplace
    have habove : cellLow v + cellWidth v ≤ 2 ^ (Nat.log2 v + 1) := by
      have hplace : v / cellWidth v < 2048 := by
        rw [Nat.div_lt_iff_lt_mul hpos]
        have hlt : v < 2 ^ (Nat.log2 v + 1) := Nat.lt_log2_self
        rw [pow_succ] at hlt
        omega
      have hnext := Nat.mul_le_mul_right (cellWidth v) (Nat.succ_le_of_lt hplace)
      rw [Nat.succ_mul] at hnext
      rw [pow_succ, cellLow]
      omega
    have hhigh' : u < cellLow v + cellWidth v := by
      unfold cellHigh at hhigh
      omega
    have hu : 2048 ≤ u := by
      have hlog := log2_of_le hv
      calc 2048 = 2 ^ 11 := by norm_num
        _ ≤ 2 ^ Nat.log2 v := Nat.pow_le_pow_right (by decide) hlog
        _ ≤ u := hbelow.trans hlow
    have hlog : Nat.log2 u = Nat.log2 v :=
      (Nat.log2_eq_iff (by omega)).mpr ⟨hbelow.trans hlow, hhigh'.trans_le habove⟩
    rw [cellWidth_of_le hu, cellWidth_of_le hv, hlog]

/-- All values of a cell have the same cell. -/
theorem cellLow_eq (hlow : cellLow v ≤ u) (hhigh : u ≤ cellHigh v) : cellLow u = cellLow v := by
  have hwidth := cellWidth_eq hlow hhigh
  have hpos := cellWidth_pos v
  have hplace : u / cellWidth v = v / cellWidth v := by
    refine Nat.div_eq_of_lt_le hlow ?_
    rw [Nat.succ_mul]
    unfold cellHigh cellLow at hhigh
    omega
  rw [cellLow, cellLow, hwidth, hplace]

theorem cellHigh_eq (hlow : cellLow v ≤ u) (hhigh : u ≤ cellHigh v) : cellHigh u = cellHigh v := by
  rw [cellHigh, cellHigh, cellLow_eq hlow hhigh, cellWidth_eq hlow hhigh]

@[simp] theorem cellHigh_cellLow (v : Nat) : cellHigh (cellLow v) = cellHigh v :=
  cellHigh_eq le_rfl ((cellLow_le v).trans (le_cellHigh v))

/-- Cells are in the order of what they hold. -/
theorem cellHigh_mono (h : u ≤ v) : cellHigh u ≤ cellHigh v := by
  rcases lt_or_ge u (cellLow v) with hbelow | hwithin
  · exact (cellHigh_lt hbelow).le.trans ((cellLow_le v).trans (le_cellHigh v))
  · exact (cellHigh_eq hwithin (h.trans (le_cellHigh v))).le

/-- A cell is not wider than a part of 1024 of what it holds. -/
theorem cellHigh_le (v : Nat) : 1024 * cellHigh v ≤ 1025 * v := by
  have hlow := cellLow_le v
  unfold cellHigh
  rcases lt_or_ge v 2048 with hv | hv
  · rw [cellWidth_of_lt hv]
    omega
  · have hpow := two_pow_log2 hv
    have hle : 2 ^ Nat.log2 v ≤ v := Nat.log2_self_le (by omega)
    omega

end Cells

/-! ## What is shown of a sample -/

/-- What a histogram shows of a sample: the greatest value in the cell that counts it. -/
def shown (v : Nat) : Nat := cellHigh (cellOf v)

theorem shown_of_le {v : Nat} (h : v ≤ greatestSample) : shown v = cellHigh v := by
  rw [shown, cellOf, if_pos h, cellHigh_cellLow]

theorem shown_of_lt {v : Nat} (h : greatestSample < v) : shown v = 60030975 := by
  rw [shown, cellOf, if_neg (Nat.not_le_of_lt h), cellHigh_cellLow]
  decide

/-- Samples that have a cell are shown in their order. -/
theorem shown_mono {u v : Nat} (h : u ≤ v) (hv : v ≤ greatestSample) : shown u ≤ shown v := by
  rw [shown_of_le hv, shown_of_le (h.trans hv)]
  exact cellHigh_mono h

/-! ## Ranks -/

theorem portion_p99 : (Binary64.ofRatio false 99 100).Portion := by
  constructor <;> decide +kernel

/-- Of some samples there is one with the rank of the quantile. -/
theorem rankOf_le {q : Binary64} (hq : q.Portion) {n : Nat} (hn : 1 ≤ n) :
    Histogram.rankOf q n ≤ n :=
  Nat.max_le.mpr ⟨hn, hq.saturate_ceil_le hn⟩

theorem one_le_rankOf (q : Binary64) (n : Nat) : 1 ≤ Histogram.rankOf q n := Nat.le_max_left _ _

/-- Of cells of which no later one satisfies `p` after one that does not, the one with a given rank
satisfies `p` if the cells that do so hold as many samples as the rank says. -/
theorem exists_cellOfRank {p : Nat → Bool} {cells : List (Nat × Nat)}
    (hcells : cells.Pairwise fun a b => p b.1 = true → p a.1 = true) {rank : Nat} (hone : 1 ≤ rank)
    (hrank : rank ≤ (cells.map (·.2)).sum) :
    ∃ cell, Histogram.cellOfRank rank cells = some cell ∧
      (p cell = true ↔ rank ≤ ((cells.filter fun entry => p entry.1).map (·.2)).sum) := by
  induction cells generalizing rank with
  | nil =>
      simp only [List.map_nil, List.sum_nil] at hrank
      omega
  | cons entry cells ih =>
      obtain ⟨cell, n⟩ := entry
      obtain ⟨hfirst, hrest⟩ := List.pairwise_cons.mp hcells
      -- If the first cell does not satisfy `p`, none does.
      have hnone : p cell = false → cells.filter (fun entry => p entry.1) = [] := by
        intro hcell
        refine List.filter_eq_nil_iff.mpr fun later hlater hp => ?_
        simp [hfirst later hlater hp] at hcell
      rw [List.map_cons, List.sum_cons] at hrank
      unfold Histogram.cellOfRank
      split
      case isTrue hle =>
          refine ⟨cell, rfl, ?_⟩
          cases hcell : p cell with
          | true =>
              simp only [List.filter_cons, hcell, if_true, List.map_cons, List.sum_cons, true_iff]
              omega
          | false =>
              simp only [List.filter_cons, hcell, Bool.false_eq_true, if_false, hnone hcell,
                List.map_nil, List.sum_nil, false_iff]
              omega
      case isFalse hlt =>
          have hpos : 1 ≤ rank - n := by omega
          have hleft : rank - n ≤ (cells.map (·.2)).sum := by omega
          obtain ⟨found, hfound, hiff⟩ := ih hrest hpos hleft
          refine ⟨found, hfound, hiff.trans ?_⟩
          cases hcell : p cell with
          | true =>
              simp only [List.filter_cons, hcell, if_true, List.map_cons, List.sum_cons]
              omega
          | false =>
              simp only [List.filter_cons, hcell, Bool.false_eq_true, if_false, hnone hcell,
                List.map_nil, List.sum_nil]
              omega

/-- A quantile of some latencies is within a limit if and only if at least as many of them as its
rank says are shown within the limit. -/
theorem quantile_le_iff_countP {h : Histogram} {latencies : List Nat}
    (hcounts : h.cells.Counts (latencies.map cellOf)) {q : Binary64} (hq : q.Portion)
    (hsome : 1 ≤ latencies.length) (limit : Nat) :
    h.quantile q ≤ limit ↔
      Histogram.rankOf q latencies.length ≤ latencies.countP (shown · ≤ limit) := by
  have hsum : (h.cells.map (·.2)).sum = latencies.length := by
    rw [hcounts.sum_eq, List.length_map]
  have hcount : h.count = latencies.length := by
    rw [Histogram.count, total_eq_sum, hsum]
  have hcells : h.cells.Pairwise fun a b =>
      decide (cellHigh b.1 ≤ limit) = true → decide (cellHigh a.1 ≤ limit) = true := by
    refine hcounts.sorted.imp fun {a b} horder => ?_
    have hlt : a.1 < b.1 := Nat.compare_eq_lt.mp horder
    simp only [decide_eq_true_eq]
    exact fun hle => (cellHigh_mono hlt.le).trans hle
  have hrank := rankOf_le hq hsome
  rw [← hsum] at hrank
  obtain ⟨cell, hfound, hiff⟩ :=
    exists_cellOfRank (p := fun cell => cellHigh cell ≤ limit) hcells (one_le_rankOf q _) hrank
  have hwithin : (latencies.map cellOf).countP (fun cell => cellHigh cell ≤ limit) =
      latencies.countP (shown · ≤ limit) := by
    rw [List.countP_map]
    rfl
  rw [hcounts.sum_filter fun cell => cellHigh cell ≤ limit, hwithin, hsum,
    decide_eq_true_eq] at hiff
  rw [hsum] at hfound
  rw [Histogram.quantile, hcount, hfound]
  exact hiff

/-! ## Latencies of one endpoint -/

/-- The latencies of the requests to an endpoint, in whole microseconds. -/
def latenciesTo (endpoint : Endpoint) (samples : List Sample) : List Nat :=
  (samples.filter (·.endpoint = endpoint)).map (·.latency.micros)

theorem cellsOf_eq_map (endpoint : Endpoint) (samples : List Sample) :
    cellsOf endpoint samples = (latenciesTo endpoint samples).map cellOf := by
  rw [cellsOf, latenciesTo, List.map_map]
  rfl

theorem length_latenciesTo (endpoint : Endpoint) (samples : List Sample) :
    (latenciesTo endpoint samples).length = requestsTo endpoint samples :=
  List.length_map _

/-- A quantile of the samples of an endpoint is within a limit if and only if at least as many
samples as its rank says are shown within the limit. -/
theorem quantile_le_iff {h : Histogram} {endpoint : Endpoint} {samples : List Sample}
    (hcounts : h.cells.Counts (cellsOf endpoint samples)) {q : Binary64} (hq : q.Portion)
    (hsome : 1 ≤ requestsTo endpoint samples) (limit : Nat) :
    h.quantile q ≤ limit ↔
      Histogram.rankOf q (requestsTo endpoint samples) ≤
        samples.countP fun s => s.endpoint = endpoint ∧ shown s.latency.micros ≤ limit := by
  rw [cellsOf_eq_map] at hcounts
  rw [← length_latenciesTo] at hsome ⊢
  have hwithin : (latenciesTo endpoint samples).countP (shown · ≤ limit) =
      samples.countP fun s => s.endpoint = endpoint ∧ shown s.latency.micros ≤ limit := by
    rw [latenciesTo, List.countP_map, List.countP_filter]
    refine List.countP_congr fun s _ => ?_
    simp only [Function.comp_apply, Bool.and_eq_true, decide_eq_true_eq]
    exact and_comm
  rw [← hwithin]
  exact quantile_le_iff_countP hcounts hq hsome limit

end LoadProbe.Metrics
