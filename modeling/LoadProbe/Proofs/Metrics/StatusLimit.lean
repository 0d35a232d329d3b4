import LoadProbe.Metrics.Threshold
import LoadProbe.Proofs.Metrics.Cells

/-!
# The limit on the latency of polls

A run passes the limit on polls if the 99th percentile of their latencies, as the histogram shows
it, is within the limit.  What that says of the polls themselves is a matter of counting: a run
passes if and only if enough of its polls are shown within the limit.

* `Metrics.keepsStatusLimit_iff` is that count.
* `Metrics.statusLimit_counts`: for limits up to a minute, passing and failing say something of the
  latencies, up to the width of a cell, whatever the latencies are.
* `Metrics.statusLimit_slowed`: a run with slower polls passes no limit that the faster one fails,
  unless the limit lies between what is shown of the greatest samples and the greatest sample that
  has a cell; and for these limits it can.
-/

namespace LoadProbe

open LoadProbe.Job LoadProbe.Run

namespace Metrics

/-! ## Passing is a count -/

/-- A summary shows the 99th percentile, also of no samples. -/
theorem p99_summary (h : Histogram) : h.summary.p99 = h.quantile (.ofRatio false 99 100) := by
  unfold Histogram.summary
  split
  case isTrue hempty =>
      rw [Histogram.quantile, List.isEmpty_iff.mp hempty]
      rfl
  case isFalse => rfl

/-- Whether a run with these totals keeps a limit on the latency of polls. -/
def Aggregate.keepsStatusLimit (m : Aggregate) (startedAt : Timestamp) (millis : Nat) : Bool :=
  (holdStatusP99 (m.summary startedAt) millis).passed

/-- The rank of the 99th percentile among some samples. -/
def rankOfP99 (n : Nat) : Nat := Histogram.rankOf (.ofRatio false 99 100) n

/-- The polls that are shown within a limit. -/
def pollsShownWithin (limit : Nat) (samples : List Sample) : Nat :=
  samples.countP fun s => s.endpoint = .status ∧ shown s.latency.micros ≤ limit

section

variable (users : Nat) (updates : List Update) (startedAt : Timestamp) (millis : Nat)

/-- The limit is on the 99th percentile that the histogram of polls shows. -/
theorem keepsStatusLimit_iff_quantile :
    (Aggregate.after users updates).keepsStatusLimit startedAt millis = true ↔
      (Aggregate.after users updates).statusLatency.quantile (.ofRatio false 99 100) ≤
        min (millis * 1000) Word.max64 := by
  have hp99 : ((Aggregate.after users updates).summary startedAt).statusLatency.p99 =
      (Aggregate.after users updates).statusLatency.quantile (.ofRatio false 99 100) :=
    p99_summary _
  rw [← hp99]
  exact decide_eq_true_iff

/-- Without polls every limit is kept. -/
theorem keepsStatusLimit_of_none
    (hnone : requestsTo .status (reportedSamples (reportsOf updates)) = 0) :
    (Aggregate.after users updates).keepsStatusLimit startedAt millis = true := by
  have hnil : cellsOf .status (reportedSamples (reportsOf updates)) = [] := by
    refine List.eq_nil_of_length_eq_zero ?_
    rw [cellsOf, List.length_map]
    exact hnone
  have hcounts := (tallies_after users updates).statusLatency_counts
  rw [hnil] at hcounts
  rw [keepsStatusLimit_iff_quantile, Histogram.quantile, hcounts.eq_nil]
  exact Nat.zero_le _

/-- With polls, the limit is kept if and only if enough of them are shown within it. -/
theorem keepsStatusLimit_iff
    (hsome : 1 ≤ requestsTo .status (reportedSamples (reportsOf updates))) :
    (Aggregate.after users updates).keepsStatusLimit startedAt millis = true ↔
      rankOfP99 (requestsTo .status (reportedSamples (reportsOf updates))) ≤
        pollsShownWithin (min (millis * 1000) Word.max64)
          (reportedSamples (reportsOf updates)) := by
  rw [keepsStatusLimit_iff_quantile]
  exact quantile_le_iff (tallies_after users updates).statusLatency_counts portion_p99 hsome _

end

/-! ## What a limit says of the latencies -/

/-- What is shown within a limit of at most a minute is within it.  What is too great to have a cell
is shown above. -/
theorem le_of_shown_le {v limit : Nat} (hlimit : limit ≤ overflowSample) (h : shown v ≤ limit) :
    v ≤ limit := by
  rcases Nat.lt_or_ge greatestSample v with hover | hwithin
  · rw [shown_of_lt hover] at h
    unfold overflowSample at hlimit
    omega
  · rw [shown_of_le hwithin] at h
    exact (le_cellHigh v).trans h

/-- What is within a limit of at most a minute by a part of 1025 is shown within it. -/
theorem shown_le_of_le {v limit : Nat} (hlimit : limit ≤ overflowSample)
    (h : 1025 * v ≤ 1024 * limit) : shown v ≤ limit := by
  have hwithin : v ≤ greatestSample := by
    unfold overflowSample at hlimit
    unfold greatestSample
    omega
  have hhigh := cellHigh_le v
  rw [shown_of_le hwithin]
  omega

/-- For a limit of at most a minute: if it is kept, as many polls as the rank of the 99th percentile
says took at most the limit in whole microseconds; if it is not, fewer polls than that were faster
by a part of 1025.  Latencies that are too great for the histogram are no exception. -/
theorem statusLimit_counts (users : Nat) (updates : List Update) (startedAt : Timestamp)
    (millis : Nat) (hmillis : millis ≤ 60000)
    (hsome : 1 ≤ requestsTo .status (reportedSamples (reportsOf updates))) :
    ((Aggregate.after users updates).keepsStatusLimit startedAt millis = true →
        rankOfP99 (requestsTo .status (reportedSamples (reportsOf updates))) ≤
          (reportedSamples (reportsOf updates)).countP fun s =>
            s.endpoint = .status ∧ s.latency / 1000 ≤ 1000 * millis) ∧
      ((Aggregate.after users updates).keepsStatusLimit startedAt millis = false →
        ((reportedSamples (reportsOf updates)).countP fun s =>
            s.endpoint = .status ∧ 1025 * (s.latency / 1000) ≤ 1024 * (1000 * millis)) <
          rankOfP99 (requestsTo .status (reportedSamples (reportsOf updates)))) := by
  have hlimit : min (millis * 1000) Word.max64 = 1000 * millis := by
    rw [Nat.mul_comm]
    refine Nat.min_eq_left ?_
    unfold Word.max64
    omega
  have hminute : 1000 * millis ≤ overflowSample := by
    unfold overflowSample
    omega
  have hpassed := keepsStatusLimit_iff users updates startedAt millis hsome
  rw [hlimit] at hpassed
  constructor
  · intro hkept
    refine (hpassed.mp hkept).trans (List.countP_mono_left fun s _ hs => ?_)
    obtain ⟨hstatus, hshown⟩ := of_decide_eq_true hs
    have hle := le_of_shown_le hminute hshown
    refine decide_eq_true ⟨hstatus, ?_⟩
    unfold Duration.micros Word.max64 at hle
    omega
  · intro hfailed
    have hfew : pollsShownWithin (1000 * millis) (reportedSamples (reportsOf updates)) <
        rankOfP99 (requestsTo .status (reportedSamples (reportsOf updates))) := by
      refine Nat.lt_of_not_le fun hrank => ?_
      rw [hpassed.mpr hrank] at hfailed
      exact absurd hfailed (by decide)
    refine lt_of_le_of_lt (List.countP_mono_left fun s _ hs => ?_) hfew
    obtain ⟨hstatus, hfast⟩ := of_decide_eq_true hs
    refine decide_eq_true ⟨hstatus, shown_le_of_le hminute ?_⟩
    exact (Nat.mul_le_mul_left 1025 (Nat.min_le_left _ _)).trans hfast

/-- An iteration with one poll that took the given time. -/
def onePoll (latency : Duration) : Update :=
  .record ⟨0, 0, .exhausted, [.sample ⟨.status, some 200, latency⟩]⟩

/-- Three polls, two of them longer than a minute and one of these too long for the histogram, which
is counted below the other: a limit of a minute fails, as fewer than three polls kept it. -/
theorem statusLimit_counts_overflow :
    requestsTo .status (reportedSamples (reportsOf
        [onePoll (.ofMillis 70000), onePoll (.ofMillis 5), onePoll (.ofMillis 65000)])) = 3 ∧
      ((reportedSamples (reportsOf
          [onePoll (.ofMillis 70000), onePoll (.ofMillis 5), onePoll (.ofMillis 65000)])).countP
        fun s => s.endpoint = .status ∧ 1025 * (s.latency / 1000) ≤ 1024 * (1000 * 60000)) <
          rankOfP99 3 :=
  ⟨rfl, (statusLimit_counts 1
    [onePoll (.ofMillis 70000), onePoll (.ofMillis 5), onePoll (.ofMillis 65000)] ⟨0, 0⟩ 60000
    (by decide) (by decide)).2 (by decide +kernel)⟩

/-! ## Slower polls -/

/-- What is shown within a limit is so of everything faster, unless the limit lies between what is
shown of the greatest samples and the greatest sample that has a cell. -/
theorem shown_le_of_slower {u v limit : Nat} (h : u ≤ v)
    (hlimit : limit < 60030975 ∨ greatestSample ≤ limit ∨ v ≤ greatestSample)
    (hv : shown v ≤ limit) : shown u ≤ limit := by
  rcases Nat.lt_or_ge greatestSample v with hover | hwithin
  · rw [shown_of_lt hover] at hv
    rcases hlimit with hbelow | habove | hwithin
    · omega
    · rcases Nat.lt_or_ge greatestSample u with hu | hu
      · rw [shown_of_lt hu]
        exact hv
      · rw [shown_of_le hu]
        exact ((cellHigh_mono hu).trans (by decide)).trans habove
    · omega
  · exact (shown_mono h hwithin).trans hv

end Metrics

namespace Job

/-- The same request, but a poll may have taken longer. -/
structure Sample.Slowed (s t : Sample) : Prop where
  endpoint_eq : t.endpoint = s.endpoint
  status_eq : t.status = s.status
  latency_le : s.latency ≤ t.latency
  submit_eq : s.endpoint = .submit → t.latency = s.latency

end Job

namespace Run

/-- A report with the same outcome, checks and requests, but polls may have taken longer. -/
structure Report.Slowed (r r' : Report) : Prop where
  outcome_eq : r'.outcome = r.outcome
  checks_eq : checksOf r'.entries = checksOf r.entries
  samples_slowed : List.Forall₂ Sample.Slowed (samplesOf r.entries) (samplesOf r'.entries)

end Run

namespace Metrics

theorem samples_slowed {reports reports' : List Report}
    (h : List.Forall₂ Report.Slowed reports reports') :
    List.Forall₂ Sample.Slowed (reportedSamples reports) (reportedSamples reports') :=
  List.rel_flatMap h fun _ _ hr => hr.samples_slowed

section

variable {samples slower : List Sample} (h : List.Forall₂ Sample.Slowed samples slower)
include h

theorem requestsTo_slowed (endpoint : Endpoint) :
    requestsTo endpoint slower = requestsTo endpoint samples := by
  induction h with
  | nil => rfl
  | cons hs _ ih =>
      simp only [requestsTo, List.filter_cons, hs.endpoint_eq] at ih ⊢
      split <;> simp [ih]

/-- Of slower polls no more are shown within a limit. -/
theorem pollsShownWithin_slowed {limit : Nat}
    (hlimit : limit < 60030975 ∨ greatestSample ≤ limit ∨
      ∀ t ∈ slower, t.endpoint = .status → t.latency.micros ≤ greatestSample) :
    pollsShownWithin limit slower ≤ pollsShownWithin limit samples := by
  induction h with
  | nil => exact le_rfl
  | @cons s t samples slower hs _ ih =>
      -- Poll by poll, for the counts are of the same polls.
      have hmicros : s.latency.micros ≤ t.latency.micros :=
        min_le_min_right _ (Nat.div_le_div_right hs.latency_le)
      have hrest := ih (hlimit.imp_right (.imp_right fun hall u hu => hall u (.tail _ hu)))
      have hfirst : t.endpoint = .status ∧ shown t.latency.micros ≤ limit →
          s.endpoint = .status ∧ shown s.latency.micros ≤ limit := by
        rintro ⟨hstatus, hshown⟩
        refine ⟨hs.endpoint_eq.symm.trans hstatus, shown_le_of_slower hmicros ?_ hshown⟩
        exact hlimit.imp_right (.imp_right fun hall => hall t (.head _) hstatus)
      simp only [pollsShownWithin, List.countP_cons, decide_eq_true_eq] at hrest ⊢
      split
      case isTrue ht =>
          rw [if_pos (hfirst ht)]
          omega
      case isFalse => omega

end

/-- Slower polls pass no limit that faster ones fail, if the limit or the slower polls stay clear of
what is too great for the histogram. -/
theorem keepsStatusLimit_of_slowed {users : Nat} {updates updates' : List Update}
    {startedAt startedAt' : Timestamp} {millis : Nat}
    (h : List.Forall₂ Report.Slowed (reportsOf updates) (reportsOf updates'))
    (hlimit : millis ≤ 60030 ∨ 67109 ≤ millis ∨ ∀ t ∈ reportedSamples (reportsOf updates'),
      t.endpoint = .status → t.latency.micros ≤ greatestSample)
    (hpassed : (Aggregate.after users updates').keepsStatusLimit startedAt' millis = true) :
    (Aggregate.after users updates).keepsStatusLimit startedAt millis = true := by
  have hsamples := samples_slowed h
  have hcount := requestsTo_slowed hsamples .status
  rcases Nat.eq_zero_or_pos (requestsTo .status (reportedSamples (reportsOf updates))) with
    hnone | hsome
  · exact keepsStatusLimit_of_none users updates startedAt millis hnone
  · have hshown : min (millis * 1000) Word.max64 < 60030975 ∨
        greatestSample ≤ min (millis * 1000) Word.max64 ∨
        ∀ t ∈ reportedSamples (reportsOf updates'),
          t.endpoint = .status → t.latency.micros ≤ greatestSample := by
      refine hlimit.imp (fun hbelow => ?_) (.imp_left fun habove => ?_)
      · omega
      · unfold greatestSample Word.max64
        omega
    rw [keepsStatusLimit_iff users updates' startedAt' millis (hcount.symm ▸ hsome),
      hcount] at hpassed
    exact (keepsStatusLimit_iff users updates startedAt millis hsome).mpr
      (hpassed.trans (pollsShownWithin_slowed hsamples hshown))

theorem onePoll_slowed {latency latency' : Duration} (h : latency ≤ latency') :
    List.Forall₂ Report.Slowed (reportsOf [onePoll latency]) (reportsOf [onePoll latency']) :=
  .cons ⟨rfl, rfl, .cons ⟨rfl, rfl, h, fun hsubmit => nomatch hsubmit⟩ .nil⟩ .nil

theorem keepsStatusLimit_onePoll_iff (users : Nat) (latency : Duration) (startedAt : Timestamp)
    (millis : Nat) :
    (Aggregate.after users [onePoll latency]).keepsStatusLimit startedAt millis = true ↔
      shown latency.micros ≤ min (millis * 1000) Word.max64 := by
  have hrank : rankOfP99 1 = 1 := by decide +kernel
  rw [keepsStatusLimit_iff users [onePoll latency] startedAt millis le_rfl]
  change rankOfP99 1 ≤ pollsShownWithin _ [⟨.status, some 200, latency⟩] ↔ _
  rw [hrank, pollsShownWithin, List.countP_singleton]
  by_cases hshown : shown latency.micros ≤ min (millis * 1000) Word.max64
  · simp only [hshown, and_self, decide_true, if_true, le_refl]
  · simp only [hshown, and_false, decide_false, Bool.false_eq_true, if_false, iff_false]
    decide

/-- What a run with slower polls passes, the run with the faster ones passes too, for all limits
except those between what the histogram shows of the greatest samples and the greatest sample that
has a cell; and for these limits too, unless one of the slower polls is too long for the
histogram. -/
theorem statusLimit_slowed (millis : Nat) :
    ((∀ (users : Nat) (updates updates' : List Update) (startedAt startedAt' : Timestamp),
        List.Forall₂ Report.Slowed (reportsOf updates) (reportsOf updates') →
        (Aggregate.after users updates').keepsStatusLimit startedAt' millis = true →
        (Aggregate.after users updates).keepsStatusLimit startedAt millis = true) ↔
      millis ≤ 60030 ∨ 67109 ≤ millis) ∧
    ∀ (users : Nat) (updates updates' : List Update) (startedAt startedAt' : Timestamp),
      List.Forall₂ Report.Slowed (reportsOf updates) (reportsOf updates') →
      (∀ t ∈ reportedSamples (reportsOf updates'),
        t.endpoint = .status → t.latency.micros ≤ greatestSample) →
      (Aggregate.after users updates').keepsStatusLimit startedAt' millis = true →
      (Aggregate.after users updates).keepsStatusLimit startedAt millis = true := by
  refine ⟨⟨fun hall => ?_, fun hmillis users updates updates' _ _ h => ?_⟩,
    fun users updates updates' _ _ h hcells => keepsStatusLimit_of_slowed h (.inr (.inr hcells))⟩
  · by_contra hmillis
    -- The greatest sample that has a cell fails the limit, and a greater one passes it.
    have hslower : (Aggregate.after 1 [onePoll (.ofMillis 70000)]).keepsStatusLimit ⟨0, 0⟩ millis =
        true := by
      have hshown : shown (Duration.micros (.ofMillis 70000)) = 60030975 := shown_of_lt (by decide)
      rw [keepsStatusLimit_onePoll_iff, hshown]
      unfold Word.max64
      omega
    have hfaster := hall 1 [onePoll (.ofParts 67 108863000)] [onePoll (.ofMillis 70000)] ⟨0, 0⟩
      ⟨0, 0⟩ (onePoll_slowed (by decide)) hslower
    have hshown : shown (Duration.micros (.ofParts 67 108863000)) = 67108863 :=
      (shown_of_le (by decide)).trans (by decide)
    rw [keepsStatusLimit_onePoll_iff, hshown] at hfaster
    omega
  · exact keepsStatusLimit_of_slowed h (hmillis.imp_right .inl)

/-- A run with a poll of 59 seconds passes a limit of a minute, and so does one with a poll of five
milliseconds. -/
theorem statusLimit_slowed_minute :
    (Aggregate.after 1 [onePoll (.ofMillis 59000)]).keepsStatusLimit ⟨0, 0⟩ 60000 = true ∧
      (Aggregate.after 1 [onePoll (.ofMillis 5)]).keepsStatusLimit ⟨0, 0⟩ 60000 = true := by
  have hslower :
      (Aggregate.after 1 [onePoll (.ofMillis 59000)]).keepsStatusLimit ⟨0, 0⟩ 60000 = true := by
    decide +kernel
  exact ⟨hslower, (statusLimit_slowed 60000).1.mpr (by decide) 1 _ _ ⟨0, 0⟩ ⟨0, 0⟩
    (onePoll_slowed (by decide)) hslower⟩

/-- With a poll of 70 seconds a run passes a limit of 62 seconds that it fails with one of 65. -/
theorem slower_run_passes :
    List.Forall₂ Report.Slowed (reportsOf [onePoll (.ofMillis 65000)])
        (reportsOf [onePoll (.ofMillis 70000)]) ∧
      (Aggregate.after 1 [onePoll (.ofMillis 70000)]).keepsStatusLimit ⟨0, 0⟩ 62000 = true ∧
      (Aggregate.after 1 [onePoll (.ofMillis 65000)]).keepsStatusLimit ⟨0, 0⟩ 62000 = false :=
  ⟨onePoll_slowed (by decide), by decide +kernel, by decide +kernel⟩

end Metrics

end LoadProbe
