import LoadProbe.Metrics.Summary
import LoadProbe.Proofs.Calendar.Instants
import LoadProbe.Proofs.Json.Printing
import LoadProbe.Proofs.Maps.Partial
import LoadProbe.Proofs.Maps.Values

/-!
# Saved summaries

What is saved of a summary, seen from the side of whoever loads it: an object with certain keys and
no others, in any order, and under each key a number, a text, or again such an object.

* `Json.fieldsOf?` are the values under the keys of an object; `Json.fieldsOf?_ofList` says that the
  order of the members does not matter.
* `Metrics.Summary.ofJson?` loads a summary.  An instant is loaded from its text.
* `Metrics.Summary.counts` and `Metrics.Summary.floats` are the numbers in a summary.
* `Metrics.Summary.isLegible_toJson` and `Metrics.Summary.ofJson?_sorted`: a summary is printed as a
  value that is read back, and what is read back is loaded as the summary.
-/

namespace LoadProbe

namespace Json

/-! ## Parts of a value -/

/-- The natural number that a value is. -/
def Value.nat? : Value → Option Nat
  | .integer (.ofNat n) => some n
  | _ => none

/-- The floating-point number that a value is. -/
def Value.float? : Value → Option Binary64
  | .float x => some x
  | _ => none

/-- The values under the given keys of an object that has no others. -/
def fieldsOf? (keys : List String) : Value → Option (List Value)
  | .object members =>
      if (members.map (·.1)).Perm keys then keys.mapM (members.lookup ·) else none
  | _ => none

/-- The entries of an object of natural numbers. -/
def countsOf? : Value → Option (SortedMap String Nat)
  | .object members => members.mapM fun member => member.2.nat?.map (member.1, ·)
  | _ => none

/-- The members of an object are found in any order. -/
theorem fieldsOf?_ofList {pairs : List (String × Value)} (hnodup : (pairs.map (·.1)).Nodup) :
    fieldsOf? (pairs.map (·.1)) (.object (SortedMap.ofList pairs)) =
      some (pairs.map (·.2)) := by
  have hperm := (SortedMap.ofList_perm hnodup).map (·.1)
  have hfound : ∀ member ∈ pairs,
      (SortedMap.ofList pairs).lookup member.1 = some member.2 := by
    rintro ⟨key, v⟩ hmember
    rw [(SortedMap.sorted_ofList pairs).lookup_eq_get?]
    exact (SortedMap.get?_ofList_eq_some_iff hnodup key v).mpr hmember
  rw [fieldsOf?, if_pos hperm, List.mapM_map]
  exact mapM_eq_some_map hfound

theorem fieldsOf?_sorted {members : List (String × Value)} (hnodup : (members.map (·.1)).Nodup) :
    fieldsOf? (members.map (·.1)) (Value.object members).sorted =
      some (members.map (·.2.sorted)) := by
  have hkeys : (sortedMembers members).map (·.1) = members.map (·.1) := by
    rw [sortedMembers_eq_map, List.map_map]
    rfl
  rw [Value.sorted, ← hkeys, fieldsOf?_ofList (hkeys ▸ hnodup), sortedMembers_eq_map,
    List.map_map]
  rfl

/-- Whether a text is read as a floating-point number can be decided. -/
theorem parse?_eq_float_iff {text : String} {x : Binary64} :
    parse? text = some (.float x) ↔ (parse? text).bind Value.float? = some x := by
  constructor
  · intro h
    rw [h]
    rfl
  · intro h
    obtain ⟨v, hread, hfloat⟩ := Option.bind_eq_some_iff.mp h
    unfold Value.float? at hfloat
    split at hfloat
    case h_1 => rw [hread, Option.some.inj hfloat]
    case h_2 => cases hfloat

end Json

namespace Metrics

open Json (Value fieldsOf? countsOf?)

/-! ## Loading -/

/-- The keys of the figures of an endpoint. -/
def LatencySummary.keys : List String :=
  ["count", "p50_us", "p90_us", "p99_us", "max_us", "mean_us"]

/-- The keys of the results of a check. -/
def CheckSummary.keys : List String := ["label", "passes", "fails", "pass_rate"]

/-- The keys of a summary. -/
def Summary.keys : List String :=
  ["started_at", "duration_secs", "vus", "iterations", "iterations_per_sec", "http_requests",
    "requests_per_sec", "transport_errors", "checks_passed", "checks_failed", "check_pass_rate",
    "checks", "outcomes", "http_statuses", "submit_latency", "status_latency"]

/-- The figures of an endpoint that a value holds. -/
def LatencySummary.ofJson? (v : Value) : Option LatencySummary := do
  let [count, p50, p90, p99, max, mean] ← (← fieldsOf? keys v).mapM Value.nat? | none
  return { count, p50, p90, p99, max, mean }

/-- The results of a check that a value holds. -/
def CheckSummary.ofJson? (v : Value) : Option CheckSummary := do
  let [label, passes, fails, passRate] ← fieldsOf? keys v | none
  return {
    label := ← label.string?
    passes := ← passes.nat?
    fails := ← fails.nat?
    passRate := ← passRate.float? }

/-- The summary that a value holds. -/
def Summary.ofJson? (v : Value) : Option Summary := do
  let [startedAt, seconds, users, iterations, iterationsPerSecond, requests, requestsPerSecond,
    transportErrors, checksPassed, checksFailed, checkPassRate, checks, outcomes, statuses,
    submitLatency, statusLatency] ← fieldsOf? keys v | none
  let [users, iterations, requests, transportErrors, checksPassed, checksFailed] ←
    [users, iterations, requests, transportErrors, checksPassed, checksFailed].mapM Value.nat?
    | none
  let [seconds, iterationsPerSecond, requestsPerSecond, checkPassRate] ←
    [seconds, iterationsPerSecond, requestsPerSecond, checkPassRate].mapM Value.float? | none
  return {
    startedAt := ← startedAt.string?.bind Timestamp.ofRfc3339?
    seconds, users, iterations, iterationsPerSecond, requests, requestsPerSecond, transportErrors
    checksPassed, checksFailed, checkPassRate
    checks := ← checks.items?.bind (·.mapM CheckSummary.ofJson?)
    outcomes := ← countsOf? outcomes
    statuses := ← countsOf? statuses
    submitLatency := ← LatencySummary.ofJson? submitLatency
    statusLatency := ← LatencySummary.ofJson? statusLatency }

/-! ## The numbers in a summary -/

/-- The numbers in the figures of an endpoint. -/
def LatencySummary.counts (l : LatencySummary) : List Nat :=
  [l.count, l.p50, l.p90, l.p99, l.max, l.mean]

/-- The natural numbers in a summary. -/
def Summary.counts (s : Summary) : List Nat :=
  [s.users, s.iterations, s.requests, s.transportErrors, s.checksPassed, s.checksFailed] ++
    s.checks.flatMap (fun c => [c.passes, c.fails]) ++ s.outcomes.map (·.2) ++
    s.statuses.map (·.2) ++ s.submitLatency.counts ++ s.statusLatency.counts

/-- The floating-point numbers in a summary. -/
def Summary.floats (s : Summary) : List Binary64 :=
  [s.seconds, s.iterationsPerSecond, s.requestsPerSecond, s.checkPassRate] ++
    s.checks.map (·.passRate)

/-! ## Loading what was saved -/

@[simp]
theorem nat?_number (n : Nat) : (number n).nat? = some n := rfl

theorem LatencySummary.ofJson?_sorted (l : LatencySummary) :
    LatencySummary.ofJson? l.toJson.sorted = some l := by
  have hfields : fieldsOf? keys l.toJson.sorted = some [number l.count, number l.p50,
      number l.p90, number l.p99, number l.max, number l.mean] :=
    Json.fieldsOf?_sorted (by simp)
  rw [LatencySummary.ofJson?, hfields]
  simp

theorem CheckSummary.ofJson?_sorted (c : CheckSummary) :
    CheckSummary.ofJson? c.toJson.sorted = some c := by
  have hfields : fieldsOf? keys c.toJson.sorted = some [.string c.label, number c.passes,
      number c.fails, .float c.passRate] :=
    Json.fieldsOf?_sorted (by simp)
  rw [CheckSummary.ofJson?, hfields]
  simp [Value.string?, Value.float?]

theorem countsOf?_sorted {m : SortedMap String Nat} (h : SortedMap.Sorted m) :
    countsOf? (countsToJson m).sorted = some m := by
  have hentries : (SortedMap.mapValues number m).mapM
      (fun member => member.2.nat?.map (member.1, ·)) = some (m.map id) := by
    rw [SortedMap.mapValues, List.mapM_map]
    exact mapM_eq_some_map fun entry _ => by simp
  have hsorted : (countsToJson m).sorted = .object (SortedMap.mapValues number m) := by
    rw [countsToJson, Value.sorted, Json.sortedMembers_eq_map, List.map_map]
    exact congrArg Value.object (h.mapValues number).ofList_eq
  rw [hsorted, countsOf?, hentries, List.map_id]

theorem Summary.ofJson?_sorted {s : Summary} (houtcomes : SortedMap.Sorted s.outcomes)
    (hstatuses : SortedMap.Sorted s.statuses) (hinstant : s.startedAt.nanos < 2000000000) :
    Summary.ofJson? s.toJson.sorted = some { s with startedAt := s.startedAt.settled } := by
  have hfields : fieldsOf? keys s.toJson.sorted = some [.string s.startedAt.rfc3339,
      .float s.seconds, number s.users, number s.iterations, .float s.iterationsPerSecond,
      number s.requests, .float s.requestsPerSecond, number s.transportErrors,
      number s.checksPassed, number s.checksFailed, .float s.checkPassRate,
      .array (Json.sortedItems (s.checks.map (·.toJson))), (countsToJson s.outcomes).sorted,
      (countsToJson s.statuses).sorted, s.submitLatency.toJson.sorted,
      s.statusLatency.toJson.sorted] :=
    Json.fieldsOf?_sorted (by simp)
  have hchecks : (Json.sortedItems (s.checks.map (·.toJson))).mapM CheckSummary.ofJson? =
      some (s.checks.map id) := by
    rw [Json.sortedItems_eq_map, List.map_map, List.mapM_map]
    exact mapM_eq_some_map fun c _ => c.ofJson?_sorted
  rw [List.map_id] at hchecks
  rw [Summary.ofJson?, hfields]
  simp only [Value.string?, Value.items?, hchecks, Timestamp.ofRfc3339?_rfc3339 hinstant,
    countsOf?_sorted houtcomes, countsOf?_sorted hstatuses, LatencySummary.ofJson?_sorted,
    Option.bind_eq_bind, Option.bind_some]
  rfl

/-! ## Saving -/

theorem isLegible_number {n : Nat} (h : n ≤ Word.max64) : (number n).IsLegible := by
  constructor
  · exact Int.le_trans (by decide) (Int.natCast_nonneg n)
  · exact Int.ofNat_lt.mpr (Nat.lt_succ_of_le h)

theorem isLegible_countsToJson {m : SortedMap String Nat}
    (h : ∀ n ∈ m.map (·.2), n ≤ Word.max64) : (countsToJson m).IsLegible := by
  refine (Json.holdLegible_iff _).mpr ?_
  intro member hmember
  obtain ⟨entry, hentry, rfl⟩ := List.mem_map.mp hmember
  exact isLegible_number (h _ (List.mem_map_of_mem hentry))

theorem LatencySummary.isLegible_toJson {l : LatencySummary} (h : ∀ n ∈ l.counts, n ≤ Word.max64) :
    l.toJson.IsLegible := by
  simp only [LatencySummary.counts, List.forall_mem_cons] at h
  obtain ⟨hcount, hp50, hp90, hp99, hmax, hmean, -⟩ := h
  exact ⟨isLegible_number hcount, isLegible_number hp50, isLegible_number hp90,
    isLegible_number hp99, isLegible_number hmax, isLegible_number hmean, trivial⟩

/-- All numbers of a summary can be read back if its integers fit into 64 bits and each of its
floating-point numbers can. -/
theorem Summary.isLegible_toJson {s : Summary} (hcounts : ∀ n ∈ s.counts, n ≤ Word.max64)
    (hfloats : ∀ x ∈ s.floats, Json.parse? (Json.floatText x) = some (.float x)) :
    s.toJson.IsLegible := by
  simp only [Summary.counts, List.forall_mem_append, List.forall_mem_cons,
    List.forall_mem_flatMap] at hcounts
  obtain ⟨⟨⟨⟨⟨⟨husers, hiterations, hrequests, herrors, hpassed, hfailed, -⟩, htallies⟩,
    houtcomes⟩, hstatuses⟩, hsubmit⟩, hstatus⟩ := hcounts
  simp only [Summary.floats, List.forall_mem_append, List.forall_mem_cons,
    List.forall_mem_map] at hfloats
  obtain ⟨⟨hseconds, hiterationRate, hrequestRate, hpassRate, -⟩, hrates⟩ := hfloats
  have hchecks : Json.AreLegible (s.checks.map (·.toJson)) := by
    refine (Json.areLegible_iff _).mpr (List.forall_mem_map.mpr fun c hc => ?_)
    obtain ⟨hpasses, hfails, -⟩ := htallies c hc
    exact ⟨trivial, isLegible_number hpasses, isLegible_number hfails, hrates c hc, trivial⟩
  exact ⟨trivial, hseconds, isLegible_number husers, isLegible_number hiterations, hiterationRate,
    isLegible_number hrequests, hrequestRate, isLegible_number herrors, isLegible_number hpassed,
    isLegible_number hfailed, hpassRate, hchecks, isLegible_countsToJson houtcomes,
    isLegible_countsToJson hstatuses, LatencySummary.isLegible_toJson hsubmit,
    LatencySummary.isLegible_toJson hstatus, trivial⟩

theorem depth_countsToJson_le (m : SortedMap String Nat) : (countsToJson m).depth ≤ 1 := by
  refine Nat.succ_le_succ (Json.depthOfPairs_le_iff.mpr ?_)
  exact List.forall_mem_map.mpr fun _ _ => Nat.le_refl 0

/-- A summary is an object with a list of objects in it, and nothing is nested more deeply. -/
theorem Summary.depth_toJson_le (s : Summary) : s.toJson.depth ≤ 3 := by
  have hchecks : Json.depthOfValues (s.checks.map (·.toJson)) ≤ 1 :=
    Json.depthOfValues_le_iff.mpr (List.forall_mem_map.mpr fun _ _ => Nat.le_refl 1)
  have houtcomes := depth_countsToJson_le s.outcomes
  have hstatuses := depth_countsToJson_le s.statuses
  have hsubmit : s.submitLatency.toJson.depth = 1 := rfl
  have hstatus : s.statusLatency.toJson.depth = 1 := rfl
  simp only [Summary.toJson, Value.depth, Json.depthOfPairs, number, hsubmit, hstatus]
  omega

/-- What is saved of a summary is loaded as the summary: all texts character by character, all
natural numbers up to 2⁶⁴ - 1 and the checks in their order.  The instant of the start is the same
to the nanosecond; it is even the same record unless it lies in a leap second where there is
none. -/
theorem saved_summary_lossless (s : Summary) (hcounts : ∀ n ∈ s.counts, n ≤ Word.max64)
    (hfloats : ∀ x ∈ s.floats, Json.parse? (Json.floatText x) = some (.float x))
    (houtcomes : SortedMap.Sorted s.outcomes) (hstatuses : SortedMap.Sorted s.statuses)
    (hinstant : s.startedAt.nanos < 2000000000) :
    ∃ v startedAt, Json.parse? s.json = some v ∧
      Summary.ofJson? v = some { s with startedAt } ∧
      startedAt.nanosSinceEpoch = s.startedAt.nanosSinceEpoch ∧
      (s.startedAt.nanos < 1000000000 ∨ s.startedAt.seconds % 60 = 59 →
        startedAt = s.startedAt) := by
  have hlegible := Summary.isLegible_toJson hcounts hfloats
  have hdepth : s.toJson.depth ≤ Json.maxDepth :=
    Nat.le_trans s.depth_toJson_le (by decide)
  refine ⟨s.toJson.sorted, s.startedAt.settled, Json.parse?_pretty hlegible hdepth,
    Summary.ofJson?_sorted houtcomes hstatuses hinstant,
    Timestamp.nanosSinceEpoch_settled s.startedAt, ?_⟩
  intro hregular
  exact if_pos hregular

/-- A summary with awkward texts, an empty map, the greatest integers, and a start in the leap
second at the end of a day in the year 12345. -/
def awkwardSummary : Summary where
  startedAt := ⟨327403295999, 1000000001⟩
  seconds := .ofRatio false 5 2
  users := Word.max64
  iterations := Word.max64
  iterationsPerSecond := .ofRatio false 200 3
  checks := [⟨"\"\\\n\x00\x1f/é", 1, 0, .ofRatio false 1 1⟩, ⟨"", 0, 0, .zero⟩,
    ⟨"\x7b\x7d[],:", 0, Word.max64, .zero⟩]
  statuses := [("", 7), ("2\t0", Word.max64), ("200", 0)]

theorem saved_summary_lossless_awkward :
    (∀ n ∈ awkwardSummary.counts, n ≤ Word.max64) ∧
      (∀ x ∈ awkwardSummary.floats, Json.parse? (Json.floatText x) = some (.float x)) ∧
      SortedMap.Sorted awkwardSummary.outcomes ∧ SortedMap.Sorted awkwardSummary.statuses ∧
      awkwardSummary.startedAt.nanos < 2000000000 ∧
      ∃ v, Json.parse? awkwardSummary.json = some v ∧
        Summary.ofJson? v = some awkwardSummary := by
  have hcounts : ∀ n ∈ awkwardSummary.counts, n ≤ Word.max64 := by decide +kernel
  have hread : ∀ x ∈ awkwardSummary.floats,
      (Json.parse? (Json.floatText x)).bind Value.float? = some x := by decide +kernel
  have hfloats := fun x hx => Json.parse?_eq_float_iff.mpr (hread x hx)
  have houtcomes : SortedMap.Sorted awkwardSummary.outcomes := List.Pairwise.nil
  have hstatuses : SortedMap.Sorted awkwardSummary.statuses := by
    unfold SortedMap.Sorted
    decide +kernel
  have hinstant : awkwardSummary.startedAt.nanos < 2000000000 := by decide
  obtain ⟨v, startedAt, hparse, hload, -, hsame⟩ :=
    saved_summary_lossless awkwardSummary hcounts hfloats houtcomes hstatuses hinstant
  obtain rfl := hsame (.inr (by decide))
  exact ⟨hcounts, hfloats, houtcomes, hstatuses, hinstant, v, hparse, hload⟩

end Metrics

end LoadProbe
