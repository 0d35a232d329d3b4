import LoadProbe.Metrics.Histogram
import LoadProbe.Run.Crowd

/-!
# Totals of a run

The reports of all iterations folded into totals.

* `Metrics.Aggregate` holds the totals, `Metrics.Aggregate.record` adds one report.
* The totals are kept twice: as maps and histograms for the summary, and as counters with labels
  for export.
-/

namespace LoadProbe.Metrics

open LoadProbe.Job LoadProbe.Run

/-- How often a check passed and failed. -/
structure Tally where
  passes : Nat := 0
  fails : Nat := 0
deriving DecidableEq, Inhabited

/-- The part `n` of `total` as a floating-point number, zero if there is nothing. -/
def rate (n total : Nat) : Binary64 :=
  if total = 0 then .zero else (Binary64.ofNat n).div (Binary64.ofNat total)

namespace Tally

def total (t : Tally) : Nat := t.passes + t.fails

/-- The part of the results that passed. -/
def passRate (t : Tally) : Binary64 := rate t.passes t.total

/-- Counts one more result. -/
def add (passed : Bool) (t : Tally) : Tally :=
  if passed then { t with passes := t.passes + 1 } else { t with fails := t.fails + 1 }

end Tally

/-- A family of counters, by the values of their labels. -/
abbrev Counters : Type := SortedMap (List String) Nat

/-- The totals of a run. -/
structure Aggregate where
  users : Nat
  elapsed : Duration := 0
  iterations : Nat := 0
  checks : SortedMap String Tally := []
  outcomes : SortedMap Outcome Nat := []
  statuses : SortedMap Nat Nat := []
  transportErrors : Nat := 0
  submitLatency : Histogram := {}
  statusLatency : Histogram := {}
  /-- Counters of checks, by label and result. -/
  checkCounters : Counters := []
  /-- Counters of requests, by endpoint and status. -/
  requestCounters : Counters := []
  /-- Counters of iterations, by outcome. -/
  iterationCounters : Counters := []
deriving Inhabited

namespace Aggregate

/-- Adds a check. -/
def addCheck (m : Aggregate) (c : Check) : Aggregate :=
  { m with
    checks := m.checks.alter c.label fun t => (t.getD {}).add c.passed
    checkCounters := m.checkCounters.increment [c.label, if c.passed then "pass" else "fail"] }

/-- Adds a latency to the histogram of its endpoint. -/
def addLatency (m : Aggregate) (s : Sample) : Aggregate :=
  match s.endpoint with
  | .submit => { m with submitLatency := m.submitLatency.record s.latency.micros }
  | .status => { m with statusLatency := m.statusLatency.record s.latency.micros }

/-- How counters name the status of a request. -/
def statusName : Option Nat → String
  | some status => Text.decimal status
  | none => "transport_error"

/-- Adds a request. -/
def addSample (m : Aggregate) (s : Sample) : Aggregate :=
  let m := m.addLatency s
  { m with
    statuses := match s.status with
      | some status => m.statuses.increment status
      | none => m.statuses
    transportErrors := if s.status.isNone then m.transportErrors + 1 else m.transportErrors
    requestCounters := m.requestCounters.increment [s.endpoint.name, statusName s.status] }

/-- Adds an iteration: its outcome, its checks and its requests. -/
def record (m : Aggregate) (r : Report) : Aggregate :=
  let m := { m with
    iterations := m.iterations + 1
    outcomes := m.outcomes.increment r.outcome
    iterationCounters := m.iterationCounters.increment [r.outcome.name] }
  (samplesOf r.entries).foldl addSample ((checksOf r.entries).foldl addCheck m)

@[simp] theorem iterations_addCheck (m : Aggregate) (c : Check) :
    (m.addCheck c).iterations = m.iterations := rfl

@[simp] theorem iterations_addSample (m : Aggregate) (s : Sample) :
    (m.addSample s).iterations = m.iterations := by
  cases hendpoint : s.endpoint <;> simp [addSample, addLatency, hendpoint]

/-- Whatever a report says, it counts as one iteration. -/
@[simp] theorem iterations_record (m : Aggregate) (r : Report) :
    (m.record r).iterations = m.iterations + 1 := by
  have hchecks : ∀ (checks : List Check) (m : Aggregate),
      (checks.foldl addCheck m).iterations = m.iterations := by
    intro checks
    induction checks with
    | nil => exact fun m => rfl
    | cons c checks ih => exact fun m => (ih (m.addCheck c)).trans (iterations_addCheck m c)
  have hsamples : ∀ (samples : List Sample) (m : Aggregate),
      (samples.foldl addSample m).iterations = m.iterations := by
    intro samples
    induction samples with
    | nil => exact fun m => rfl
    | cons s samples ih => exact fun m => (ih (m.addSample s)).trans (iterations_addSample m s)
  rw [record, hsamples, hchecks]

/-- The iterations are counted report by report. -/
theorem iterations_foldl_record (m : Aggregate) (reports : List Report) :
    (reports.foldl record m).iterations = m.iterations + reports.length := by
  induction reports generalizing m with
  | nil => rfl
  | cons r reports ih =>
      rw [List.foldl_cons, ih, iterations_record, List.length_cons, Nat.add_assoc, Nat.add_comm 1]

/-- Sets how long the run took. -/
def finish (m : Aggregate) (elapsed : Duration) : Aggregate := { m with elapsed }

/-- The tally of a check. -/
def check (m : Aggregate) (label : String) : Tally := (m.checks.get? label).getD {}

/-- The number of iterations with an outcome. -/
def outcomeCount (m : Aggregate) (o : Outcome) : Nat := m.outcomes.count o

/-- The totals of a run that is over. -/
def ofCrowd {σ : Type} (users : Nat) (s : Crowd σ) : Aggregate :=
  (s.reports.reverse.foldl record { users }).finish s.clock

end Aggregate

end LoadProbe.Metrics
