import LoadProbe.Calendar
import LoadProbe.Json.Printer
import LoadProbe.Metrics.Aggregate

/-!
# Summaries

What is shown and saved of a run: totals, rates, and the main figures of the latencies.

* `Metrics.Aggregate.summary` makes the summary of a run.
* `Metrics.Summary.json` is the text that is saved.
-/

namespace LoadProbe.Metrics

open LoadProbe.Json (Value)

/-- The latencies of one endpoint in microseconds. -/
structure LatencySummary where
  count : Nat := 0
  p50 : Nat := 0
  p90 : Nat := 0
  p99 : Nat := 0
  max : Nat := 0
  mean : Nat := 0
deriving DecidableEq, Inhabited

/-- The figures of a histogram. -/
def Histogram.summary (h : Histogram) : LatencySummary :=
  if h.cells.isEmpty then {}
  else {
    count := h.count
    p50 := h.quantile (.ofRatio false 50 100)
    p90 := h.quantile (.ofRatio false 90 100)
    p99 := h.quantile (.ofRatio false 99 100)
    max := h.max
    mean := h.mean.truncate }

/-- The results of one check. -/
structure CheckSummary where
  label : String
  passes : Nat
  fails : Nat
  passRate : Binary64
deriving DecidableEq, Inhabited

/-- The summary of a run. -/
structure Summary where
  startedAt : Timestamp
  seconds : Binary64 := .zero
  users : Nat := 1
  iterations : Nat := 0
  iterationsPerSecond : Binary64 := .zero
  requests : Nat := 0
  requestsPerSecond : Binary64 := .zero
  transportErrors : Nat := 0
  checksPassed : Nat := 0
  checksFailed : Nat := 0
  checkPassRate : Binary64 := .zero
  checks : List CheckSummary := []
  outcomes : SortedMap String Nat := []
  statuses : SortedMap String Nat := []
  submitLatency : LatencySummary := {}
  statusLatency : LatencySummary := {}
deriving Inhabited

/-- How many there were in each second, zero if no time has passed. -/
def perSecond (count : Nat) (seconds : Binary64) : Binary64 :=
  if Binary64.lt .zero seconds then (Binary64.ofNat count).div seconds else .zero

/-- A map with the same values under the texts of its keys. -/
def renamed {κ : Type} (name : κ → String) (m : SortedMap κ Nat) : SortedMap String Nat :=
  SortedMap.ofList (m.map fun (key, n) => (name key, n))

/-- The summary of a run that started at the given instant. -/
def Aggregate.summary (m : Aggregate) (startedAt : Timestamp) : Summary :=
  let seconds := m.elapsed.toSeconds
  let passed := SortedMap.total (m.checks.map fun (label, t) => (label, t.passes))
  let failed := SortedMap.total (m.checks.map fun (label, t) => (label, t.fails))
  let requests := m.statuses.total + m.transportErrors
  { startedAt
    seconds
    users := m.users
    iterations := m.iterations
    iterationsPerSecond := perSecond m.iterations seconds
    requests
    requestsPerSecond := perSecond requests seconds
    transportErrors := m.transportErrors
    checksPassed := passed
    checksFailed := failed
    checkPassRate := rate passed (passed + failed)
    checks := m.checks.map fun (label, t) => ⟨label, t.passes, t.fails, t.passRate⟩
    outcomes := renamed (·.name) m.outcomes
    statuses := renamed Text.decimal m.statuses
    submitLatency := m.submitLatency.summary
    statusLatency := m.statusLatency.summary }

/-- A number as a JSON value. -/
def number (n : Nat) : Value := .integer n

/-- The figures of an endpoint as a JSON value. -/
def LatencySummary.toJson (l : LatencySummary) : Value :=
  .object [("count", number l.count), ("p50_us", number l.p50), ("p90_us", number l.p90),
    ("p99_us", number l.p99), ("max_us", number l.max), ("mean_us", number l.mean)]

/-- The results of a check as a JSON value. -/
def CheckSummary.toJson (c : CheckSummary) : Value :=
  .object [("label", .string c.label), ("passes", number c.passes), ("fails", number c.fails),
    ("pass_rate", .float c.passRate)]

/-- A map of counts as a JSON value. -/
def countsToJson (m : SortedMap String Nat) : Value :=
  .object (m.map fun (key, n) => (key, number n))

/-- The summary as a JSON value. -/
def Summary.toJson (s : Summary) : Value :=
  .object [
    ("started_at", .string s.startedAt.rfc3339),
    ("duration_secs", .float s.seconds),
    ("vus", number s.users),
    ("iterations", number s.iterations),
    ("iterations_per_sec", .float s.iterationsPerSecond),
    ("http_requests", number s.requests),
    ("requests_per_sec", .float s.requestsPerSecond),
    ("transport_errors", number s.transportErrors),
    ("checks_passed", number s.checksPassed),
    ("checks_failed", number s.checksFailed),
    ("check_pass_rate", .float s.checkPassRate),
    ("checks", .array (s.checks.map (·.toJson))),
    ("outcomes", countsToJson s.outcomes),
    ("http_statuses", countsToJson s.statuses),
    ("submit_latency", s.submitLatency.toJson),
    ("status_latency", s.statusLatency.toJson)]

/-- The text that is saved. -/
def Summary.json (s : Summary) : String := s.toJson.pretty

end LoadProbe.Metrics
