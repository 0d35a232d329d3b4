import LoadProbe.Metrics.Summary
import LoadProbe.Word

/-!
# Thresholds

Limits that the summary of a run is held to.  A limit that is not set is not evaluated.
-/

namespace LoadProbe.Metrics

/-- The limits: the least part of all checks that must pass, and the greatest latency of status
requests in milliseconds that 99 of 100 may take. -/
structure Thresholds where
  minPassRate : Option Binary64 := none
  maxStatusP99 : Option Nat := none
deriving DecidableEq, Inhabited

/-- The evaluation of one limit. -/
structure ThresholdCheck where
  name : String
  passed : Bool
  actual : String
  expected : String
deriving DecidableEq, Inhabited

/-- A part of one as a percentage with two places. -/
def percent (x : Binary64) : String := Binary64.fixed 2 (x.mul (.ofNat 100))

/-- Holds the pass rate of all checks to its limit. -/
def holdPassRate (s : Summary) (least : Binary64) : ThresholdCheck where
  name := "Check pass rate >= " ++ percent least ++ "%"
  passed := least.le s.checkPassRate
  actual := percent s.checkPassRate ++ "%"
  expected := ">=" ++ percent least ++ "%"

/-- Holds the latency of status requests to its limit. -/
def holdStatusP99 (s : Summary) (millis : Nat) : ThresholdCheck :=
  let micros := min (millis * 1000) Word.max64
  { name := "Status poll p99 <= " ++ Text.decimal millis ++ "ms"
    passed := s.statusLatency.p99 ≤ micros
    actual := Text.decimal s.statusLatency.p99 ++ "µs"
    expected := "<=" ++ Text.decimal micros ++ "µs" }

/-- Evaluates the limits that are set. -/
def Summary.evaluate (s : Summary) (t : Thresholds) : List ThresholdCheck :=
  (t.minPassRate.map (holdPassRate s)).toList ++ (t.maxStatusP99.map (holdStatusP99 s)).toList

/-- Whether every limit is kept. -/
def allKept (checks : List ThresholdCheck) : Bool := checks.all (·.passed)

end LoadProbe.Metrics
