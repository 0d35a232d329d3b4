import LoadProbe.Metrics.Threshold
import LoadProbe.Text.Layout

/-!
# Reports

The summary of a run and the evaluation of its thresholds as text for the terminal.
-/

namespace LoadProbe.Metrics

open LoadProbe.Text

/-- A number, right-aligned. -/
def column (width n : Nat) : String := padLeft width (decimal n)

/-- A floating-point number with two places, right-aligned. -/
def rateColumn (width : Nat) (x : Binary64) : String := padLeft width (Binary64.fixed 2 x)

def topLine : String := "╔══════════════════════════════════════════════════════════════╗"

def separatorLine : String := "╠══════════════════════════════════════════════════════════════╣"

def bottomLine : String := "╚══════════════════════════════════════════════════════════════╝"

/-- The columns that say how often something passed and failed. -/
def passColumns (passRate : Binary64) (passes fails : Nat) : String :=
  padLeft 6 (percent passRate) ++ "%  ✓ " ++ column 7 passes ++ "  ✗ " ++ column 7 fails
    ++ "      ║"

/-- The line of a check. -/
def checkLine (c : CheckSummary) : String :=
  "║ " ++ (if c.fails = 0 then "✓" else "✗") ++ " " ++ padRight 24 c.label ++ " "
    ++ passColumns c.passRate c.passes c.fails

/-- The line of a count. -/
def countLine (name : String) (count : Nat) : String :=
  "║   " ++ padRight 20 name ++ ": " ++ column 10 count ++ "                         ║"

/-- The line of a figure of both latencies. -/
def latencyLine (name : String) (submit status : Nat) : String :=
  "║   " ++ padRight 5 name ++ "            " ++ column 12 submit ++ "    " ++ column 12 status
    ++ "              ║"

/-- The lines with the totals of a run. -/
def Summary.totalLines (s : Summary) : List String := [
  "║ Started:           " ++ padLeft 30 s.startedAt.shown ++ "             ║",
  "║ Duration:          " ++ rateColumn 10 s.seconds ++ " seconds                        ║",
  "║ Virtual Users:     " ++ column 10 s.users ++ "                                 ║",
  "║ Iterations:        " ++ column 10 s.iterations ++ " (" ++ rateColumn 8 s.iterationsPerSecond
    ++ "/s)                     ║",
  "║ HTTP Requests:     " ++ column 10 s.requests ++ " (" ++ rateColumn 8 s.requestsPerSecond
    ++ "/s)                     ║",
  "║ Transport Errors:  " ++ column 10 s.transportErrors ++ "                                 ║"]

/-- The lines with the latencies of a run. -/
def Summary.latencyLines (s : Summary) : List String := [
  latencyLine "p50" s.submitLatency.p50 s.statusLatency.p50,
  latencyLine "p90" s.submitLatency.p90 s.statusLatency.p90,
  latencyLine "p99" s.submitLatency.p99 s.statusLatency.p99,
  latencyLine "max" s.submitLatency.max s.statusLatency.max,
  latencyLine "mean" s.submitLatency.mean s.statusLatency.mean]

/-- The lines with the HTTP statuses of a run; without any there is no such part. -/
def Summary.statusLines (s : Summary) : List String :=
  if s.statuses.isEmpty then []
  else [separatorLine, "║ HTTP STATUSES                                                ║"]
    ++ s.statuses.map fun (status, count) => countLine status count

/-- All lines of a report. -/
def Summary.reportLines (s : Summary) : List String :=
  ["", topLine, "║                 CHAT JOB API LOAD TEST RESULTS               ║", separatorLine]
    ++ s.totalLines
    ++ [separatorLine, "║ CHECKS                                                       ║"]
    ++ s.checks.map checkLine
    ++ ["║   overall                  "
        ++ passColumns s.checkPassRate s.checksPassed s.checksFailed,
      separatorLine, "║ OUTCOMES                                                     ║"]
    ++ s.outcomes.map (fun (outcome, count) => countLine outcome count)
    ++ [separatorLine, "║ LATENCY (microseconds)       submit          status          ║"]
    ++ s.latencyLines ++ s.statusLines ++ [bottomLine, ""]

/-- Lines as text, each with its end. -/
def ofLines (lines : List String) : String := String.join (lines.map (· ++ "\n"))

/-- The report on a run. -/
def Summary.report (s : Summary) : String := ofLines s.reportLines

def ruleLine : String := "═══════════════════════════════════════════════════════════════"

/-- The lines about one threshold. -/
def ThresholdCheck.lines (c : ThresholdCheck) : List String := [
  "",
  "  " ++ c.name ++ " - " ++ (if c.passed then "✅ PASS" else "❌ FAIL"),
  "    Actual:   " ++ c.actual,
  "    Expected: " ++ c.expected]

/-- The report on the thresholds; without any there is none. -/
def thresholdReport (checks : List ThresholdCheck) : String :=
  if checks.isEmpty then ""
  else ofLines (["", ruleLine, "                      THRESHOLD CHECK", ruleLine]
    ++ checks.flatMap (·.lines)
    ++ ["", ruleLine,
      if allKept checks then "  OVERALL: ✅ ALL THRESHOLDS PASS"
      else "  OVERALL: ❌ SOME THRESHOLDS FAILED",
      ruleLine, ""])

end LoadProbe.Metrics
