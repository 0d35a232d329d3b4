/-!
# Faults

What can go wrong while a load test is set up or driven.  How the service under test behaves is
never a fault: throttling, unexpected statuses and malformed bodies are observations.  Only a call
that brings no HTTP status at all is one, and it is a fault of the transport.
-/

namespace LoadProbe

/-- A fault, with its reason. -/
inductive Fault where
  /-- The sources of the settings could not be read or merged. -/
  | settings (reason : String)
  /-- The settings are readable but refused. -/
  | invalidSettings (reason : String)
  /-- An HTTP exchange brought no status. -/
  | http (reason : String)
  /-- Some other transport brought no status. -/
  | transport (reason : String)
  /-- Counters or histograms could not be set up or written. -/
  | metrics (reason : String)
  /-- A value has no text in the requested format. -/
  | serialization (reason : String)
  /-- A file could not be read or written. -/
  | file (reason : String)
deriving DecidableEq, Inhabited

namespace Fault

/-- The text shown for a fault. -/
def message : Fault → String
  | settings reason => "Configuration error: " ++ reason
  | invalidSettings reason => "Invalid configuration: " ++ reason
  | http reason => "HTTP error: " ++ reason
  | transport reason => "Transport error: " ++ reason
  | metrics reason => "Metrics error: " ++ reason
  | serialization reason => "Serialization error: " ++ reason
  | file reason => "I/O error: " ++ reason

/-- Whether the fault lies in the transport and not in the harness itself. -/
def isTransport : Fault → Bool
  | http _ | transport _ => true
  | _ => false

end Fault

/-- Why a set of counters is refused. -/
inductive CounterFault where
  | message (text : String)
  | alreadyRegistered
deriving DecidableEq

/-- The text shown for a refused set of counters. -/
def CounterFault.text : CounterFault → String
  | message text => "Error: " ++ text
  | alreadyRegistered => "Duplicate metrics collector registration attempted"

/-- Why a histogram with given bounds and precision is refused. -/
inductive HistogramFault where
  | lowIsZero
  | lowExceedsMaximum
  | highLessThanTwiceLow
  | precisionOutOfRange
  | precisionBeyondLow
  | tooLarge
deriving DecidableEq

/-- The text shown for a refused histogram. -/
def HistogramFault.text : HistogramFault → String
  | lowIsZero => "Lowest discernible value must be >= 1"
  | lowExceedsMaximum => "Lowest discernible value must be <= `u64::max_value() / 2`"
  | highLessThanTwiceLow => "Highest trackable value must be >= 2 * lowest discernible value"
  | precisionOutOfRange => "Number of significant digits must be in the range `[0, 5]`"
  | precisionBeyondLow =>
      "Cannot represent sigfig worth of values beyond the lowest discernible value"
  | tooLarge => "The `usize` type is too small to represent the desired histogram"

/-- A refused set of counters is a fault of the metrics. -/
def CounterFault.toFault (f : CounterFault) : Fault := .metrics f.text

/-- A refused histogram is a fault of the metrics. -/
def HistogramFault.toFault (f : HistogramFault) : Fault := .metrics f.text

end LoadProbe
