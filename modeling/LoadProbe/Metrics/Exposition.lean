import LoadProbe.Binary64.Notation
import LoadProbe.Metrics.Aggregate

/-!
# Export of counters

The counters of a run in the text format for exposition: for each family with samples a line of
help, a line with the type, and one line for each counter, ordered by the values of the labels.
-/

namespace LoadProbe.Metrics

/-- How the value of a label shows one character. -/
def escapeLabelCharacter (c : Char) : String :=
  if c = '\\' then "\\\\"
  else if c = '\n' then "\\n"
  else if c = '"' then "\\\""
  else c.toString

/-- The value of a label, escaped. -/
def escapeLabel (text : String) : String := String.join (text.toList.map escapeLabelCharacter)

/-- A family of counters: what it is called, what it counts, the names of its labels. -/
structure Family where
  name : String
  help : String
  labels : List String

/-- The checks of a run. -/
def checkFamily : Family :=
  ⟨"chatload_checks_total", "Checks recorded, by label and result", ["check", "result"]⟩

/-- The requests of a run. -/
def requestFamily : Family :=
  ⟨"chatload_http_requests_total", "HTTP requests, by endpoint and status",
    ["endpoint", "status"]⟩

/-- The iterations of a run. -/
def iterationFamily : Family :=
  ⟨"chatload_iterations_total", "Iterations finished, by outcome", ["outcome"]⟩

/-- One label with its value. -/
def labelText (name value : String) : String := name ++ "=\"" ++ escapeLabel value ++ "\""

/-- The line of one counter. -/
def Family.line (f : Family) (values : List String) (count : Nat) : String :=
  f.name ++ "\x7b" ++ ",".intercalate (f.labels.zipWith labelText values) ++ "\x7d "
    ++ Binary64.plain.spell (Binary64.ofNat count) ++ "\n"

/-- The text of a family; a family without samples has none. -/
def Family.text (f : Family) (counters : Counters) : String :=
  if counters.isEmpty then ""
  else
    "# HELP " ++ f.name ++ " " ++ f.help ++ "\n# TYPE " ++ f.name ++ " counter\n"
      ++ String.join (counters.map fun (values, count) => f.line values count)

/-- The text of all counters, the families in the order of their names. -/
def Aggregate.exposition (m : Aggregate) : String :=
  checkFamily.text m.checkCounters ++ requestFamily.text m.requestCounters
    ++ iterationFamily.text m.iterationCounters

end LoadProbe.Metrics
