import LoadProbe.CommandLine.Arguments
import LoadProbe.CommandLine.Help
import LoadProbe.Metrics.Exposition
import LoadProbe.Metrics.Report
import LoadProbe.Run.Service
import LoadProbe.Settings.Check
import LoadProbe.Settings.Show
import LoadProbe.Settings.Sources

/-!
# The program

What the program does, as a value: it prints, runs a load test, saves files and ends.  Whoever
performs it decides how a test is run and which files can be written.

* `CommandLine.program` is what the program does with given arguments, variables and files.
* `CommandLine.Program.transcript` is what comes of it where nothing has to be waited for.
-/

namespace LoadProbe.CommandLine

open LoadProbe.Metrics LoadProbe.Run LoadProbe.Settings

/-- A sequence of actions. -/
inductive Program where
  /-- Ends with a code. -/
  | exit (code : Nat)
  /-- Ends with code 1 and tells the reason. -/
  | fail (reason : String)
  | print (text : String) (next : Program)
  /-- Runs a load test; what follows gets the totals and the instant at which it started. -/
  | drive (settings : Settings) (next : Aggregate → Timestamp → Program)
  /-- Writes a file; if that cannot be done the program fails for the given reason. -/
  | save (path text reason : String) (next : Program)

/-- The code with which a program ends whose words cannot be understood. -/
def misuseCode : Nat := 2

/-- Saves a text if there is a path for it. -/
def saveAt (path? : Option String) (what text : String) (next : Program) : Program :=
  match path? with
  | some path => .save path text ("writing " ++ what ++ " to " ++ path) next
  | none => next

/-- What follows a load test: reports, files, and a code that tells whether all thresholds were
kept. -/
def afterRun (a : Arguments) (thresholds : Thresholds) (m : Aggregate) (startedAt : Timestamp) :
    Program :=
  let summary := m.summary startedAt
  let checks := summary.evaluate thresholds
  .print (summary.report ++ thresholdReport checks)
    (saveAt a.output "summary" summary.json
      (saveAt a.metricsOutput "metrics" m.exposition
        (.exit (if allKept checks then 0 else 1))))

/-- What the program does with sound settings. -/
def withSettings (a : Arguments) (s : Settings) : Program :=
  match a.command with
  | .run => .drive s (afterRun a s.thresholds)
  | .showConfig =>
      match s.show? with
      | some text => .print text (.exit 0)
      | none => .fail "out-of-range value for u64 type"

/-- What the program does with its arguments. -/
def withArguments (files : Files) (environment : List (String × String)) (a : Arguments) :
    Program :=
  match Settings.ofSources files a.config environment with
  | .error _ => .fail "loading configuration"
  | .ok s =>
      let s := s.override a.overrides
      match s.check with
      | .error fault => .fail fault.message
      | .ok () => withSettings a s

/-- What the program does. -/
def program (files : Files) (environment : List (String × String)) (words : List String) :
    Program :=
  match read environment words with
  | .error (.help topic) => .print (helpText environment topic) (.exit 0)
  | .error .version => .print versionText (.exit 0)
  | .error .misuse => .exit misuseCode
  | .ok a => withArguments files environment a

/-- The path of the file of settings that the arguments name, if they name one. -/
def configPath? (environment : List (String × String)) (words : List String) : Option String :=
  match read environment words with
  | .ok a => a.config
  | .error _ => none

/-- What comes of a program. -/
structure Transcript where
  output : String := ""
  /-- The files that were written, the latest first. -/
  files : Files := []
  code : Nat := 0
  reason : Option String := none
deriving Inhabited

/-- Where a program is performed. -/
structure Surroundings where
  /-- Whether a file can be written.  If nothing else is said the program is performed in a
  directory with no others in it, and can write nothing outside of it. -/
  writable : String → Bool := File.isLocal
  /-- How a load test ends, if it does. -/
  drive : Settings → Option Aggregate
  startedAt : Timestamp

/-- What comes of a program after what has come of it already; nothing if a load test in it does
not end. -/
def Program.transcript (here : Surroundings) : Program → Transcript → Option Transcript
  | exit code, t => some { t with code }
  | fail reason, t => some { t with code := 1, reason := some reason }
  | print text next, t => next.transcript here { t with output := t.output ++ text }
  | drive settings next, t =>
      (here.drive settings).bind fun m => (next m here.startedAt).transcript here t
  | save path text reason next, t =>
      if here.writable path then next.transcript here { t with files := (path, text) :: t.files }
      else some { t with code := 1, reason := some reason }

end LoadProbe.CommandLine
