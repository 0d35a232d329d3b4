import LoadProbe.CommandLine.Program
import LoadProbe.Http.Simulation
import Std.Internal.UV.System
import Std.Time

/-!
# The command line

Performs the program with the arguments, the environment, the files and the clock of the machine.
The machine is taken to have no network: every request of a load test fails in the transport.
-/

namespace LoadProbe.CommandLine

/-- The present instant. -/
def presentInstant : IO Timestamp := do
  let now ← Std.Time.Timestamp.now
  return ⟨now.val.second.val, now.val.nano.val.toNat⟩

/-- The files that a path may mean, as far as there are any. -/
def readFiles (path : String) : IO Settings.Files :=
  (Settings.File.candidates path).filterMapM fun (candidate, _) => do
    try
      return some (candidate, ← IO.FS.readFile candidate)
    catch _ =>
      return none

/-- Tells why the program fails. -/
def failWith (reason : String) : IO UInt32 := do
  IO.eprintln ("Error: " ++ reason)
  return 1

/-- Performs a program and gives its code. -/
def Program.perform : Program → IO UInt32
  | exit code => return code.toUInt32
  | fail reason => failWith reason
  | print text next => do
      IO.print text
      next.perform
  | drive settings next => do
      let startedAt ← presentInstant
      match Http.simulate Http.disconnected () settings with
      | some m => (next m startedAt).perform
      | none => failWith "the load test does not end"
  | save path text reason next => do
      let isSaved ← try
          IO.FS.writeFile path text
          pure true
        catch _ =>
          pure false
      if isSaved then next.perform else failWith reason

end LoadProbe.CommandLine

open LoadProbe.CommandLine in
/-- Runs the program with the words behind its name. -/
def main (words : List String) : IO UInt32 := do
  let environment := (← Std.Internal.UV.System.osEnviron).toList
  let files ← match configPath? environment words with
    | some path => readFiles path
    | none => pure []
  (program files environment words).perform
