import LoadProbe.Duration

/-!
# Gates

A gate decides whether a virtual user may start another iteration.
-/

namespace LoadProbe.Run

/-- Admits iterations before a deadline and up to a number of them for each user. -/
structure Gate where
  deadline : Option Duration
  cap : Option Nat
deriving DecidableEq, Inhabited

namespace Gate

/-- The gate of a run that starts at `start` and lasts `window`; a window of no length is no
deadline. -/
def ofWindow (start window : Duration) (cap : Option Nat) : Gate where
  deadline := if 0 < window then some (start + window) else none
  cap := cap

/-- Whether a user who finished `completed` iterations may start another one at `now`. -/
def mayStart (gate : Gate) (now : Duration) (completed : Nat) : Bool :=
  gate.deadline.all (fun deadline => now < deadline) && gate.cap.all (fun cap => completed < cap)

end Gate

end LoadProbe.Run
