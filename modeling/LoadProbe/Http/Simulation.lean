import LoadProbe.Http.Client
import LoadProbe.Metrics.Aggregate

/-!
# Simulated load tests

A load test against a network that answers as a function of what it was asked, on a clock that
moves only while every user sleeps.
-/

namespace LoadProbe.Http

open LoadProbe.Metrics LoadProbe.Run LoadProbe.Settings

/-- How many steps of its users a simulated load test may take. -/
def simulationFuel : Nat := 1000000000

/-- The totals of a load test with the given settings, if it ends. -/
def simulate {σ : Type} (network : Network σ) (state : σ) (s : Settings) : Option Aggregate :=
  let service := (Client.ofTarget s.target).service network
  (Crowd.run (s.load 0) service simulationFuel (.start s.schedule.users state)).map
    (.ofCrowd s.schedule.users)

end LoadProbe.Http
