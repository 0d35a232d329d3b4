import LoadProbe.Run.Gate
import LoadProbe.Run.Iteration
import LoadProbe.Run.Service

/-!
# Many users on one clock

Virtual users share a service and a clock.  Each asks the gate before an iteration; an iteration
that has begun runs to its end.

* `Run.User.step` is one step of one user, whoever else there is.
* `Run.Crowd.step` lets the user who is due first take a step.  A user goes on without interruption
  until it sleeps; of users due at the same time the one that went to sleep first goes on first.
* `Run.Crowd.run` takes steps until every user has left.
-/

namespace LoadProbe.Run

open LoadProbe.Job

/-- What an iteration reports when it is over. -/
structure Report where
  user : Nat
  iteration : Nat
  outcome : Outcome
  entries : List Entry
deriving Inhabited

/-- What a user is about to do. -/
inductive Activity where
  /-- Ask the gate. -/
  | deciding
  /-- Go on with an iteration that has recorded the given entries, the latest first. -/
  | working (flow : Flow Outcome) (entries : List Entry)
  /-- Nothing: the gate refused. -/
  | stopped
  /-- Nothing: a call got no reply. -/
  | aborted

/-- A virtual user. -/
structure User where
  id : Nat
  completed : Nat
  activity : Activity

/-- Whether the user will do nothing more. -/
def User.hasLeft (u : User) : Bool :=
  match u.activity with
  | .stopped | .aborted => true
  | _ => false

/-- What all users of a run have in common. -/
structure Load where
  plan : Plan
  /-- The time between two iterations, unless the first was throttled. -/
  pause : Duration
  gate : Gate

/-- What one step of a user does: what the user will do next and how long it sleeps before, the
state of the service, and what it logs and reports. -/
structure Turn (σ : Type) where
  user : User
  sleep : Duration
  state : σ
  event : Option Event := none
  report : Option Report := none

/-- The user waits for what comes of a call. -/
def User.await {σ : Type} (u : User) (entries : List Entry) (rest : Answer → Flow Outcome)
    (exchange : Exchange × σ) : Turn σ where
  user := { u with
    activity := match exchange.1.reply with
      | some result => .working (rest ⟨result, exchange.1.delay⟩) entries
      | none => .aborted }
  sleep := exchange.1.delay
  state := exchange.2

/-- One step of a user at the time `now`. -/
def User.step {σ : Type} (load : Load) (service : Service σ) (now : Duration) (state : σ)
    (u : User) : Turn σ :=
  match u.activity with
  | .deciding =>
      if load.gate.mayStart now u.completed then
        { user := { u with activity := .working load.plan.iteration [] }, sleep := 0, state }
      else
        { user := { u with activity := .stopped }, sleep := 0, state,
          event := some (.userStopped u.id u.completed) }
  | .working flow entries =>
      match flow with
      | .done outcome =>
          { user := { u with completed := u.completed + 1, activity := .deciding }
            sleep := if outcome.pausesAfter then load.pause.asleep else 0
            state
            event := some (.iterationEnded u.id u.completed outcome)
            report := some ⟨u.id, u.completed, outcome, entries.reverse⟩ }
      | .note entry rest =>
          { user := { u with activity := .working rest (entry :: entries) }, sleep := 0, state,
            event := entry.event? }
      | .wait duration rest =>
          { user := { u with activity := .working rest entries }, sleep := duration.asleep, state }
      | .submit request rest => u.await entries rest (service.submit request state)
      | .fetch url rest => u.await entries rest (service.fetch url state)
  | .stopped | .aborted => { user := u, sleep := 0, state }

/-- A run: the users who have not left with the times at which they are due, in the order in which
they go on; those who have left; and what was reported and logged, the latest first. -/
structure Crowd (σ : Type) where
  clock : Duration
  state : σ
  due : List (Duration × User)
  gone : List User
  reports : List Report
  events : List Event

/-- Puts a user behind all who are due no later. -/
def enqueue (time : Duration) (u : User) : List (Duration × User) → List (Duration × User)
  | [] => [(time, u)]
  | (t, v) :: queue =>
      if t ≤ time then (t, v) :: enqueue time u queue else (time, u) :: (t, v) :: queue

/-- All users at the beginning of a run. -/
def Crowd.start {σ : Type} (users : Nat) (state : σ) : Crowd σ where
  clock := 0
  state := state
  due := (List.range users).map fun id => (0, ⟨id, 0, .deciding⟩)
  gone := []
  reports := []
  events := [.usersStarted users]

/-- The user who is due first takes a step; a user who has left leaves the queue when it is due.
Without users nothing happens. -/
def Crowd.step {σ : Type} (load : Load) (service : Service σ) (s : Crowd σ) : Crowd σ :=
  match s.due with
  | [] => s
  | (now, u) :: queue =>
      if u.hasLeft then { s with clock := now, due := queue, gone := u :: s.gone }
      else
        let turn := u.step load service now s.state
        { clock := now
          state := turn.state
          due := if turn.sleep = 0 then (now, turn.user) :: queue
            else enqueue (now + turn.sleep) turn.user queue
          gone := s.gone
          reports := turn.report.toList ++ s.reports
          events := turn.event.toList ++ s.events }

/-- Takes steps until all users have left; nothing if that takes more than `fuel` steps. -/
def Crowd.run {σ : Type} (load : Load) (service : Service σ) : Nat → Crowd σ → Option (Crowd σ)
  | 0, s => if s.due.isEmpty then some s else none
  | fuel + 1, s => if s.due.isEmpty then some s else run load service fuel (s.step load service)

/-- The users who were lost, in the order of their numbers. -/
def Crowd.lost {σ : Type} (s : Crowd σ) : List Nat :=
  ((s.gone.filter fun u => match u.activity with
    | .aborted => true
    | _ => false).map (·.id)).mergeSort

/-- All events of a run that is over, in order. -/
def Crowd.log {σ : Type} (s : Crowd σ) : List Event :=
  s.events.reverse ++ s.lost.map .userAborted ++ [.runComplete s.reports.length s.clock]

end LoadProbe.Run
