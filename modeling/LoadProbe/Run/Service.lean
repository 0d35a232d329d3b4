import LoadProbe.Run.Flow

/-!
# Services

The job service as a user meets it: each call takes some time, brings an answer or a fault, and may
change what later calls bring.

* `Run.Service` is any such service.
* `Run.Script` is a list of canned answers; `Run.scripted` is the service that reads from two of
  them and remembers its calls.
* `Run.Flow.perform` performs a flow on a service that nobody else uses.
-/

namespace LoadProbe.Run

open LoadProbe.Job

/-- What comes of one call.  Without a reply the caller is lost when the time has passed. -/
structure Exchange where
  delay : Duration
  reply : Option (Except Fault Response)
deriving Inhabited

/-- A service with states in `σ`. -/
structure Service (σ : Type) where
  submit : Request → σ → Exchange × σ
  fetch : String → σ → Exchange × σ

/-- Canned answers: a queue, and the answer to every call after it. -/
structure Script where
  queue : List Exchange
  fallback : Option Exchange
deriving Inhabited

/-- What comes of a call for which there is no answer left. -/
def Exchange.missing : Exchange := ⟨0, some (.error (.transport "no scripted response left"))⟩

/-- The call takes as long as a sleep of the length of its delay. -/
def Exchange.slept (x : Exchange) : Exchange := { x with delay := x.delay.asleep }

/-- Takes the next answer.  The service sleeps before it gives it. -/
def Script.next (s : Script) : Exchange × Script :=
  match s.queue with
  | x :: queue => (x.slept, { s with queue })
  | [] => ((s.fallback.getD .missing).slept, s)

/-- The state of a scripted service: the answers to come and the calls so far, the latest first. -/
structure Scripts where
  submits : Script
  statuses : Script
  submitted : List Request := []
  polled : List String := []
deriving Inhabited

/-- The service that gives canned answers. -/
def scripted : Service Scripts where
  submit request s :=
    let (x, submits) := s.submits.next
    (x, { s with submits, submitted := request :: s.submitted })
  fetch url s :=
    let (x, statuses) := s.statuses.next
    (x, { s with statuses, polled := url :: s.polled })

/-- A service, a clock, and what was recorded, the latest first. -/
structure World (σ : Type) where
  state : σ
  clock : Duration := 0
  entries : List Entry := []

/-- Performs a flow.  There is no result if a call got no reply. -/
def Flow.perform {σ α : Type} (service : Service σ) : Flow α → World σ → Option α × World σ
  | .done result, w => (some result, w)
  | .note entry rest, w => rest.perform service { w with entries := entry :: w.entries }
  | .wait duration rest, w => rest.perform service { w with clock := w.clock + duration.asleep }
  | .submit request rest, w =>
      let (x, state) := service.submit request w.state
      let w := { w with state, clock := w.clock + x.delay }
      match x.reply with
      | some result => (rest ⟨result, x.delay⟩).perform service w
      | none => (none, w)
  | .fetch url rest, w =>
      let (x, state) := service.fetch url w.state
      let w := { w with state, clock := w.clock + x.delay }
      match x.reply with
      | some result => (rest ⟨result, x.delay⟩).perform service w
      | none => (none, w)

end LoadProbe.Run
