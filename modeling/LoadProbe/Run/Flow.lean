import LoadProbe.Job.Entry
import LoadProbe.Job.Message

/-!
# Flows

What a virtual user does, as a value: a tree that branches over the answers to its calls.  Whoever
performs a flow decides what a call brings and how time passes, so one flow serves a single user
on a quiet service as well as many users that share one.
-/

namespace LoadProbe.Run

open LoadProbe.Job

/-- What a call brought, and how long it took. -/
structure Answer where
  result : Except Fault Response
  latency : Duration

/-- A sequence of actions that ends in a result. -/
inductive Flow (α : Type) where
  | done (result : α)
  | note (entry : Entry) (rest : Flow α)
  | wait (duration : Duration) (rest : Flow α)
  | submit (request : Request) (rest : Answer → Flow α)
  | fetch (url : String) (rest : Answer → Flow α)

namespace Flow

variable {α β : Type}

/-- Goes on with `f` where the flow ends. -/
def bind (f : α → Flow β) : Flow α → Flow β
  | done result => f result
  | note entry rest => note entry (rest.bind f)
  | wait duration rest => wait duration (rest.bind f)
  | submit request rest => submit request fun answer => (rest answer).bind f
  | fetch url rest => fetch url fun answer => (rest answer).bind f

/-- Records all entries and goes on. -/
def noteAll (entries : List Entry) (rest : Flow α) : Flow α :=
  entries.foldr note rest

end Flow

end LoadProbe.Run
