import LoadProbe.Job.Event

/-!
# What an iteration records

An iteration records checks, request samples and events, in the order in which they happen.  A
check never changes what happens next; it only says what was seen.

* `Job.Label` names the checks.
* `Job.Entry` is one record; `Job.checksOf`, `Job.samplesOf` and `Job.eventsOf` pick out one kind.
* `Job.Noted` is a value together with what was recorded on the way to it.
-/

namespace LoadProbe.Job

namespace Label

def rateLimitHit : String := "rate limit hit"

def jobAccepted : String := "job accepted"

def hasJobId : String := "has job_id"

def hasStatusUrl : String := "has status url"

def statusRateLimit : String := "status - rate limit"

def statusFetchOk : String := "status fetch 200"

def statusBodyParsed : String := "status body parsed"

def hasChatId : String := "has chat_id returned"

def hasAnswerText : String := "has answer text"

def hasError : String := "has error"

end Label

/-- A labelled observation. -/
structure Check where
  label : String
  passed : Bool
deriving DecidableEq, Inhabited

/-- One HTTP exchange: where it went, what status came back, if any, and how long it took. -/
structure Sample where
  endpoint : Endpoint
  status : Option Nat
  latency : Duration
deriving DecidableEq, Inhabited

/-- One record. -/
inductive Entry where
  | check (c : Check)
  | sample (s : Sample)
  | event (e : Event)
deriving DecidableEq, Inhabited

namespace Entry

def check? : Entry → Option Check
  | check c => some c
  | _ => none

def sample? : Entry → Option Sample
  | sample s => some s
  | _ => none

def event? : Entry → Option Event
  | event e => some e
  | _ => none

end Entry

/-- The checks among the entries. -/
def checksOf (entries : List Entry) : List Check := entries.filterMap Entry.check?

/-- The request samples among the entries. -/
def samplesOf (entries : List Entry) : List Sample := entries.filterMap Entry.sample?

/-- The events among the entries. -/
def eventsOf (entries : List Entry) : List Event := entries.filterMap Entry.event?

@[simp] theorem checksOf_nil : checksOf [] = [] := rfl

@[simp] theorem checksOf_check (c : Check) (entries : List Entry) :
    checksOf (.check c :: entries) = c :: checksOf entries := rfl

@[simp] theorem checksOf_sample (s : Sample) (entries : List Entry) :
    checksOf (.sample s :: entries) = checksOf entries := rfl

@[simp] theorem checksOf_event (e : Event) (entries : List Entry) :
    checksOf (.event e :: entries) = checksOf entries := rfl

@[simp] theorem checksOf_append (first second : List Entry) :
    checksOf (first ++ second) = checksOf first ++ checksOf second := by
  simp [checksOf]

@[simp] theorem samplesOf_nil : samplesOf [] = [] := rfl

@[simp] theorem samplesOf_check (c : Check) (entries : List Entry) :
    samplesOf (.check c :: entries) = samplesOf entries := rfl

@[simp] theorem samplesOf_sample (s : Sample) (entries : List Entry) :
    samplesOf (.sample s :: entries) = s :: samplesOf entries := rfl

@[simp] theorem samplesOf_event (e : Event) (entries : List Entry) :
    samplesOf (.event e :: entries) = samplesOf entries := rfl

@[simp] theorem samplesOf_append (first second : List Entry) :
    samplesOf (first ++ second) = samplesOf first ++ samplesOf second := by
  simp [samplesOf]

/-- The results recorded under a label. -/
def resultsOf (label : String) (checks : List Check) : List Bool :=
  (checks.filter (·.label = label)).map (·.passed)

/-- Whether every check passed. -/
def allPassed (checks : List Check) : Bool := checks.all (·.passed)

/-- The number of requests that went to an endpoint. -/
def requestsTo (endpoint : Endpoint) (samples : List Sample) : Nat :=
  (samples.filter (·.endpoint = endpoint)).length

/-- A value, and what was recorded on the way to it. -/
structure Noted (α : Type) where
  entries : List Entry
  value : α
deriving Inhabited

end LoadProbe.Job
