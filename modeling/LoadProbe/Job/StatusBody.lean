import LoadProbe.Job.Truth
import LoadProbe.Json.Record

/-!
# Bodies of status answers

Every field is optional and read on its own: a field of the wrong type is absent, and the others are
read all the same.  But a field must have a value at all.  A number out of range, half of a
surrogate pair or too deep a nesting anywhere in a field makes the whole body unreadable, whichever
type the field should have.

* `Job.StatusBody.parse?` reads a body.
* `Job.StatusBody.status`, `answer`, `sourceCount` and `jobError` are the values that polling and
  validation look at.
-/

namespace LoadProbe.Job

open LoadProbe.Json

/-- Where a job stands.  Whatever the service calls an error is among `other`. -/
inductive JobStatus where
  | queued
  | running
  | complete
  | other (text : String)
deriving DecidableEq, Inhabited

/-- The status that a text names. -/
def JobStatus.ofText (text : String) : JobStatus :=
  if text = "QUEUED" then .queued
  else if text = "RUNNING" then .running
  else if text = "COMPLETE" then .complete
  else .other text

/-- The text of a status. -/
def JobStatus.text : JobStatus → String
  | .queued => "QUEUED"
  | .running => "RUNNING"
  | .complete => "COMPLETE"
  | .other text => text

/-- The answer to a job and the sources it rests on.  Sources are only counted, so they may be
anything. -/
structure RagResponse where
  answer : Option String
  sources : Option (List Value)
deriving Inhabited

/-- The result of a job. -/
structure JobResult where
  status : Option JobStatus
  ragResponse : Option RagResponse
deriving Inhabited

/-- The body of a status answer. -/
structure StatusBody where
  chatId : Option String
  result : Option JobResult
  error : Option Value
deriving Inhabited

/-- Reads an answer with its sources. -/
def RagResponse.ofValue? (v : Value) : Option RagResponse :=
  (v.fields? ["answer", "sources"]).map fun field => {
    answer := (field "answer").bind Value.string?
    sources := (field "sources").bind Value.items? }

/-- Reads a result. -/
def JobResult.ofValue? (v : Value) : Option JobResult :=
  (v.fields? ["status", "rag_response"]).map fun field => {
    status := ((field "status").bind Value.string?).map JobStatus.ofText
    ragResponse := (field "rag_response").bind RagResponse.ofValue? }

namespace StatusBody

/-- The body with the given fields. -/
def ofFields (field : Fields) : StatusBody where
  chatId := (field "chat_id").bind Value.string?
  result := (field "result").bind JobResult.ofValue?
  error := field "error"

/-- Reads a body, if it is JSON and an object or a short array whose fields, each given once at
most, have values. -/
def parse? (text : String) : Option StatusBody :=
  ((read? text).bind (Written.fields? ["chat_id", "result", "error"])).map ofFields

/-- Where the job stands. -/
def status (body : StatusBody) : Option JobStatus := body.result.bind (·.status)

def isComplete (body : StatusBody) : Bool := body.status = some .complete

/-- The answer, if every link of the chain to it is there. -/
def answer (body : StatusBody) : Option String :=
  (body.result.bind (·.ragResponse)).bind (·.answer)

def sourceCount (body : StatusBody) : Nat :=
  (((body.result.bind (·.ragResponse)).bind (·.sources)).map List.length).getD 0

/-- The failure of the job: there is one if `error` is true. -/
def jobError (body : StatusBody) : Option JobError :=
  (body.error.filter Value.isTruthy).map fun v => { code := v.member? "code" }

end StatusBody

end LoadProbe.Job
