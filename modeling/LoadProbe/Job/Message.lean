import LoadProbe.Json.Printer

/-!
# Messages of the job service

The body of a submission, and the status and body of an answer before anything is read into them.
-/

namespace LoadProbe.Job

/-- What is submitted with every job. -/
structure Request where
  message : String
  chatId : String
deriving DecidableEq, Inhabited

/-- The body of a submission as a JSON value. -/
def Request.toJson (r : Request) : Json.Value :=
  .object [("message", .string r.message), ("chat_id", .string r.chatId)]

/-- The body of a submission. -/
def Request.body (r : Request) : String := r.toJson.compact

/-- An HTTP answer: its status and its body. -/
structure Response where
  status : Nat
  body : String
deriving DecidableEq, Inhabited

/-- The status of a successful poll. -/
def statusOk : Nat := 200

/-- The status of a submission that was accepted. -/
def statusAccepted : Nat := 202

/-- The status of a service that sheds load. -/
def statusTooManyRequests : Nat := 429

end LoadProbe.Job
