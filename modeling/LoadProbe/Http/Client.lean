import LoadProbe.Run.Service
import LoadProbe.Settings.Basic
import LoadProbe.Url.Join

/-!
# The job service over HTTP

Which HTTP requests submit a job and poll its status, and what a user sees of their answers.

* `Http.Client.submission` and `Http.Client.poll` are the requests.
* `Http.Client.service` is the job service behind a network; `Http.disconnected` is the network
  that reaches nobody.
-/

namespace LoadProbe.Http

open LoadProbe.Run

/-- An HTTP request. -/
structure Request where
  method : String
  url : String
  headers : List (String × String)
  body : String
deriving DecidableEq, Inhabited

/-- What all requests to one service have in common. -/
structure Client where
  baseUrl : String
  authToken : Option String
deriving DecidableEq, Inhabited

namespace Client

/-- The client for a target; slashes at the end of its URL do not count. -/
def ofTarget (t : Settings.Target) : Client := ⟨Url.trimBase t.baseUrl, t.authToken⟩

/-- Where jobs are submitted. -/
def chatUrl (c : Client) : String := Url.chatUrl c.baseUrl

/-- The headers of every request: the type of bodies, and the token if there is one. -/
def headers (c : Client) : List (String × String) :=
  ("content-type", "application/json")
    :: (c.authToken.map fun token => ("authorization", "Bearer " ++ token)).toList

/-- The request that submits a job. -/
def submission (c : Client) (r : Job.Request) : Request := ⟨"POST", c.chatUrl, c.headers, r.body⟩

/-- The request that polls the status of a job. -/
def poll (c : Client) (url : String) : Request := ⟨"GET", Url.join c.baseUrl url, c.headers, ""⟩

end Client

/-- What comes of requests, in a network with states in `σ`. -/
abbrev Network (σ : Type) : Type := Request → σ → Exchange × σ

/-- The job service behind a network. -/
def Client.service {σ : Type} (c : Client) (network : Network σ) : Service σ where
  submit request state := network (c.submission request) state
  fetch url state := network (c.poll url) state

/-- The network that reaches nobody: every request fails at once. -/
def disconnected : Network Unit := fun _ state =>
  (⟨0, some (.error (.http "no connection"))⟩, state)

end LoadProbe.Http
