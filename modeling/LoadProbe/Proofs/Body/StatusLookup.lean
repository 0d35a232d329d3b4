import LoadProbe.Job.StatusBody
import LoadProbe.Proofs.Json.Lookup

/-!
# Status bodies by lookup

What polling and validation get to see of a status body is read by three nested readers, the
outermost of which never builds the value of the body.  Each of these values is a lookup along a
path in the meaning of the text.

* `Job.at?` follows a path; `Job.statusPath`, `Job.answerPath` and so on are the paths.
* `Job.LooksUp` says of a body that all its values are such lookups.
* `Job.statusBody_looksUp`: a text that means something is read if and only if its meaning is an
  object or an array of at most three items, and the body looks up its values in it.
-/

namespace LoadProbe.Job

open LoadProbe.Json

/-- One step into a record: the fields of the record in their order, and one of them. -/
abbrev Field : Type := List String × String

/-- What stands at the end of a path. -/
def at? : List Field → Value → Option Value
  | [], v => some v
  | field :: path, v => (v.field? field.1 field.2).bind (at? path)

def bodyFields : List String := ["chat_id", "result", "error"]

def resultFields : List String := ["status", "rag_response"]

def responseFields : List String := ["answer", "sources"]

def chatIdPath : List Field := [(bodyFields, "chat_id")]

def errorPath : List Field := [(bodyFields, "error")]

def statusPath : List Field := [(bodyFields, "result"), (resultFields, "status")]

def answerPath : List Field :=
  [(bodyFields, "result"), (resultFields, "rag_response"), (responseFields, "answer")]

def sourcesPath : List Field :=
  [(bodyFields, "result"), (resultFields, "rag_response"), (responseFields, "sources")]

/-- Every value of the body is found at the end of its path, if it has the type of that value. -/
structure LooksUp (v : Value) (body : StatusBody) : Prop where
  chatId_eq : body.chatId = (at? chatIdPath v).bind Value.string?
  status_eq : body.status.map JobStatus.text = (at? statusPath v).bind Value.string?
  isComplete_iff :
    body.isComplete = true ↔ (at? statusPath v).bind Value.string? = some "COMPLETE"
  answer_eq : body.answer = (at? answerPath v).bind Value.string?
  sourceCount_eq :
    body.sourceCount = (((at? sourcesPath v).bind Value.items?).map List.length).getD 0
  jobError_eq :
    body.jobError = ((at? errorPath v).filter Value.isTruthy).map fun e => ⟨e.member? "code"⟩

/-- A status keeps its text. -/
@[simp] theorem text_ofText (text : String) : (JobStatus.ofText text).text = text := by
  unfold JobStatus.ofText
  split
  case isTrue h => exact h.symm
  split
  case isTrue h => exact h.symm
  split
  case isTrue h => exact h.symm
  rfl

@[simp] theorem ofText_eq_complete_iff {text : String} :
    JobStatus.ofText text = .complete ↔ text = "COMPLETE" := by
  constructor
  · intro h
    rw [← text_ofText text, h]
    rfl
  · rintro rfl
    rfl

/-! ## The nested readers -/

theorem answer_ofValue? (v : Value) :
    (RagResponse.ofValue? v).bind (·.answer) =
      (v.field? responseFields "answer").bind Value.string? := by
  rw [← fields?_bind_eq_field? (by decide), RagResponse.ofValue?, responseFields]
  cases v.fields? ["answer", "sources"] with
  | none => rfl
  | some fields => rfl

theorem sources_ofValue? (v : Value) :
    (RagResponse.ofValue? v).bind (·.sources) =
      (v.field? responseFields "sources").bind Value.items? := by
  rw [← fields?_bind_eq_field? (by decide), RagResponse.ofValue?, responseFields]
  cases v.fields? ["answer", "sources"] with
  | none => rfl
  | some fields => rfl

theorem status_ofValue? (v : Value) :
    (JobResult.ofValue? v).bind (·.status) =
      ((v.field? resultFields "status").bind Value.string?).map JobStatus.ofText := by
  rw [← fields?_bind_eq_field? (by decide), JobResult.ofValue?, resultFields]
  cases v.fields? ["status", "rag_response"] with
  | none => rfl
  | some fields => rfl

theorem ragResponse_ofValue? (v : Value) :
    (JobResult.ofValue? v).bind (·.ragResponse) =
      (v.field? resultFields "rag_response").bind RagResponse.ofValue? := by
  rw [← fields?_bind_eq_field? (by decide), JobResult.ofValue?, resultFields]
  cases v.fields? ["status", "rag_response"] with
  | none => rfl
  | some fields => rfl

/-! ## The body -/

/-- A body whose fields are looked up in a value looks up everything in it. -/
theorem looksUp_ofFields {v : Value} {fields : Fields}
    (hfields : ∀ name ∈ bodyFields, fields name = v.field? bodyFields name) :
    LooksUp v (.ofFields fields) := by
  have hchatId : fields "chat_id" = v.field? bodyFields "chat_id" := hfields _ (by decide)
  have hresult : fields "result" = v.field? bodyFields "result" := hfields _ (by decide)
  have herror : fields "error" = v.field? bodyFields "error" := hfields _ (by decide)
  have hstatus : (StatusBody.ofFields fields).status =
      ((at? statusPath v).bind Value.string?).map JobStatus.ofText := by
    simp only [StatusBody.status, StatusBody.ofFields, hresult, Option.bind_assoc, status_ofValue?]
    simp [at?, statusPath, Option.bind_assoc]
  have hresponse : (StatusBody.ofFields fields).result.bind (·.ragResponse) =
      ((v.field? bodyFields "result").bind (·.field? resultFields "rag_response")).bind
        RagResponse.ofValue? := by
    simp only [StatusBody.ofFields, hresult, Option.bind_assoc, ragResponse_ofValue?]
  refine ⟨?_, ?_, ?_, ?_, ?_, ?_⟩
  · simp [StatusBody.ofFields, at?, chatIdPath, hchatId]
  · simp [hstatus, Function.comp_def]
  · rw [StatusBody.isComplete, hstatus]
    cases (at? statusPath v).bind Value.string? with
    | none => simp
    | some text => simp
  · simp only [StatusBody.answer, hresponse, Option.bind_assoc, answer_ofValue?]
    simp [at?, answerPath, Option.bind_assoc]
  · have hsources : ((StatusBody.ofFields fields).result.bind (·.ragResponse)).bind (·.sources) =
        (at? sourcesPath v).bind Value.items? := by
      simp only [hresponse, Option.bind_assoc, sources_ofValue?]
      simp [at?, sourcesPath, Option.bind_assoc]
    rw [StatusBody.sourceCount, hsources]
  · simp [StatusBody.jobError, StatusBody.ofFields, at?, errorPath, herror]

/-- A text that means something and repeats no field of a status body is read as a body if and only
if its meaning is an object or an array of at most three items; the body looks up its values in that
meaning. -/
theorem statusBody_looksUp (text : String) (v : Value) (hvalue : Json.parse? text = some v)
    (honce : ∀ document, read? text = some document →
      ∀ name ∈ bodyFields, document.keys.count name ≤ 1) :
    ((StatusBody.parse? text).isSome = true ↔ v.IsRecord 3) ∧
      ∀ body, StatusBody.parse? text = some body → LooksUp v body := by
  obtain ⟨document, hread, hmeaning⟩ := Option.bind_eq_some_iff.mp hvalue
  have hparse : StatusBody.parse? text =
      (document.fields? bodyFields).map StatusBody.ofFields := by
    rw [StatusBody.parse?, hread]
    rfl
  have hlength : bodyFields.length = 3 := rfl
  rw [hparse, ← hlength]
  rcases fields?_of_value? hmeaning (honce document hread) with
    ⟨hlong, hnone⟩ | ⟨hrecord, fields, hfields, hlookup⟩
  · rw [hnone]
    exact ⟨by simpa using hlong, by simp⟩
  · rw [hfields]
    refine ⟨by simpa using hrecord, ?_⟩
    rintro _ ⟨⟩
    exact looksUp_ofFields hlookup

/-- A body that is an object whose result is an array, with a member that nobody asks for. -/
def mixedBody : String :=
  "\x7b\"chat_id\":7,\"result\":[\"COMPLETE\",\x7b\"answer\":\"hi\"\x7d],\"took\":1\x7d"

theorem statusBody_looksUp_mixed :
    ∃ v, Json.parse? mixedBody = some v ∧
      (∀ document, read? mixedBody = some document →
        ∀ name ∈ bodyFields, document.keys.count name ≤ 1) ∧
      ∃ body, StatusBody.parse? mixedBody = some body ∧ LooksUp v body ∧
        body.chatId = none ∧ body.answer = some "hi" := by
  have hmeaning : (Json.parse? mixedBody).isSome = true := by decide +kernel
  have hkeys : (read? mixedBody).all (fun document =>
      bodyFields.all fun name => document.keys.count name ≤ 1) = true := by decide +kernel
  have hbody : (StatusBody.parse? mixedBody).map (fun body => (body.chatId, body.answer)) =
      some (none, some "hi") := by decide +kernel
  have honce : ∀ document, read? mixedBody = some document →
      ∀ name ∈ bodyFields, document.keys.count name ≤ 1 := by
    intro document hread
    simpa [hread] using hkeys
  obtain ⟨v, hvalue⟩ := Option.isSome_iff_exists.mp hmeaning
  obtain ⟨body, hparse, hvalues⟩ := Option.map_eq_some_iff.mp hbody
  obtain ⟨hchatId, hanswer⟩ := Prod.mk.inj hvalues
  obtain ⟨-, hlooksUp⟩ := statusBody_looksUp mixedBody v hvalue honce
  exact ⟨v, hvalue, honce, body, hparse, hlooksUp body hparse, hchatId, hanswer⟩

end LoadProbe.Job
