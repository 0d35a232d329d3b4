import LoadProbe.Http.Client
import LoadProbe.Proofs.Json.Printing

/-!
# Submitted bodies

The body of a submission is a JSON text whatever characters the request holds, and nothing of the
request is lost in it.

* `Job.Request.parse?_body` is what a body is read as, and `Job.Request.body_injective` says that it
  belongs to one request only.
* `Job.body_carries_request`: what is sent holds the message and the chat of the request and nothing
  else, and requests with the same body are the same.
-/

namespace LoadProbe.Job

open LoadProbe.Json

namespace Request

/-- A request holds no numbers, so nothing in it can be misread. -/
theorem isLegible_toJson (r : Request) : r.toJson.IsLegible := ⟨trivial, trivial, trivial⟩

theorem depth_toJson (r : Request) : r.toJson.depth = 1 := rfl

/-- Sorting puts the chat in front of the message. -/
theorem sorted_toJson (r : Request) :
    r.toJson.sorted = .object [("chat_id", .string r.chatId), ("message", .string r.message)] := by
  have horder : compare "chat_id" "message" = .lt := by decide
  simp [toJson, Value.sorted, sortedMembers, SortedMap.ofList, SortedMap.insert, SortedMap.alter,
    horder]

/-- The body is read as an object of the two texts. -/
theorem parse?_body (r : Request) :
    parse? r.body =
      some (.object [("chat_id", .string r.chatId), ("message", .string r.message)]) := by
  have hdepth : r.toJson.depth ≤ maxDepth := by
    rw [r.depth_toJson]
    decide
  rw [body, parse?_compact r.isLegible_toJson hdepth, r.sorted_toJson]

/-- The request can be told from its body. -/
theorem body_injective : Function.Injective body := by
  rintro ⟨message, chatId⟩ ⟨message', chatId'⟩ hbody
  have hread := congrArg parse? hbody
  rw [parse?_body, parse?_body] at hread
  simpa [and_comm] using hread

end Request

/-- Whatever characters a request holds, the body of its submission is a JSON text with two members,
the message and then the chat, and is read as an object of these two texts and nothing else.  Two
requests with one body are the same, so nothing of a request is lost. -/
theorem body_carries_request :
    (∀ r : Request,
      (∃ members, read? r.body = some (.object members) ∧
        valuesOfMembers? members =
          some [("message", .string r.message), ("chat_id", .string r.chatId)]) ∧
      parse? r.body =
        some (.object [("chat_id", .string r.chatId), ("message", .string r.message)]) ∧
      ∀ client : Http.Client, (client.submission r).body = r.body) ∧
    Function.Injective Request.body := by
  refine ⟨fun r => ⟨?_, r.parse?_body, fun _ => rfl⟩, Request.body_injective⟩
  -- As it is written, the text has its members in the order of the record.
  exact exists_members_compact r.isLegible_toJson

/-- A quote, a backslash and a control character have their escapes; a letter stays as it is. -/
example : Request.body ⟨"\"\\\n\x01é", ""⟩ =
    "\x7b\"message\":\"\\\"\\\\\\n\\u0001é\",\"chat_id\":\"\"\x7d" := by
  decide +kernel

end LoadProbe.Job
