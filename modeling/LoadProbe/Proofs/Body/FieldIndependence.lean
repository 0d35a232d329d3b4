import LoadProbe.Proofs.Body.StatusLookup
import LoadProbe.Proofs.Json.Members
import LoadProbe.Proofs.Json.Soundness

/-!
# Fields of a status body on their own

A status body is read field by field, so a field of the wrong type is no matter to the others.  But
the value of a field has to mean something at all: a number beyond all floating-point numbers, half
of a surrogate pair or too deep a nesting in one of the fields spoils the body, and so does a key
that is no text.

* `Job.parse?_of_isText` reads the body from the members of an object.
* `Job.AgreeBut` says that two bodies agree in all fields but one.
* `Job.statusBody_fieldsApart`: when an object is read as a body, and what an edit of one field does
  to the others.
-/

namespace LoadProbe.Job

open LoadProbe.Json

variable {members members' : List (List Piece × Written)} {text text' : String}

/-- A text that spells an object is read by its members. -/
theorem parse?_of_isText (h : IsText (.object members) text) :
    StatusBody.parse? text =
      ((Written.object members).fields? bodyFields).map StatusBody.ofFields := by
  rw [StatusBody.parse?, read?_of_isText h, Option.bind_some]
  rfl

/-- The bodies agree in every field but the one with the given name. -/
structure AgreeBut (name : String) (body body' : StatusBody) : Prop where
  chatId_eq : name ≠ "chat_id" → body'.chatId = body.chatId
  result_eq : name ≠ "result" → body'.result = body.result
  error_eq : name ≠ "error" → body'.error = body.error

/-- Records that agree in every field but one make such bodies. -/
theorem agreeBut_ofFields {name : String} {fields fields' : Fields}
    (h : ∀ other ∈ bodyFields, name ≠ other → fields' other = fields other) :
    AgreeBut name (.ofFields fields) (.ofFields fields') where
  chatId_eq hname := by
    rw [StatusBody.ofFields, h "chat_id" (by decide) hname]
    rfl
  result_eq hname := by
    rw [StatusBody.ofFields, h "result" (by decide) hname]
    rfl
  error_eq hname := h "error" (by decide) hname

/-- An object with different keys is read as a body if and only if all its keys are texts and its
fields, as far as they are there, mean something.  If it is read, then it is still read when one of
its fields is removed or is given any other value that means something, and then the two other
fields are as before. -/
theorem statusBody_fieldsApart (htext : IsText (.object members) text)
    (hdistinct : (Written.object members).keys.Nodup) :
    ((StatusBody.parse? text).isSome = true ↔ ReadsFields bodyFields members) ∧
      ∀ body, StatusBody.parse? text = some body → ∀ name members' text',
        EditOf name members members' → IsText (.object members') text' →
        ∃ body', StatusBody.parse? text' = some body' ∧ AgreeBut name body body' := by
  have hreads : (StatusBody.parse? text).isSome = true ↔ ReadsFields bodyFields members := by
    rw [parse?_of_isText htext, Option.isSome_map]
    exact fields?_object_isSome_iff hdistinct
  refine ⟨hreads, fun body hbody name members' text' hedit htext' => ?_⟩
  -- The edited object has no new keys, and its fields mean something as well.
  have hdistinct' : (Written.object members').keys.Nodup := hedit.keys_sublist.nodup hdistinct
  have hreads' := hedit.readsFields (hreads.mp (Option.isSome_of_eq_some hbody))
  rw [parse?_of_isText htext] at hbody
  obtain ⟨fields, hfields, rfl⟩ := Option.map_eq_some_iff.mp hbody
  obtain ⟨fields', hfields'⟩ :=
    Option.isSome_iff_exists.mp ((fields?_object_isSome_iff hdistinct').mpr hreads')
  refine ⟨.ofFields fields', by rw [parse?_of_isText htext', hfields', Option.map_some],
    agreeBut_ofFields fun other hother hne => ?_⟩
  rw [eq_of_fields?_object hdistinct' hfields' hother, hedit.member?_eq hne,
    ← eq_of_fields?_object hdistinct hfields hother]

/-- The members of a body with two fields, the second with the given value. -/
def chattyMembers (error : Written) : List (List Piece × Written) :=
  [("chat_id".toList.map .char, .string ("c7".toList.map .char)), ("error".toList.map .char, error)]

theorem statusBody_fieldsApart_chatty :
    ∃ body', StatusBody.parse? "\x7b\"chat_id\":\"c7\",\"error\":[null]\x7d" = some body' ∧
      body'.chatId = some "c7" := by
  have hread : read? "\x7b\"chat_id\":\"c7\",\"error\":false\x7d" =
      some (.object (chattyMembers (.bool false))) := by cbv
  have hread' : read? "\x7b\"chat_id\":\"c7\",\"error\":[null]\x7d" =
      some (.object (chattyMembers (.array [.null]))) := by cbv
  have hdistinct : (Written.object (chattyMembers (.bool false))).keys.Nodup := by decide
  have hbody : (StatusBody.parse? "\x7b\"chat_id\":\"c7\",\"error\":false\x7d").map (·.chatId) =
      some (some "c7") := by decide +kernel
  have hnew : (Written.array [.null]).Means 1 := ⟨by decide, by simp [Written.parts, partsOfItems]⟩
  have hedit : EditOf "error" (chattyMembers (.bool false)) (chattyMembers (.array [.null])) :=
    .replaced [_] ("error".toList.map .char) _ _ [] (by decide) hnew
  obtain ⟨body, hparse, hchatId⟩ := Option.map_eq_some_iff.mp hbody
  obtain ⟨body', hparse', hagree⟩ :=
    (statusBody_fieldsApart (read?_eq_some_iff.mp hread) hdistinct).2 body hparse "error" _ _ hedit
      (read?_eq_some_iff.mp hread')
  exact ⟨body', hparse', (hagree.chatId_eq (by decide)).trans hchatId⟩

/-- The body of a job that is complete, with a number in it that is too large. -/
def spoiledBody : String :=
  "\x7b\"chat_id\":1e999,\"result\":\x7b\"status\":\"COMPLETE\"\x7d\x7d"

/-- A well-formed object with different keys need not be read as a body. -/
theorem statusBody_spoiled : ∃ members, IsText (.object members) spoiledBody ∧
    (Written.object members).keys.Nodup ∧ StatusBody.parse? spoiledBody = none := by
  have hread : read? spoiledBody = some (.object [
      ("chat_id".toList.map .char, .number ⟨false, ['1'], [], some 999⟩),
      ("result".toList.map .char, .object [
        ("status".toList.map .char, .string ("COMPLETE".toList.map .char))])]) := by cbv
  have hbody : (StatusBody.parse? spoiledBody).isSome = false := by decide +kernel
  rw [Option.isSome_eq_false_iff, Option.isNone_iff_eq_none] at hbody
  exact ⟨_, read?_eq_some_iff.mp hread, by decide, hbody⟩

end LoadProbe.Job
