import LoadProbe.Job.Entry
import LoadProbe.Job.StatusBody

/-!
# Validation of completed jobs

A completed job should name its chat; one without an error should have an answer, one with an
error should say which.
-/

namespace LoadProbe.Job

/-- The first `count` characters of a text. -/
def preview (count : Nat) (text : String) : String :=
  String.ofList (text.toList.take count)

/-- How many characters of an answer are shown. -/
def shownCharacters : Nat := 20

/-- What is recorded about the body of a completed job. -/
def validate (jobId : String) (body : StatusBody) : List Entry :=
  .check ⟨Label.hasChatId, body.chatId.any (· ≠ "")⟩ ::
    match body.jobError with
    | none =>
        let answer := body.answer.getD ""
        [.check ⟨Label.hasAnswerText, answer ≠ ""⟩,
          .event (.finished jobId (preview shownCharacters answer) body.sourceCount)]
    | some e =>
        [.check ⟨Label.hasError, e.hasCode⟩, .event (.finishedWithError jobId e.label)]

end LoadProbe.Job
