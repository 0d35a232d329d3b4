import LoadProbe.Json.Printer

/-!
# Truth of JSON values

A service written in a scripting language reports errors as values that are true or false in that
language's sense: `null`, `false`, zero, NaN and the empty text are false, all else is true.
-/

namespace LoadProbe.Json.Value

/-- Whether a script takes the value for true. -/
def isTruthy : Value → Bool
  | .null => false
  | .bool b => b
  | .integer n => n ≠ 0
  | .float x => !x.isZero && !x.isNaN
  | .string s => s ≠ ""
  | .array _ | .object _ => true

end LoadProbe.Json.Value

namespace LoadProbe.Job

/-- A failure that the service reports for a job: any value, usually a number. -/
structure JobError where
  code : Option Json.Value
deriving Inhabited

/-- Whether there is a code that is true. -/
def JobError.hasCode (e : JobError) : Bool := e.code.any Json.Value.isTruthy

/-- The code in messages. -/
def JobError.label (e : JobError) : String :=
  match e.code with
  | none | some .null => "none"
  | some (.string code) => code
  | some code => code.compact

end LoadProbe.Job
