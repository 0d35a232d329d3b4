import LoadProbe.CommandLine.Flag
import LoadProbe.Settings.Overrides

/-!
# Arguments

What the words behind the name of the program ask for.

Flags may stand before and behind the command.  Each may be given once in either place; behind the
command it wins.  A flag that takes a value takes the next word, unless that starts with a dash.
Its value is looked at only when the next flag comes or the words end, so help that comes before
wins over a bad value.

* `CommandLine.read` reads the words.
-/

namespace LoadProbe.CommandLine

/-- Why there is nothing to do but to say something. -/
inductive Stop where
  /-- Help is asked for. -/
  | help (topic : Topic)
  /-- The version is asked for. -/
  | version
  /-- The words cannot be understood. -/
  | misuse
deriving DecidableEq, Inhabited

/-- The flags that have been given with their values; a switch has the empty text. -/
abbrev Given : Type := List (Flag × String)

/-- The words read so far in one place. -/
structure Reading where
  given : Given := []
  /-- A flag whose value has not been looked at, with the value once there is one. -/
  pending : Option (Flag × Option String) := none
  /-- Whether two dashes have ended the flags. -/
  ended : Bool := false
deriving Inhabited

namespace Reading

/-- Stores a flag, unless it has been given before. -/
def store (r : Reading) (f : Flag) (value : String) : Except Stop Reading :=
  if (r.given.lookup f).isSome then .error .misuse
  else .ok { r with given := r.given ++ [(f, value)] }

/-- Stores the flag whose value has not been looked at. -/
def settle (r : Reading) : Except Stop Reading :=
  match r.pending with
  | none => .ok r
  | some (_, none) => .error .misuse
  | some (f, some value) =>
      if f.accepts value then Reading.store { r with pending := none } f value
      else .error .misuse

/-- Whether the next word is the value of a flag. -/
def expectsValue (r : Reading) : Bool :=
  match r.pending with
  | some (_, none) => true
  | _ => false

/-- A switch comes. -/
def switchOn (topic : Topic) (r : Reading) (f : Flag) : Except Stop Reading := do
  let r ← r.settle
  match f with
  | .help => .error (.help topic)
  | .version => .error .version
  | f => r.store f ""

/-- A flag comes that takes the next word as its value. -/
def await (r : Reading) (f : Flag) : Except Stop Reading := do
  return { (← r.settle) with pending := some (f, none) }

/-- A flag comes together with its value. -/
def give (r : Reading) (f : Flag) (value : List Char) : Except Stop Reading := do
  settle { (← r.settle) with pending := some (f, some (String.ofList value)) }

/-- A word with two dashes comes: a flag, and its value if there is an equals sign. -/
def takeLong (topic : Topic) (r : Reading) (word : List Char) : Except Stop Reading :=
  let name := String.ofList (word.takeWhile (· ≠ '='))
  match topic.flags.find? (·.long = name), word.dropWhile (· ≠ '=') with
  | none, _ => .error .misuse
  | some f, [] => if f.kind = .switch then r.switchOn topic f else r.await f
  | some f, _ :: value => if f.kind = .switch then .error .misuse else r.give f value

/-- A word with one dash comes: letters of switches, and at the end one of a flag with its
value, before which there may be an equals sign. -/
def takeLetters (topic : Topic) : Reading → List Char → Except Stop Reading
  | r, [] => .ok r
  | r, c :: cs =>
      match topic.flags.find? (·.letter? = some c) with
      | none => .error .misuse
      | some f =>
          if f.kind = .switch then
            match r.switchOn topic f with
            | .ok r => takeLetters topic r cs
            | .error stop => .error stop
          else match cs with
            | [] => r.await f
            | '=' :: value => r.give f value
            | value => r.give f value

/-- The next word, which is not a command. -/
def take (topic : Topic) (r : Reading) (word : String) : Except Stop Reading :=
  if r.ended then .error .misuse
  else match word.toList with
    | ['-', '-'] => .ok { r with ended := true }
    | '-' :: '-' :: name => r.takeLong topic name
    | '-' :: c :: cs => r.takeLetters topic (c :: cs)
    | _ =>
        match r.pending with
        | some (f, none) => .ok { r with pending := some (f, some word) }
        | _ => .error .misuse

/-- The words of one place end.  Variables must have values that their flags accept, unless the
flags have been given. -/
def finish (environment : List (String × String)) (r : Reading) : Except Stop Given := do
  let r ← r.settle
  let isSound (f : Flag) : Bool :=
    (r.given.lookup f).isSome || (f.valueIn environment).all f.accepts
  if Flag.all.all isSound then return r.given else .error .misuse

end Reading

/-- What the words behind the name of the program ask for. -/
structure Arguments where
  command : Command := .run
  config : Option String := none
  verbose : Bool := false
  overrides : Settings.Overrides := {}
  output : Option String := none
  metricsOutput : Option String := none
deriving DecidableEq, Inhabited

/-- The arguments that flags with their values make. -/
def Arguments.ofGiven (command : Command) (given : Given) : Arguments :=
  let number? (f : Flag) : Option Nat := (given.lookup f).bind f.kind.number?
  { command
    config := given.lookup .config
    verbose := (given.lookup .verbose).isSome
    overrides := {
      baseUrl := given.lookup .target
      users := number? .users
      durationSeconds := number? .duration
      iterations := number? .iterations
      pollIntervalMillis := number? .pollInterval
      maxPollAttempts := number? .maxPolls
      message := given.lookup .message
      chatId := given.lookup .chatId
      authToken := given.lookup .authToken }
    output := given.lookup .output
    metricsOutput := given.lookup .metricsOutput }

/-- The flags that variables stand for. -/
def givenByVariables (environment : List (String × String)) : Given :=
  Flag.all.filterMap fun f => (f.valueIn environment).map fun value => (f, value)

/-- What the words behind the command for help ask for. -/
def readHelp : List String → Stop
  | [] => .help .program
  | [name] =>
      if name = helpName then .help .help
      else ((Command.named? name).map fun c => Stop.help (.command c)).getD .misuse
  | _ => .misuse

/-- Reads the words, of which some may have been read already. -/
def readFrom (environment : List (String × String)) : Reading → List String →
    Except Stop Arguments
  | r, [] => do
      return .ofGiven .run ((← r.finish environment) ++ givenByVariables environment)
  | r, word :: words =>
      if r.ended || r.expectsValue then
        match r.take .program word with
        | .ok r => readFrom environment r words
        | .error stop => .error stop
      else if word = helpName then .error (readHelp words)
      else match Command.named? word with
        | some command => do
            let inner ← words.foldlM (Reading.take (.command command)) {}
            let inner ← inner.finish environment
            let outer ← r.finish environment
            return .ofGiven command (inner ++ outer ++ givenByVariables environment)
        | none =>
            match r.take .program word with
            | .ok r => readFrom environment r words
            | .error stop => .error stop

/-- Reads the words behind the name of the program. -/
def read (environment : List (String × String)) (words : List String) : Except Stop Arguments :=
  readFrom environment {} words

end LoadProbe.CommandLine
