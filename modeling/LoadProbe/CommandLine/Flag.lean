import LoadProbe.Text.Digits
import LoadProbe.Word

/-!
# Flags

The flags of the command line: their names, the values they take and what they say about
themselves.

* `CommandLine.Flag.all` lists them in the order in which they are shown.
* `CommandLine.Flag.accepts` says which texts a flag takes as its value.
-/

namespace LoadProbe.CommandLine

/-- A flag. -/
inductive Flag where
  | config
  | verbose
  | target
  | users
  | duration
  | iterations
  | pollInterval
  | maxPolls
  | message
  | chatId
  | authToken
  | output
  | metricsOutput
  | help
  | version
deriving DecidableEq, Inhabited

/-- The values that a flag takes. -/
inductive Kind where
  /-- No value. -/
  | switch
  /-- Any text. -/
  | text
  /-- Any text but the empty one. -/
  | path
  /-- A number up to a limit. -/
  | count (limit : Nat)
  /-- A number with a sign that lies between zero and a limit. -/
  | signedCount (limit : Nat)
deriving DecidableEq, Inhabited

/-- The number that a text is as a value. -/
def Kind.number? : Kind → String → Option Nat
  | count limit, s => Text.unsigned? limit s
  | signedCount limit, s =>
      (Text.signed? s).bind fun n => if 0 ≤ n ∧ n ≤ limit then some n.toNat else none
  | _, _ => none

/-- Whether a text is a value. -/
def Kind.accepts : Kind → String → Bool
  | switch, _ => false
  | text, _ => true
  | path, s => s ≠ ""
  | kind, s => (kind.number? s).isSome

namespace Flag

/-- All flags in the order in which they are shown. -/
def all : List Flag :=
  [config, verbose, target, users, duration, iterations, pollInterval, maxPolls, message, chatId,
    authToken, output, metricsOutput, help, version]

/-- The name behind two dashes. -/
def long : Flag → String
  | config => "config"
  | verbose => "verbose"
  | target => "target"
  | users => "vus"
  | duration => "duration"
  | iterations => "iterations"
  | pollInterval => "poll-interval-ms"
  | maxPolls => "max-polls"
  | message => "message"
  | chatId => "chat-id"
  | authToken => "auth-token"
  | output => "output"
  | metricsOutput => "metrics-out"
  | help => "help"
  | version => "version"

/-- The letter behind one dash. -/
def letter? : Flag → Option Char
  | config => some 'c'
  | verbose => some 'v'
  | target => some 't'
  | duration => some 'd'
  | iterations => some 'i'
  | message => some 'm'
  | output => some 'o'
  | help => some 'h'
  | version => some 'V'
  | _ => none

/-- The values of a flag. -/
def kind : Flag → Kind
  | verbose | help | version => .switch
  | config | output | metricsOutput => .path
  | target | message | chatId | authToken => .text
  | users | duration | iterations | pollInterval => .count Word.max64
  | maxPolls => .signedCount Word.max32

/-- The variable of the environment that gives the value if the flag does not. -/
def environmentName? : Flag → Option String
  | config => some "CHATLOAD_CONFIG"
  | authToken => some "CHATLOAD_AUTH_TOKEN"
  | _ => none

/-- The value that the environment gives. -/
def valueIn (environment : List (String × String)) (f : Flag) : Option String :=
  f.environmentName?.bind fun name => environment.lookup name

/-- Whether the value must not be shown. -/
def isSecret (f : Flag) : Bool := f = authToken

/-- What the flag is for. -/
def about : Flag → String
  | config => "Configuration file (TOML, YAML or JSON)"
  | verbose => "Enable verbose output"
  | target => "Target base URL"
  | users => "Concurrent virtual users"
  | duration => "Test duration in seconds"
  | iterations => "Iterations per virtual user"
  | pollInterval => "Sleep before each status poll, in milliseconds"
  | maxPolls => "Status polls per job before giving up"
  | message => "Chat message to submit"
  | chatId => "Existing chat id to continue"
  | authToken => "Bearer token for the API"
  | output => "Output run summary to JSON file"
  | metricsOutput => "Output Prometheus text metrics to file"
  | help => "Print help"
  | version => "Print version"

/-- How help names the value: the long name in capitals, with underlines. -/
def valueName (f : Flag) : String :=
  String.ofList (f.long.toList.map fun c => if c = '-' then '_' else c.toUpper)

/-- Whether a text is a value of the flag. -/
def accepts (f : Flag) (value : String) : Bool := f.kind.accepts value

end Flag

/-- What the program can be asked to do. -/
inductive Command where
  | run
  | showConfig
deriving DecidableEq, Inhabited

namespace Command

def all : List Command := [run, showConfig]

def name : Command → String
  | run => "run"
  | showConfig => "show-config"

def about : Command → String
  | run => "Run the load test (default)"
  | showConfig => "Print the effective configuration as TOML"

/-- The command of a name. -/
def named? (name : String) : Option Command := all.find? (·.name = name)

end Command

/-- The command that gives help. -/
def helpName : String := "help"

/-- What help can be about. -/
inductive Topic where
  | program
  | command (c : Command)
  | help
deriving DecidableEq, Inhabited

/-- The flags that may be given: only the program as a whole has a version. -/
def Topic.flags (topic : Topic) : List Flag :=
  match topic with
  | .program => Flag.all
  | .command _ => Flag.all.filter (· ≠ .version)
  | .help => []

end LoadProbe.CommandLine
