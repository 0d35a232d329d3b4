import LoadProbe.CommandLine.Flag

/-!
# Help

The texts that explain the program, its commands and its flags.
-/

namespace LoadProbe.CommandLine

def programName : String := "chatload"

/-- The text that tells the version. -/
def versionText : String := programName ++ " 0.1.0\n"

def programAbout : String := "Load and correctness harness for the chat job API"

def helpAbout : String := "Print this message or the help of the given subcommand(s)"

/-- Which variable gives the value of a flag, with its present value unless that is secret. -/
def variableNote (environment : List (String × String)) (f : Flag) : String :=
  match f.environmentName? with
  | none => ""
  | some name =>
      let value := if f.isSecret then "" else "=" ++ (environment.lookup name).getD ""
      " [env: " ++ name ++ value ++ "]"

/-- The lines about a flag. -/
def flagLines (environment : List (String × String)) (f : Flag) : String :=
  let letter := match f.letter? with
    | some c => "-" ++ c.toString ++ ", "
    | none => "    "
  let value := if f.kind = .switch then "" else " <" ++ f.valueName ++ ">"
  "  " ++ letter ++ "--" ++ f.long ++ value ++ "\n"
    ++ "          " ++ f.about ++ variableNote environment f ++ "\n"

/-- The lines about all flags that may be given. -/
def flagsText (environment : List (String × String)) (topic : Topic) : String :=
  "Options:\n" ++ String.join (topic.flags.map (flagLines environment))

/-- The line about a command; all names have the same width. -/
def commandLine (name about : String) : String :=
  "  " ++ name ++ String.ofList (List.replicate (11 - name.length) ' ') ++ "  " ++ about ++ "\n"

/-- The lines about all commands. -/
def commandsText : String :=
  "Commands:\n" ++ String.join (Command.all.map fun c => commandLine c.name c.about)
    ++ commandLine helpName helpAbout

/-- The help about a topic. -/
def helpText (environment : List (String × String)) (topic : Topic) : String :=
  match topic with
  | .program =>
      programAbout ++ "\n\nUsage: " ++ programName ++ " [OPTIONS] [COMMAND]\n\n" ++ commandsText
        ++ "\n" ++ flagsText environment topic
  | .command c =>
      c.about ++ "\n\nUsage: " ++ programName ++ " " ++ c.name ++ " [OPTIONS]\n\n"
        ++ flagsText environment topic
  | .help =>
      helpAbout ++ "\n\nUsage: " ++ programName ++ " " ++ helpName ++ " [COMMAND]...\n\n"
        ++ "Arguments:\n  [COMMAND]...  Print help for the subcommand(s)\n"

end LoadProbe.CommandLine
