import LoadProbe.Binary64.Literal
import LoadProbe.Settings.Tree
import LoadProbe.Text.Layout

/-!
# Settings from the environment

A variable whose name starts with `CHATLOAD_`, in any case of letters, sets the value at the rest
of its name, in which two underlines separate the steps of a path.
-/

namespace LoadProbe.Settings

/-- What the name of every variable that counts starts with. -/
def variableMark : List Char := "chatload_".toList

/-- Lower case as names of variables have it. -/
def lowerName (name : String) : List Char :=
  name.toList.map fun c => if c.toNat = 0x212a then 'k' else c.toLower

/-- Replaces every two underlines by a dot, from the left. -/
def dotted : List Char → List Char
  | '_' :: '_' :: cs => '.' :: dotted cs
  | c :: cs => c :: dotted cs
  | [] => []

/-- The path that the name of a variable spells, if it counts. -/
def variablePath? (name : String) : Option String :=
  let lower := lowerName name
  if variableMark.isPrefixOf lower then
    some (String.ofList (dotted (lower.drop variableMark.length)))
  else none

/-- The value of a variable: a truth value, a number, or else its text. -/
def variableValue (text : String) : Tree :=
  let lower := Text.lowerAscii text
  if lower = "true" then .bool true
  else if lower = "false" then .bool false
  else match Text.signed? text with
    | some n => .integer n
    | none => match Binary64.ofText? text with
      | some x => .float x
      | none => .text text

/-- The entries that an environment holds, in the order of their paths. -/
def environmentEntries (environment : List (String × String)) : List (String × Tree) :=
  SortedMap.ofList (environment.filterMap fun (name, text) =>
    (variablePath? name).map fun path => (path, variableValue text))

end LoadProbe.Settings
