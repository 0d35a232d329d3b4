import LoadProbe.Json.Value
import LoadProbe.Toml.Reader
import LoadProbe.Word
import LoadProbe.Yaml.Reader

/-!
# Formats of settings files

* `Settings.Format.ofFileName?` is the format that the ending of a file's name announces.
* `Settings.Format.read?` reads the text of a file.
-/

namespace LoadProbe.Settings

/-- The formats that files of settings may have. -/
inductive Format where
  | toml
  | json
  | yaml
deriving DecidableEq, Inhabited

mutual

/-- The tree that a JSON value is.  Integers that do not fit into 64 bits with a sign become
floating-point numbers. -/
def Tree.ofJson : Json.Value → Tree
  | .null => .null
  | .bool b => .bool b
  | .integer n => if n < Word.signedLimit64 then .integer n else .float (.ofInt n)
  | .float x => .float x
  | .string s => .text s
  | .array items => .list (Tree.ofJsonItems items)
  | .object members => .table (Tree.ofJsonMembers members)

/-- The trees that the items of an array are. -/
def Tree.ofJsonItems : List Json.Value → List Tree
  | [] => []
  | item :: items => Tree.ofJson item :: Tree.ofJsonItems items

/-- The trees that the members of an object are. -/
def Tree.ofJsonMembers : List (String × Json.Value) → List (String × Tree)
  | [] => []
  | (key, value) :: members => (key, Tree.ofJson value) :: Tree.ofJsonMembers members

end

namespace Format

/-- The endings of the names of files, each with the format that it announces. -/
def endings : List (String × Format) :=
  [("toml", toml), ("json", json), ("yaml", yaml), ("yml", yaml)]

/-- What follows the last dot of a name, unless the name has no other characters before it. -/
def ending? (name : String) : Option String :=
  let ending := name.toList.reverse.takeWhile (· ≠ '.')
  if ending.length + 1 < name.length then some (String.ofList ending.reverse) else none

/-- The format that the name of a file announces. -/
def ofFileName? (name : String) : Option Format :=
  (ending? name).bind fun ending => endings.lookup ending

/-- Reads the text of a file. -/
def read? : Format → String → Option Tree
  | toml, text => Toml.parse? text
  | json, text => (Json.parse? text).map Tree.ofJson
  | yaml, text => Yaml.parse? text

end Format

end LoadProbe.Settings
