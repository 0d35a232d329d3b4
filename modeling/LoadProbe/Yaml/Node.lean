import LoadProbe.Binary64.Literal
import LoadProbe.Settings.Tree
import LoadProbe.Word
import LoadProbe.Yaml.Property

/-!
# Nodes of YAML documents

What the nodes of a document are: scalars by their text and their tag, sequences, and mappings whose
keys may be any nodes.

* `Yaml.Node.ofScalar` gives a scalar its value.
* `Yaml.Node.ofPairs` makes a mapping of keys and values.
* `Yaml.Node.tree?` is the tree of settings that a node is.
-/

namespace LoadProbe.Yaml

open LoadProbe.Settings LoadProbe.Text

/-- A node. -/
inductive Node where
  | null
  | bool (b : Bool)
  | integer (n : Int)
  /-- A number that is no integer, as it is written. -/
  | real (text : String)
  | text (s : String)
  | sequence (items : List Node)
  | mapping (entries : List (Node × Node))
  /-- A scalar that is not what its tag says, or a collection that is not complete yet. -/
  | bad
deriving Inhabited

namespace Node

/-! ### Scalars -/

/-- The words for infinity and for what is not a number. -/
def specialNumbers : List String :=
  [".inf", ".Inf", ".INF", "+.inf", "+.Inf", "+.INF", "-.inf", "-.Inf", "-.INF", ".nan", "NaN",
    ".NAN"]

/-- Whether the text is a number. -/
def isNumber (text : String) : Bool :=
  specialNumbers.contains text || (Binary64.ofText? text).isSome

/-- An integer in another base. -/
def radixInteger? (radix : Nat) (cs : List Char) : Option Int :=
  let (negative, digits) := splitSign cs
  (natOfBase? radix digits).bind fun n =>
    if negative then (if n ≤ Word.signedLimit64 then some (-(n : Int)) else none)
    else if n < Word.signedLimit64 then some (n : Int)
    else none

/-- The integer that a plain scalar without a tag spells. -/
def integer? (text : String) : Option Int :=
  let other? := match text.toList with
    | '0' :: 'x' :: digits => radixInteger? 16 digits
    | '0' :: 'o' :: digits => radixInteger? 8 digits
    | '+' :: digits => signed? (String.ofList digits)
    | _ => none
  other?.orElse fun _ => signed? text

/-- The value of a plain scalar without a tag. -/
def ofPlain (text : String) : Node :=
  match integer? text with
  | some n => integer n
  | none =>
      if text = "~" || text = "null" then null
      else if text = "true" then bool true
      else if text = "false" then bool false
      else if isNumber text then real text
      else .text text

/-- The value of a plain scalar with a tag.  Tags that say nothing about scalars leave a text. -/
def ofTagged (tag : Tag) (text : String) : Node :=
  match tag with
  | ⟨"!!", "bool"⟩ =>
      if text = "true" then bool true else if text = "false" then bool false else bad
  | ⟨"!!", "int"⟩ => (signed? text).elim bad integer
  | ⟨"!!", "float"⟩ => if isNumber text then real text else bad
  | ⟨"!!", "null"⟩ => if text = "~" || text = "null" then null else bad
  | _ => .text text

/-- The value of a scalar.  Only a scalar that is written plainly can be anything but a text. -/
def ofScalar (tag? : Option Tag) (plain : Bool) (text : String) : Node :=
  if plain then tag?.elim (ofPlain text) (ofTagged · text) else .text text

/-! ### Mappings -/

/-- The entries that keys and values make, each key followed by its value.  A bad node is no key:
the node after it is the key. -/
def pairs : List Node → List (Node × Node)
  | bad :: nodes => pairs nodes
  | key :: value :: nodes => (key, value) :: pairs nodes
  | _ => []

/-- The mapping of keys and values, each key followed by its value. -/
def ofPairs (nodes : List Node) : Node := mapping (pairs nodes)

/-! ### Settings -/

/-- A number as it is read for settings, which do not know the special words. -/
def realTree? (s : String) : Option Tree := (Binary64.ofText? s).map .float

/-- A tree with its name, if there is one. -/
def namedTree? (entry : String × Option Tree) : Option (String × Tree) := entry.2.map (entry.1, ·)

mutual

/-- The tree that a node is. -/
def tree? : Node → Option Tree
  | null | bad => some .null
  | bool b => some (.bool b)
  | integer n => some (.integer n)
  | real s => realTree? s
  | text s => some (.text s)
  | sequence items => (trees? items).map .list
  | mapping entries =>
      ((SortedMap.ofList (members entries)).mapM namedTree?).map .table

/-- The trees that nodes are. -/
def trees? : List Node → Option (List Tree)
  | [] => some []
  | node :: nodes => do return (← tree? node) :: (← trees? nodes)

/-- The members that entries are.  Only keys that are texts have a name. -/
def members : List (Node × Node) → List (String × Option Tree)
  | [] => []
  | (text name, value) :: entries => (name, tree? value) :: members entries
  | _ :: entries => members entries

end

end Node

end LoadProbe.Yaml
