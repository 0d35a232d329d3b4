import LoadProbe.Binary64.Basic
import LoadProbe.SortedMap
import LoadProbe.Text.Digits

/-!
# Trees of settings

What a source of settings says, before it is read as settings: a tree of named values.

* `Settings.Tree.put` stores a value at a path, creating what is missing on the way.
* `Settings.Step.path?` reads a path such as `run.vus` or `list[0]`.
* `Settings.Tree.overlay` puts one source over another.
-/

namespace LoadProbe.Settings

/-- What a source says. -/
inductive Tree where
  | null
  | bool (b : Bool)
  | integer (n : Int)
  | float (x : Binary64)
  | text (s : String)
  | list (items : List Tree)
  | table (members : List (String × Tree))
deriving Inhabited

namespace Tree

/-- The members of a table; anything else has none. -/
def members : Tree → List (String × Tree)
  | table members => members
  | _ => []

/-- The items of a list; anything else has none. -/
def items : Tree → List Tree
  | list items => items
  | _ => []

mutual

/-- Stores a value under a key of a table; anything else becomes a table first.  A table is not
stored but merged, member by member, with what is there. -/
def assign (key : String) (root : Tree) : Tree → Tree
  | table incoming =>
      let there := (SortedMap.get? key root.members).getD (table [])
      table (SortedMap.insert key (assignAll there incoming) root.members)
  | value => table (SortedMap.insert key value root.members)

/-- Stores all members one after another. -/
def assignAll (root : Tree) : List (String × Tree) → Tree
  | [] => root
  | (key, value) :: rest => assignAll (assign key root value) rest

end

end Tree

/-- One step of a path. -/
inductive Step where
  | key (name : String)
  | index (i : Int)
deriving DecidableEq, Inhabited

namespace Step

/-- Whether the name of a step may have the character. -/
def isNameCharacter (c : Char) : Bool := c.isAlphanum || c = '_' || c = '-' || c = ' '

/-- The longest name at the beginning. -/
def name? (cs : List Char) : Option (Step × List Char) :=
  match cs.takeWhile isNameCharacter with
  | [] => none
  | name => some (key (String.ofList name), cs.dropWhile isNameCharacter)

/-- An index with its closing bracket; spaces and tabs may stand around it. -/
def index? (cs : List Char) : Option (Step × List Char) :=
  let isBlank (c : Char) : Bool := c = ' ' || c = '\t'
  let (minus, rest) := match cs.dropWhile isBlank with
    | '-' :: rest => ("-", rest)
    | rest => ("", rest)
  let digits := rest.takeWhile Char.isDigit
  match (rest.dropWhile Char.isDigit).dropWhile isBlank with
  | ']' :: tail => (Text.signed? (minus ++ String.ofList digits)).map fun i => (index i, tail)
  | _ => none

/-- The steps after the first, as many as there are characters at most. -/
def more? : Nat → List Char → Option (List Step)
  | _, [] => some []
  | 0, _ => none
  | fuel + 1, '.' :: cs => do
      let (step, rest) ← name? cs
      return step :: (← more? fuel rest)
  | fuel + 1, '[' :: cs => do
      let (step, rest) ← index? cs
      return step :: (← more? fuel rest)
  | _, _ => none

/-- The path that a text spells. -/
def path? (text : String) : Option (List Step) := do
  let (step, rest) ← name? text.toList
  return step :: (← more? rest.length rest)

end Step

namespace Tree

/-- Replaces the item at a place, which counts from the end if it is negative; a list that is too
short is first filled up. -/
def putItem (filler : Tree) (i : Int) (f : Tree → Tree) (items : List Tree) : List Tree :=
  let place := if 0 ≤ i then i.toNat else items.length - i.natAbs
  (items ++ List.replicate (place + 1 - items.length) filler).modify place f

/-- Stores a value at the end of a path.  What stands in the way is replaced. -/
def put (value : Tree) : List Step → Tree → Tree
  | [], _ => value
  | [.key name], root => assign name root value
  | [.index i], root => list (putItem (list []) i (fun _ => value) root.items)
  | .key name :: steps, root =>
      table (SortedMap.alter name (fun old => put value steps (old.getD null)) root.members)
  | .index i :: steps, root => list (putItem null i (put value steps) root.items)

/-- Stores one entry of a source; a name that is no path is taken as a key. -/
def store (root : Tree) (entry : String × Tree) : Tree :=
  put entry.2 ((Step.path? entry.1).getD [.key entry.1]) root

/-- Puts the entries of a source over what is there. -/
def overlay (entries : List (String × Tree)) (root : Tree) : Tree := entries.foldl store root

end Tree

end LoadProbe.Settings
