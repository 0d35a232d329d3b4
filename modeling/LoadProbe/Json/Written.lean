/-!
# JSON documents as written

A document before its numbers and strings have been given a meaning.  A document can be well formed
although some of its parts mean nothing: a number beyond every floating-point number, an escape for
half of a surrogate pair.  Whoever skips such a part never notices.

* `Json.Written` is the tree of a well-formed document.
* `Json.Written.depth` counts how deeply arrays and objects are nested in it.
-/

namespace LoadProbe.Json

/-- The spelling of a number: `-`, digits, digits after the point, an exponent. -/
structure Numeral where
  negative : Bool
  whole : List Char
  fraction : List Char
  exponent : Option Int
deriving DecidableEq, Inhabited

/-- One element of a string: a character, or a 16-bit unit written as a `\u` escape. -/
inductive Piece where
  | char (c : Char)
  | unit (code : Nat)
deriving DecidableEq, Inhabited

/-- A well-formed document.  The members of an object stand in the order of the text, repeated
keys included. -/
inductive Written where
  | null
  | bool (b : Bool)
  | number (n : Numeral)
  | string (s : List Piece)
  | array (items : List Written)
  | object (members : List (List Piece × Written))
deriving Inhabited

mutual

/-- The number of nested arrays and objects on the deepest path into the document. -/
def Written.depth : Written → Nat
  | .array items => depthOfItems items + 1
  | .object members => depthOfMembers members + 1
  | _ => 0

/-- The greatest depth of the items of an array. -/
def depthOfItems : List Written → Nat
  | [] => 0
  | item :: items => max item.depth (depthOfItems items)

/-- The greatest depth of the values of an object. -/
def depthOfMembers : List (List Piece × Written) → Nat
  | [] => 0
  | (_, item) :: members => max item.depth (depthOfMembers members)

end

end LoadProbe.Json
