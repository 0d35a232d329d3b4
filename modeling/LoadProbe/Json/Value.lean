import LoadProbe.Binary64.Literal
import LoadProbe.Json.Reader
import LoadProbe.SortedMap
import LoadProbe.Word

/-!
# JSON values

What a well-formed document means.

* `Json.Value` is a meaning: integers are kept exactly as far as 64 bits reach, all other numbers
  are floating-point numbers, an object that was read is a finite map.
* `Json.Written.value?` is the meaning of a document, nothing if some number or string in it has
  none.
* `Json.parse?` reads a text whose nesting stays within `maxDepth`.
-/

namespace LoadProbe.Json

/-- A value.  The members of an object stand in the order in which they are printed; an object that
was read is a `SortedMap`, with one member to a key. -/
inductive Value where
  | null
  | bool (b : Bool)
  | integer (n : Int)
  | float (x : Binary64)
  | string (s : String)
  | array (items : List Value)
  | object (members : List (String × Value))
deriving Inhabited

/-- Appends digits to `n` as long as the number stays within 64 bits; the digits left over come
with it. -/
def appendDigits (n : Nat) : List Char → Nat × List Char
  | [] => (n, [])
  | c :: cs =>
      let m := 10 * n + (c.toNat - '0'.toNat)
      if m < Word.limit64 then appendDigits m cs else (n, c :: cs)

/-- The number that a numeral stands for.  Without fraction and exponent it is an integer if it
fits into 64 bits, unsigned or negative; minus zero is not an integer.  Any other number is read
with as many digits as fit into 64 bits. -/
def Numeral.value? (n : Numeral) : Option Value :=
  let (whole, wholeRest) := appendDigits 0 n.whole
  let (significand, fractionRest) := appendDigits whole n.fraction
  if n.fraction.isEmpty ∧ n.exponent.isNone ∧ wholeRest.isEmpty ∧ !n.negative then
    some (.integer whole)
  else if n.fraction.isEmpty ∧ n.exponent.isNone ∧ wholeRest.isEmpty
      ∧ 0 < whole ∧ whole ≤ Word.signedLimit64 then
    some (.integer (-(whole : Int)))
  else
    let exponent := n.exponent.getD 0 + wholeRest.length
      - (n.fraction.length - fractionRest.length : Nat)
    (Binary64.ofScaled significand exponent).map fun x =>
      .float (if n.negative then x.neg else x)

/-- The characters that the pieces of a string stand for.  Two units that form a surrogate pair
are one character; a surrogate without its partner has no meaning. -/
def characters? : List Piece → Option (List Char)
  | [] => some []
  | .char c :: pieces => (characters? pieces).map (c :: ·)
  | .unit high :: pieces =>
      if high < 0xd800 ∨ 0xdfff < high then (characters? pieces).map (Char.ofNat high :: ·)
      else
        match pieces with
        | .unit low :: rest =>
            if high < 0xdc00 ∧ 0xdc00 ≤ low ∧ low ≤ 0xdfff then
              let c := Char.ofNat (0x10000 + (high - 0xd800) * 0x400 + (low - 0xdc00))
              (characters? rest).map (c :: ·)
            else none
        | _ => none

/-- The text that the pieces of a string stand for. -/
def text? (pieces : List Piece) : Option String :=
  (characters? pieces).map String.ofList

mutual

/-- The meaning of a document, if all its parts have one. -/
def Written.value? : Written → Option Value
  | .null => some .null
  | .bool b => some (.bool b)
  | .number n => n.value?
  | .string s => (text? s).map .string
  | .array items => (valuesOfItems? items).map .array
  | .object members => (valuesOfMembers? members).map fun pairs => .object (SortedMap.ofList pairs)

/-- The meanings of the items of an array. -/
def valuesOfItems? : List Written → Option (List Value)
  | [] => some []
  | item :: items => do
      let v ← item.value?
      let vs ← valuesOfItems? items
      return v :: vs

/-- The meanings of the members of an object. -/
def valuesOfMembers? : List (List Piece × Written) → Option (List (String × Value))
  | [] => some []
  | (key, item) :: members => do
      let k ← text? key
      let v ← item.value?
      let pairs ← valuesOfMembers? members
      return (k, v) :: pairs

end

/-- The greatest number of nested arrays and objects around and in a value. -/
def maxDepth : Nat := 127

/-- The meaning of a document that stands inside `outer` arrays and objects. -/
def Written.valueWithin? (outer : Nat) (document : Written) : Option Value :=
  if outer + document.depth ≤ maxDepth then document.value? else none

/-- Reads a whole text as a value. -/
def parse? (text : String) : Option Value :=
  (read? text).bind (Written.valueWithin? 0)

namespace Value

/-- The text of a string. -/
def string? : Value → Option String
  | .string s => some s
  | _ => none

/-- The items of an array. -/
def items? : Value → Option (List Value)
  | .array items => some items
  | _ => none

/-- The value of a member of an object. -/
def member? (key : String) : Value → Option Value
  | .object members => members.lookup key
  | _ => none

end Value

end LoadProbe.Json
