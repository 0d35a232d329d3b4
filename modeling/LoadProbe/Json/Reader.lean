import LoadProbe.Json.Written
import LoadProbe.Text.Digits

/-!
# Reading JSON text

The grammar of RFC 8259, without any extension: blanks are space, tab, line feed and carriage
return, nothing may follow the value, and control characters are not allowed in strings.

* `Json.read?` reads a whole text.
* Every reader below takes the characters that are left and gives what it read with what is left
  after it.  Values nest, so `value?` and the two readers of bodies carry the number of characters
  as fuel: each of them takes at least one character before it calls another.
-/

namespace LoadProbe.Json

/-- Whether the character may stand between two tokens. -/
def isBlank (c : Char) : Bool :=
  c = ' ' ∨ c = '\t' ∨ c = '\n' ∨ c = '\r'

/-- What is left after blanks. -/
def skipBlanks (cs : List Char) : List Char := cs.dropWhile isBlank

/-- What is left after the given word. -/
def word? : List Char → List Char → Option (List Char)
  | [], cs => some cs
  | w :: ws, c :: cs => if w = c then word? ws cs else none
  | _ :: _, [] => none

/-- One digit or more. -/
def digits? (cs : List Char) : Option (List Char × List Char) :=
  match cs.takeWhile Char.isDigit with
  | [] => none
  | digits => some (digits, cs.dropWhile Char.isDigit)

/-- The digits before the point; a zero stands alone. -/
def whole? : List Char → Option (List Char × List Char)
  | '0' :: cs => if cs.head?.any Char.isDigit then none else some (['0'], cs)
  | cs => digits? cs

/-- The digits after the point, if there is one. -/
def fraction? : List Char → Option (List Char × List Char)
  | '.' :: cs => digits? cs
  | cs => some ([], cs)

/-- The exponent, if there is one. -/
def exponent? : List Char → Option (Option Int × List Char)
  | c :: cs =>
      if c = 'e' ∨ c = 'E' then
        let (negative, cs) := Text.splitSign cs
        (digits? cs).map fun (digits, rest) =>
          let n : Int := Text.natOfDigits digits
          (some (if negative then -n else n), rest)
      else some (none, c :: cs)
  | [] => some (none, [])

/-- A number without its sign. -/
def unsignedNumeral? (negative : Bool) (cs : List Char) : Option (Numeral × List Char) := do
  let (whole, cs) ← whole? cs
  let (fraction, cs) ← fraction? cs
  let (exponent, cs) ← exponent? cs
  return (⟨negative, whole, fraction, exponent⟩, cs)

/-- A number. -/
def numeral? : List Char → Option (Numeral × List Char)
  | '-' :: cs => unsignedNumeral? true cs
  | cs => unsignedNumeral? false cs

/-- What an escape of one letter stands for. -/
def simpleEscape? : Char → Option Char
  | '"' => some '"'
  | '\\' => some '\\'
  | '/' => some '/'
  | 'b' => some '\x08'
  | 'f' => some '\x0c'
  | 'n' => some '\n'
  | 'r' => some '\r'
  | 't' => some '\t'
  | _ => none

/-- A string after its opening quote, up to and including the closing one. -/
def string? : List Char → Option (List Piece × List Char)
  | '"' :: cs => some ([], cs)
  | '\\' :: 'u' :: a :: b :: c :: d :: cs => do
      let code ← Text.natOfBase? 16 [a, b, c, d]
      let (pieces, rest) ← string? cs
      return (.unit code :: pieces, rest)
  | '\\' :: e :: cs => do
      let c ← simpleEscape? e
      let (pieces, rest) ← string? cs
      return (.char c :: pieces, rest)
  | c :: cs =>
      if c.toNat < 0x20 ∨ c = '\\' then none
      else do
        let (pieces, rest) ← string? cs
        return (.char c :: pieces, rest)
  | [] => none

mutual

/-- A value; blanks before it have been skipped. -/
def value? : Nat → List Char → Option (Written × List Char)
  | 0, _ => none
  | fuel + 1, cs =>
      match cs with
      | '[' :: cs =>
          match skipBlanks cs with
          | ']' :: rest => some (.array [], rest)
          | cs => (items? fuel cs).map fun (items, rest) => (.array items, rest)
      | '\x7b' :: cs =>
          match skipBlanks cs with
          | '\x7d' :: rest => some (.object [], rest)
          | cs => (members? fuel cs).map fun (members, rest) => (.object members, rest)
      | '"' :: cs => (string? cs).map fun (s, rest) => (.string s, rest)
      | 'n' :: cs => (word? ['u', 'l', 'l'] cs).map (.null, ·)
      | 't' :: cs => (word? ['r', 'u', 'e'] cs).map (.bool true, ·)
      | 'f' :: cs => (word? ['a', 'l', 's', 'e'] cs).map (.bool false, ·)
      | cs => (numeral? cs).map fun (n, rest) => (.number n, rest)

/-- The items of an array that is not empty, up to and including the closing bracket. -/
def items? : Nat → List Char → Option (List Written × List Char)
  | 0, _ => none
  | fuel + 1, cs => do
      let (item, cs) ← value? fuel cs
      match skipBlanks cs with
      | ']' :: rest => return ([item], rest)
      | ',' :: cs =>
          let (items, rest) ← items? fuel (skipBlanks cs)
          return (item :: items, rest)
      | _ => none

/-- The members of an object that is not empty, up to and including the closing brace. -/
def members? : Nat → List Char → Option (List (List Piece × Written) × List Char)
  | 0, _ => none
  | fuel + 1, cs => do
      let (key, cs) ← match cs with
        | '"' :: cs => string? cs
        | _ => none
      let cs ← word? [':'] (skipBlanks cs)
      let (item, cs) ← value? fuel (skipBlanks cs)
      match skipBlanks cs with
      | '\x7d' :: rest => return ([(key, item)], rest)
      | ',' :: cs =>
          let (members, rest) ← members? fuel (skipBlanks cs)
          return ((key, item) :: members, rest)
      | _ => none

end

/-- Reads a whole text as one value with blanks around it. -/
def read? (text : String) : Option Written := do
  let cs := text.toList
  let (document, rest) ← value? (2 * cs.length + 1) (skipBlanks cs)
  if (skipBlanks rest).isEmpty then some document else none

end LoadProbe.Json
