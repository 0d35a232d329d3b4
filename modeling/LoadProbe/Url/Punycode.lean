import LoadProbe.Text.Digits
import LoadProbe.Word

/-!
# Punycode

The ASCII form of a label with other characters: first its ASCII characters, then digits in base 36
that say which characters to insert where.
-/

namespace LoadProbe.Url

/-- Where the reading of digits stands.  `weight` and `place` belong to the number that is being
read, `old` is the position before it. -/
structure Insertion where
  output : List Char
  code : Nat := 128
  position : Nat := 0
  bias : Nat := 72
  first : Bool := true
  old : Nat := 0
  weight : Nat := 1
  place : Nat := 36

namespace Insertion

/-- The value of a digit: letters, then `0` to `9`. -/
def digit? (c : Char) : Option Nat :=
  if 'a' ≤ c ∧ c ≤ 'z' then some (c.toNat - 'a'.toNat)
  else if 'A' ≤ c ∧ c ≤ 'Z' then some (c.toNat - 'A'.toNat)
  else if '0' ≤ c ∧ c ≤ '9' then some (c.toNat - '0'.toNat + 26)
  else none

/-- How often a value can be divided by 35 before it falls below 456, and what is left of it. -/
def scaleDown : Nat → Nat → Nat → Nat × Nat
  | 0, count, delta => (count, delta)
  | fuel + 1, count, delta =>
      if 455 < delta then scaleDown fuel (count + 1) (delta / 35) else (count, delta)

/-- The bias after a number `delta` when the output has `length` characters. -/
def adapt (delta length : Nat) (first : Bool) : Nat :=
  let delta := if first then delta / 700 else delta / 2
  let (count, delta) := scaleDown 32 0 (delta + delta / length)
  36 * count + 36 * delta / (delta + 38)

/-- Inserts the character that the number just read stands for. -/
def insert? (s : Insertion) : Option Insertion :=
  let length := s.output.length + 1
  let code := s.code + s.position / length
  let position := s.position % length
  if h : code.isValidChar then
    some {
      output := s.output.take position ++ Char.ofNatAux code h :: s.output.drop position
      code
      position := position + 1
      bias := adapt (s.position - s.old) length s.first
      first := false
      old := position + 1 }
  else none

/-- Reads one digit.  Numbers stay within 32 bits. -/
def read? (s : Insertion) (c : Char) : Option Insertion := do
  let digit ← digit? c
  let position := s.position + digit * s.weight
  let threshold := if s.place ≤ s.bias then 1 else min 26 (s.place - s.bias)
  if Word.limit32 ≤ position then none
  else if digit < threshold then insert? { s with position }
  else
    let weight := s.weight * (36 - threshold)
    if Word.limit32 ≤ weight then none
    else some { s with position, weight, place := s.place + 36 }

end Insertion

/-- The label that a Punycode text stands for. -/
def punycode? (text : List Char) : Option (List Char) :=
  let tail := (text.reverse.takeWhile (· ≠ '-')).reverse
  let head := text.take (text.length - tail.length - 1)
  let digits := if head.isEmpty then text else tail
  (digits.foldlM Insertion.read? { output := head }).bind fun s =>
    if s.weight = 1 ∧ s.place = 36 then some s.output else none

end LoadProbe.Url
