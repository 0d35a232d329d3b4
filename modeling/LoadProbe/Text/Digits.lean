import LoadProbe.Word

/-!
# Digits

Natural numbers and integers as digit text, and digit text as numbers.

* `Text.decimal` writes a number in base ten, `Text.hex` in base sixteen.
* `Text.natOfDigits` reads a list of digits; `Text.unsigned?` and `Text.signed?` read a whole text
  as an optionally signed number.
-/

namespace LoadProbe.Text

/-- The digits of `n` in base ten, without leading zeros. -/
def decimal (n : Nat) : String :=
  String.ofList (Nat.toDigits 10 n)

/-- The digits of `n` with a minus sign in front of a negative number. -/
def integer (n : Int) : String :=
  if n < 0 then "-" ++ decimal n.natAbs else decimal n.natAbs

/-- The lower-case hexadecimal digits of `n`, filled with zeros on the left up to `width`. -/
def hex (width n : Nat) : String :=
  let digits := Nat.toDigits 16 n
  String.ofList (List.replicate (width - digits.length) '0' ++ digits)

/-- The number that a list of decimal digits spells. -/
def natOfDigits (digits : List Char) : Nat :=
  digits.foldl (fun n c => 10 * n + (c.toNat - '0'.toNat)) 0

/-- The value of a digit in base `base`, which is at most 36; letters count in either case. -/
def digitValue? (base : Nat) (c : Char) : Option Nat :=
  let value? :=
    if '0' ≤ c ∧ c ≤ '9' then some (c.toNat - '0'.toNat)
    else if 'a' ≤ c ∧ c ≤ 'z' then some (c.toNat - 'a'.toNat + 10)
    else if 'A' ≤ c ∧ c ≤ 'Z' then some (c.toNat - 'A'.toNat + 10)
    else none
  value?.filter (· < base)

/-- The number that a non-empty list of digits spells in base `base`. -/
def natOfBase? (base : Nat) (digits : List Char) : Option Nat :=
  if digits.isEmpty then none
  else digits.foldlM (fun n c => (digitValue? base c).map (base * n + ·)) 0

/-- Splits a sign off the front of a text: whether it is negative, and what follows. -/
def splitSign : List Char → Bool × List Char
  | '-' :: rest => (true, rest)
  | '+' :: rest => (false, rest)
  | rest => (false, rest)

/-- Reads an unsigned number not above `limit`: decimal digits, with an optional plus sign. -/
def unsigned? (limit : Nat) (text : String) : Option Nat :=
  match text.toList with
  | '+' :: digits => (natOfBase? 10 digits).filter (· ≤ limit)
  | digits => (natOfBase? 10 digits).filter (· ≤ limit)

/-- Reads a signed number of 64 bits: decimal digits, with an optional sign. -/
def signed? (text : String) : Option Int :=
  let (negative, digits) := splitSign text.toList
  (natOfBase? 10 digits).bind fun n =>
    if negative then (if n ≤ Word.signedLimit64 then some (-(n : Int)) else none)
    else if n < Word.signedLimit64 then some (n : Int)
    else none

end LoadProbe.Text
