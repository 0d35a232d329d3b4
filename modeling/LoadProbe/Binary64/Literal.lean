import LoadProbe.Binary64.Basic
import LoadProbe.Text.Digits

/-!
# Decimal literals

Floating-point numbers from text.

* `Binary64.ofText?` reads the usual decimal spelling and gives the nearest number.
* `Binary64.ofScaled` is the quick reading: the significand and the power of ten are each rounded,
  and so is their product, so the result can be off by a few units in the last place.
-/

namespace LoadProbe.Binary64

open LoadProbe.Text

/-- Reads the digits of an exponent, with an optional sign. -/
def exponent? (cs : List Char) : Option Int :=
  let (negative, digits) := splitSign cs
  (natOfBase? 10 digits).map fun n => if negative then -(n : Int) else n

/-- Reads digits with an optional point, at least one digit in all, and an optional exponent. -/
def decimal? (negative : Bool) (cs : List Char) : Option Binary64 :=
  let whole := cs.takeWhile Char.isDigit
  let rest := cs.dropWhile Char.isDigit
  let (fraction, rest) := match rest with
    | '.' :: tail => (tail.takeWhile Char.isDigit, tail.dropWhile Char.isDigit)
    | _ => ([], rest)
  let finish (exponent : Int) : Option Binary64 :=
    if whole.isEmpty && fraction.isEmpty then none
    else some (ofDecimal negative (natOfDigits (whole ++ fraction)) (exponent - fraction.length))
  match rest with
  | [] => finish 0
  | c :: tail => if c = 'e' ∨ c = 'E' then (exponent? tail).bind finish else none

/-- Reads a number: an optional sign, then a decimal number or, in any case of letters, `inf`,
`infinity` or `nan`. -/
def ofText? (text : String) : Option Binary64 :=
  let (negative, cs) := splitSign text.toList
  let word := String.ofList (cs.map Char.toLower)
  if word = "inf" ∨ word = "infinity" then some (infinity negative)
  else if word = "nan" then some (if negative then neg nan else nan)
  else decimal? negative cs

/-- The power of ten with the given exponent, rounded. -/
def powerOfTen (exponent : Nat) : Binary64 := ofDecimal false 1 exponent

/-- `significand · 10 ^ exponent` by one multiplication or by at most two divisions of rounded
numbers; nothing if the result is too great.  Below `10 ^ -616` every 64-bit significand gives
zero. -/
def ofScaled (significand : Nat) (exponent : Int) : Option Binary64 :=
  let x := ofNat significand
  let power := exponent.natAbs
  if 0 ≤ exponent then
    if significand = 0 then some zero
    else if 308 < power then none
    else
      let y := mul x (powerOfTen power)
      if y.isInfinite then none else some y
  else if power ≤ 308 then some (div x (powerOfTen power))
  else if power ≤ 616 then some (div (div x (powerOfTen 308)) (powerOfTen (power - 308)))
  else some zero

end LoadProbe.Binary64
