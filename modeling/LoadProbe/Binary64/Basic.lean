import LoadProbe.Word

/-!
# Binary floating-point numbers of 64 bits

A number is its bit pattern.  Every finite number is a whole multiple of `2 ^ -1074`, so its
absolute value is the natural number `units` of these, and each operation is exact arithmetic on
units followed by one rounding to nearest, ties to even.

* `Binary64.nearest n d` is the bit pattern nearest to `n / d` units: the only place that rounds.
* `ofNat`, `ofRatio`, `add`, `mul`, `div` round the exact result once.
* `le`, `lt` and `isZero` compare values: a NaN is in no relation, the two zeros are equal.
-/

namespace LoadProbe

/-- A binary floating-point number, given by its 64 bits: sign, 11 bits of exponent, 52 bits of
fraction. -/
structure Binary64 where
  bits : UInt64
deriving DecidableEq, Inhabited

namespace Binary64

/-- The number of units in one: the smallest positive number is one unit, `2 ^ -1074`. -/
def scale : Nat := Nat.pow 2 1074

/-- Fractions stay below 2⁵². -/
abbrev fractionLimit : Nat := 0x10000000000000

/-- The pattern of infinity without its sign; greater patterns are not numbers. -/
def infinityPattern : Nat := 0x7ff0000000000000

/-- The number with the given sign and pattern. -/
def ofPattern (negative : Bool) (pattern : Nat) : Binary64 :=
  ⟨UInt64.ofNat (if negative then Word.signedLimit64 + pattern else pattern)⟩

/-- The bits without the sign. -/
def pattern (x : Binary64) : Nat := x.bits.toNat % Word.signedLimit64

/-- Whether the sign bit is set, for zeros and NaNs as well. -/
def negative (x : Binary64) : Bool := Word.signedLimit64 ≤ x.bits.toNat

def isNaN (x : Binary64) : Bool := infinityPattern < x.pattern

def isInfinite (x : Binary64) : Bool := x.pattern = infinityPattern

def isFinite (x : Binary64) : Bool := x.pattern < infinityPattern

def isZero (x : Binary64) : Bool := x.pattern = 0

/-- The significand of a finite number; with an exponent field of zero the leading bit is not
implied. -/
def significand (x : Binary64) : Nat :=
  if x.pattern < fractionLimit then x.pattern
  else x.pattern % fractionLimit + fractionLimit

/-- The binary exponent of a finite number, counted from the smallest one. -/
def shift (x : Binary64) : Nat := x.pattern / fractionLimit - 1

/-- The absolute value of a finite number in units. -/
def units (x : Binary64) : Nat := x.significand * Nat.pow 2 x.shift

/-- The quotient rounded to the nearest natural number, a tie to the even one. -/
def roundQuotient (n d : Nat) : Nat :=
  if 2 * (n % d) < d ∨ (2 * (n % d) = d ∧ n / d % 2 = 0) then n / d else n / d + 1

/-- The pattern nearest to `n / d` units.  The quotient is rounded to a multiple of the power of
two that leaves 53 significant bits; since patterns of neighbouring numbers are consecutive, the
carry into the exponent needs no case of its own. -/
def nearest (n d : Nat) : Nat :=
  let shift := Nat.log2 (n / d) - 52
  min infinityPattern (shift * fractionLimit + roundQuotient n (d * Nat.pow 2 shift))

def nan : Binary64 := ⟨0x7ff8000000000000⟩

def infinity (negative : Bool) : Binary64 := ofPattern negative infinityPattern

def zero : Binary64 := ⟨0⟩

/-- The number nearest to `± n / d`. -/
def ofRatio (negative : Bool) (n d : Nat) : Binary64 :=
  ofPattern negative (nearest (n * scale) d)

/-- The number nearest to `n`. -/
def ofNat (n : Nat) : Binary64 := ofRatio false n 1

/-- The number nearest to `n`. -/
def ofInt (n : Int) : Binary64 := ofRatio (n < 0) n.natAbs 1

/-- The number nearest to `± digits · 10 ^ exponent`.  Exponents far out of range are decided by
the number of digits, before any power of ten is formed. -/
def ofDecimal (negative : Bool) (digits : Nat) (exponent : Int) : Binary64 :=
  let leading := (Nat.toDigits 10 digits).length + exponent
  if digits = 0 then ofPattern negative 0
  else if 400 < leading then infinity negative
  else if leading < -400 then ofPattern negative 0
  else if 0 ≤ exponent then ofRatio negative (digits * Nat.pow 10 exponent.toNat) 1
  else ofRatio negative digits (Nat.pow 10 (-exponent).toNat)

/-- The sum, rounded once.  Exact zero is positive unless both operands are negative. -/
def add (x y : Binary64) : Binary64 :=
  if x.isNaN then x
  else if y.isNaN then y
  else if x.isInfinite then (if y.isInfinite ∧ x.negative ≠ y.negative then nan else x)
  else if y.isInfinite then y
  else if x.negative = y.negative then ofPattern x.negative (nearest (x.units + y.units) 1)
  else if y.units < x.units then ofPattern x.negative (nearest (x.units - y.units) 1)
  else if x.units < y.units then ofPattern y.negative (nearest (y.units - x.units) 1)
  else zero

/-- The product, rounded once. -/
def mul (x y : Binary64) : Binary64 :=
  let negative := x.negative != y.negative
  if x.isNaN then x
  else if y.isNaN then y
  else if x.isInfinite ∨ y.isInfinite then
    (if x.isZero ∨ y.isZero then nan else infinity negative)
  else ofPattern negative (nearest (x.units * y.units) scale)

/-- The quotient, rounded once. -/
def div (x y : Binary64) : Binary64 :=
  let negative := x.negative != y.negative
  if x.isNaN then x
  else if y.isNaN then y
  else if x.isInfinite then (if y.isInfinite then nan else infinity negative)
  else if y.isInfinite then ofPattern negative 0
  else if y.isZero then (if x.isZero then nan else infinity negative)
  else ofPattern negative (nearest (x.units * scale) y.units)

/-- The number with the opposite sign. -/
def neg (x : Binary64) : Binary64 := ofPattern (!x.negative) x.pattern

/-- A whole number that orders values as their numbers are ordered, NaNs apart. -/
def rank (x : Binary64) : Int := if x.negative then -(x.pattern : Int) else x.pattern

def le (x y : Binary64) : Bool := !x.isNaN && !y.isNaN && decide (x.rank ≤ y.rank)

def lt (x y : Binary64) : Bool := !x.isNaN && !y.isNaN && decide (x.rank < y.rank)

/-- The least natural number not below `x`, for a finite `x` that is not negative. -/
def ceil (x : Binary64) : Nat := (x.units + (scale - 1)) / scale

/-- Confines the natural number `toNat` makes of a positive finite `x` to 64 bits: what is negative
or not a number becomes zero, what is too great the greatest. -/
def saturate (toNat : Binary64 → Nat) (x : Binary64) : Nat :=
  if x.isNaN ∨ x.negative then 0
  else if x.isInfinite then Word.max64
  else min Word.max64 (toNat x)

/-- The whole part, within 64 bits. -/
def truncate (x : Binary64) : Nat := saturate (fun x => x.units / scale) x

/-- The nearest whole number, a half going away from zero, within 64 bits. -/
def round (x : Binary64) : Nat := saturate (fun x => (2 * x.units + scale) / (2 * scale)) x

end Binary64

end LoadProbe
