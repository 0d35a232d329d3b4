import LoadProbe.Binary64.Basic
import LoadProbe.Text.Digits

/-!
# Shortest decimals

The decimal with the fewest digits that reads back as a given number.

The reals that round to a finite number form an interval.  For one digit, two digits and so on,
the two neighbours of the number on the decimal grid of that many digits are tried in exact
arithmetic; the first grid with a neighbour in the interval wins, and of two the nearer.
-/

namespace LoadProbe.Binary64

/-- A positive decimal `0.d₁d₂… · 10 ^ point` with digits `d₁d₂…`, neither first nor last of them
zero. -/
structure Digits where
  digits : List Char
  point : Int
deriving DecidableEq

/-- The exponent of the leading decimal digit of `n / d`, for positive `n` and `d`. -/
def leadingExponent (n d : Nat) : Int :=
  if d ≤ n then ((Nat.toDigits 10 (n / d)).length : Int) - 1
  else -((Nat.toDigits 10 ((d - 1) / n)).length : Int)

/-- The interval of reals that round to `x`, its ends in quarters of a unit.  Below a power of two
the spacing halves. -/
def interval (x : Binary64) : Nat × Nat :=
  let spacing := Nat.pow 2 x.shift
  let below := if x.significand = fractionLimit ∧ 0 < x.shift then spacing else 2 * spacing
  (4 * x.units - below, 4 * x.units + 2 * spacing)

/-- Whether `n / d` quarters of a unit round to `x`: the ends count if the significand is even. -/
def roundsTo (x : Binary64) (n d : Nat) : Bool :=
  let (low, high) := x.interval
  if x.significand % 2 = 0 then low * d ≤ n ∧ n ≤ high * d else low * d < n ∧ n < high * d

/-- The neighbour of `x` on the grid of multiples of `10 ^ exponent` that reads back as `x`, as a
multiple of `10 ^ exponent`: the nearer one if both do, the even one in a tie. -/
def neighbour? (x : Binary64) (exponent : Int) : Option Nat :=
  let n := x.units * Nat.pow 10 (-exponent).toNat
  let d := scale * Nat.pow 10 exponent.toNat
  let reads (multiple : Nat) :=
    roundsTo x (4 * multiple * d) (Nat.pow 10 (-exponent).toNat)
  let lower := n / d
  let nearer := roundQuotient n d
  if reads nearer then some nearer
  else if reads lower then some lower
  else if reads (lower + 1) then some (lower + 1)
  else none

/-- The digits of a multiple of `10 ^ exponent`, zeros at the end moved into the exponent. -/
def Digits.ofMultiple (multiple : Nat) (exponent : Int) : Digits :=
  let all := Nat.toDigits 10 multiple
  ⟨(all.reverse.dropWhile (· = '0')).reverse, all.length + exponent⟩

/-- The shortest digits of a positive finite number.  Seventeen digits always suffice. -/
def shortest (x : Binary64) : Digits :=
  let leading := leadingExponent x.units scale
  let attempt (count : Nat) : Option Digits :=
    let exponent := leading - count
    (neighbour? x exponent).map (Digits.ofMultiple · exponent)
  ((List.range 17).findSome? attempt).getD (Digits.ofMultiple x.units 0)

end LoadProbe.Binary64
