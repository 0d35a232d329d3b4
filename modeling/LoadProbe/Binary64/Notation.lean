import LoadProbe.Binary64.Shortest

/-!
# Spelling numbers

How a format writes a floating-point number: which exponents are written out in full, whether a
whole number shows a fraction, and the words for what is not a finite number.

* `Binary64.Notation.spell` writes the shortest digits in a given notation.
* `Binary64.fixed` writes the exact value with a given number of places.
-/

namespace LoadProbe.Binary64

/-- The choices a format makes. -/
structure Notation where
  /-- The exponents of the leading digit for which all digits are written out. -/
  positional : Int → Bool
  /-- What follows the digits of a whole number that is written out. -/
  wholeMark : String
  /-- The words for infinity and for what is not a number. -/
  infinity : String := "inf"
  nan : String := "NaN"

/-- Everything is written out, and whole numbers are bare. -/
def plain : Notation where
  positional _ := true
  wholeMark := ""

/-- The digits around a point; `point` of them stand before it. -/
def spellPositional (wholeMark : String) (d : Digits) : String :=
  if d.point ≤ 0 then
    "0." ++ String.ofList (List.replicate (-d.point).toNat '0' ++ d.digits)
  else
    let before := d.point.toNat
    if d.digits.length ≤ before then
      String.ofList (d.digits ++ List.replicate (before - d.digits.length) '0') ++ wholeMark
    else
      String.ofList (d.digits.take before) ++ "." ++ String.ofList (d.digits.drop before)

/-- One digit, a point if more follow, and the exponent with its sign. -/
def spellScientific (d : Digits) : String :=
  let exponent := d.point - 1
  let fraction := match d.digits.drop 1 with
    | [] => ""
    | more => "." ++ String.ofList more
  String.ofList (d.digits.take 1) ++ fraction ++ "e"
    ++ (if exponent < 0 then "-" else "+") ++ Text.decimal exponent.natAbs

/-- Writes a number. -/
def Notation.spell (choices : Notation) (x : Binary64) : String :=
  if x.isNaN then choices.nan
  else
    let sign := if x.negative then "-" else ""
    if x.isInfinite then sign ++ choices.infinity
    else if x.isZero then sign ++ "0" ++ choices.wholeMark
    else
      let d := shortest x
      if choices.positional (d.point - 1) then sign ++ spellPositional choices.wholeMark d
      else sign ++ spellScientific d

/-- Writes a number with exactly `places` digits after the point, the exact value rounded to
nearest and a tie to even. -/
def fixed (places : Nat) (x : Binary64) : String :=
  if x.isNaN then plain.nan
  else
    let sign := if x.negative then "-" else ""
    if x.isInfinite then sign ++ plain.infinity
    else
      let all := Nat.toDigits 10 (roundQuotient (x.units * Nat.pow 10 places) scale)
      let filled := List.replicate (places + 1 - all.length) '0' ++ all
      let before := filled.length - places
      sign ++ String.ofList (filled.take before) ++ "." ++ String.ofList (filled.drop before)

end LoadProbe.Binary64
