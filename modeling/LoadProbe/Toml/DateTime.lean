import LoadProbe.Calendar

/-!
# Dates and times in TOML

A date, a time of day, or both with an offset, brought into the usual form: `T` between date and
time, no zeros at the end of a fraction, a capital `Z`.
-/

namespace LoadProbe.Toml

open LoadProbe.Text LoadProbe.Calendar

/-- A number of exactly `count` digits. -/
def fixedDigits? : Nat → List Char → Option (Nat × List Char)
  | count, cs =>
      let digits := cs.take count
      if digits.length = count && digits.all Char.isDigit then
        some (natOfDigits digits, cs.drop count)
      else none

/-- A given character. -/
def mark? (c : Char) : List Char → Option (List Char)
  | d :: cs => if d = c then some cs else none
  | [] => none

/-- A date. -/
def date? (cs : List Char) : Option (String × List Char) := do
  let (year, cs) ← fixedDigits? 4 cs
  let (month, cs) ← fixedDigits? 2 (← mark? '-' cs)
  let (day, cs) ← fixedDigits? 2 (← mark? '-' cs)
  if 1 ≤ month ∧ month ≤ 12 ∧ 1 ≤ day ∧ day ≤ 31 then
    some (Date.text ⟨year, month, day⟩, cs)
  else none

/-- The part of a second in nanoseconds, of which more digits are cut off. -/
def nanos? : List Char → Option (Nat × List Char)
  | '.' :: cs =>
      let digits := cs.takeWhile Char.isDigit
      if digits.isEmpty then none
      else
        some (natOfDigits (digits.take 9) * Nat.pow 10 (9 - digits.length),
          cs.drop digits.length)
  | cs => some (0, cs)

/-- A part of a second without zeros at the end. -/
def nanosText (nanos : Nat) : String :=
  if nanos = 0 then ""
  else "." ++ String.ofList (dropZeros (zeroPadded 9 nanos).toList)
where
  dropZeros (cs : List Char) : List Char := (cs.reverse.dropWhile (· = '0')).reverse

/-- A time of day. -/
def time? (cs : List Char) : Option (String × List Char) := do
  let (hour, cs) ← fixedDigits? 2 cs
  let (minute, cs) ← fixedDigits? 2 (← mark? ':' cs)
  let (second, cs) ← fixedDigits? 2 (← mark? ':' cs)
  let (nanos, cs) ← nanos? cs
  if hour ≤ 24 ∧ minute ≤ 59 ∧ second ≤ 59 then
    some (zeroPadded 2 hour ++ ":" ++ zeroPadded 2 minute ++ ":" ++ zeroPadded 2 second
      ++ nanosText nanos, cs)
  else none

/-- An offset from coordinated universal time. -/
def offset? : List Char → Option String
  | [] => some ""
  | ['Z'] | ['z'] => some "Z"
  | sign :: cs => do
      let (hours, cs) ← fixedDigits? 2 cs
      let (minutes, cs) ← fixedDigits? 2 (← mark? ':' cs)
      if (sign = '+' ∨ sign = '-') ∧ cs.isEmpty then
        some ((if sign = '-' ∧ hours ≠ 0 then "-" else "+") ++ zeroPadded 2 hours ++ ":"
          ++ zeroPadded 2 minutes)
      else none

/-- The usual form of a date, a time, or both. -/
def dateTimeText? (cs : List Char) : Option String :=
  if cs[2]? = some ':' then do
    let (time, rest) ← time? cs
    if rest.isEmpty then some time else none
  else do
    let (date, rest) ← date? cs
    match rest with
    | [] => some date
    | separator :: rest =>
        if separator = 'T' ∨ separator = 't' ∨ separator = ' ' then
          let (time, rest) ← time? rest
          return date ++ "T" ++ time ++ (← offset? rest)
        else none

end LoadProbe.Toml
