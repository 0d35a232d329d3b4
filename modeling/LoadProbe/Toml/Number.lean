import LoadProbe.Binary64.Literal
import LoadProbe.Settings.Tree
import LoadProbe.Text.Layout
import LoadProbe.Toml.DateTime
import LoadProbe.Word

/-!
# Numbers and dates in TOML

Values that are neither quoted nor bracketed.  A word is a run of letters, digits, `_` and `-`; a
number or a date can be several words with dots, colons or plus signs between them.
-/

namespace LoadProbe.Toml

open LoadProbe.Settings LoadProbe.Text

/-- Whether the character can be part of a word. -/
def isWordCharacter (c : Char) : Bool := c.isAlphanum || c = '_' || c = '-'

/-- The word at the beginning, which may be empty, and what follows it. -/
def splitWord (cs : List Char) : List Char × List Char :=
  (cs.takeWhile isWordCharacter, cs.dropWhile isWordCharacter)

/-- The word at the beginning, if there is one. -/
def word? (cs : List Char) : Option (List Char × List Char) :=
  match splitWord cs with
  | ([], _) => none
  | split => some split

/-- Where a run of digits stands: before the first digit, or after some. -/
structure DigitRun where
  first : Bool := true
  leadingZero : Bool := false
  afterUnderscore : Bool := false

/-- The digits at the beginning.  Single underscores between digits are dropped; a zero stands
alone unless leading zeros are allowed. -/
def digitRun? (radix : Nat) (leadingZeros : Bool) (s : DigitRun) :
    List Char → Option (List Char × List Char)
  | [] => if s.first || s.afterUnderscore then none else some ([], [])
  | c :: cs =>
      if (digitValue? radix c).isSome then
        if !s.first && s.leadingZero && !leadingZeros then none
        else
          let s := { first := false, leadingZero := s.leadingZero || (s.first && c = '0') }
          (digitRun? radix leadingZeros s cs).map fun (digits, rest) => (c :: digits, rest)
      else if c = '_' && !s.first && !s.afterUnderscore then
        digitRun? radix leadingZeros { s with afterUnderscore := true } cs
      else if s.first || s.afterUnderscore then none
      else some ([], c :: cs)

/-- Digits in base ten with an optional sign, which stays in front of them. -/
def signedRun? (leadingZeros : Bool) : List Char → Option (List Char × List Char)
  | '-' :: cs => (digitRun? 10 leadingZeros {} cs).map fun (digits, rest) => ('-' :: digits, rest)
  | cs => digitRun? 10 leadingZeros {} cs

/-- An integer of 64 bits in another base. -/
def radixInteger? (radix : Nat) (cs : List Char) : Option Tree := do
  let (digits, rest) ← digitRun? radix true {} cs
  let n ← natOfBase? radix digits
  if rest.isEmpty ∧ n < Word.signedLimit64 then some (.integer n) else none

/-- An integer of 64 bits in base ten. -/
def integer? (cs : List Char) : Option Tree := do
  let (digits, rest) ← signedRun? false cs
  if rest.isEmpty then (signed? (String.ofList digits)).map .integer else none

/-- An exponent after its letter: the rest of the word, or after a plus sign the next one. -/
def exponent? (rest : List Char) : List Char → Option (List Char × List Char)
  | [] => do
      let (w, rest) ← word? (match rest with
        | '+' :: rest => rest
        | rest => rest)
      let (digits, suffix) ← digitRun? 10 true {} w
      if suffix.isEmpty then some (digits, rest) else none
  | cs => do
      let (digits, suffix) ← signedRun? true cs
      if suffix.isEmpty then some (digits, rest) else none

/-- The finite number with the given spelling. -/
def finite? (cs : List Char) : Option Tree :=
  ((Binary64.ofText? (String.ofList cs)).filter Binary64.isFinite).map .float

/-- A number with a fraction or an exponent: `digits` before them, `suffix` the rest of the last
word. -/
def floatFrom? (digits suffix rest : List Char) : Option (Tree × List Char) :=
  match suffix with
  | [] => (finite? digits).map (·, rest)
  | c :: cs => do
      if c ≠ 'e' ∧ c ≠ 'E' then none
      else
        let (exponent, rest) ← exponent? rest cs
        return (← finite? (digits ++ 'e' :: exponent), rest)

/-- A number that starts with a word. -/
def number? (w rest : List Char) : Option (Tree × List Char) :=
  match w with
  | '0' :: 'x' :: cs => (radixInteger? 16 cs).map (·, rest)
  | '0' :: 'o' :: cs => (radixInteger? 8 cs).map (·, rest)
  | '0' :: 'b' :: cs => (radixInteger? 2 cs).map (·, rest)
  | _ =>
      if w.contains 'e' || w.contains 'E' then do
        let (digits, suffix) ← signedRun? false w
        floatFrom? digits suffix rest
      else
        match rest with
        | '.' :: rest => do
            let (after, rest) ← word? rest
            let (digits, suffix) ← signedRun? false w
            let (fraction, last) ← digitRun? 10 true {} after
            if suffix.isEmpty then floatFrom? (digits ++ '.' :: fraction) last rest else none
        | _ =>
            let sign := w.head? = some '-'
            let name := if sign then w.drop 1 else w
            if name = ['i', 'n', 'f'] then some (.float (.infinity sign), rest)
            else if name = ['n', 'a', 'n'] then
              some (.float (if sign then .neg .nan else .nan), rest)
            else (integer? w).map (·, rest)

/-- A word after a mark, both taken over; without the mark nothing is. -/
def markedWord? (mark : Char) (cs : List Char) : Option (List Char × List Char) :=
  match cs with
  | c :: rest =>
      if c = mark then (word? rest).map fun (w, rest) => (mark :: w, rest) else some ([], cs)
  | [] => some ([], cs)

/-- The characters of a time of day after its hour, if there is one. -/
def timeTail? (cs : List Char) : Option (List Char × List Char) :=
  match cs with
  | ':' :: _ => do
      let (minutes, cs) ← markedWord? ':' cs
      let (seconds, cs) ← (mark? ':' cs).bind fun _ => markedWord? ':' cs
      let (fraction, cs) ← markedWord? '.' cs
      let (offset, cs) ← markedWord? '+' cs
      let (offsetMinutes, cs) ← markedWord? ':' cs
      return (minutes ++ seconds ++ fraction ++ offset ++ offsetMinutes, cs)
  | _ => some ([], cs)

/-- The hour after a date and one space. -/
def spacedHour : List Char → List Char × List Char
  | ' ' :: cs =>
      match word? cs with
      | some (w, rest) => (' ' :: w, rest)
      | none => ([], ' ' :: cs)
  | cs => ([], cs)

/-- A date or a time that starts with a word. -/
def dateTime? (w rest : List Char) : Option (Tree × List Char) := do
  let (hour, rest) := spacedHour rest
  let (tail, rest) ← timeTail? rest
  return (.text (← dateTimeText? (w ++ hour ++ tail)), rest)

/-- Whether a word is the beginning of a date. -/
def startsDate (w : List Char) : Bool :=
  w.contains 'T' || w.contains 't' || ((w.drop 1).contains '-'
    && !contains ['e', '-'] w && !contains ['E', '-'] w)

/-- A value that starts with a word. -/
def wordValue? (w rest : List Char) : Option (Tree × List Char) :=
  if w = ['t', 'r', 'u', 'e'] then some (.bool true, rest)
  else if w = ['f', 'a', 'l', 's', 'e'] then some (.bool false, rest)
  else if w = ['i', 'n', 'f'] ∨ w = ['n', 'a', 'n'] then number? w rest
  else
    match w with
    | c :: _ =>
        if c ≠ '-' && !c.isDigit then none
        else if startsDate w || rest.head? = some ':' then dateTime? w rest
        else number? w rest
    | [] => none

end LoadProbe.Toml
