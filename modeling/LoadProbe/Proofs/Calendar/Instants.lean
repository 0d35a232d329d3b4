import LoadProbe.Proofs.Calendar.Days
import LoadProbe.Proofs.Text.Numerals
import LoadProbe.Proofs.Text.Runs

/-!
# Instants as text

RFC 3339 from the reader's side: a date of the calendar, a time of day in which a minute may have a
second 60, any number of digits up to nine for the part of a second, and `Z` for coordinated
universal time.  Years beyond four digits have a sign in front, as in ISO 8601.

* `Calendar.date?` and `Calendar.timeOfDay?` read the two halves of a text,
  `Timestamp.ofRfc3339?` all of it.
* `Timestamp.nanosSinceEpoch` is where an instant lies, `Timestamp.settled` the same instant with a
  leap second only at the end of a minute.
* `Timestamp.ofRfc3339?_rfc3339`: the text of an instant is read as that instant.
-/

namespace LoadProbe

open Text

namespace Calendar

/-! ## Reading -/

/-- A number of exactly `width` digits, and what is left. -/
def field? (width : Nat) (cs : List Char) : Option (Nat × List Char) :=
  let digits := cs.take width
  if digits.length = width ∧ digits.all Char.isDigit then
    some (natOfDigits digits, cs.drop width)
  else none

/-- A year of four digits, or of four digits or more behind a sign. -/
def year? (cs : List Char) : Option (Int × List Char) :=
  let (negative, unsigned) := splitSign cs
  let digits := unsigned.takeWhile Char.isDigit
  let rest := unsigned.dropWhile Char.isDigit
  if digits.length = 4 ∨ 4 < digits.length ∧ unsigned.length < cs.length then
    some (if negative then -(natOfDigits digits : Int) else natOfDigits digits, rest)
  else none

/-- What is left after the given character. -/
def mark? (mark : Char) : List Char → Option (List Char)
  | c :: cs => if c = mark then some cs else none
  | [] => none

/-- A point and up to nine digits as nanoseconds, none if there is no point. -/
def fraction? : List Char → Option (Nat × List Char)
  | '.' :: cs =>
      let digits := cs.takeWhile Char.isDigit
      if 1 ≤ digits.length ∧ digits.length ≤ 9 then
        some (natOfDigits digits * 10 ^ (9 - digits.length), cs.dropWhile Char.isDigit)
      else none
  | cs => some (0, cs)

/-- A time of day. -/
structure TimeOfDay where
  hour : Nat
  minute : Nat
  second : Nat
  nanos : Nat

/-- A time of day as far as it can be written; a minute may have a second 60. -/
structure TimeOfDay.IsValid (time : TimeOfDay) : Prop where
  hour_lt : time.hour < 24
  minute_lt : time.minute < 60
  second_le : time.second ≤ 60

/-- A date as `year-month-day`. -/
def date? (cs : List Char) : Option (Date × List Char) := do
  let (year, cs) ← year? cs
  let cs ← mark? '-' cs
  let (month, cs) ← field? 2 cs
  let cs ← mark? '-' cs
  let (day, cs) ← field? 2 cs
  return (⟨year, month, day⟩, cs)

/-- A time of day as `hour:minute:second`, with a part of a second or without. -/
def timeOfDay? (cs : List Char) : Option (TimeOfDay × List Char) := do
  let (hour, cs) ← field? 2 cs
  let cs ← mark? ':' cs
  let (minute, cs) ← field? 2 cs
  let cs ← mark? ':' cs
  let (second, cs) ← field? 2 cs
  let (nanos, cs) ← fraction? cs
  return (⟨hour, minute, second, nanos⟩, cs)

end Calendar

open Calendar

instance (time : TimeOfDay) : Decidable time.IsValid :=
  decidable_of_iff (time.hour < 24 ∧ time.minute < 60 ∧ time.second ≤ 60)
    ⟨fun ⟨hhour, hminute, hsecond⟩ => ⟨hhour, hminute, hsecond⟩,
      fun ⟨hhour, hminute, hsecond⟩ => ⟨hhour, hminute, hsecond⟩⟩

namespace Timestamp

/-- The instant of a date and a time of day, if there are such ones.  The second 60 is the leap
second behind the second 59. -/
def ofDateTime? (d : Date) (time : TimeOfDay) : Option Timestamp :=
  let start := d.dayNumber * 86400 + time.hour * 3600 + time.minute * 60
  if d.IsValid ∧ time.IsValid then
    some (if time.second = 60 then ⟨start + 59, 1000000000 + time.nanos⟩
      else ⟨start + time.second, time.nanos⟩)
  else none

/-- Reads an instant. -/
def ofRfc3339? (text : String) : Option Timestamp := do
  let (date, cs) ← date? text.toList
  let cs ← mark? 'T' cs
  let (time, cs) ← timeOfDay? cs
  if cs = ['Z'] then ofDateTime? date time else none

/-- The nanoseconds from the beginning of 1970 to an instant. -/
def nanosSinceEpoch (t : Timestamp) : Int := t.seconds * 1000000000 + t.nanos

/-- The same instant, in a leap second only if it lies at the end of a minute. -/
def settled (t : Timestamp) : Timestamp :=
  if t.nanos < 1000000000 ∨ t.seconds % 60 = 59 then t
  else ⟨t.seconds + 1, t.nanos - 1000000000⟩

theorem nanosSinceEpoch_settled (t : Timestamp) :
    t.settled.nanosSinceEpoch = t.nanosSinceEpoch := by
  unfold settled
  split
  case isTrue => rfl
  case isFalse h =>
      show (t.seconds + 1) * 1000000000 + ((t.nanos - 1000000000 : Nat) : Int) =
        t.seconds * 1000000000 + t.nanos
      omega

end Timestamp

namespace Calendar

/-! ## Numbers of fixed width -/

theorem natOfDigits_zeros (zeros : Nat) (digits : List Char) :
    natOfDigits (List.replicate zeros '0' ++ digits) = natOfDigits digits := by
  induction zeros with
  | zero => rfl
  | succ zeros ih => exact ih

/-- A padded number is a run of digits that spell it. -/
theorem isDigit_zeroPadded {width n : Nat} :
    ∀ c ∈ (zeroPadded width n).toList, c.isDigit = true := by
  intro c hc
  rw [zeroPadded, String.toList_ofList] at hc
  rcases List.mem_append.mp hc with hzero | hdigit
  · obtain ⟨-, rfl⟩ := List.mem_replicate.mp hzero
    rfl
  · exact (isNumeral_toDigits n).isDigit c hdigit

theorem natOfDigits_zeroPadded (width n : Nat) :
    natOfDigits (zeroPadded width n).toList = n := by
  rw [zeroPadded, String.toList_ofList, natOfDigits_zeros, natOfDigits_toDigits]

theorem length_zeroPadded (width n : Nat) :
    (zeroPadded width n).toList.length = max width (Nat.toDigits 10 n).length := by
  rw [zeroPadded, String.toList_ofList, List.length_append, List.length_replicate]
  omega

/-- A number that fits has the given width. -/
theorem length_zeroPadded_of_lt {width n : Nat} (hwidth : 0 < width) (h : n < 10 ^ width) :
    (zeroPadded width n).toList.length = width := by
  have hdigits := (Nat.length_toDigits_le_iff (by decide) hwidth).mpr h
  rw [length_zeroPadded]
  omega

theorem field?_zeroPadded {width n : Nat} (hwidth : 0 < width) (h : n < 10 ^ width)
    (rest : List Char) : field? width ((zeroPadded width n).toList ++ rest) = some (n, rest) := by
  have hlength := length_zeroPadded_of_lt hwidth h
  have htake : ((zeroPadded width n).toList ++ rest).take width = (zeroPadded width n).toList :=
    List.take_left' hlength
  have hdrop : ((zeroPadded width n).toList ++ rest).drop width = rest := List.drop_left' hlength
  have hall : (zeroPadded width n).toList.all Char.isDigit = true :=
    List.all_eq_true.mpr isDigit_zeroPadded
  simp [field?, htake, hdrop, hlength, hall, natOfDigits_zeroPadded]

/-! ## Years and parts of seconds -/

/-- A year is its digits with a sign in front, unless there are four of them. -/
theorem isSigned_yearText (year : Int) :
    IsSigned (zeroPadded 4 year.natAbs).toList (decide (year < 0)) (yearText year).toList ∧
      ((zeroPadded 4 year.natAbs).toList.length = 4 ∨
        (zeroPadded 4 year.natAbs).toList.length < (yearText year).toList.length) := by
  unfold yearText
  by_cases hnegative : year < 0
  · have htext : ("-" ++ zeroPadded 4 year.natAbs).toList =
        '-' :: (zeroPadded 4 year.natAbs).toList := by simp
    rw [if_pos hnegative, htext, decide_eq_true hnegative]
    exact ⟨.minus, .inr (Nat.lt_succ_self _)⟩
  rw [if_neg hnegative, decide_eq_false hnegative]
  by_cases hlate : 9999 < year
  · have htext : ("+" ++ zeroPadded 4 year.natAbs).toList =
        '+' :: (zeroPadded 4 year.natAbs).toList := by simp
    rw [if_pos hlate, htext]
    exact ⟨.plus, .inr (Nat.lt_succ_self _)⟩
  · rw [if_neg hlate, String.empty_append]
    exact ⟨.bare, .inl (length_zeroPadded_of_lt (by decide) (by omega))⟩

theorem year?_yearText (year : Int) {rest : List Char}
    (hrest : ∀ c ∈ rest.head?, c.isDigit = false) :
    year? ((yearText year).toList ++ rest) = some (year, rest) := by
  obtain ⟨hsigned, hlonger⟩ := isSigned_yearText year
  have hlength : 4 ≤ (zeroPadded 4 year.natAbs).toList.length := by
    rw [length_zeroPadded]
    exact Nat.le_max_left 4 _
  have hvalue := natOfDigits_zeroPadded 4 year.natAbs
  have hdigits : ∀ c ∈ (zeroPadded 4 year.natAbs).toList, c.isDigit = true := isDigit_zeroPadded
  generalize (zeroPadded 4 year.natAbs).toList = digits at *
  have hnumeral : IsNumeral digits := ⟨List.ne_nil_of_length_pos (by omega), hdigits⟩
  unfold year?
  simp only [hnumeral.splitSign_append hsigned rest, takeWhile_run hdigits hrest,
    dropWhile_run hdigits hrest, List.length_append, hvalue]
  rw [if_pos (by omega)]
  by_cases hnegative : year < 0
  · rw [decide_eq_true hnegative, if_pos rfl]
    congr 2
    omega
  · rw [decide_eq_false hnegative, if_neg Bool.false_ne_true]
    congr 2
    omega

/-- Digits behind a point are counted from the first one. -/
theorem fraction?_point {width n : Nat} (hlow : 0 < width) (hhigh : width ≤ 9)
    (h : n < 10 ^ width) {rest : List Char} (hrest : ∀ c ∈ rest.head?, c.isDigit = false) :
    fraction? (("." ++ zeroPadded width n).toList ++ rest) =
      some (n * 10 ^ (9 - width), rest) := by
  have hlength := length_zeroPadded_of_lt hlow h
  have htext : ("." ++ zeroPadded width n).toList ++ rest =
      '.' :: ((zeroPadded width n).toList ++ rest) := by simp
  have hwidth : 1 ≤ width ∧ width ≤ 9 := ⟨hlow, hhigh⟩
  rw [htext, fraction?]
  simp only [takeWhile_run isDigit_zeroPadded hrest, dropWhile_run isDigit_zeroPadded hrest,
    hlength, natOfDigits_zeroPadded, if_pos hwidth]

theorem fraction?_fractionText {nanos : Nat} (h : nanos < 1000000000) {rest : List Char}
    (hrest : ∀ c ∈ rest.head?, c.isDigit = false ∧ c ≠ '.') :
    fraction? ((Timestamp.fractionText nanos).toList ++ rest) = some (nanos, rest) := by
  have hdigit : ∀ c ∈ rest.head?, c.isDigit = false := fun c hc => (hrest c hc).1
  unfold Timestamp.fractionText
  split
  case isTrue hzero =>
      rw [String.toList_empty, List.nil_append, hzero, fraction?.eq_def]
      split
      case h_1 => exact absurd rfl (hrest '.' rfl).2
      case h_2 => rfl
  split
  case isTrue hmillis =>
      rw [fraction?_point (by decide) (by decide) (by omega) hdigit]
      congr 2
      omega
  split
  case isTrue hmicros =>
      rw [fraction?_point (by decide) (by decide) (by omega) hdigit]
      congr 2
      omega
  case isFalse =>
      rw [fraction?_point (by decide) (by decide) (by omega) hdigit]
      congr 2
      omega

/-! ## Dates and times -/

theorem mark?_cons (c : Char) (rest : List Char) : mark? c (c :: rest) = some rest := if_pos rfl

theorem field?_two {n : Nat} (h : n < 100) (rest : List Char) :
    field? 2 ((zeroPadded 2 n).toList ++ rest) = some (n, rest) :=
  field?_zeroPadded (by decide) h rest

/-- A date of the calendar is read back from its text. -/
theorem date?_text {d : Date} (h : d.IsValid) (rest : List Char) :
    date? (d.text.toList ++ rest) = some (d, rest) := by
  have hmonth : d.month < 100 := Nat.lt_of_le_of_lt h.month_le (by decide)
  have hday : d.day < 100 := Nat.lt_of_le_of_lt h.day_le_31 (by decide)
  have htext : d.text.toList ++ rest = (yearText d.year).toList ++ '-' ::
      ((zeroPadded 2 d.month).toList ++ '-' :: ((zeroPadded 2 d.day).toList ++ rest)) := by
    simp [Date.text]
  have hyear : ∀ rest, year? ((yearText d.year).toList ++ '-' :: rest) =
      some (d.year, '-' :: rest) := fun rest => year?_yearText d.year (by simp)
  rw [htext, date?, hyear]
  simp only [mark?_cons, field?_two hmonth, field?_two hday, Option.bind_eq_bind, Option.bind_some]
  rfl

/-- The time of day that stands in the text of an instant. -/
def timeOf (t : Timestamp) : TimeOfDay where
  hour := (t.seconds % 86400).toNat / 3600
  minute := (t.seconds % 86400).toNat / 60 % 60
  second := (t.seconds % 86400).toNat % 60 + t.nanos / 1000000000
  nanos := t.nanos % 1000000000

theorem isValid_timeOf {t : Timestamp} (h : t.nanos < 2000000000) : (timeOf t).IsValid := by
  refine ⟨?_, ?_, ?_⟩
  · show (t.seconds % 86400).toNat / 3600 < 24
    omega
  · show (t.seconds % 86400).toNat / 60 % 60 < 60
    omega
  · show (t.seconds % 86400).toNat % 60 + t.nanos / 1000000000 ≤ 60
    omega

theorem timeOfDay?_timeText {t : Timestamp} (h : t.nanos < 2000000000) {rest : List Char}
    (hrest : ∀ c ∈ rest.head?, c.isDigit = false ∧ c ≠ '.') :
    timeOfDay? (t.timeText.toList ++
      ((Timestamp.fractionText (t.nanos % 1000000000)).toList ++ rest)) =
      some (timeOf t, rest) := by
  have hseconds : t.seconds.fmod 86400 = t.seconds % 86400 :=
    Int.fmod_eq_emod_of_nonneg _ (by omega)
  obtain ⟨hhour, hminute, hsecond⟩ := isValid_timeOf h
  have hfraction := fraction?_fractionText (Nat.mod_lt t.nanos (by decide)) hrest
  have htext : ∀ more, t.timeText.toList ++ more = (zeroPadded 2 (timeOf t).hour).toList ++ ':' ::
      ((zeroPadded 2 (timeOf t).minute).toList ++ ':' ::
        ((zeroPadded 2 (timeOf t).second).toList ++ more)) := by
    intro more
    simp [Timestamp.timeText, hseconds, timeOf]
  rw [htext, timeOfDay?, field?_two (by omega)]
  simp only [mark?_cons, field?_two (Nat.lt_trans hminute (by decide)),
    field?_two (Nat.lt_of_le_of_lt hsecond (by decide)), hfraction, Option.bind_eq_bind,
    Option.bind_some]
  rfl

end Calendar

/-! ## The text of an instant -/

namespace Timestamp

/-- The date and the time of day of an instant are those of the instant. -/
theorem ofDateTime?_date {t : Timestamp} (h : t.nanos < 2000000000) :
    ofDateTime? t.date (timeOf t) = some t.settled := by
  have hday : t.seconds.fdiv 86400 = t.seconds / 86400 :=
    Int.fdiv_eq_ediv_of_nonneg _ (by omega)
  have hnumber : t.date.dayNumber = t.seconds / 86400 := by
    rw [date, dayNumber_dateOfDay, hday]
  rw [ofDateTime?, if_pos ⟨isValid_dateOfDay _, isValid_timeOf h⟩, hnumber, settled]
  obtain ⟨second, hsecond⟩ : ∃ second : Nat, t.seconds % 86400 = second :=
    Int.eq_ofNat_of_zero_le (Int.emod_nonneg _ (by omega))
  simp only [timeOf, hsecond, Int.toNat_natCast]
  by_cases hplain : t.nanos < 1000000000
  · have hbefore : ¬ second % 60 + t.nanos / 1000000000 = 60 := by omega
    rw [if_neg hbefore, if_pos (.inl hplain)]
    exact congrArg some (congrArg₂ mk (by omega) (by omega))
  by_cases hlast : t.seconds % 60 = 59
  · have hleap : second % 60 + t.nanos / 1000000000 = 60 := by omega
    rw [if_pos hleap, if_pos (.inr hlast)]
    exact congrArg some (congrArg₂ mk (by omega) (by omega))
  · have hbefore : ¬ second % 60 + t.nanos / 1000000000 = 60 := by omega
    rw [if_neg hbefore, if_neg (not_or.mpr ⟨hplain, hlast⟩)]
    exact congrArg some (congrArg₂ mk (by omega) (by omega))

/-- Every instant is read back from its text. -/
theorem ofRfc3339?_rfc3339 {t : Timestamp} (h : t.nanos < 2000000000) :
    ofRfc3339? t.rfc3339 = some t.settled := by
  have htext : t.rfc3339.toList = t.date.text.toList ++ 'T' :: (t.timeText.toList ++
      ((fractionText (t.nanos % 1000000000)).toList ++ ['Z'])) := by
    simp [rfc3339]
  have htime := timeOfDay?_timeText h (by simp : ∀ c ∈ ['Z'].head?, c.isDigit = false ∧ c ≠ '.')
  have hvalid : t.date.IsValid := isValid_dateOfDay _
  rw [ofRfc3339?, htext, date?_text hvalid]
  simp only [mark?_cons, htime, Option.bind_eq_bind, Option.bind_some, if_pos]
  exact ofDateTime?_date h

end Timestamp

end LoadProbe
