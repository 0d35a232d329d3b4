import LoadProbe.Text.Digits

/-!
# Dates

Instants as dates and times of day in coordinated universal time.

* `Timestamp` is an instant, `Calendar.dateOfDay` the date of a day.
* `Timestamp.date` and `Timestamp.rfc3339` write an instant.
-/

namespace LoadProbe

/-- An instant: seconds since the beginning of 1970, and nanoseconds within the second.  Nanoseconds
of more than one second belong to a leap second. -/
structure Timestamp where
  seconds : Int
  nanos : Nat
deriving DecidableEq, Inhabited

/-- A date in the Gregorian calendar, extended to all years. -/
structure Date where
  year : Int
  month : Nat
  day : Nat
deriving DecidableEq, Inhabited

namespace Calendar

/-- The date of a day, counted from the first of January 1970.  Years are taken to begin in March,
so that the leap day is the last day of a year; an era is 400 years of 146097 days. -/
def dateOfDay (day : Int) : Date :=
  let shifted := day + 719468
  let era := shifted.fdiv 146097
  let dayOfEra := (shifted.fmod 146097).toNat
  let yearOfEra :=
    (dayOfEra - dayOfEra / 1460 + dayOfEra / 36524 - dayOfEra / 146096) / 365
  let dayOfYear := dayOfEra - (365 * yearOfEra + yearOfEra / 4 - yearOfEra / 100)
  let monthFromMarch := (5 * dayOfYear + 2) / 153
  let day := dayOfYear - (153 * monthFromMarch + 2) / 5 + 1
  let month := if monthFromMarch < 10 then monthFromMarch + 3 else monthFromMarch - 9
  let year := era * 400 + yearOfEra
  ⟨if month ≤ 2 then year + 1 else year, month, day⟩

/-- A number with zeros on the left up to `width` digits. -/
def zeroPadded (width n : Nat) : String :=
  let digits := Nat.toDigits 10 n
  String.ofList (List.replicate (width - digits.length) '0' ++ digits)

/-- A year with at least four digits, and a sign unless it lies between 0 and 9999. -/
def yearText (year : Int) : String :=
  (if year < 0 then "-" else if 9999 < year then "+" else "") ++ zeroPadded 4 year.natAbs

end Calendar

open Calendar

/-- The date as `year-month-day`. -/
def Date.text (d : Date) : String :=
  yearText d.year ++ "-" ++ zeroPadded 2 d.month ++ "-" ++ zeroPadded 2 d.day

namespace Timestamp

/-- The date of an instant. -/
def date (t : Timestamp) : Date := dateOfDay (t.seconds.fdiv 86400)

/-- The time of day as `hour:minute:second`.  A leap second is the second 60. -/
def timeText (t : Timestamp) : String :=
  let s := (t.seconds.fmod 86400).toNat
  zeroPadded 2 (s / 3600) ++ ":" ++ zeroPadded 2 (s / 60 % 60) ++ ":"
    ++ zeroPadded 2 (s % 60 + t.nanos / 1000000000)

/-- The part of a second with 0, 3, 6 or 9 digits, as few as are exact. -/
def fractionText (nanos : Nat) : String :=
  if nanos = 0 then ""
  else if nanos % 1000000 = 0 then "." ++ zeroPadded 3 (nanos / 1000000)
  else if nanos % 1000 = 0 then "." ++ zeroPadded 6 (nanos / 1000)
  else "." ++ zeroPadded 9 nanos

/-- The instant as `date time UTC`, to the second. -/
def shown (t : Timestamp) : String := t.date.text ++ " " ++ t.timeText ++ " UTC"

/-- The instant as RFC 3339 writes it. -/
def rfc3339 (t : Timestamp) : String :=
  t.date.text ++ "T" ++ t.timeText ++ fractionText (t.nanos % 1000000000) ++ "Z"

end Timestamp

end LoadProbe
