import Mathlib
import LoadProbe.Calendar

/-!
# Days and dates

The Gregorian calendar as everyone knows it: leap years, the lengths of the months, and how many
days lie before a date.  The date of a day is computed without any of these, from March on and by
eras of 400 years, and yet it is the date before which that many days lie.

* `Calendar.IsLeap` and `Calendar.daysInMonth` are the calendar; `Calendar.daysBeforeYear_succ` says
  that a leap year has 366 days and any other 365.
* `Date.IsValid` says that there is such a month and such a day in it, and `Date.dayNumber` counts
  the days from the first of January 1970 on.
* `Calendar.isValid_dateOfDay` and `Calendar.dayNumber_dateOfDay` are about the date of any day.
-/

namespace LoadProbe

namespace Calendar

/-- The years with a 29th of February. -/
def IsLeap (year : Int) : Prop := year % 4 = 0 ∧ (year % 100 ≠ 0 ∨ year % 400 = 0)

instance (year : Int) : Decidable (IsLeap year) :=
  inferInstanceAs (Decidable (_ ∧ _))

/-- The length of a month. -/
def daysInMonth (year : Int) (month : Nat) : Nat :=
  if month = 2 then (if IsLeap year then 29 else 28)
  else if month = 4 ∨ month = 6 ∨ month = 9 ∨ month = 11 then 30
  else 31

/-- The days of a year before the first of a month. -/
def daysBeforeMonth (year : Int) : Nat → Nat
  | 0 => 0
  | 1 => 0
  | month + 2 => daysBeforeMonth year (month + 1) + daysInMonth year (month + 1)

/-- The days from the first of January of the year 1 to the first of January of a year. -/
def daysBeforeYear (year : Int) : Int :=
  365 * (year - 1) + (year - 1) / 4 - (year - 1) / 100 + (year - 1) / 400

/-- From one first of January to the next there are 366 days in a leap year and 365 in another. -/
theorem daysBeforeYear_succ (year : Int) :
    daysBeforeYear (year + 1) = daysBeforeYear year + (if IsLeap year then 366 else 365) := by
  unfold daysBeforeYear
  by_cases hleap : IsLeap year
  · rw [if_pos hleap]
    unfold IsLeap at hleap
    omega
  · rw [if_neg hleap]
    unfold IsLeap at hleap
    omega

end Calendar

open Calendar

namespace Date

/-- There is such a month in a year, and such a day in the month. -/
structure IsValid (d : Date) : Prop where
  one_le_month : 1 ≤ d.month
  month_le : d.month ≤ 12
  one_le_day : 1 ≤ d.day
  day_le : d.day ≤ daysInMonth d.year d.month

instance (d : Date) : Decidable d.IsValid :=
  decidable_of_iff
    (1 ≤ d.month ∧ d.month ≤ 12 ∧ 1 ≤ d.day ∧ d.day ≤ daysInMonth d.year d.month)
    ⟨fun ⟨hfirst, hlast, hlow, hhigh⟩ => ⟨hfirst, hlast, hlow, hhigh⟩,
      fun ⟨hfirst, hlast, hlow, hhigh⟩ => ⟨hfirst, hlast, hlow, hhigh⟩⟩

/-- No month has more than 31 days. -/
theorem IsValid.day_le_31 {d : Date} (h : d.IsValid) : d.day ≤ 31 := by
  refine h.day_le.trans ?_
  unfold daysInMonth
  split
  · split
    · decide
    · decide
  · split
    · decide
    · decide

/-- The days before a date, counted from the first of January of the year 1. -/
def daysBefore (d : Date) : Int :=
  daysBeforeYear d.year + daysBeforeMonth d.year d.month + (d.day - 1)

/-- The number of a date, counted from the first of January 1970. -/
def dayNumber (d : Date) : Int := d.daysBefore - daysBefore ⟨1970, 1, 1⟩

end Date

namespace Calendar

/-! ## Years from March on -/

/-- Where a day of an era lies: in a century, in a group of four years, in a year.  What is left is
less than a year unless the year ends with a leap day. -/
theorem exists_partition {day : Nat} (h : day < 146097) :
    ∃ century group year rest, day = 36524 * century + 1461 * group + 365 * year + rest ∧
      century ≤ 3 ∧ group ≤ 24 ∧ year ≤ 3 ∧ rest ≤ 365 ∧
      (rest = 365 → year = 3 ∧ (group < 24 ∨ century = 3)) := by
  obtain ⟨century, later, hday, hcentury, hlater⟩ : ∃ century later,
      day = 36524 * century + later ∧ century ≤ 3 ∧
        (later < 36524 ∨ later = 36524 ∧ century = 3) :=
    ⟨min (day / 36524) 3, day - 36524 * min (day / 36524) 3, by omega, by omega, by omega⟩
  obtain ⟨year, rest, hyear⟩ : ∃ year rest, later % 1461 = 365 * year + rest ∧ year ≤ 3 ∧
      (rest < 365 ∨ rest = 365 ∧ year = 3) :=
    ⟨min (later % 1461 / 365) 3, later % 1461 - 365 * min (later % 1461 / 365) 3,
      by omega, by omega, by omega⟩
  exact ⟨century, later / 1461, year, rest, by omega, by omega, by omega, by omega, by omega,
    by omega⟩

/-- The year of a day of an era. -/
theorem yearOfEra_eq {century group year rest day : Nat} (hcentury : century ≤ 3)
    (hgroup : group ≤ 24) (hyear : year ≤ 3) (hrest : rest ≤ 365)
    (hleap : rest = 365 → year = 3 ∧ (group < 24 ∨ century = 3))
    (hday : day = 36524 * century + 1461 * group + 365 * year + rest) :
    (day - day / 1460 + day / 36524 - day / 146096) / 365 = 100 * century + 4 * group + year := by
  -- The last day of an era counts as the first of another century, and is taken back.
  have hcenturies : day / 36524 = century + day / 146096 := by
    by_cases hlast : day = 146096
    · omega
    · have hnone : day / 146096 = 0 := by omega
      have hshort : 1461 * group + 365 * year + rest < 36524 := by omega
      omega
  -- Of the leap days before the day one more may be counted, but not on the first of a year.
  have hgroups : day / 1460 = 25 * century + group ∧ rest < 365 ∨
      day / 1460 = 25 * century + group + 1 ∧ 0 < rest := by
    by_cases hearly : 24 * century + group + 365 * year + rest < 1460
    · exact .inl ⟨by omega, by omega⟩
    · exact .inr ⟨by omega, by omega⟩
  rw [hcenturies]
  generalize day / 146096 = last at *
  generalize day / 1460 = groups at *
  omega

/-- The year of an era in which a day lies, and the days of that year before it. -/
theorem exists_yearOfEra {day : Nat} (h : day < 146097) :
    ∃ year rest, (day - day / 1460 + day / 36524 - day / 146096) / 365 = year ∧ year < 400 ∧
      day = 365 * year + year / 4 - year / 100 + rest ∧ rest ≤ 365 ∧
      (rest = 365 → (year + 1) % 4 = 0 ∧ ((year + 1) % 100 ≠ 0 ∨ year + 1 = 400)) := by
  obtain ⟨century, group, year, rest, hday, hcentury, hgroup, hyear, hrest, hleap⟩ :=
    exists_partition h
  have hgroups : (100 * century + 4 * group + year) / 4 = 25 * century + group := by omega
  have hcenturies : (100 * century + 4 * group + year) / 100 = century := by omega
  refine ⟨100 * century + 4 * group + year, rest,
    yearOfEra_eq hcentury hgroup hyear hrest hleap hday, by omega, ?_, hrest, ?_⟩
  · rw [hgroups, hcenturies]
    omega
  intro hlast
  obtain ⟨rfl, hgroup⟩ := hleap hlast
  omega

/-- The date of a day of a year that begins in March. -/
def dateFromMarch (year : Int) (dayOfYear : Nat) : Date :=
  let month := (5 * dayOfYear + 2) / 153
  let day := dayOfYear - (153 * month + 2) / 5 + 1
  if month < 10 then ⟨year, month + 3, day⟩ else ⟨year + 1, month - 9, day⟩

/-- Every day lies in a year from March on, and its date is found there. -/
theorem exists_dateFromMarch (day : Int) :
    ∃ (year : Int) (dayOfYear : Nat), daysBeforeYear (year + 1) + dayOfYear = day + 719468 ∧
      dayOfYear ≤ 365 ∧ (dayOfYear = 365 → IsLeap (year + 1)) ∧
      dateOfDay day = dateFromMarch year dayOfYear := by
  have hera : (day + 719468).fdiv 146097 = (day + 719468) / 146097 :=
    Int.fdiv_eq_ediv_of_nonneg _ (by omega)
  have hdayOfEra : (day + 719468).fmod 146097 = (day + 719468) % 146097 :=
    Int.fmod_eq_emod_of_nonneg _ (by omega)
  obtain ⟨dayOfEra, hnat⟩ : ∃ dayOfEra : Nat, (day + 719468) % 146097 = dayOfEra :=
    Int.eq_ofNat_of_zero_le (Int.emod_nonneg _ (by omega))
  have hsplit : day + 719468 = 146097 * ((day + 719468) / 146097) + dayOfEra := by omega
  obtain ⟨yearOfEra, rest, hyear, hlt, hday, hrest, hleap⟩ :=
    exists_yearOfEra (by omega : dayOfEra < 146097)
  have hdayOfYear : dayOfEra - (365 * yearOfEra + yearOfEra / 4 - yearOfEra / 100) = rest := by
    clear hyear
    omega
  unfold dateOfDay
  simp only [hera, hdayOfEra, hnat, Int.toNat_natCast, hyear, hdayOfYear]
  clear hyear hera hdayOfEra hnat hdayOfYear
  generalize (day + 719468) / 146097 = era at *
  refine ⟨era * 400 + yearOfEra, rest, ?_, hrest, ?_, ?_⟩
  · unfold daysBeforeYear
    omega
  · intro hlast
    have hyears := hleap hlast
    unfold IsLeap
    omega
  · unfold dateFromMarch
    simp only
    split
    case isTrue h =>
        have hmonth : ¬ (5 * rest + 2) / 153 + 3 ≤ 2 := by omega
        rw [if_neg hmonth]
    case isFalse h =>
        have hmonth : (5 * rest + 2) / 153 - 9 ≤ 2 := by omega
        rw [if_pos hmonth]

/-- Five months from March on have 153 days, and so have the next five. -/
theorem daysBeforeMonth_eq {month : Nat} (h : month < 10) (year : Int) :
    daysBeforeMonth year (month + 3) =
      (if IsLeap year then 60 else 59) + (153 * month + 2) / 5 := by
  interval_cases month <;> simp [daysBeforeMonth, daysInMonth] <;> split <;> rfl

theorem daysInMonth_eq {month : Nat} (h : month < 10) (year : Int) :
    daysInMonth year (month + 3) = (153 * (month + 1) + 2) / 5 - (153 * month + 2) / 5 := by
  interval_cases month <;> rfl

/-- What comes behind ten months from March on is January and February. -/
theorem eq_ten_or_eq_eleven {month dayOfYear : Nat} (hmonth : ¬ month < 10) (h : dayOfYear ≤ 365)
    (hlow : 153 * month ≤ 5 * dayOfYear + 2) : month = 10 ∨ month = 11 := by omega

theorem isValid_dateFromMarch {year : Int} {dayOfYear : Nat} (h : dayOfYear ≤ 365)
    (hleap : dayOfYear = 365 → IsLeap (year + 1)) : (dateFromMarch year dayOfYear).IsValid := by
  have hlow : 153 * ((5 * dayOfYear + 2) / 153) ≤ 5 * dayOfYear + 2 := by omega
  have hhigh : 5 * dayOfYear + 2 < 153 * ((5 * dayOfYear + 2) / 153 + 1) := by omega
  unfold dateFromMarch
  generalize (5 * dayOfYear + 2) / 153 = month at *
  simp only
  split
  case isTrue hmonth =>
      refine ⟨?_, ?_, ?_, ?_⟩
      · show 1 ≤ month + 3
        omega
      · show month + 3 ≤ 12
        omega
      · show 1 ≤ dayOfYear - (153 * month + 2) / 5 + 1
        omega
      · show dayOfYear - (153 * month + 2) / 5 + 1 ≤ daysInMonth year (month + 3)
        rw [daysInMonth_eq hmonth]
        omega
  case isFalse hmonth =>
      rcases eq_ten_or_eq_eleven hmonth h hlow with rfl | rfl
      · refine ⟨by simp, by simp, Nat.le_add_left 1 _, ?_⟩
        show dayOfYear - 306 + 1 ≤ 31
        omega
      · refine ⟨by simp, by simp, Nat.le_add_left 1 _, ?_⟩
        show dayOfYear - 337 + 1 ≤ (if IsLeap (year + 1) then 29 else 28)
        by_cases hlast : dayOfYear = 365
        · rw [if_pos (hleap hlast)]
          omega
        · split
          · omega
          · omega

theorem daysBefore_dateFromMarch {year : Int} {dayOfYear : Nat} (h : dayOfYear ≤ 365) :
    (dateFromMarch year dayOfYear).daysBefore = daysBeforeYear (year + 1) + dayOfYear - 306 := by
  have hlow : 153 * ((5 * dayOfYear + 2) / 153) ≤ 5 * dayOfYear + 2 := by omega
  unfold dateFromMarch
  generalize (5 * dayOfYear + 2) / 153 = month at *
  simp only
  split
  case isTrue hmonth =>
      have hyear := daysBeforeYear_succ year
      simp only [Date.daysBefore, daysBeforeMonth_eq hmonth]
      by_cases hleap : IsLeap year
      · simp only [if_pos hleap] at hyear ⊢
        omega
      · simp only [if_neg hleap] at hyear ⊢
        omega
  case isFalse hmonth =>
      rcases eq_ten_or_eq_eleven hmonth h hlow with rfl | rfl
      · show daysBeforeYear (year + 1) + (0 : Nat) + ((dayOfYear - 306 + 1 : Nat) - 1) = _
        omega
      · show daysBeforeYear (year + 1) + (31 : Nat) + ((dayOfYear - 337 + 1 : Nat) - 1) = _
        omega

/-! ## The date of a day -/

/-- The date of a day is a date of the calendar. -/
theorem isValid_dateOfDay (day : Int) : (dateOfDay day).IsValid := by
  obtain ⟨year, dayOfYear, -, hlength, hleap, hdate⟩ := exists_dateFromMarch day
  rw [hdate]
  exact isValid_dateFromMarch hlength hleap

/-- The date of a day has the number of the day. -/
theorem dayNumber_dateOfDay (day : Int) : (dateOfDay day).dayNumber = day := by
  obtain ⟨year, dayOfYear, hday, hlength, -, hdate⟩ := exists_dateFromMarch day
  have hepoch : Date.daysBefore ⟨1970, 1, 1⟩ = 719162 := by decide
  rw [Date.dayNumber, hdate, daysBefore_dateFromMarch hlength, hepoch]
  omega

end Calendar

end LoadProbe
