import Mathlib.Logic.Basic

/-!
The proleptic Gregorian calendar over Julian day numbers, and a moment's calendar
fields in a zone with a constant offset. Two moments have the same fields only when
they are the same millisecond.
-/

namespace Calendar

structure Date where
  year : Int
  month : Int
  day : Int
  deriving DecidableEq, Repr

structure DateTime where
  date : Date
  hour : Int
  minute : Int
  second : Int
  msec : Int
  deriving DecidableEq, Repr

def century (day : Int) : Int := (4 * day + 3) / 146097

def dayOfCentury (day : Int) : Int := day - 146097 * century day / 4

def yearOfCentury (day : Int) : Int := (4 * day + 3) / 1461

def dayOfYear (day : Int) : Int := day - 1461 * yearOfCentury day / 4

def monthOfYear (day : Int) : Int := (5 * day + 2) / 153

def dayOfMonth (day : Int) : Int := day - (153 * monthOfYear day + 2) / 5

def Date.ofJulianDay (julianDay : Int) : Date :=
  let inCentury := dayOfCentury (julianDay + 32044)
  let inYear := dayOfYear inCentury
  { year := 100 * century (julianDay + 32044) + yearOfCentury inCentury - 4800 +
      monthOfYear inYear / 10
    month := monthOfYear inYear + 3 - 12 * (monthOfYear inYear / 10)
    day := dayOfMonth inYear + 1 }

def DateTime.ofMSecs (offset msecs : Int) : DateTime :=
  let zoned := msecs + offset
  { date := Date.ofJulianDay (2440588 + zoned / 86400000)
    hour := zoned / 3600000 % 24
    minute := zoned / 60000 % 60
    second := zoned / 1000 % 60
    msec := zoned % 1000 }

example : DateTime.ofMSecs 3600000 1709247599999 = ⟨⟨2024, 2, 29⟩, 23, 59, 59, 999⟩ := by decide

theorem dayOfCentury_bounds (day : Int) : 0 ≤ dayOfCentury day ∧ dayOfCentury day ≤ 36524 := by
  simp only [dayOfCentury, century]
  omega

theorem yearOfCentury_bounds {day : Int} (low : 0 ≤ day) (high : day ≤ 36524) :
    0 ≤ yearOfCentury day ∧ yearOfCentury day ≤ 99 := by
  simp only [yearOfCentury]
  omega

theorem dayOfYear_bounds (day : Int) : 0 ≤ dayOfYear day ∧ dayOfYear day ≤ 365 := by
  simp only [dayOfYear, yearOfCentury]
  omega

theorem monthOfYear_bounds {day : Int} (low : 0 ≤ day) (high : day ≤ 365) :
    0 ≤ monthOfYear day ∧ monthOfYear day ≤ 11 := by
  simp only [monthOfYear]
  omega

theorem dayOfMonth_bounds (day : Int) : 0 ≤ dayOfMonth day ∧ dayOfMonth day ≤ 30 := by
  simp only [dayOfMonth, monthOfYear]
  omega

theorem Date.month_bounds (julianDay : Int) :
    1 ≤ (Date.ofJulianDay julianDay).month ∧ (Date.ofJulianDay julianDay).month ≤ 12 := by
  obtain ⟨low, high⟩ := dayOfYear_bounds (dayOfCentury (julianDay + 32044))
  have month := monthOfYear_bounds low high
  simp only [Date.ofJulianDay]
  omega

theorem Date.day_bounds (julianDay : Int) :
    1 ≤ (Date.ofJulianDay julianDay).day ∧ (Date.ofJulianDay julianDay).day ≤ 31 := by
  have day := dayOfMonth_bounds (dayOfYear (dayOfCentury (julianDay + 32044)))
  simp only [Date.ofJulianDay]
  omega

theorem Date.ofJulianDay_inj {first second : Int}
    (same : Date.ofJulianDay first = Date.ofJulianDay second) : first = second := by
  simp only [Date.ofJulianDay, Date.mk.injEq] at same
  obtain ⟨years, months, days⟩ := same
  have firstCentury := dayOfCentury_bounds (first + 32044)
  have secondCentury := dayOfCentury_bounds (second + 32044)
  have firstYear := yearOfCentury_bounds firstCentury.1 firstCentury.2
  have secondYear := yearOfCentury_bounds secondCentury.1 secondCentury.2
  have firstDay := dayOfYear_bounds (dayOfCentury (first + 32044))
  have secondDay := dayOfYear_bounds (dayOfCentury (second + 32044))
  have firstMonth := monthOfYear_bounds firstDay.1 firstDay.2
  have secondMonth := monthOfYear_bounds secondDay.1 secondDay.2
  have sameMonth : monthOfYear (dayOfYear (dayOfCentury (first + 32044))) =
      monthOfYear (dayOfYear (dayOfCentury (second + 32044))) := by omega
  have sameDay : dayOfYear (dayOfCentury (first + 32044)) =
      dayOfYear (dayOfCentury (second + 32044)) := by
    simp only [dayOfMonth, sameMonth] at days
    omega
  have sameYear : century (first + 32044) = century (second + 32044) ∧
      yearOfCentury (dayOfCentury (first + 32044)) =
        yearOfCentury (dayOfCentury (second + 32044)) := by omega
  have sameDayOfCentury : dayOfCentury (first + 32044) = dayOfCentury (second + 32044) := by
    generalize dayOfCentury (first + 32044) = left at *
    generalize dayOfCentury (second + 32044) = right at *
    simp only [dayOfYear, sameYear.2] at sameDay
    omega
  simp only [dayOfCentury, sameYear.1] at sameDayOfCentury
  omega

theorem DateTime.ofMSecs_inj {offset first second : Int}
    (same : DateTime.ofMSecs offset first = DateTime.ofMSecs offset second) : first = second := by
  simp only [DateTime.ofMSecs, DateTime.mk.injEq] at same
  obtain ⟨dates, hours, minutes, seconds, msecs⟩ := same
  have days := Date.ofJulianDay_inj dates
  omega

end Calendar
