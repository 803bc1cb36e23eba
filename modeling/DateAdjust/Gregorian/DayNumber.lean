import DateAdjust.Gregorian.Basic

/-! Days counted from 1 January 1970. Years are taken to begin in March, so that a leap day is the
last day of its year; 400 such years make a cycle of 146097 days. -/

namespace DateAdjust

/-- Days of a March-based year before its month, March being month 0. -/
def daysBeforeMonth (monthOfYear : Nat) : Nat :=
  (153 * monthOfYear + 2) / 5

def daysBeforeYear (yearOfCycle : Nat) : Nat :=
  365 * yearOfCycle + (yearOfCycle / 4 - yearOfCycle / 100)

/-- The year of the cycle that holds a day of the cycle, found by whole centuries, whole spans of
four years and whole years. The last century and the last year of a span may be a day longer. -/
def yearOfCycle (dayOfCycle : Nat) : Nat :=
  let century := min 3 (dayOfCycle / 36524)
  let dayOfCentury := dayOfCycle - 36524 * century
  let yearOfSpan := min 3 (dayOfCentury % 1461 / 365)
  100 * century + 4 * (dayOfCentury / 1461) + yearOfSpan

def CivilDate.dayNumber (date : CivilDate) : Int :=
  let marchYear := if date.month ≤ 2 then date.year - 1 else date.year
  let monthOfYear := if date.month ≤ 2 then date.month + 9 else date.month - 3
  146097 * (marchYear / 400) + daysBeforeYear (marchYear % 400).toNat
    + daysBeforeMonth monthOfYear + date.day - 1 - 719468

def CivilDate.ofDayNumber (number : Int) : CivilDate :=
  let days := number + 719468
  let dayOfCycle := (days % 146097).toNat
  let dayOfYear := dayOfCycle - daysBeforeYear (yearOfCycle dayOfCycle)
  let marchYear := 400 * (days / 146097) + yearOfCycle dayOfCycle
  let monthOfYear := (5 * dayOfYear + 2) / 153
  let month := if monthOfYear < 10 then monthOfYear + 3 else monthOfYear - 9
  { year := if month ≤ 2 then marchYear + 1 else marchYear
    month
    day := dayOfYear - daysBeforeMonth monthOfYear + 1 }

end DateAdjust
