import DateAdjust.Checked
import DateAdjust.Gregorian.Basic

/-! Month and day numbers reckoned one operation at a time, with every result held in a word. The
year of a day is found by one division, after the leap days before it are taken out. -/

namespace DateAdjust

def monthLengthChecked (year : Int) (month : Nat) : Checked Nat :=
  if 1 ≤ month ∧ month ≤ 12 then .ok (monthLength year month) else .error (.noMonth month)

namespace Width

variable (width : Width)

def monthIndex (year : Int) (month : Nat) : Checked Int := do
  let months ← width.hold (year * 12)
  let months ← width.hold (months + month)
  width.hold (months - 1)

def daysBeforeMonth (monthOfYear : Int) : Checked Int := do
  let fifths ← width.hold (153 * monthOfYear)
  let fifths ← width.hold (fifths + 2)
  width.hold (fifths.tdiv 5)

def daysBeforeYear (yearOfCycle : Int) : Checked Int := do
  let days ← width.hold (365 * yearOfCycle)
  let fourths ← width.hold (yearOfCycle.tdiv 4)
  let days ← width.hold (days + fourths)
  let centuries ← width.hold (yearOfCycle.tdiv 100)
  width.hold (days - centuries)

def yearOfCycle (dayOfCycle : Int) : Checked Int := do
  let fourths ← width.hold (dayOfCycle.tdiv 1460)
  let days ← width.hold (dayOfCycle - fourths)
  let centuries ← width.hold (dayOfCycle.tdiv 36524)
  let days ← width.hold (days + centuries)
  let cycles ← width.hold (dayOfCycle.tdiv 146096)
  let days ← width.hold (days - cycles)
  width.hold (days.tdiv 365)

/-- The March-based year of a date and the month in it, March being month 0. -/
def marchMonth (date : CivilDate) : Checked (Int × Int) := do
  let marchYear ← width.hold (date.year - if date.month ≤ 2 then 1 else 0)
  let monthOfYear ← width.hold (date.month + if 2 < date.month then -3 else 9)
  return (marchYear, monthOfYear)

def civilMonth (marchYear monthOfYear : Int) : Checked (Int × Int) := do
  let month ← width.hold (monthOfYear + if monthOfYear < 10 then 3 else -9)
  let year ← width.hold (marchYear + if month ≤ 2 then 1 else 0)
  return (year, month)

def monthAndDay (dayOfYear : Int) : Checked (Int × Int) := do
  let fifths ← width.hold (5 * dayOfYear)
  let fifths ← width.hold (fifths + 2)
  let monthOfYear ← width.hold (fifths.tdiv 153)
  let daysBefore ← width.daysBeforeMonth monthOfYear
  let daysSince ← width.hold (dayOfYear - daysBefore)
  let day ← width.hold (daysSince + 1)
  return (monthOfYear, day)

def dayNumber (date : CivilDate) : Checked Int := do
  let (marchYear, monthOfYear) ← width.marchMonth date
  let cycle ← width.hold (marchYear / 400)
  let cycleYears ← width.hold (cycle * 400)
  let yearOfCycle ← width.hold (marchYear - cycleYears)
  let daysBefore ← width.daysBeforeMonth monthOfYear
  let daysWith ← width.hold (daysBefore + date.day)
  let dayOfYear ← width.hold (daysWith - 1)
  let yearDays ← width.daysBeforeYear yearOfCycle
  let dayOfCycle ← width.hold (yearDays + dayOfYear)
  let cycleDays ← width.hold (cycle * 146097)
  let days ← width.hold (cycleDays + dayOfCycle)
  width.hold (days - 719468)

def dateInCycle (cycle dayOfCycle : Int) : Checked CivilDate := do
  let yearOfCycle ← width.yearOfCycle dayOfCycle
  let yearDays ← width.daysBeforeYear yearOfCycle
  let dayOfYear ← width.hold (dayOfCycle - yearDays)
  let (monthOfYear, day) ← width.monthAndDay dayOfYear
  let cycleYears ← width.hold (cycle * 400)
  let marchYear ← width.hold (yearOfCycle + cycleYears)
  let (year, month) ← width.civilMonth marchYear monthOfYear
  return { year, month := ← narrowTo UInt8.size month, day := ← narrowTo UInt8.size day }

def ofDayNumber (number : Int) : Checked CivilDate := do
  let days ← width.hold (number + 719468)
  let cycle ← width.hold (days / 146097)
  let cycleDays ← width.hold (cycle * 146097)
  let dayOfCycle ← width.hold (days - cycleDays)
  width.dateInCycle cycle dayOfCycle

end Width

end DateAdjust
