import DateAdjust.Calendar
import DateAdjust.Gregorian.Checked

/-! Ranges of shifts reckoned in words of 64 bits. -/

namespace DateAdjust.ShiftRange

def monthsChecked (year : Int) (month : Nat) : Checked ShiftRange := do
  let current ← Width.long.monthIndex year month
  let first ← Width.long.monthIndex Year.first.val Month.january.val
  let least ← Width.long.hold (first - current)
  let last ← Width.long.monthIndex Year.last.val Month.december.val
  let greatest ← Width.long.hold (last - current)
  return { unit := .month, least, greatest }

def daysChecked (date : CivilDate) : Checked ShiftRange := do
  let current ← Width.long.dayNumber date
  let lastDay ← monthLengthChecked Year.last.val Month.december.val
  let first ← Width.long.dayNumber
    { year := Year.first.val, month := Month.january.val, day := Day.first.val }
  let least ← Width.long.hold (first - current)
  let last ← Width.long.dayNumber
    { year := Year.last.val, month := Month.december.val, day := lastDay }
  let greatest ← Width.long.hold (last - current)
  return { unit := .day, least, greatest }

end DateAdjust.ShiftRange
