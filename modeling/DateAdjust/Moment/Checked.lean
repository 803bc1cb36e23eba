import DateAdjust.Calendar.Checked
import DateAdjust.Moment.Timeline

/-! Shifts of moments in words. A moment that the engine does not find is missing, and no report
stands in for it. -/

namespace DateAdjust.MomentEngine

variable {Value : Type} (engine : MomentEngine Value)

def monthsAwayChecked (moment : Value) (amount : Int64) : Checked Value := do
  let count ← narrowTo UInt32.size amount.toInt.natAbs
  present <|
    if amount.toInt < 0 then engine.monthsBefore? moment count
    else engine.monthsAfter? moment count

def daysAwayChecked (moment : Value) (amount : Int64) : Checked Value := do
  let duration ← present (engine.daysDuration? amount.toInt)
  present (engine.add? moment duration)

def addMonthsChecked (moment : Value) (amount : Int64) : Attempt Value := do
  let date := (engine.date moment).civil
  let range ← ShiftRange.monthsChecked date.year date.month
  range.check amount.toInt
  engine.monthsAwayChecked moment amount

def addDaysChecked (moment : Value) (amount : Int64) : Attempt Value := do
  let range ← ShiftRange.daysChecked (engine.date moment).civil
  range.check amount.toInt
  engine.daysAwayChecked moment amount

end DateAdjust.MomentEngine
