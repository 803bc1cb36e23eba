import DateAdjust.InPlace
import DateAdjust.Timestamp.Calendar

/-! The operations on timestamps in place, with the parts of the date assigned one after another. -/

namespace DateAdjust.Timestamp

def setInPlace (unit : TimeUnit) (value : Nat) : InPlace Timestamp FieldError Unit := do
  let before ← getThe Timestamp
  match unit with
  | .month =>
    let month ← Month.check value
    modify fun timestamp => { timestamp with month }
    modify fun timestamp => { timestamp with day := timestamp.day.clamp before.year.val month }
  | .day =>
    let day ← Day.checkIn before.year.val before.month value
    modify fun timestamp => { timestamp with day }

def addMonthsInPlace (amount : Int) : InPlace Timestamp FieldError Unit := do
  let before ← getThe Timestamp
  (ShiftRange.months before.year.val before.month.val).check amount
  let target := monthIndex before.year.val before.month.val + amount
  let year ← Year.check (target / 12)
  let month ← Month.check (target % 12 + 1)
  modify fun timestamp => { timestamp with year }
  modify fun timestamp => { timestamp with month }
  modify fun timestamp => { timestamp with day := timestamp.day.clamp year.val month }

def addDaysInPlace (amount : Int) : InPlace Timestamp FieldError Unit := do
  let before ← getThe Timestamp
  (ShiftRange.days before.date).check amount
  let target := CivilDate.ofDayNumber (before.date.dayNumber + amount)
  let year ← Year.check target.year
  let month ← Month.check target.month
  let day ← Day.checkIn year.val month target.day
  modify fun timestamp => { timestamp with year }
  modify fun timestamp => { timestamp with month }
  modify fun timestamp => { timestamp with day }

instance inPlace : InPlaceCalendar Timestamp where
  get := get
  maximum := maximum
  set := setInPlace
  addMonths := addMonthsInPlace
  addDays := addDaysInPlace
  setTime time := modify fun timestamp => { timestamp with time }

end DateAdjust.Timestamp
