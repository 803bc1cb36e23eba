import DateAdjust.Calendar
import DateAdjust.Timestamp.Basic

/-! The calendar of timestamps. Shifts run over month and day numbers, and the date they lead to is
checked again part by part. -/

namespace DateAdjust.Timestamp

def get (timestamp : Timestamp) : TimeUnit → Nat
  | .month => timestamp.month.val
  | .day => timestamp.day.val

def maximum (timestamp : Timestamp) : TimeUnit → Nat
  | .month => Month.december.val
  | .day => (Day.lastOf timestamp.year.val timestamp.month).val

def set (timestamp : Timestamp) (unit : TimeUnit) (value : Nat) : Except FieldError Timestamp :=
  match unit with
  | .month => do
    let month ← Month.check value
    return { timestamp with month, day := timestamp.day.clamp timestamp.year.val month }
  | .day => do
    let day ← Day.checkIn timestamp.year.val timestamp.month value
    return { timestamp with day }

def addMonths (timestamp : Timestamp) (amount : Int) : Except FieldError Timestamp := do
  (ShiftRange.months timestamp.year.val timestamp.month.val).check amount
  let target := monthIndex timestamp.year.val timestamp.month.val + amount
  let year ← Year.check (target / 12)
  let month ← Month.check (target % 12 + 1)
  return { timestamp with year, month, day := timestamp.day.clamp year.val month }

def addDays (timestamp : Timestamp) (amount : Int) : Except FieldError Timestamp := do
  (ShiftRange.days timestamp.date).check amount
  let target := CivilDate.ofDayNumber (timestamp.date.dayNumber + amount)
  let year ← Year.check target.year
  let month ← Month.check target.month
  let day ← Day.checkIn year.val month target.day
  return { timestamp with year, month, day }

instance : Calendar Timestamp where
  get := get
  maximum := maximum
  set := set
  addMonths := addMonths
  addDays := addDays
  withTime := withTime

end DateAdjust.Timestamp
