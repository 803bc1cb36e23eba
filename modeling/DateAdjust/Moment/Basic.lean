import DateAdjust.Moment.Date
import DateAdjust.TimeOfDay

/-! Moments: a date of the wide span with a time to the nanosecond. -/

namespace DateAdjust

structure FineTime where
  hour : Bounded 0 23
  minute : Bounded 0 59
  second : Bounded 0 59
  nanosecond : Bounded 0 999999999
  deriving DecidableEq, Repr

def FineTime.ofTimeOfDay (time : TimeOfDay) : FineTime where
  hour := time.hour
  minute := time.minute
  second := time.second
  nanosecond := ⟨time.millisecond.val * 1000000, Nat.zero_le _, by
    have := time.millisecond.le_greatest
    omega⟩

def FineTime.toTimeOfDay (time : FineTime) : TimeOfDay where
  hour := time.hour
  minute := time.minute
  second := time.second
  millisecond := ⟨time.nanosecond.val / 1000000, Nat.zero_le _, by
    have := time.nanosecond.le_greatest
    omega⟩

structure Moment where
  date : WideDate
  time : FineTime
  deriving DecidableEq, Repr

def Moment.ofParts? (date : CivilDate) (hour minute second nanosecond : Int) : Option Moment := do
  let date ← WideDate.ofCivil? date
  let hour ← Bounded.ofInt? hour
  let minute ← Bounded.ofInt? minute
  let second ← Bounded.ofInt? second
  let nanosecond ← Bounded.ofInt? nanosecond
  return { date, time := { hour, minute, second, nanosecond } }

end DateAdjust
