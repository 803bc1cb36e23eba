import DateAdjust.Component
import DateAdjust.TimeOfDay

/-! Timestamps without a zone: a date of the years 1 to 9999 and a time of day. A day past the end
of its month can be held; `Timestamp.check` builds only dates that exist. -/

namespace DateAdjust

structure Timestamp where
  year : Year
  month : Month
  day : Day
  time : TimeOfDay
  deriving DecidableEq, Repr

namespace Timestamp

def date (timestamp : Timestamp) : CivilDate where
  year := timestamp.year.val
  month := timestamp.month.val
  day := timestamp.day.val

def Valid (timestamp : Timestamp) : Prop :=
  timestamp.date.Valid

instance (timestamp : Timestamp) : Decidable timestamp.Valid :=
  inferInstanceAs (Decidable timestamp.date.Valid)

def withTime (timestamp : Timestamp) (time : TimeOfDay) : Timestamp :=
  { timestamp with time }

def ofDate (year month day : Int) : Except FieldError Timestamp := do
  let year ← Year.check year
  let month ← Month.check month
  let day ← Day.checkIn year.val month day
  return { year, month, day, time := TimeOfDay.midnight }

/-- Checks the time first and then the date. -/
def check (year month day hour minute second millisecond : Int) :
    Except FieldError Timestamp := do
  let time ← TimeOfDay.check hour minute second millisecond
  let timestamp ← ofDate year month day
  return timestamp.withTime time

instance : Ord Timestamp where
  compare first second :=
    (compare first.year second.year).then <|
    (compare first.month second.month).then <|
    (compare first.day second.day).then <|
    compare first.time second.time

end Timestamp

end DateAdjust
