import DateAdjust.Bounded

/-! A time of day to the millisecond. -/

namespace DateAdjust

structure TimeOfDay where
  hour : Bounded 0 23
  minute : Bounded 0 59
  second : Bounded 0 59
  millisecond : Bounded 0 999
  deriving DecidableEq, Repr

namespace TimeOfDay

/-- Checks the numbers in the order of the fields, so that the first one out of range is
reported. -/
def check (hour minute second millisecond : Int) : Except FieldError TimeOfDay := do
  let hour ← Bounded.check .hour hour
  let minute ← Bounded.check .minute minute
  let second ← Bounded.check .second second
  let millisecond ← Bounded.check .millisecond millisecond
  return { hour, minute, second, millisecond }

def midnight : TimeOfDay where
  hour := ⟨0, by decide, by decide⟩
  minute := ⟨0, by decide, by decide⟩
  second := ⟨0, by decide, by decide⟩
  millisecond := ⟨0, by decide, by decide⟩

def endOfDay : TimeOfDay where
  hour := ⟨23, by decide, by decide⟩
  minute := ⟨59, by decide, by decide⟩
  second := ⟨59, by decide, by decide⟩
  millisecond := ⟨999, by decide, by decide⟩

instance : Ord TimeOfDay where
  compare first second :=
    (compare first.hour second.hour).then <|
    (compare first.minute second.minute).then <|
    (compare first.second second.second).then <|
    compare first.millisecond second.millisecond

end TimeOfDay

end DateAdjust
