import DateAdjust.Calendar
import DateAdjust.Moment.Basic

/-! The calendar of moments over an engine for their dates. -/

namespace DateAdjust.Moment

variable (engine : DateEngine)

def get (moment : Moment) : TimeUnit → Nat
  | .month => moment.date.civil.month
  | .day => moment.date.civil.day

def maximum (moment : Moment) : TimeUnit → Nat
  | .month => Month.december.val
  | .day => engine.lastDay moment.date

def set (moment : Moment) (unit : TimeUnit) (value : Nat) : Except FieldError Moment :=
  match engine.withUnit? moment.date unit value with
  | some date => .ok { moment with date }
  | none => .error { field := unit.field, value, min := 1, max := moment.maximum engine unit }

def addMonths (moment : Moment) (amount : Int) : Except FieldError Moment := do
  let range := ShiftRange.months moment.date.civil.year moment.date.civil.month
  range.check amount
  match engine.addMonths? moment.date amount with
  | some date => return { moment with date }
  | none => .error (range.rejected amount)

def addDays (moment : Moment) (amount : Int) : Except FieldError Moment := do
  let range := ShiftRange.days moment.date.civil
  range.check amount
  match engine.addDays? moment.date amount with
  | some date => return { moment with date }
  | none => .error (range.rejected amount)

def withTime (moment : Moment) (time : TimeOfDay) : Moment :=
  { moment with time := FineTime.ofTimeOfDay time }

@[reducible]
def calendar : Calendar Moment where
  get := get
  maximum := maximum engine
  set := set engine
  addMonths := addMonths engine
  addDays := addDays engine
  withTime := withTime

instance : Calendar Moment :=
  calendar .gregorian

end DateAdjust.Moment
