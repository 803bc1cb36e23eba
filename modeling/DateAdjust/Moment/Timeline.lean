import DateAdjust.InPlace
import DateAdjust.Moment.Calendar

/-! Moments counted in nanoseconds, and their calendar over an engine that works on moments as a
whole. A shift by days adds a duration to the moment, whatever its time of day. -/

namespace DateAdjust

def nanosecondsPerDay : Int := 86400000000000

def FineTime.number (time : FineTime) : Nat :=
  ((time.hour.val * 60 + time.minute.val) * 60 + time.second.val) * 1000000000
    + time.nanosecond.val

def FineTime.ofNumber (number : Nat) : FineTime where
  hour := ⟨number / 3600000000000 % 24, by omega, by omega⟩
  minute := ⟨number / 60000000000 % 60, by omega, by omega⟩
  second := ⟨number / 1000000000 % 60, by omega, by omega⟩
  nanosecond := ⟨number % 1000000000, by omega, by omega⟩

/-- Nanoseconds since the midnight of day 0. -/
def Moment.instant (moment : Moment) : Int :=
  moment.date.civil.dayNumber * nanosecondsPerDay + moment.time.number

def Moment.ofInstant? (instant : Int) : Option Moment := do
  let date ← WideDate.ofCivil? (CivilDate.ofDayNumber (instant / nanosecondsPerDay))
  return { date, time := .ofNumber (instant % nanosecondsPerDay).toNat }

/-- The operations that the calendar of moments is built on, whatever values stand for moments. A
duration is a number of nanoseconds, and not every number of days has one. -/
structure MomentEngine (Value : Type) where
  dates : DateEngine
  date : Value → WideDate
  atTime : Value → TimeOfDay → Value
  withDay? : Value → Nat → Option Value
  withMonth? : Value → Nat → Option Value
  monthsAfter? : Value → Nat → Option Value
  monthsBefore? : Value → Nat → Option Value
  daysDuration? : Int → Option Int
  add? : Value → Int → Option Value

namespace MomentEngine

/-- Durations have 64 bits of milliseconds, with a sign. -/
def daysLimit : Nat := 106751991167

def gregorian : MomentEngine Moment where
  dates := .gregorian
  date := Moment.date
  atTime := Moment.withTime
  withDay? moment day :=
    (DateEngine.gregorian.withDay? moment.date day).map fun date => { moment with date }
  withMonth? moment month :=
    (DateEngine.gregorian.withMonth? moment.date month).map fun date => { moment with date }
  monthsAfter? moment count :=
    (DateEngine.gregorian.monthsAfter? moment.date count).map fun date => { moment with date }
  monthsBefore? moment count :=
    (DateEngine.gregorian.monthsBefore? moment.date count).map fun date => { moment with date }
  daysDuration? days := if days.natAbs ≤ daysLimit then some (days * nanosecondsPerDay) else none
  add? moment duration := Moment.ofInstant? (moment.instant + duration)

variable {Value : Type} (engine : MomentEngine Value)

def get (moment : Value) : TimeUnit → Nat
  | .month => (engine.date moment).civil.month
  | .day => (engine.date moment).civil.day

def maximum (moment : Value) : TimeUnit → Nat
  | .month => Month.december.val
  | .day => engine.dates.lastDay (engine.date moment)

def withUnit? (moment : Value) (unit : TimeUnit) (value : Nat) : Option Value :=
  match unit with
  | .month => do
    let first ← engine.withDay? moment 1
    let moved ← engine.withMonth? first value
    engine.withDay? moved
      (min (engine.date moment).civil.day (engine.dates.lastDay (engine.date moved)))
  | .day => engine.withDay? moment value

def addMonths? (moment : Value) (amount : Int) : Option Value :=
  if UInt32.size ≤ amount.natAbs then none
  else if amount < 0 then engine.monthsBefore? moment amount.natAbs
  else engine.monthsAfter? moment amount.natAbs

def addDays? (moment : Value) (amount : Int) : Option Value := do
  let duration ← engine.daysDuration? amount
  engine.add? moment duration

def replace (found : Option Value) (report : FieldError) : InPlace Value FieldError Unit :=
  match found with
  | some next => set next
  | none => throw report

def setInPlace (unit : TimeUnit) (value : Nat) : InPlace Value FieldError Unit := do
  let moment ← getThe Value
  replace (engine.withUnit? moment unit value)
    { field := unit.field, value, min := 1, max := engine.maximum moment unit }

def addMonthsInPlace (amount : Int) : InPlace Value FieldError Unit := do
  let moment ← getThe Value
  let date := (engine.date moment).civil
  let range := ShiftRange.months date.year date.month
  range.check amount
  replace (engine.addMonths? moment amount) (range.rejected amount)

def addDaysInPlace (amount : Int) : InPlace Value FieldError Unit := do
  let moment ← getThe Value
  let range := ShiftRange.days (engine.date moment).civil
  range.check amount
  replace (engine.addDays? moment amount) (range.rejected amount)

@[reducible]
def inPlace : InPlaceCalendar Value where
  get := engine.get
  maximum := engine.maximum
  set := engine.setInPlace
  addMonths := engine.addMonthsInPlace
  addDays := engine.addDaysInPlace
  setTime time := modify fun moment => engine.atTime moment time

end MomentEngine

instance : InPlaceCalendar Moment :=
  MomentEngine.gregorian.inPlace

end DateAdjust
