import DateAdjust.Gregorian.DayNumber
import DateAdjust.TimeUnit

/-! Dates of the wide span, the years -262143 to 262142, and what is asked of an engine for them. -/

namespace DateAdjust

structure WideDate where
  civil : CivilDate
  valid : civil.Valid
  first_le : -262143 ≤ civil.year
  le_last : civil.year ≤ 262142
  deriving DecidableEq, Repr

namespace WideDate

def ofCivil? (civil : CivilDate) : Option WideDate :=
  if inside : civil.Valid ∧ -262143 ≤ civil.year ∧ civil.year ≤ 262142 then
    some ⟨civil, inside.1, inside.2.1, inside.2.2⟩
  else none

def addMonths? (date : WideDate) (amount : Int) : Option WideDate :=
  let target := monthIndex date.civil.year date.civil.month + amount
  let year := target / 12
  let month := (target % 12).toNat + 1
  ofCivil? { year, month, day := min date.civil.day (monthLength year month) }

def addDays? (date : WideDate) (amount : Int) : Option WideDate :=
  ofCivil? (CivilDate.ofDayNumber (date.civil.dayNumber + amount))

end WideDate

/-- The operations on wide dates that moments are built on. Months are counted without a sign. -/
structure DateEngine where
  withDay? : WideDate → Nat → Option WideDate
  withMonth? : WideDate → Nat → Option WideDate
  monthsAfter? : WideDate → Nat → Option WideDate
  monthsBefore? : WideDate → Nat → Option WideDate
  dayBefore? : WideDate → Option WideDate
  addDays? : WideDate → Int → Option WideDate

namespace DateEngine

def gregorian : DateEngine where
  withDay? date day := WideDate.ofCivil? { date.civil with day }
  withMonth? date month := WideDate.ofCivil? { date.civil with month }
  monthsAfter? date count := date.addMonths? count
  monthsBefore? date count := date.addMonths? (-count)
  dayBefore? date := date.addDays? (-1)
  addDays? := WideDate.addDays?

variable (engine : DateEngine)

/-- The day before the first of the next month. The last month of the span has no next one, and
is given the days of the shortest month. -/
def lastDay (date : WideDate) : Nat :=
  let last := do
    let first ← engine.withDay? date 1
    let next ← engine.monthsAfter? first 1
    engine.dayBefore? next
  match last with
  | some date => date.civil.day
  | none => commonMonthLengths.getD 2 0

def addMonths? (date : WideDate) (amount : Int) : Option WideDate :=
  if UInt32.size ≤ amount.natAbs then none
  else if amount < 0 then engine.monthsBefore? date amount.natAbs
  else engine.monthsAfter? date amount.natAbs

/-- The date with a unit set. The month is set on its first day, and the day follows as far as the
month goes. -/
def withUnit? (date : WideDate) (unit : TimeUnit) (value : Nat) : Option WideDate :=
  match unit with
  | .month => do
    let first ← engine.withDay? date 1
    let moved ← engine.withMonth? first value
    engine.withDay? moved (min date.civil.day (engine.lastDay moved))
  | .day => engine.withDay? date value

end DateEngine

end DateAdjust
