import DateAdjust.Gregorian.DayNumber
import DateAdjust.Component
import DateAdjust.TimeOfDay
import DateAdjust.TimeUnit

/-! What a spec needs of a date and time, and the ranges of shifts, which lead into the years 1 to
9999 from wherever they start. -/

namespace DateAdjust

/-- A date and time whose month and day can be read, set and shifted. An operation that fails
gives no new value, so that the old one stands. -/
class Calendar (State : Type) where
  get : State → TimeUnit → Nat
  maximum : State → TimeUnit → Nat
  /-- Setting the month keeps the day or takes the last day of a shorter month. -/
  set : State → TimeUnit → Nat → Except FieldError State
  addMonths : State → Int → Except FieldError State
  addDays : State → Int → Except FieldError State
  withTime : State → TimeOfDay → State

def Calendar.zeroTime {State : Type} [Calendar State] (state : State) : State :=
  withTime state TimeOfDay.midnight

structure ShiftRange where
  unit : TimeUnit
  least : Int
  greatest : Int
  deriving DecidableEq, Repr

namespace ShiftRange

def months (year : Int) (month : Nat) : ShiftRange where
  unit := .month
  least := monthIndex Year.first.val Month.january.val - monthIndex year month
  greatest := monthIndex Year.last.val Month.december.val - monthIndex year month

def days (date : CivilDate) : ShiftRange where
  unit := .day
  least :=
    CivilDate.dayNumber { year := Year.first.val, month := Month.january.val, day := 1 }
      - date.dayNumber
  greatest :=
    CivilDate.dayNumber { year := Year.last.val, month := Month.december.val, day := 31 }
      - date.dayNumber

def rejected (range : ShiftRange) (amount : Int) : FieldError where
  field := range.unit.field
  value := amount
  min := range.least
  max := range.greatest

def Allows (range : ShiftRange) (amount : Int) : Prop :=
  range.least ≤ amount ∧ amount ≤ range.greatest

instance (range : ShiftRange) (amount : Int) : Decidable (range.Allows amount) :=
  inferInstanceAs (Decidable (_ ∧ _))

def check (range : ShiftRange) (amount : Int) : Except FieldError Unit :=
  if range.Allows amount then .ok () else .error (range.rejected amount)

theorem check_of_allows {range : ShiftRange} {amount : Int} (allowed : range.Allows amount) :
    range.check amount = .ok () :=
  if_pos allowed

theorem check_of_not_allows {range : ShiftRange} {amount : Int}
    (forbidden : ¬range.Allows amount) : range.check amount = .error (range.rejected amount) :=
  if_neg forbidden

end ShiftRange

end DateAdjust
