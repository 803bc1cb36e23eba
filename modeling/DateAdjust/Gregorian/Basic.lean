/-! The proleptic Gregorian calendar: leap years, month lengths and dates of any integer year. -/

namespace DateAdjust

def isLeapYear (year : Int) : Bool :=
  (year % 4 == 0 && year % 100 != 0) || year % 400 == 0

/-- Month lengths of a common year. Months count from 1, so the first entry stands for no month. -/
def commonMonthLengths : List Nat :=
  [0, 31, 28, 31, 30, 31, 30, 31, 31, 30, 31, 30, 31]

def leapFebruaryLength : Nat := 29

def monthLength (year : Int) (month : Nat) : Nat :=
  if month = 2 && isLeapYear year then leapFebruaryLength
  else commonMonthLengths.getD month 0

theorem commonMonthLengths_le (month : Nat) : commonMonthLengths.getD month 0 ≤ 31 := by
  by_cases small : month < 13
  · revert month
    decide
  · have noMonth : commonMonthLengths[month]? = none :=
      List.getElem?_eq_none (by simpa [commonMonthLengths] using Nat.le_of_not_lt small)
    simp [List.getD, noMonth]

theorem monthLength_le (year : Int) (month : Nat) : monthLength year month ≤ 31 := by
  unfold monthLength leapFebruaryLength
  split
  · decide
  · exact commonMonthLengths_le month

theorem monthLength_ge (year : Int) (month : Nat) (lower : 1 ≤ month) (upper : month ≤ 12) :
    28 ≤ monthLength year month := by
  have common : ∀ month < 13, 1 ≤ month → 28 ≤ commonMonthLengths.getD month 0 := by decide
  unfold monthLength leapFebruaryLength
  split
  · decide
  · exact common month (by omega) lower

/-- A year, a month and a day, not necessarily of a date that exists. -/
structure CivilDate where
  year : Int
  month : Nat
  day : Nat
  deriving DecidableEq, Repr

namespace CivilDate

def Valid (date : CivilDate) : Prop :=
  1 ≤ date.month ∧ date.month ≤ 12 ∧ 1 ≤ date.day ∧ date.day ≤ monthLength date.year date.month

instance (date : CivilDate) : Decidable date.Valid :=
  inferInstanceAs (Decidable (_ ∧ _ ∧ _ ∧ _))

end CivilDate

/-- Months from January of year 0 to a month. -/
def monthIndex (year : Int) (month : Nat) : Int :=
  year * 12 + month - 1

end DateAdjust
