import DateAdjust.Calendar.Checked
import DateAdjust.Timestamp.Words

/-! The calendar of timestamps in words. The parts of a date are narrowed and checked one after
another, and none is replaced where it does not fit or does not exist. -/

namespace DateAdjust

namespace Year

def ofNumber (number : Int) : Except FieldError Year :=
  let refused : FieldError := { field := .year, value := number, min := 1, max := last.val }
  if narrow : 0 ≤ number ∧ number < UInt16.size then
    if zero : number = 0 then .error refused
    else if past : 9999 < number then .error refused
    else .ok ⟨number.toNat, by omega, by omega⟩
  else .error refused

theorem ofNumber_eq (number : Int) : ofNumber number = check number := by
  have size : UInt16.size = 65536 := rfl
  by_cases inside : 1 ≤ number ∧ number ≤ 9999
  · obtain ⟨year, checked, same⟩ := check_of_mem number inside.1 inside.2
    rw [checked, ofNumber, dif_pos (by omega), dif_neg (by omega), dif_neg (by omega)]
    have sameNumber : number.toNat = year.val := by omega
    exact congrArg _ (Bounded.ext sameNumber)
  · rw [check, Bounded.check_of_not_mem .year number inside, ofNumber]
    split
    · split
      · rfl
      · rw [dif_pos (by omega)]
        rfl
    · rfl

end Year

namespace Day

def lastOfChecked (year : Int) (month : Month) : Checked Day := do
  let length ← monthLengthChecked year month.val
  present (Bounded.ofInt? length)

def clampChecked (day : Day) (year : Int) (month : Month) : Checked Day := do
  let last ← lastOfChecked year month
  return if day.val ≤ last.val then day else last

def ofByteChecked (year : UInt16) (month byte : UInt8) : Attempt Day := do
  let month ← Month.ofByte month
  let last ← lastOfChecked year.toNat month
  Bounded.ofByte .day last byte

def ofWordChecked (year : UInt16) (month : UInt8) (word : UInt32) : Attempt Day :=
  match narrow? word with
  | some byte => ofByteChecked year month byte
  | none => do
    let length ← monthLengthChecked year.toNat month.toNat
    throw { field := .day, value := word.toNat, min := 1, max := length }

end Day

namespace Timestamp

def maximumChecked (timestamp : Timestamp) : TimeUnit → Checked Nat
  | .month => return Month.december.val
  | .day => do
    let last ← Day.lastOfChecked timestamp.year.val timestamp.month
    return last.val

def setChecked (timestamp : Timestamp) (unit : TimeUnit) (word : UInt32) : Attempt Timestamp :=
  match unit with
  | .month => do
    let month ← Month.ofWord word
    let day ← timestamp.day.clampChecked timestamp.year.val month
    return { timestamp with month, day }
  | .day => do
    let day ← Day.ofWordChecked (.ofNat timestamp.year.val) (.ofNat timestamp.month.val) word
    return { timestamp with day }

def addMonthsChecked (timestamp : Timestamp) (amount : Int64) : Attempt Timestamp := do
  let range ← ShiftRange.monthsChecked timestamp.year.val timestamp.month.val
  range.check amount.toInt
  let index ← Width.long.monthIndex timestamp.year.val timestamp.month.val
  let target ← Width.long.hold (index + amount.toInt)
  let years ← Width.long.hold (target / 12)
  let year ← Year.ofNumber years
  let months ← Width.long.hold (target % 12)
  let number ← Width.long.hold (months + 1)
  let word ← narrowTo UInt32.size number
  let month ← Month.ofWord (.ofNat word)
  let day ← timestamp.day.clampChecked year.val month
  return { timestamp with year, month, day }

def addDaysChecked (timestamp : Timestamp) (amount : Int64) : Attempt Timestamp := do
  let range ← ShiftRange.daysChecked timestamp.date
  range.check amount.toInt
  let number ← Width.long.dayNumber timestamp.date
  let target ← Width.long.hold (number + amount.toInt)
  let date ← Width.long.ofDayNumber target
  let year ← Year.ofNumber date.year
  let month ← Month.ofByte (.ofNat date.month)
  let day ← Day.ofByteChecked (.ofNat year.val) (.ofNat month.val) (.ofNat date.day)
  return { timestamp with year, month, day }

end Timestamp

end DateAdjust
