import DateAdjust.Gregorian.Checked
import DateAdjust.Proofs.Gregorian.DateOrder

/-! Month and day numbers reckoned in words are those of the calendar where the words have room for
the numbers on the way. Words without a limit have room everywhere. -/

namespace DateAdjust

/-- One division finds the year that whole centuries, spans of four years and years make up. The
last day of the cycle begins a fifth century of the division. -/
theorem yearOfCycle_eq (dayOfCycle : Nat) (bound : dayOfCycle < 146097) :
    (dayOfCycle - dayOfCycle / 1460 + dayOfCycle / 36524 - dayOfCycle / 146096) / 365 =
      yearOfCycle dayOfCycle := by
  by_cases last : dayOfCycle = 146096
  · rw [last]
    decide
  · obtain ⟨century, span, year, rest, centuryBound, spanBound, yearBound, restBound, yearEq, dayEq,
      leapEnd⟩ := CivilDate.yearOfCycle_parts dayOfCycle bound
    have fourths : dayOfCycle / 1460 =
        25 * century + span + (24 * century + span + 365 * year + rest) / 1460 := by
      omega
    have centuries : dayOfCycle / 36524 = century := by omega
    rw [fourths, centuries, yearEq]
    omega

theorem Checked.step {α β : Type} {computed : Checked α} {next : α → Checked β} {value : α}
    {result : Checked β} (known : computed = .ok value) (later : next value = result) :
    computed >>= next = result := by
  rw [known]
  exact later

theorem narrowTo_eq {size : Nat} {number : Int} {result : Nat} (same : number = result)
    (fits : result < size) : narrowTo size number = .ok result := by
  rw [narrowTo, if_pos (by omega), same]
  rfl

namespace Width

/-- Every integer up to a bound fits, with either sign. -/
def Spans (width : Width) (bound : Nat) : Prop :=
  ∀ number : Int, number.natAbs ≤ bound → width.Fits number

theorem unlimited_spans (bound : Nat) : unlimited.Spans bound :=
  fun _ _ => trivial

theorem long_spans {bound : Nat} (small : bound < 2 ^ 63) : long.Spans bound := by
  intro number within
  simp only [Fits, Int64.toInt_minValue, Int64.toInt_maxValue]
  omega

namespace Spans

variable {width : Width} {bound : Nat}

theorem mono (spans : width.Spans bound) {smaller : Nat} (le : smaller ≤ bound) :
    width.Spans smaller :=
  fun number within => spans number (Nat.le_trans within le)

theorem hold_eq (spans : width.Spans bound) {number result : Int} (same : number = result)
    (within : number.natAbs ≤ bound) : width.hold number = .ok result := by
  rw [hold, if_pos (spans number within), same]

section Steps

variable {α : Type} {next : Int → Checked α} {result : Checked α}

theorem hold (spans : width.Spans bound) {number : Int} (within : number.natAbs ≤ bound)
    (later : ∀ held, held = number → next held = result) :
    width.hold number >>= next = result := by
  rw [spans.hold_eq rfl within]
  exact later number rfl

theorem divide (spans : width.Spans bound) {number divisor : Int} (lower : 0 ≤ number)
    (within : (number / divisor).natAbs ≤ bound)
    (later : ∀ quotient, quotient = number / divisor → next quotient = result) :
    width.hold (number.tdiv divisor) >>= next = result := by
  rw [Int.tdiv_eq_ediv_of_nonneg lower]
  exact spans.hold within later

end Steps

theorem monthIndex_eq (year : Int) (month : Nat)
    (spans : width.Spans (12 * year.natAbs + month + 1)) :
    width.monthIndex year month = .ok (DateAdjust.monthIndex year month) := by
  refine spans.hold (by omega) fun yearMonths yearMonthsEq => ?_
  refine spans.hold (by omega) fun months monthsEq => ?_
  exact spans.hold_eq (by simp only [DateAdjust.monthIndex]; omega) (by omega)

theorem daysBeforeMonth_eq (spans : width.Spans 2000) {monthOfYear : Nat}
    (monthBound : monthOfYear < 12) :
    width.daysBeforeMonth monthOfYear = .ok (DateAdjust.daysBeforeMonth monthOfYear) := by
  refine spans.hold (by omega) fun product productEq => ?_
  refine spans.hold (by omega) fun fifths fifthsEq => ?_
  rw [Int.tdiv_eq_ediv_of_nonneg (by omega)]
  exact spans.hold_eq (by simp only [DateAdjust.daysBeforeMonth]; omega) (by omega)

theorem daysBeforeYear_eq (spans : width.Spans 150000) {yearOfCycle : Nat}
    (yearBound : yearOfCycle < 400) :
    width.daysBeforeYear yearOfCycle = .ok (DateAdjust.daysBeforeYear yearOfCycle) := by
  refine spans.hold (by omega) fun common commonEq => ?_
  refine spans.divide (by omega) (by omega) fun fourths fourthsEq => ?_
  refine spans.hold (by omega) fun days daysEq => ?_
  refine spans.divide (by omega) (by omega) fun centuries centuriesEq => ?_
  exact spans.hold_eq (by simp only [DateAdjust.daysBeforeYear]; omega) (by omega)

theorem yearOfCycle_eq (spans : width.Spans 150000) {dayOfCycle : Nat}
    (dayBound : dayOfCycle < 146097) :
    width.yearOfCycle dayOfCycle = .ok (DateAdjust.yearOfCycle dayOfCycle) := by
  have year := DateAdjust.yearOfCycle_eq dayOfCycle dayBound
  refine spans.divide (by omega) (by omega) fun fourths fourthsEq => ?_
  refine spans.hold (by omega) fun lessFourths lessFourthsEq => ?_
  refine spans.divide (by omega) (by omega) fun centuries centuriesEq => ?_
  refine spans.hold (by omega) fun withCenturies withCenturiesEq => ?_
  refine spans.divide (by omega) (by omega) fun cycles cyclesEq => ?_
  refine spans.hold (by omega) fun days daysEq => ?_
  rw [Int.tdiv_eq_ediv_of_nonneg (by omega)]
  exact spans.hold_eq (by omega) (by omega)

theorem marchMonth_eq (date : CivilDate) (valid : date.civilMonth.Valid)
    (spans : width.Spans (date.year.natAbs + 12)) :
    width.marchMonth date = .ok
      (if date.month ≤ 2 then date.year - 1 else date.year,
        ((if date.month ≤ 2 then date.month + 9 else date.month - 3 : Nat) : Int)) := by
  simp only [CivilMonth.Valid, CivilDate.civilMonth] at valid
  by_cases early : date.month ≤ 2
  · simp only [marchMonth, if_pos early, if_neg (Nat.not_lt.mpr early)]
    refine spans.hold (by omega) fun year yearEq => ?_
    refine spans.hold (by omega) fun month monthEq => ?_
    rw [yearEq, monthEq]
    rfl
  · simp only [marchMonth, if_neg early, if_pos (Nat.lt_of_not_le early)]
    refine spans.hold (by omega) fun year yearEq => ?_
    refine spans.hold (by omega) fun month monthEq => ?_
    obtain rfl : month = ((date.month - 3 : Nat) : Int) := by omega
    rw [yearEq, Int.sub_zero]
    rfl

theorem civilMonth_eq {marchYear : Int} {monthOfYear month : Nat}
    (spans : width.Spans (marchYear.natAbs + 12)) (monthBound : monthOfYear < 12)
    (monthEq : (if monthOfYear < 10 then monthOfYear + 3 else monthOfYear - 9) = month) :
    width.civilMonth marchYear monthOfYear = .ok
      (if month ≤ 2 then marchYear + 1 else marchYear, (month : Int)) := by
  have shifted : (monthOfYear : Int) + (if (monthOfYear : Int) < 10 then 3 else -9) = month := by
    split at monthEq <;> split <;> omega
  rw [civilMonth, shifted]
  refine spans.hold (by omega) fun monthHeld monthHeldEq => ?_
  refine spans.hold (by split <;> omega) fun year yearEq => ?_
  obtain rfl : year = if month ≤ 2 then marchYear + 1 else marchYear := by
    split at yearEq <;> split <;> omega
  rw [monthHeldEq]
  rfl

theorem monthAndDay_eq (spans : width.Spans 2000) {dayOfYear monthOfYear : Nat}
    (dayBound : dayOfYear ≤ 365) (monthEq : (5 * dayOfYear + 2) / 153 = monthOfYear) :
    width.monthAndDay dayOfYear = .ok
      (monthOfYear, ((dayOfYear - DateAdjust.daysBeforeMonth monthOfYear + 1 : Nat) : Int)) := by
  have monthBound : monthOfYear < 12 := by omega
  have daysBeforeBound : DateAdjust.daysBeforeMonth monthOfYear ≤ dayOfYear := by
    simp only [DateAdjust.daysBeforeMonth]
    omega
  refine spans.hold (by omega) fun product productEq => ?_
  refine spans.hold (by omega) fun fifths fifthsEq => ?_
  refine spans.divide (by omega) (by omega) fun monthHeld monthHeldEq => ?_
  obtain rfl : monthHeld = monthOfYear := by omega
  refine Checked.step (daysBeforeMonth_eq spans monthBound) ?_
  refine spans.hold (by omega) fun daysSince daysSinceEq => ?_
  refine spans.hold (by omega) fun day dayEq => ?_
  obtain rfl : day = (dayOfYear - DateAdjust.daysBeforeMonth monthOfYear + 1 : Nat) := by omega
  rfl

theorem dayNumber_eq (date : CivilDate) (valid : date.civilMonth.Valid)
    (spans : width.Spans (400 * date.year.natAbs + date.day + 2000000)) :
    width.dayNumber date = .ok date.dayNumber := by
  refine Checked.step (marchMonth_eq date valid (spans.mono (by omega))) ?_
  simp only [CivilMonth.Valid, CivilDate.civilMonth] at valid
  simp only [CivilDate.dayNumber]
  generalize yearEq : (if date.month ≤ 2 then date.year - 1 else date.year) = marchYear
  generalize monthEq : (if date.month ≤ 2 then date.month + 9 else date.month - 3) = monthOfYear
  have yearBound : marchYear.natAbs ≤ date.year.natAbs + 1 := by omega
  have monthBound : monthOfYear < 12 := by
    split at monthEq <;> omega
  have yearOfCycleBound : (marchYear % 400).toNat < 400 := by omega
  have daysBeforeBound : DateAdjust.daysBeforeMonth monthOfYear ≤ 337 := by
    simp only [DateAdjust.daysBeforeMonth]
    omega
  have yearDaysBound : DateAdjust.daysBeforeYear (marchYear % 400).toNat ≤ 146000 := by
    simp only [DateAdjust.daysBeforeYear]
    omega
  clear yearEq monthEq valid
  refine spans.hold (by omega) fun cycle cycleEq => ?_
  refine spans.hold (by omega) fun cycleYears cycleYearsEq => ?_
  refine spans.hold (by omega) fun yearOfCycle yearOfCycleEq => ?_
  obtain rfl : yearOfCycle = ((marchYear % 400).toNat : Int) := by omega
  refine Checked.step (daysBeforeMonth_eq (spans.mono (by omega)) monthBound) ?_
  refine spans.hold (by omega) fun daysWith daysWithEq => ?_
  refine spans.hold (by omega) fun dayOfYear dayOfYearEq => ?_
  refine Checked.step (daysBeforeYear_eq (spans.mono (by omega)) yearOfCycleBound) ?_
  refine spans.hold (by omega) fun dayOfCycle dayOfCycleEq => ?_
  refine spans.hold (by omega) fun cycleDays cycleDaysEq => ?_
  refine spans.hold (by omega) fun days daysEq => ?_
  exact spans.hold_eq (by omega) (by omega)

theorem dateInCycle_eq {number cycle : Int} {dayOfCycle : Nat}
    (spans : width.Spans (400 * cycle.natAbs + 150000))
    (cycleEq : (number + 719468) / 146097 = cycle)
    (dayEq : ((number + 719468) % 146097).toNat = dayOfCycle) :
    width.dateInCycle cycle dayOfCycle = .ok (CivilDate.ofDayNumber number) := by
  have size : UInt8.size = 256 := rfl
  have dayOfCycleBound : dayOfCycle < 146097 := by omega
  simp only [CivilDate.ofDayNumber, cycleEq, dayEq]
  refine Checked.step (yearOfCycle_eq (spans.mono (by omega)) dayOfCycleBound) ?_
  obtain ⟨yearBound, dayOfYear, dayBound, split, _⟩ :=
    CivilDate.yearOfCycle_spec dayOfCycle dayOfCycleBound
  generalize DateAdjust.yearOfCycle dayOfCycle = yearOfCycle at *
  have rest : dayOfCycle - DateAdjust.daysBeforeYear yearOfCycle = dayOfYear := by omega
  rw [rest]
  refine Checked.step (daysBeforeYear_eq (spans.mono (by omega)) yearBound) ?_
  refine spans.hold (by omega) fun dayHeld dayHeldEq => ?_
  obtain rfl : dayHeld = dayOfYear := by omega
  generalize monthEq : (5 * dayOfYear + 2) / 153 = monthOfYear
  have dayOfMonthBound : dayOfYear - DateAdjust.daysBeforeMonth monthOfYear + 1 ≤ 31 := by
    simp only [DateAdjust.daysBeforeMonth]
    omega
  refine Checked.step (monthAndDay_eq (spans.mono (by omega)) dayBound monthEq) ?_
  refine spans.hold (by omega) fun cycleYears cycleYearsEq => ?_
  refine spans.hold (by omega) fun marchYear marchYearEq => ?_
  obtain rfl : marchYear = 400 * cycle + yearOfCycle := by omega
  generalize civilEq : (if monthOfYear < 10 then monthOfYear + 3 else monthOfYear - 9) = month
  have civilBound : month ≤ 12 := by
    split at civilEq <;> omega
  refine Checked.step (civilMonth_eq (spans.mono (by omega)) (by omega) civilEq) ?_
  refine Checked.step (narrowTo_eq rfl (by omega)) ?_
  exact Checked.step (narrowTo_eq rfl (by omega)) rfl

theorem ofDayNumber_eq (number : Int) (spans : width.Spans (number.natAbs + 2000000)) :
    width.ofDayNumber number = .ok (CivilDate.ofDayNumber number) := by
  refine spans.hold (by omega) fun days daysEq => ?_
  refine spans.hold (by omega) fun cycle cycleEq => ?_
  refine spans.hold (by omega) fun cycleDays cycleDaysEq => ?_
  refine spans.hold (by omega) fun dayOfCycle dayOfCycleEq => ?_
  obtain ⟨dayOfCycle, rfl⟩ := Int.eq_ofNat_of_zero_le (show 0 ≤ dayOfCycle by omega)
  exact dateInCycle_eq (spans.mono (by omega)) (by omega) (by omega)

end Spans

end Width

/-- Integers and the dates that exist, of any year, correspond one to one and in order. -/
structure CivilDate.OneToOne (number : CivilDate → Int) (date : Int → CivilDate) : Prop where
  date_valid : ∀ day, (date day).Valid
  number_date : ∀ day, number (date day) = day
  date_number : ∀ civil : CivilDate, civil.Valid → date (number civil) = civil
  in_order : ∀ first second : CivilDate, first.Valid → second.Valid →
    compare (number first) (number second) = compare first second

/-- Reckoned in integers without a limit, the day numbers of dates and the dates of day numbers are
inverse to each other, and later dates have greater numbers. -/
theorem Width.unlimited_oneToOne :
    (∀ date : CivilDate, date.Valid → unlimited.dayNumber date = .ok date.dayNumber) ∧
    (∀ number, unlimited.ofDayNumber number = .ok (CivilDate.ofDayNumber number)) ∧
    CivilDate.OneToOne CivilDate.dayNumber CivilDate.ofDayNumber := by
  refine ⟨?_, ?_, ?_⟩
  · intro date valid
    exact Spans.dayNumber_eq date (date.civilMonth_valid valid) (unlimited_spans _)
  · intro number
    exact Spans.ofDayNumber_eq number (unlimited_spans _)
  · constructor
    case date_valid => exact fun day => (CivilDate.ofDayNumber_spec day).1
    case number_date => exact fun day => (CivilDate.ofDayNumber_spec day).2
    case date_number => exact CivilDate.ofDayNumber_dayNumber
    case in_order => exact fun _ _ => CivilDate.compare_dayNumber

theorem Width.unlimited_oneToOne_leapDay :
    let leapDay : CivilDate := { year := -400, month := 2, day := 29 }
    let firstOfMarch : CivilDate := { year := -400, month := 3, day := 1 }
    leapDay.Valid ∧ firstOfMarch.Valid ∧ unlimited.dayNumber leapDay = .ok (-865566) ∧
      unlimited.ofDayNumber (-865566) = .ok leapDay ∧
      compare leapDay.dayNumber firstOfMarch.dayNumber = compare leapDay firstOfMarch := by
  intro leapDay firstOfMarch
  have valid : leapDay.Valid := by decide
  have nextValid : firstOfMarch.Valid := by decide
  obtain ⟨numbers, dates, oneToOne⟩ := unlimited_oneToOne
  have number : leapDay.dayNumber = -865566 := by decide
  refine ⟨valid, nextValid, ?_, ?_, oneToOne.in_order _ _ valid nextValid⟩
  · rw [numbers leapDay valid, number]
  · rw [dates, ← number, oneToOne.date_number leapDay valid]

end DateAdjust
