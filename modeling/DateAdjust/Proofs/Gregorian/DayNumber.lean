import DateAdjust.Gregorian.DayNumber
import DateAdjust.Proofs.Gregorian.Stepping
import Mathlib.Tactic.IntervalCases

/-! Day numbers count the dates of the calendar one by one, and every number is that of exactly one
date that exists. -/

namespace DateAdjust

theorem isLeapYear_iff (year : Int) :
    isLeapYear year = true ↔ (year % 4 = 0 ∧ year % 100 ≠ 0) ∨ year % 400 = 0 := by
  simp [isLeapYear]

def marchStart (year : Int) : Int :=
  365 * year + year / 4 - year / 100 + year / 400

theorem marchStart_eq (year : Int) :
    146097 * (year / 400) + (daysBeforeYear (year % 400).toNat : Int) = marchStart year := by
  simp only [daysBeforeYear, marchStart]
  omega

theorem marchStart_succ (year : Int) :
    marchStart (year + 1) = marchStart year + 337 + monthLength (year + 1) 2 := by
  have leap := isLeapYear_iff (year + 1)
  simp only [marchStart]
  by_cases isLeap : isLeapYear (year + 1) = true
  · have long := leap.mp isLeap
    simp only [monthLength, leapFebruaryLength, isLeap, decide_true, Bool.and_self, if_true]
    omega
  · have short := mt leap.mpr isLeap
    simp only [monthLength, isLeap, decide_true, Bool.and_false, Bool.false_eq_true, if_false,
      commonMonthLengths, List.getD_cons_succ, List.getD_cons_zero]
    omega

theorem dayNumber_eq (date : CivilDate) :
    date.dayNumber =
      if date.month ≤ 2 then
        marchStart (date.year - 1) + daysBeforeMonth (date.month + 9) + date.day - 719469
      else marchStart date.year + daysBeforeMonth (date.month - 3) + date.day - 719469 := by
  simp only [CivilDate.dayNumber]
  rw [marchStart_eq]
  split <;> omega

def CivilMonth.firstDay (month : CivilMonth) : Int :=
  (month.date 1).dayNumber

theorem dayNumber_eq_firstDay (date : CivilDate) :
    date.dayNumber = date.civilMonth.firstDay + date.day - 1 := by
  simp only [CivilMonth.firstDay, CivilMonth.date, CivilDate.civilMonth]
  rw [dayNumber_eq, dayNumber_eq]
  dsimp only
  split <;> omega

theorem monthLength_of_ne_two (year : Int) (month : Nat) (other : month ≠ 2) :
    monthLength year month = commonMonthLengths.getD month 0 := by
  simp [monthLength, other]

theorem CivilMonth.firstDay_next (month : CivilMonth) (valid : month.Valid) :
    month.next.firstDay = month.firstDay + month.length := by
  obtain ⟨year, month⟩ := month
  obtain ⟨lower, upper⟩ := valid
  dsimp only at lower upper
  simp only [CivilMonth.next, CivilMonth.firstDay, CivilMonth.date, CivilMonth.length]
  rw [dayNumber_eq, dayNumber_eq]
  by_cases february : month = 2
  · subst february
    have leapDay := marchStart_succ (year - 1)
    rw [Int.sub_add_cancel] at leapDay
    simp [leapDay, daysBeforeMonth]
    omega
  · rw [monthLength_of_ne_two year month february]
    interval_cases month <;> simp [daysBeforeMonth, commonMonthLengths] at february ⊢ <;> omega

namespace CivilMonth

theorem firstDay_add_length_le (first second : CivilMonth) (firstValid : first.Valid)
    (secondValid : second.Valid) (later : first.index < second.index) :
    first.firstDay + first.length ≤ second.firstDay := by
  obtain ⟨count, distance⟩ : ∃ count : Nat, second.index = first.index + (count + 1 : Nat) :=
    ⟨(second.index - first.index - 1).toNat, by omega⟩
  have reached := numbered.forward_iterate first firstValid (count + 1)
  have same : second = next^[count + 1] first := by
    rw [eq_of_index second secondValid distance, eq_of_index _ reached.1 reached.2]
  rw [same]
  -- The induction is on the months in between, so nothing about the second month may stay.
  clear distance reached same later
  induction count with
  | zero => exact Int.le_of_eq (firstDay_next first firstValid).symm
  | succ count ih =>
      have valid := (numbered.forward_iterate first firstValid (count + 1)).1
      rw [Function.iterate_succ_apply', firstDay_next _ valid]
      omega

end CivilMonth

namespace CivilDate

theorem dayNumber_lt_of_month_lt {first second : CivilDate} (firstValid : first.Valid)
    (secondValid : second.Valid) (later : first.civilMonth.index < second.civilMonth.index) :
    first.dayNumber < second.dayNumber := by
  have monthEnds := CivilMonth.firstDay_add_length_le first.civilMonth second.civilMonth
    (first.civilMonth_valid firstValid) (second.civilMonth_valid secondValid) later
  have firstDay := first.day_bounds firstValid
  have secondDay := second.day_bounds secondValid
  rw [dayNumber_eq_firstDay, dayNumber_eq_firstDay]
  omega

def Before (first second : CivilDate) : Prop :=
  first.year < second.year ∨ first.year = second.year ∧
    (first.month < second.month ∨ first.month = second.month ∧ first.day < second.day)

theorem before_trichotomy (first second : CivilDate) :
    first.Before second ∨ first = second ∨ second.Before first := by
  obtain ⟨year, month, day⟩ := first
  obtain ⟨otherYear, otherMonth, otherDay⟩ := second
  simp only [Before, CivilDate.mk.injEq]
  omega

theorem dayNumber_lt_of_before {first second : CivilDate} (firstValid : first.Valid)
    (secondValid : second.Valid) (before : first.Before second) :
    first.dayNumber < second.dayNumber := by
  by_cases sameMonth : first.civilMonth = second.civilMonth
  · rw [dayNumber_eq_firstDay, dayNumber_eq_firstDay, sameMonth]
    simp only [civilMonth, CivilMonth.mk.injEq] at sameMonth
    simp only [Before] at before
    omega
  · apply dayNumber_lt_of_month_lt firstValid secondValid
    simp only [Valid] at firstValid secondValid
    simp only [Before] at before
    simp only [civilMonth, CivilMonth.mk.injEq, CivilMonth.index, monthIndex] at sameMonth ⊢
    omega

theorem dayNumber_lt_iff {first second : CivilDate} (firstValid : first.Valid)
    (secondValid : second.Valid) : first.dayNumber < second.dayNumber ↔ first.Before second := by
  refine ⟨fun lower => ?_, dayNumber_lt_of_before firstValid secondValid⟩
  rcases before_trichotomy first second with before | same | after
  · exact before
  · rw [same] at lower
    omega
  · have := dayNumber_lt_of_before secondValid firstValid after
    omega

theorem eq_of_dayNumber_eq {first second : CivilDate} (firstValid : first.Valid)
    (secondValid : second.Valid) (same : first.dayNumber = second.dayNumber) : first = second := by
  rcases before_trichotomy first second with before | equal | after
  · have := dayNumber_lt_of_before firstValid secondValid before
    omega
  · exact equal
  · have := dayNumber_lt_of_before secondValid firstValid after
    omega

theorem next_valid (date : CivilDate) (valid : date.Valid) : date.next.Valid := by
  simp only [next]
  split
  next sameMonth => exact ⟨valid.1, valid.2.1, by dsimp only; omega, sameMonth⟩
  next monthEnds =>
    have monthValid := CivilMonth.numbered.valid_forward _ (date.civilMonth_valid valid)
    exact CivilMonth.date_valid _ monthValid (Nat.le_refl 1) (CivilMonth.length_pos _ monthValid)

theorem previous_valid (date : CivilDate) (valid : date.Valid) : date.previous.Valid := by
  have bounds := date.day_bounds valid
  simp only [previous]
  split
  next sameMonth =>
    refine ⟨valid.1, valid.2.1, ?_, ?_⟩
    · dsimp only
      omega
    · exact Nat.le_trans (Nat.sub_le _ _) bounds.2
  next monthBegins =>
    have monthValid := CivilMonth.numbered.valid_backward _ (date.civilMonth_valid valid)
    exact CivilMonth.date_valid _ monthValid (CivilMonth.length_pos _ monthValid) (Nat.le_refl _)

theorem dayNumber_next (date : CivilDate) (valid : date.Valid) :
    date.next.dayNumber = date.dayNumber + 1 := by
  have bounds := date.day_bounds valid
  have monthFollows := CivilMonth.firstDay_next _ (date.civilMonth_valid valid)
  rw [dayNumber_eq_firstDay, dayNumber_eq_firstDay]
  simp only [next]
  split
  next sameMonth =>
    simp only [civilMonth]
    omega
  next monthEnds =>
    change date.civilMonth.next.firstDay + (1 : Nat) - 1 = _
    omega

theorem dayNumber_previous (date : CivilDate) (valid : date.Valid) :
    date.previous.dayNumber = date.dayNumber - 1 := by
  have bounds := date.day_bounds valid
  have monthFollows := CivilMonth.firstDay_next date.civilMonth.previous
    (CivilMonth.numbered.valid_backward _ (date.civilMonth_valid valid))
  rw [CivilMonth.next_previous _ (date.civilMonth_valid valid)] at monthFollows
  rw [dayNumber_eq_firstDay, dayNumber_eq_firstDay]
  simp only [previous]
  split
  next sameMonth =>
    simp only [civilMonth]
    omega
  next monthBegins =>
    change date.civilMonth.previous.firstDay + date.civilMonth.previous.length - 1 = _
    omega

theorem numbered : Numbered Valid next previous dayNumber where
  valid_forward := next_valid
  valid_backward := previous_valid
  number_forward := dayNumber_next
  number_backward := dayNumber_previous

/-- A day of a cycle by its century, span of four years, year and day of the year. Only the last
year of a span can have 366 days, and in the last span of a century only that of the cycle. -/
theorem yearOfCycle_parts (dayOfCycle : Nat) (bound : dayOfCycle < 146097) :
    ∃ century span year rest, century ≤ 3 ∧ span ≤ 24 ∧ year ≤ 3 ∧ rest ≤ 365 ∧
      yearOfCycle dayOfCycle = 100 * century + 4 * span + year ∧
      dayOfCycle = 36524 * century + 1461 * span + 365 * year + rest ∧
      (rest = 365 → year = 3 ∧ (span = 24 → century = 3)) := by
  simp only [yearOfCycle]
  generalize centuryEq : min 3 (dayOfCycle / 36524) = century
  generalize restEq : dayOfCycle - 36524 * century = dayOfCentury
  generalize yearEq : min 3 (dayOfCentury % 1461 / 365) = year
  exact ⟨century, dayOfCentury / 1461, year, dayOfCentury % 1461 - 365 * year,
    by omega, by omega, by omega, by omega, rfl, by omega, by omega⟩

theorem yearOfCycle_spec (dayOfCycle : Nat) (bound : dayOfCycle < 146097) :
    yearOfCycle dayOfCycle < 400 ∧ ∃ dayOfYear ≤ 365,
      dayOfCycle = daysBeforeYear (yearOfCycle dayOfCycle) + dayOfYear ∧
      (dayOfYear = 365 → (yearOfCycle dayOfCycle + 1) % 4 = 0 ∧
        ((yearOfCycle dayOfCycle + 1) % 100 = 0 → (yearOfCycle dayOfCycle + 1) % 400 = 0)) := by
  obtain ⟨century, span, year, rest, centuryBound, spanBound, yearBound, restBound, yearEq, dayEq,
    leapEnd⟩ := yearOfCycle_parts dayOfCycle bound
  have before : daysBeforeYear (100 * century + 4 * span + year) =
      36524 * century + 1461 * span + 365 * year := by
    have spans : (100 * century + 4 * span + year) / 4 = 25 * century + span := by omega
    have centuries : (100 * century + 4 * span + year) / 100 = century := by omega
    simp only [daysBeforeYear]
    omega
  rw [yearEq, before]
  refine ⟨by omega, rest, restBound, dayEq, ?_⟩
  intro last
  have ends := leapEnd last
  omega

theorem dayOfYear_spec (year : Int) (dayOfYear : Nat) (bound : dayOfYear ≤ 365)
    (leapEnd : dayOfYear = 365 → isLeapYear (year + 1)) :
    ∃ monthOfYear < 12, (5 * dayOfYear + 2) / 153 = monthOfYear ∧
      daysBeforeMonth monthOfYear ≤ dayOfYear ∧
      dayOfYear < daysBeforeMonth monthOfYear +
        monthLength (if monthOfYear < 10 then year else year + 1)
          (if monthOfYear < 10 then monthOfYear + 3 else monthOfYear - 9) := by
  generalize monthEq : (5 * dayOfYear + 2) / 153 = monthOfYear
  have monthBound : monthOfYear < 12 := by omega
  refine ⟨monthOfYear, monthBound, rfl, by unfold daysBeforeMonth; omega, ?_⟩
  by_cases february : monthOfYear = 11
  · subst february
    by_cases last : dayOfYear = 365
    · simp [daysBeforeMonth, monthLength, leapEnd last, leapFebruaryLength]
      omega
    · have long := monthLength_ge (year + 1) 2 (by omega) (by omega)
      simp [daysBeforeMonth]
      omega
  · rw [monthLength_of_ne_two _ _ (by split <;> omega)]
    simp only [daysBeforeMonth]
    interval_cases monthOfYear <;> simp [commonMonthLengths] at february ⊢ <;> omega

theorem ofDayNumber_spec (number : Int) :
    (ofDayNumber number).Valid ∧ (ofDayNumber number).dayNumber = number := by
  obtain ⟨yearBound, dayOfYear, dayBound, dayEq, leapEnd⟩ :=
    yearOfCycle_spec ((number + 719468) % 146097).toNat (by omega)
  generalize yearEq : yearOfCycle ((number + 719468) % 146097).toNat = yearOfCycle at *
  generalize marchEq : 400 * ((number + 719468) / 146097) + (yearOfCycle : Int) = marchYear
  have leap : dayOfYear = 365 → isLeapYear (marchYear + 1) := by
    intro last
    have ends := leapEnd last
    rw [isLeapYear_iff]
    omega
  obtain ⟨monthOfYear, monthBound, monthEq, lower, upper⟩ :=
    dayOfYear_spec marchYear dayOfYear dayBound leap
  have rest : ((number + 719468) % 146097).toNat - daysBeforeYear yearOfCycle = dayOfYear := by
    omega
  have start := marchStart_eq marchYear
  have cycle : marchYear / 400 = (number + 719468) / 146097 := by omega
  have year : (marchYear % 400).toNat = yearOfCycle := by omega
  rw [cycle, year] at start
  have result : ofDayNumber number =
      { year := if monthOfYear < 10 then marchYear else marchYear + 1
        month := if monthOfYear < 10 then monthOfYear + 3 else monthOfYear - 9
        day := dayOfYear - daysBeforeMonth monthOfYear + 1 } := by
    simp only [ofDayNumber]
    rw [yearEq, rest, marchEq, monthEq]
    congr 1
    split <;> split <;> omega
  rw [result]
  refine ⟨⟨?_, ?_, ?_, ?_⟩, ?_⟩
  · dsimp only
    split <;> omega
  · dsimp only
    split <;> omega
  · exact Nat.le_add_left 1 _
  · dsimp only
    omega
  · rw [dayNumber_eq]
    dsimp only
    by_cases early : monthOfYear < 10
    · rw [if_neg (by rw [if_pos early]; omega), if_pos early, if_pos early, Nat.add_sub_cancel]
      omega
    · rw [if_pos (by rw [if_neg early]; omega), if_neg early, if_neg early, Int.add_sub_cancel,
        Nat.sub_add_cancel (by omega)]
      omega

theorem ofDayNumber_dayNumber (date : CivilDate) (valid : date.Valid) :
    ofDayNumber date.dayNumber = date := by
  have found := ofDayNumber_spec date.dayNumber
  exact eq_of_dayNumber_eq found.1 valid found.2

theorem daysAway_eq_iff {date target : CivilDate} (valid : date.Valid) (targetValid : target.Valid)
    (amount : Int) :
    date.daysAway amount = target ↔ target.dayNumber = date.dayNumber + amount := by
  have counted : (date.daysAway amount).dayNumber = date.dayNumber + amount :=
    numbered.number_stepBy valid amount
  constructor
  · rintro rfl
    exact counted
  · intro number
    exact eq_of_dayNumber_eq (numbered.stepBy_valid valid amount) targetValid
      (counted.trans number.symm)

theorem ofDayNumber_add (date : CivilDate) (valid : date.Valid) (amount : Int) :
    ofDayNumber (date.dayNumber + amount) = date.daysAway amount := by
  have found := ofDayNumber_spec (date.dayNumber + amount)
  exact ((daysAway_eq_iff valid found.1 amount).mpr found.2).symm

theorem daysFrom_eq (date : CivilDate) (valid : date.civilMonth.Valid) (amount : Int) :
    date.daysFrom amount = ofDayNumber (date.dayNumber + amount) := by
  have firstValid := date.civilMonth.date_valid valid (Nat.le_refl 1)
    (CivilMonth.length_pos _ valid)
  rw [daysFrom, ← ofDayNumber_add _ firstValid, dayNumber_eq_firstDay date]
  congr 1
  simp only [CivilMonth.firstDay]
  omega

theorem daysFrom_of_valid (date : CivilDate) (valid : date.Valid) (amount : Int) :
    date.daysFrom amount = date.daysAway amount := by
  rw [daysFrom_eq date (date.civilMonth_valid valid), ofDayNumber_add date valid]

theorem first_valid (year : Int) : Valid { year, month := 1, day := 1 } := by
  have long := monthLength_ge year 1 (by omega) (by omega)
  simp only [Valid]
  omega

theorem last_valid (year : Int) : Valid { year, month := 12, day := 31 } := by
  simp [Valid, monthLength_of_ne_two, commonMonthLengths]

theorem le_year_iff (date : CivilDate) (valid : date.Valid) (year : Int) :
    year ≤ date.year ↔ dayNumber { year, month := 1, day := 1 } ≤ date.dayNumber := by
  rw [← Int.not_lt, ← Int.not_lt, dayNumber_lt_iff valid (first_valid year)]
  simp only [Valid] at valid
  simp only [Before]
  omega

theorem year_le_iff (date : CivilDate) (valid : date.Valid) (year : Int) :
    date.year ≤ year ↔ date.dayNumber ≤ dayNumber { year, month := 12, day := 31 } := by
  rw [← Int.not_lt, ← Int.not_lt, dayNumber_lt_iff (last_valid year) valid]
  have short := monthLength_le date.year date.month
  simp only [Valid] at valid
  simp only [Before]
  omega

end CivilDate

end DateAdjust
