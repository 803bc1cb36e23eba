import DateAdjust.Proofs.Moment.Timeline

/-! Shifts of a moment from any date of the span. Those that lead into the years 1 to 9999 are
accepted, so a moment of another year is not even shifted by 0. -/

namespace DateAdjust

namespace ShiftRange

theorem months_bounds (month : CivilMonth) (valid : month.Valid) :
    (0 < (months month.year month.month).least ↔ month.year < 1) ∧
    ((months month.year month.month).greatest < 0 ↔ 9999 < month.year) ∧
    (months month.year month.month).least ≤ (months month.year month.month).greatest := by
  simp only [CivilMonth.Valid] at valid
  simp only [months, monthIndex, Year.first, Year.last, Month.january, Month.december]
  omega

theorem days_bounds (date : CivilDate) (valid : date.Valid) :
    (0 < (days date).least ↔ date.year < 1) ∧ ((days date).greatest < 0 ↔ 9999 < date.year) ∧
    (days date).least ≤ (days date).greatest := by
  have lower := date.le_year_iff valid 1
  have upper := date.year_le_iff valid 9999
  have ordered : CivilDate.dayNumber { year := 1, month := 1, day := 1 } ≤
      CivilDate.dayNumber { year := 9999, month := 12, day := 31 } := by decide
  change (0 < CivilDate.dayNumber { year := 1, month := 1, day := 1 } - date.dayNumber ↔ _) ∧
    (CivilDate.dayNumber { year := 9999, month := 12, day := 31 } - date.dayNumber < 0 ↔ _) ∧
    CivilDate.dayNumber { year := 1, month := 1, day := 1 } - date.dayNumber ≤
      CivilDate.dayNumber { year := 9999, month := 12, day := 31 } - date.dayNumber
  omega

end ShiftRange

/-- Shifts from a start that may lie outside of the years 1 to 9999. Only from these years can they
stay where they are. From an earlier year they all lead forward and from a later one all backward,
and from everywhere some lead into these years. -/
structure ShiftsFrom {State : Type} (start : CivilDate) (unit : TimeUnit)
    (target : Int → CivilDate) (Reaches : State → CivilDate → Prop)
    (shift : Int → Except FieldError State) (least greatest : Int) : Prop extends
    ShiftsInto unit target Reaches shift least greatest where
  stays_iff : (∃ next, shift 0 = .ok next) ↔ start.InYears
  forward_iff : 0 < least ↔ start.year < 1
  backward_iff : greatest < 0 ↔ 9999 < start.year
  returns : ∃ amount next, shift amount = .ok next

theorem ShiftsInto.shiftsFrom {State : Type} {start : CivilDate} {unit : TimeUnit}
    {target : Int → CivilDate} {Reaches : State → CivilDate → Prop}
    {shift : Int → Except FieldError State} {least greatest : Int}
    (into : ShiftsInto unit target Reaches shift least greatest)
    (bounds : (0 < least ↔ start.year < 1) ∧ (greatest < 0 ↔ 9999 < start.year) ∧
      least ≤ greatest) :
    ShiftsFrom start unit target Reaches shift least greatest where
  toShiftsInto := into
  stays_iff := by
    rw [into.succeeds_iff 0]
    simp only [CivilDate.InYears]
    omega
  forward_iff := bounds.1
  backward_iff := bounds.2.1
  returns := ⟨least, (into.succeeds_iff least).mpr ⟨Int.le_refl least, bounds.2.2⟩⟩

namespace MomentEngine

variable {Value Time : Type}

def MovesTo (engine : MomentEngine Value) (time : Value → Time) (moment next : Value)
    (date : CivilDate) : Prop :=
  (engine.date next).civil = date ∧ time next = time moment

/-- The moment of another date at the same time is found if that is a date of the span. -/
def Finds (engine : MomentEngine Value) (time : Value → Time) (moment : Value)
    (found : Option Value) (target : CivilDate) : Prop :=
  ∀ date : WideDate, date.civil = target →
    ∃ next, found = some next ∧ engine.MovesTo time moment next target

/-- Shifts go by the calendar as far as the span reaches, and leave the time as it is. Times within
a leap second are left out: a shift by days takes such a time to the second before it or, if it goes
backward, to the second behind it, which may be on the next day. -/
structure ExactShifts (engine : MomentEngine Value) (time : Value → Time) : Prop where
  monthsAfter : ∀ moment count, engine.Finds time moment (engine.monthsAfter? moment count)
    ((engine.date moment).civil.monthsAway count)
  monthsBefore : ∀ moment count, engine.Finds time moment (engine.monthsBefore? moment count)
    ((engine.date moment).civil.monthsAway (-count))
  daysDuration : ∀ days : Int, days.natAbs ≤ daysLimit →
    engine.daysDuration? days = some (days * nanosecondsPerDay)
  add : ∀ moment (days : Int),
    engine.Finds time moment (engine.add? moment (days * nanosecondsPerDay))
      ((engine.date moment).civil.daysAway days)

theorem Exact.finds {engine : MomentEngine Moment} (exact : engine.Exact) {moment : Moment}
    {result : Option Moment} {target : CivilDate} (goes : moment.GoesTo result target) :
    engine.Finds Moment.time moment result target := by
  intro date dateEq
  refine ⟨{ moment with date }, (goes _).mpr ⟨dateEq, rfl⟩, ?_, rfl⟩
  rw [exact.date]
  exact dateEq

theorem Exact.exactShifts {engine : MomentEngine Moment} (exact : engine.Exact) :
    engine.ExactShifts Moment.time := by
  constructor
  case monthsAfter =>
    intro moment count
    rw [exact.date]
    exact exact.finds (exact.monthsAfter moment count)
  case monthsBefore =>
    intro moment count
    rw [exact.date]
    exact exact.finds (exact.monthsBefore moment count)
  case daysDuration => exact exact.daysDuration
  case add =>
    intro moment days
    rw [exact.date]
    apply exact.finds
    intro found
    rw [exact.add, Moment.instant_daysAfter_iff]

section Shifts

variable {engine : MomentEngine Value} {time : Value → Time}

theorem addMonths?_cases (engine : MomentEngine Value) (moment : Value) {amount : Int}
    (short : amount.natAbs < UInt32.size) :
    (∃ count : Nat, amount = -count ∧
      engine.addMonths? moment amount = engine.monthsBefore? moment count) ∨
    ∃ count : Nat, amount = count ∧
      engine.addMonths? moment amount = engine.monthsAfter? moment count := by
  simp only [addMonths?]
  rw [if_neg (by omega)]
  split
  next negative => exact .inl ⟨amount.natAbs, by omega, rfl⟩
  next notNegative => exact .inr ⟨amount.natAbs, by omega, rfl⟩

theorem addMonths?_finds (exact : engine.ExactShifts time) (moment : Value) {amount : Int}
    (short : amount.natAbs < UInt32.size) :
    engine.Finds time moment (engine.addMonths? moment amount)
      ((engine.date moment).civil.monthsAway amount) := by
  rcases engine.addMonths?_cases moment short with ⟨count, rfl, same⟩ | ⟨count, rfl, same⟩
  · rw [same]
    exact exact.monthsBefore moment count
  · rw [same]
    exact exact.monthsAfter moment count

theorem addDays?_finds (exact : engine.ExactShifts time) (moment : Value) {amount : Int}
    (short : amount.natAbs ≤ daysLimit) :
    engine.Finds time moment (engine.addDays? moment amount)
      ((engine.date moment).civil.daysAway amount) := by
  simp only [addDays?, exact.daysDuration amount short, Option.bind_eq_bind, Option.bind_some]
  exact exact.add moment amount

def checkedShift (range : ShiftRange) (amount : Int) (found : Option Value) :
    InPlace Value FieldError Unit := do
  range.check amount
  replace found (range.rejected amount)

theorem shiftsInto_of_checked {moment : Value} (range : ShiftRange) {target : Int → CivilDate}
    {shift : Int → InPlace Value FieldError Unit} (found : Int → Option Value)
    (checked : ∀ amount, (shift amount).onCopy moment =
      (checkedShift range amount (found amount)).onCopy moment)
    (allows_iff : ∀ amount, range.Allows amount ↔ (target amount).InYears)
    (valid : ∀ amount, (target amount).Valid)
    (finds : ∀ amount, range.Allows amount →
      engine.Finds time moment (found amount) (target amount)) :
    ShiftsInto range.unit target (engine.MovesTo time moment)
      (fun amount => (shift amount).onCopy moment) range.least range.greatest := by
  refine range.shiftsInto allows_iff ?_ ?_
  -- The engine is only asked for targets of the years 1 to 9999, and the span has them all.
  · intro amount allowed
    obtain ⟨date, dateEq⟩ :=
      WideDate.exists_of_inYears (valid amount) ((allows_iff amount).mp allowed)
    obtain ⟨next, foundNext, moves⟩ := finds amount allowed date dateEq
    refine ⟨next, ?_, moves⟩
    rw [checked, checkedShift, ShiftRange.check_of_allows allowed, foundNext]
    rfl
  · intro amount forbidden
    rw [checked, checkedShift, ShiftRange.check_of_not_allows forbidden]
    rfl

theorem addMonthsInPlace_shiftsInto (exact : engine.ExactShifts time) (moment : Value) :
    ShiftsInto .month (engine.date moment).civil.monthsAway (engine.MovesTo time moment)
      (fun amount => (engine.addMonthsInPlace amount).onCopy moment)
      (ShiftRange.months (engine.date moment).civil.year (engine.date moment).civil.month).least
      (ShiftRange.months (engine.date moment).civil.year
        (engine.date moment).civil.month).greatest := by
  have valid := (engine.date moment).civil.civilMonth_valid (engine.date moment).valid
  have dayPos := ((engine.date moment).civil.day_bounds (engine.date moment).valid).1
  refine shiftsInto_of_checked
    (.months (engine.date moment).civil.year (engine.date moment).civil.month)
    (engine.addMonths? moment) ?_ ?_ ?_ ?_
  · intro amount
    rfl
  · intro amount
    exact ShiftRange.months_allows_iff (engine.date moment).civil.civilMonth valid amount
  · intro amount
    exact (engine.date moment).civil.monthsAway_valid valid dayPos amount
  · intro amount allowed
    exact addMonths?_finds exact moment ((engine.date moment).natAbs_lt_of_months_allows allowed)

theorem addDaysInPlace_shiftsInto (exact : engine.ExactShifts time) (moment : Value) :
    ShiftsInto .day (engine.date moment).civil.daysAway (engine.MovesTo time moment)
      (fun amount => (engine.addDaysInPlace amount).onCopy moment)
      (ShiftRange.days (engine.date moment).civil).least
      (ShiftRange.days (engine.date moment).civil).greatest := by
  have valid := (engine.date moment).valid
  refine shiftsInto_of_checked (.days (engine.date moment).civil) (engine.addDays? moment)
    ?_ ?_ ?_ ?_
  · intro amount
    rfl
  · intro amount
    rw [← CivilDate.ofDayNumber_add _ valid]
    exact ShiftRange.days_allows_iff (engine.date moment).civil amount
  · intro amount
    exact CivilDate.numbered.stepBy_valid valid amount
  · intro amount allowed
    exact addDays?_finds exact moment (natAbs_le_daysLimit (engine.date moment) allowed)

end Shifts

/-- Shifts of moments by months and by days are those of the calendar into the years 1 to 9999,
from every date of the span. -/
theorem shifts_from_span (engine : MomentEngine Value) (time : Value → Time)
    (exact : engine.ExactShifts time) (moment : Value) :
    (∃ least greatest, ShiftsFrom (engine.date moment).civil .month
      (engine.date moment).civil.monthsAway (engine.MovesTo time moment)
      (fun amount => (engine.addMonthsInPlace amount).onCopy moment) least greatest) ∧
    ∃ least greatest, ShiftsFrom (engine.date moment).civil .day
      (engine.date moment).civil.daysAway (engine.MovesTo time moment)
      (fun amount => (engine.addDaysInPlace amount).onCopy moment) least greatest := by
  have valid := (engine.date moment).valid
  have monthBounds := ShiftRange.months_bounds (engine.date moment).civil.civilMonth
    ((engine.date moment).civil.civilMonth_valid valid)
  have dayBounds := ShiftRange.days_bounds (engine.date moment).civil valid
  exact ⟨⟨_, _, (addMonthsInPlace_shiftsInto exact moment).shiftsFrom monthBounds⟩,
    ⟨_, _, (addDaysInPlace_shiftsInto exact moment).shiftsFrom dayBounds⟩⟩

def spanJanuary : Moment where
  date := ⟨{ year := -262143, month := 1, day := 31 }, by decide, by decide, by decide⟩
  time := FineTime.ofTimeOfDay TimeOfDay.endOfDay

/-- From the first January of the span no shift shorter than to January of year 1 is accepted, and
February of that year cuts the day back to its 28th. -/
theorem shifts_from_span_january :
    gregorian.ExactShifts Moment.time ∧
    (∃ least greatest, ShiftsFrom spanJanuary.date.civil .month spanJanuary.date.civil.monthsAway
      (gregorian.MovesTo Moment.time spanJanuary)
      (fun amount => (gregorian.addMonthsInPlace amount).onCopy spanJanuary) least greatest) ∧
    (∃ least greatest, ShiftsFrom spanJanuary.date.civil .day spanJanuary.date.civil.daysAway
      (gregorian.MovesTo Moment.time spanJanuary)
      (fun amount => (gregorian.addDaysInPlace amount).onCopy spanJanuary) least greatest) ∧
    (gregorian.addMonthsInPlace 3145727).onCopy spanJanuary =
      .error { field := .month, value := 3145727, min := 3145728, max := 3265715 } ∧
    (gregorian.addMonthsInPlace 3145729).onCopy spanJanuary =
      .ok { spanJanuary with
        date := ⟨{ year := 1, month := 2, day := 28 }, by decide, by decide, by decide⟩ } := by
  have exact : gregorian.ExactShifts Moment.time := gregorian_exact.exactShifts
  obtain ⟨months, days⟩ := shifts_from_span gregorian Moment.time exact spanJanuary
  exact ⟨exact, months, days, by decide +kernel, by decide +kernel⟩

end MomentEngine

end DateAdjust
