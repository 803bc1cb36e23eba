import DateAdjust.Proofs.Moment.Shifting
import DateAdjust.Proofs.Timestamp.DayShift
import DateAdjust.Proofs.Timestamp.MonthShift
import DateAdjust.Proofs.Timestamp.Setting

/-! Setting a unit of a date is shifting the date by what the new value is more than the old one. -/

namespace DateAdjust

namespace CivilDate

def part (date : CivilDate) : TimeUnit → Nat
  | .month => date.month
  | .day => date.day

variable {date : CivilDate} {value : Nat} {unit : TimeUnit}

theorem withUnit_inYears (inYears : date.InYears) : (date.withUnit value unit).InYears := by
  cases unit with
  | month => exact inYears
  | day => exact inYears

/-- The shift by the difference leads to the date with the unit set. A day past the end of the month
stands for a day of the next one, and the shift counts from there. -/
theorem shifted_sub_part (monthValid : date.civilMonth.Valid) (lower : 1 ≤ value)
    (upper : value ≤ date.largest unit) :
    date.shifted (value - date.part unit) unit = date.withUnit value unit := by
  cases unit with
  | month =>
      have targetValid : CivilMonth.Valid { year := date.year, month := value } := ⟨lower, upper⟩
      have reached := date.civilMonth.away_sub monthValid targetValid
      have distance : CivilMonth.index { year := date.year, month := value }
          - date.civilMonth.index = value - date.month := by
        simp only [CivilMonth.index, monthIndex, civilMonth]
        omega
      rw [distance] at reached
      simp only [shifted, part, monthsAway, reached]
      rfl
  | day =>
      have targetValid := date.civilMonth.date_valid monthValid lower upper
      have reached := date.daysFrom_sub monthValid targetValid
      have distance : (date.civilMonth.date value).dayNumber - date.dayNumber =
          value - date.day := by
        rw [dayNumber_eq_firstDay, dayNumber_eq_firstDay date]
        change date.civilMonth.firstDay + value - 1 - (date.civilMonth.firstDay + date.day - 1) = _
        omega
      rw [distance] at reached
      exact reached

end CivilDate

/-- Every value from 1 to the maximum of the unit is set with the same result as the state is
shifted by what the value is more than the one it has. -/
def Calendar.SetsByShifting {State : Type} (calendar : Calendar State) (state : State)
    (unit : TimeUnit) : Prop :=
  ∀ value, 1 ≤ value → value ≤ calendar.maximum state unit → ∃ next,
    calendar.set state unit value = .ok next ∧
      @Step.apply State calendar state (.shift unit (value - calendar.get state unit)) = .ok next

namespace Timestamp

theorem get_eq_part (timestamp : Timestamp) (unit : TimeUnit) :
    timestamp.get unit = timestamp.date.part unit := by
  cases unit with
  | month => rfl
  | day => rfl

theorem shift_eq_ok_iff {timestamp next : Timestamp} {unit : TimeUnit} {amount : Int} :
    (Step.shift unit amount).apply timestamp = .ok next ↔
      timestamp.MovesTo next (timestamp.date.shifted amount unit) := by
  cases unit with
  | month => exact addMonths_eq_ok_iff
  | day =>
      simp only [CivilDate.shifted, timestamp.date.daysFrom_eq timestamp.civilMonth_valid]
      exact addDays_eq_ok_iff

theorem setsByShifting (timestamp : Timestamp) (unit : TimeUnit) :
    (inferInstance : Calendar Timestamp).SetsByShifting timestamp unit := by
  intro value lower upper
  obtain ⟨next, accepted⟩ := set_succeeds_iff.mpr ⟨lower, upper⟩
  refine ⟨next, accepted, ?_⟩
  change value ≤ timestamp.maximum unit at upper
  rw [maximum_eq_largest] at upper
  have reached := CivilDate.shifted_sub_part timestamp.civilMonth_valid lower upper
  rw [← get_eq_part] at reached
  change (Step.shift unit (value - timestamp.get unit)).apply timestamp = .ok next
  rw [shift_eq_ok_iff, reached]
  exact (set_eq_ok_iff.mp accepted).2

end Timestamp

theorem WideDate.eq_of_civil_eq {first second : WideDate} (same : first.civil = second.civil) :
    first = second := by
  cases first
  cases second
  cases same
  rfl

namespace MomentEngine

variable {Value Time : Type}

/-- Days and months are set by the calendar too, as far as the span reaches, and leave the time as
it is. A moment is its date and its time. -/
structure ExactDates (engine : MomentEngine Value) (time : Value → Time) : Prop extends
    engine.ExactShifts time where
  dates : engine.dates.Exact
  withDay : ∀ moment day, engine.Finds time moment (engine.withDay? moment day)
    { (engine.date moment).civil with day }
  withMonth : ∀ moment month, engine.Finds time moment (engine.withMonth? moment month)
    { (engine.date moment).civil with month }
  determined : ∀ first second, engine.date first = engine.date second →
    time first = time second → first = second

theorem Exact.exactDates {engine : MomentEngine Moment} (exact : engine.Exact) :
    engine.ExactDates Moment.time where
  toExactShifts := exact.exactShifts
  dates := exact.dates
  withDay moment day := by
    rw [exact.date]
    exact exact.finds (exact.withDay moment day)
  withMonth moment month := by
    rw [exact.date]
    exact exact.finds (exact.withMonth moment month)
  determined first second sameDate sameTime := by
    rw [exact.date, exact.date] at sameDate
    exact congrArg₂ Moment.mk sameDate sameTime

section Setting

variable {engine : MomentEngine Value} {time : Value → Time} {value : Nat} {unit : TimeUnit}

theorem Finds.of_inYears {moment : Value} {found : Option Value} {target : CivilDate}
    (finds : engine.Finds time moment found target) (valid : target.Valid)
    (inYears : target.InYears) :
    ∃ next, found = some next ∧ engine.MovesTo time moment next target := by
  obtain ⟨date, dateEq⟩ := WideDate.exists_of_inYears valid inYears
  exact finds date dateEq

theorem maximum_eq_largest (exact : engine.ExactDates time) (moment : Value)
    (inYears : (engine.date moment).civil.InYears) (unit : TimeUnit) :
    engine.maximum moment unit = (engine.date moment).civil.largest unit := by
  cases unit with
  | month => rfl
  | day =>
      have within : (engine.date moment).civil.civilMonth.year < 262142 :=
        Int.lt_of_le_of_lt inYears.2 (by decide)
      exact (DateEngine.lastDay_eq_lengthInSpan exact.dates _).trans
        (CivilMonth.lengthInSpan_of_year_lt within)

theorem withUnit?_month_moves (exact : engine.ExactDates time) (moment : Value)
    (inYears : (engine.date moment).civil.InYears) (lower : 1 ≤ value) (upper : value ≤ 12) :
    ∃ next, engine.withUnit? moment .month value = some next ∧
      engine.MovesTo time moment next ((engine.date moment).civil.withUnit value .month) := by
  have valid := (engine.date moment).valid
  have monthValid := (engine.date moment).civil.civilMonth_valid valid
  have dayPos := ((engine.date moment).civil.day_bounds valid).1
  have targetValid : CivilMonth.Valid { year := (engine.date moment).civil.year, month := value } :=
    ⟨lower, upper⟩
  have targetLong := CivilMonth.length_pos _ targetValid
  obtain ⟨first, firstFound, firstDate, firstTime⟩ := (exact.withDay moment 1).of_inYears
    (CivilMonth.date_valid _ monthValid (Nat.le_refl 1) (CivilMonth.length_pos _ monthValid))
    inYears
  have findsMoved := exact.withMonth first value
  rw [firstDate] at findsMoved
  obtain ⟨moved, movedFound, movedDate, movedTime⟩ := findsMoved.of_inYears
    (CivilMonth.date_valid _ targetValid (Nat.le_refl 1) targetLong) inYears
  have last : engine.dates.lastDay (engine.date moved) =
      monthLength (engine.date moment).civil.year value := by
    have movedInYears : (engine.date moved).civil.InYears := by
      rw [movedDate]
      exact inYears
    have largest := maximum_eq_largest exact moved movedInYears .day
    rw [movedDate] at largest
    exact largest
  have findsLast := exact.withDay moved (min (engine.date moment).civil.day
    (engine.dates.lastDay (engine.date moved)))
  rw [last, movedDate] at findsLast
  obtain ⟨next, nextFound, nextDate, nextTime⟩ := findsLast.of_inYears
    (CivilMonth.date_valid _ targetValid (Nat.le_min.mpr ⟨dayPos, targetLong⟩)
      (Nat.min_le_right _ _)) inYears
  refine ⟨next, ?_, nextDate, ?_⟩
  · simp only [withUnit?]
    simp only [firstFound, Option.bind_eq_bind, Option.bind_some, movedFound, last, nextFound]
  · rw [nextTime, movedTime, firstTime]

theorem withUnit?_moves (exact : engine.ExactDates time) (moment : Value)
    (inYears : (engine.date moment).civil.InYears) (lower : 1 ≤ value)
    (upper : value ≤ (engine.date moment).civil.largest unit) :
    ∃ next, engine.withUnit? moment unit value = some next ∧
      engine.MovesTo time moment next ((engine.date moment).civil.withUnit value unit) := by
  cases unit with
  | month => exact withUnit?_month_moves exact moment inYears lower upper
  | day =>
      have monthValid := (engine.date moment).civil.civilMonth_valid (engine.date moment).valid
      exact (exact.withDay moment value).of_inYears
        (CivilMonth.date_valid _ monthValid lower upper) inYears

theorem setInPlace_onCopy {moment next : Value}
    (found : engine.withUnit? moment unit value = some next) :
    (engine.setInPlace unit value).onCopy moment = .ok next := by
  have leads : (engine.setInPlace unit value).LeadsTo moment _ :=
    .read (replace_leadsTo moment (engine.withUnit? moment unit value) _)
  rw [leads.onCopy_eq, found]

theorem shift_moves (exact : engine.ExactShifts time) (moment : Value) {amount : Int}
    (inYears : ((engine.date moment).civil.shifted amount unit).InYears) :
    ∃ next, @Step.apply Value engine.inPlace.calendar moment (.shift unit amount) = .ok next ∧
      engine.MovesTo time moment next ((engine.date moment).civil.shifted amount unit) := by
  cases unit with
  | month => exact (addMonthsInPlace_shiftsInto exact moment).lands amount inYears
  | day =>
      have away := CivilDate.daysFrom_of_valid _ (engine.date moment).valid amount
      simp only [CivilDate.shifted, away] at inYears ⊢
      exact (addDaysInPlace_shiftsInto exact moment).lands amount inYears

theorem get_eq_part (engine : MomentEngine Value) (moment : Value) (unit : TimeUnit) :
    engine.get moment unit = (engine.date moment).civil.part unit := by
  cases unit with
  | month => rfl
  | day => rfl

theorem setsByShifting (exact : engine.ExactDates time) (moment : Value)
    (inYears : (engine.date moment).civil.InYears) (unit : TimeUnit) :
    engine.inPlace.calendar.SetsByShifting moment unit := by
  intro value lower upper
  change value ≤ engine.maximum moment unit at upper
  rw [maximum_eq_largest exact moment inYears] at upper
  have monthValid := (engine.date moment).civil.civilMonth_valid (engine.date moment).valid
  have reached := CivilDate.shifted_sub_part monthValid lower upper
  have targetInYears : ((engine.date moment).civil.shifted
      (value - (engine.date moment).civil.part unit) unit).InYears := by
    rw [reached]
    exact CivilDate.withUnit_inYears inYears
  obtain ⟨next, found, newDate, sameTime⟩ := withUnit?_moves exact moment inYears lower upper
  obtain ⟨shifted, accepted, shiftedDate, shiftedTime⟩ :=
    shift_moves exact.toExactShifts moment targetInYears
  have sameDate : engine.date shifted = engine.date next :=
    WideDate.eq_of_civil_eq (by rw [shiftedDate, newDate, reached])
  rw [exact.determined shifted next sameDate (shiftedTime.trans sameTime.symm),
    ← get_eq_part] at accepted
  exact ⟨next, setInPlace_onCopy found, accepted⟩

end Setting

end MomentEngine

/-- Setting a unit to a value comes to the shift by the difference, for every timestamp, and for
every moment of the years 1 to 9999, whatever stands for moments and for their times. -/
theorem setting_is_shifting :
    (∀ (timestamp : Timestamp) (unit : TimeUnit),
      (inferInstance : Calendar Timestamp).SetsByShifting timestamp unit) ∧
    ∀ {Value Time : Type} (engine : MomentEngine Value) (time : Value → Time),
      engine.ExactDates time → ∀ moment, (engine.date moment).civil.InYears →
        ∀ unit, engine.inPlace.calendar.SetsByShifting moment unit :=
  ⟨Timestamp.setsByShifting, fun _ _ exact => MomentEngine.setsByShifting exact⟩

def Moment.firstJanuaryEnd : Moment where
  date := ⟨{ year := 1, month := 1, day := 31 }, by decide, by decide, by decide⟩
  time := FineTime.ofTimeOfDay TimeOfDay.endOfDay

theorem setting_is_shifting_firstJanuaryEnd :
    (MomentEngine.gregorian.ExactDates Moment.time ∧ Moment.firstJanuaryEnd.date.civil.InYears ∧
      MomentEngine.gregorian.inPlace.calendar.SetsByShifting Moment.firstJanuaryEnd .month) ∧
    (∃ february : Moment, february.date.civil = { year := 1, month := 2, day := 28 } ∧
      (MomentEngine.gregorian.setInPlace .month 2).onCopy Moment.firstJanuaryEnd = .ok february ∧
      (MomentEngine.gregorian.addMonthsInPlace 1).onCopy Moment.firstJanuaryEnd = .ok february) ∧
    ∃ first, Timestamp.february31.set .day 1 = .ok first ∧
      Timestamp.february31.addDays (-30) = .ok first := by
  have exact : MomentEngine.gregorian.ExactDates Moment.time :=
    MomentEngine.gregorian_exact.exactDates
  have inYears : Moment.firstJanuaryEnd.date.civil.InYears := by decide
  have months := setting_is_shifting.2 _ _ exact Moment.firstJanuaryEnd inYears .month
  let february : Moment := { Moment.firstJanuaryEnd with
    date := ⟨{ year := 1, month := 2, day := 28 }, by decide, by decide, by decide⟩ }
  exact ⟨⟨exact, inYears, months⟩, ⟨february, rfl, by decide +kernel, by decide +kernel⟩,
    setting_is_shifting.1 Timestamp.february31 .day 1 (by decide) (by decide)⟩

end DateAdjust
