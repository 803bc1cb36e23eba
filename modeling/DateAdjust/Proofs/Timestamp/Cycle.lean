import DateAdjust.Proofs.Spec.Saturation
import DateAdjust.Proofs.Timestamp.Validity

/-! The calendar repeats itself every 400 years: whatever a spec makes of a date, it makes of the
same date in another cycle. A cycle is 4800 months and 146097 days. -/

namespace DateAdjust

section Lengths

variable (year cycles : Int)

theorem isLeapYear_cycles : isLeapYear (year + 400 * cycles) = isLeapYear year := by
  rw [Bool.eq_iff_iff, isLeapYear_iff, isLeapYear_iff]
  omega

theorem monthLength_cycles (month : Nat) :
    monthLength (year + 400 * cycles) month = monthLength year month := by
  simp only [monthLength, isLeapYear_cycles]

end Lengths

namespace CivilMonth

def cyclesLater (cycles : Int) (month : CivilMonth) : CivilMonth :=
  { month with year := month.year + 400 * cycles }

theorem length_cyclesLater (cycles : Int) (month : CivilMonth) :
    (month.cyclesLater cycles).length = month.length :=
  monthLength_cycles month.year cycles month.month

theorem next_cyclesLater (cycles : Int) (month : CivilMonth) :
    (month.cyclesLater cycles).next = month.next.cyclesLater cycles := by
  have sameMonth : (month.cyclesLater cycles).month = month.month := rfl
  simp only [next, sameMonth]
  split
  · rfl
  · exact CivilMonth.ext (Int.add_right_comm _ _ _) rfl

theorem previous_cyclesLater (cycles : Int) (month : CivilMonth) :
    (month.cyclesLater cycles).previous = month.previous.cyclesLater cycles := by
  have sameMonth : (month.cyclesLater cycles).month = month.month := rfl
  simp only [previous, sameMonth]
  split
  · rfl
  · exact CivilMonth.ext (Int.add_right_comm _ _ _) rfl

theorem away_cyclesLater (cycles : Int) (month : CivilMonth) (amount : Int) :
    (month.cyclesLater cycles).away amount = (month.away amount).cyclesLater cycles :=
  stepBy_map (fun month => (next_cyclesLater cycles month).symm)
    (fun month => (previous_cyclesLater cycles month).symm) month amount

theorem away_cycles (cycles : Int) (month : CivilMonth) (valid : month.Valid) :
    month.away (4800 * cycles) = month.cyclesLater cycles := by
  have laterValid : (month.cyclesLater cycles).Valid := valid
  apply eq_of_index_eq (month.away_valid valid _) laterValid
  rw [index_away month valid]
  simp only [index, monthIndex, cyclesLater]
  omega

end CivilMonth

namespace CivilDate

def cyclesLater (cycles : Int) (date : CivilDate) : CivilDate :=
  { date with year := date.year + 400 * cycles }

theorem civilMonth_cyclesLater (cycles : Int) (date : CivilDate) :
    (date.cyclesLater cycles).civilMonth = date.civilMonth.cyclesLater cycles :=
  rfl

theorem date_cyclesLater (cycles : Int) (month : CivilMonth) (day : Nat) :
    (month.cyclesLater cycles).date day = (month.date day).cyclesLater cycles :=
  rfl

theorem next_cyclesLater (cycles : Int) (date : CivilDate) :
    (date.cyclesLater cycles).next = date.next.cyclesLater cycles := by
  simp only [next, civilMonth_cyclesLater, CivilMonth.length_cyclesLater,
    CivilMonth.next_cyclesLater, date_cyclesLater, apply_ite (cyclesLater cycles)]
  rfl

theorem previous_cyclesLater (cycles : Int) (date : CivilDate) :
    (date.cyclesLater cycles).previous = date.previous.cyclesLater cycles := by
  simp only [previous, civilMonth_cyclesLater, CivilMonth.previous_cyclesLater,
    CivilMonth.length_cyclesLater, date_cyclesLater, apply_ite (cyclesLater cycles)]
  rfl

theorem daysFrom_cyclesLater (cycles : Int) (date : CivilDate) (amount : Int) :
    (date.cyclesLater cycles).daysFrom amount = (date.daysFrom amount).cyclesLater cycles :=
  stepBy_map (fun date => (next_cyclesLater cycles date).symm)
    (fun date => (previous_cyclesLater cycles date).symm) (date.civilMonth.date 1) _

theorem monthsAway_cyclesLater (cycles : Int) (date : CivilDate) (amount : Int) :
    (date.cyclesLater cycles).monthsAway amount = (date.monthsAway amount).cyclesLater cycles := by
  simp only [monthsAway, civilMonth_cyclesLater, CivilMonth.away_cyclesLater,
    CivilMonth.length_cyclesLater, date_cyclesLater]
  rfl

theorem monthsAway_cycles (cycles : Int) (date : CivilDate) (valid : date.Valid) :
    date.monthsAway (4800 * cycles) = date.cyclesLater cycles := by
  rw [monthsAway, CivilMonth.away_cycles cycles _ (date.civilMonth_valid valid),
    CivilMonth.length_cyclesLater, Nat.min_eq_left (date.day_bounds valid).2]
  rfl

theorem dayNumber_cyclesLater (cycles : Int) (date : CivilDate) :
    (date.cyclesLater cycles).dayNumber = date.dayNumber + 146097 * cycles := by
  rw [dayNumber_eq, dayNumber_eq]
  simp only [cyclesLater, marchStart]
  split <;> omega

theorem ofDayNumber_cycles (cycles : Int) (date : CivilDate) (valid : date.Valid) :
    ofDayNumber (date.dayNumber + 146097 * cycles) = date.cyclesLater cycles := by
  have laterValid : (date.cyclesLater cycles).Valid := by
    simpa only [Valid, cyclesLater, monthLength_cycles] using valid
  rw [← dayNumber_cyclesLater, ofDayNumber_dayNumber _ laterValid]

theorem withUnit_cyclesLater (cycles : Int) (date : CivilDate) (value : Nat) (unit : TimeUnit) :
    (date.cyclesLater cycles).withUnit value unit =
      (date.withUnit value unit).cyclesLater cycles := by
  cases unit with
  | month => simp only [withUnit, cyclesLater, monthLength_cycles]
  | day => rfl

end CivilDate

namespace CivilTime

def cyclesLater (cycles : Int) (state : CivilTime) : CivilTime :=
  { state with date := state.date.cyclesLater cycles }

theorem after_cyclesLater (cycles : Int) (state : CivilTime) (step : Step) :
    (state.cyclesLater cycles).after step = (state.after step).cyclesLater cycles := by
  cases step with
  | zeroTime => rfl
  | shift unit amount =>
      cases unit with
      | month =>
          exact congrArg (CivilTime.mk · state.time)
            (state.date.monthsAway_cyclesLater cycles amount)
      | day =>
          exact congrArg (CivilTime.mk · state.time)
            (state.date.daysFrom_cyclesLater cycles amount)
  | setLast unit =>
      -- The largest value is looked up in the state itself, so it must repeat as well.
      have largest : (state.date.cyclesLater cycles).largest unit = state.date.largest unit := by
        cases unit with
        | month => rfl
        | day => exact CivilMonth.length_cyclesLater cycles state.date.civilMonth
      simp only [after, cyclesLater, largest, CivilDate.withUnit_cyclesLater]
  | setTo unit value => simp only [after, cyclesLater, CivilDate.withUnit_cyclesLater]

theorem foldl_after_cyclesLater (cycles : Int) (state : CivilTime) (steps : List Step) :
    steps.foldl after (state.cyclesLater cycles) =
      (steps.foldl after state).cyclesLater cycles :=
  List.foldl_hom (cyclesLater cycles) fun state step => after_cyclesLater cycles state step

end CivilTime

namespace Timestamp

variable {timestamp next final : Timestamp}

theorem civilTime_of_apply {step : Step} (applied : step.apply timestamp = .ok next) :
    next.civilTime = timestamp.civilTime.after step := by
  by_cases allowed : timestamp.civilTime.Allows step
  · obtain ⟨found, foundOk, reached⟩ := timestamp.apply_of_allows allowed
    rw [applied] at foundOk
    cases foundOk
    exact reached
  · obtain ⟨error, failed, _⟩ := timestamp.apply_of_not_allows allowed
    rw [applied] at failed
    cases failed

theorem civilTime_of_applySpec {tokens : List Token}
    (applied : Spec.apply timestamp { tokens } = .ok final) :
    final.civilTime = (tokens.map Token.step).foldl CivilTime.after timestamp.civilTime := by
  induction tokens generalizing timestamp with
  | nil =>
      cases applied
      rfl
  | cons token later ih =>
      obtain ⟨next, stepped, applied⟩ := Result.bind_eq_ok_iff.mp applied
      rw [List.map_cons, List.foldl_cons, ← civilTime_of_apply stepped]
      exact ih applied

theorem addMonths_cycles_iff (valid : timestamp.Valid) (cycles : Int) :
    timestamp.addMonths (4800 * cycles) = .ok next ↔
      next.civilTime = timestamp.civilTime.cyclesLater cycles := by
  rw [addMonths_eq_ok_iff, CivilDate.monthsAway_cycles cycles timestamp.date valid]
  constructor
  · rintro ⟨newDate, sameTime⟩
    exact congrArg₂ CivilTime.mk newDate sameTime
  · intro reached
    exact ⟨congrArg CivilTime.date reached, congrArg CivilTime.time reached⟩

/-- A spec that succeeds on a date and on the same date in another cycle of 400 years leads to one
date in both of these cycles, with the same time. -/
theorem applySpec_cycles {shifted shiftedFinal : Timestamp} (valid : timestamp.Valid)
    (cycles : Int) (shift : timestamp.addMonths (4800 * cycles) = .ok shifted)
    (tokens : List Token) (applied : Spec.apply timestamp { tokens } = .ok final)
    (shiftedApplied : Spec.apply shifted { tokens } = .ok shiftedFinal) :
    final.addMonths (4800 * cycles) = .ok shiftedFinal ∧
      (shiftedFinal.year.val : Int) = final.year.val + 400 * cycles ∧
      shiftedFinal.month = final.month ∧ shiftedFinal.day = final.day ∧
      shiftedFinal.time = final.time := by
  have later : shiftedFinal.civilTime = final.civilTime.cyclesLater cycles := by
    rw [civilTime_of_applySpec shiftedApplied, (addMonths_cycles_iff valid cycles).mp shift,
      CivilTime.foldl_after_cyclesLater, ← civilTime_of_applySpec applied]
  have finalValid : final.Valid := keeps_valid.applySpec { tokens } valid applied
  have sameDate := congrArg CivilTime.date later
  simp only [civilTime, CivilTime.cyclesLater, CivilDate.cyclesLater, date, CivilDate.mk.injEq]
    at sameDate
  exact ⟨(addMonths_cycles_iff finalValid cycles).mpr later, sameDate.1, Bounded.ext sameDate.2.1,
    Bounded.ext sameDate.2.2, congrArg CivilTime.time later⟩

def leapDay (year : Year) : Timestamp where
  year := year
  month := Month.february
  day := Day.lastOf 2000 Month.february
  time := TimeOfDay.endOfDay

theorem applySpec_cycles_leapDay :
    let first := leapDay ⟨2000, by decide, by decide⟩
    let second := leapDay ⟨2400, by decide, by decide⟩
    let tokens : List Token := [.shift .month (-12), .set .day .last, .shift .day 366, .zeroTime]
    first.Valid ∧ first.addMonths (4800 * 1) = .ok second ∧
      Spec.apply first { tokens } = .ok (first.withTime .midnight) ∧
      Spec.apply second { tokens } = .ok (second.withTime .midnight) ∧
      (first.withTime .midnight).addMonths (4800 * 1) = .ok (second.withTime .midnight) := by
  intro first second tokens
  have valid : first.Valid := by decide
  have shift : first.addMonths (4800 * 1) = .ok second := by decide +kernel
  have applied : Spec.apply first { tokens } = .ok (first.withTime .midnight) := by decide +kernel
  have shiftedApplied : Spec.apply second { tokens } = .ok (second.withTime .midnight) := by
    decide +kernel
  exact ⟨valid, shift, applied, shiftedApplied,
    (applySpec_cycles valid 1 shift tokens applied shiftedApplied).1⟩

/-- In whole cycles of 400 years, a shift by months is the shift by days. Either leads to the same
month and day of another year, a leap day included, or is refused by its own range where that year
is not one of 1 to 9999. -/
theorem addMonths_addDays_cycles (valid : timestamp.Valid) (cycles : Int) :
    ((timestamp.date.cyclesLater cycles).InYears ∧
      ∃ next, timestamp.addMonths (4800 * cycles) = .ok next ∧
        timestamp.addDays (146097 * cycles) = .ok next ∧
        (next.year.val : Int) = timestamp.year.val + 400 * cycles ∧
        next.month = timestamp.month ∧ next.day = timestamp.day ∧ next.time = timestamp.time) ∨
    (¬(timestamp.date.cyclesLater cycles).InYears ∧
      timestamp.addMonths (4800 * cycles) = .error
        ((ShiftRange.months timestamp.year.val timestamp.month.val).rejected (4800 * cycles)) ∧
      timestamp.addDays (146097 * cycles) = .error
        ((ShiftRange.days timestamp.date).rejected (146097 * cycles))) := by
  have byMonths := CivilDate.monthsAway_cycles cycles timestamp.date valid
  have byDays := CivilDate.ofDayNumber_cycles cycles timestamp.date valid
  by_cases inYears : (timestamp.date.cyclesLater cycles).InYears
  · obtain ⟨next, shifted, moves⟩ :=
      timestamp.addMonths_shiftsInto.lands (4800 * cycles) (byMonths.symm ▸ inYears)
    rw [byMonths] at moves
    have sameDate := moves.1
    simp only [date, CivilDate.cyclesLater, CivilDate.mk.injEq] at sameDate
    refine .inl ⟨inYears, next, shifted, ?_, sameDate.1, Bounded.ext sameDate.2.1,
      Bounded.ext sameDate.2.2, moves.2⟩
    rw [addDays_eq_ok_iff, byDays]
    exact moves
  · refine .inr ⟨inYears, ?_, ?_⟩
    · exact timestamp.addMonths_shiftsInto.refused (4800 * cycles) (byMonths.symm ▸ inYears)
    · exact timestamp.addDays_shiftsInto.refused (146097 * cycles) (byDays.symm ▸ inYears)

theorem addMonths_addDays_cycles_leapDay :
    let first := leapDay ⟨2000, by decide, by decide⟩
    first.Valid ∧
      (∃ next, first.addMonths (4800 * -4) = .ok next ∧ first.addDays (146097 * -4) = .ok next ∧
        next.year.val = 400 ∧ next.month = first.month ∧ next.day = first.day) ∧
      first.addDays (146097 * 20) =
        .error { field := .day, value := 2921940, min := -730178, max := 2921880 } := by
  intro first
  have valid : first.Valid := by decide
  refine ⟨valid, ?_, ?_⟩
  · rcases addMonths_addDays_cycles valid (-4) with
      ⟨_, next, byMonths, byDays, year, month, day, _⟩ | ⟨outside, _⟩
    · change (next.year.val : Int) = 2000 + 400 * -4 at year
      exact ⟨next, byMonths, byDays, by omega, month, day⟩
    · exact absurd (by decide) outside
  · rcases addMonths_addDays_cycles valid 20 with ⟨inYears, _⟩ | ⟨_, _, refused⟩
    · exact absurd inYears (by decide)
    · rw [refused]
      decide +kernel

end Timestamp

end DateAdjust
