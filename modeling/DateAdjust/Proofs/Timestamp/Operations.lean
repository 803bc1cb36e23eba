import DateAdjust.Proofs.ShiftRange
import DateAdjust.Timestamp.Calendar

/-! The dates that setting and shifting a timestamp lead to, and where they lead nowhere. -/

namespace DateAdjust

namespace Timestamp

theorem civilMonth_valid (timestamp : Timestamp) : timestamp.date.civilMonth.Valid :=
  ⟨timestamp.month.least_le, timestamp.month.le_greatest⟩

theorem eq_of_date_eq {timestamp other : Timestamp} (sameDate : timestamp.date = other.date)
    (sameTime : timestamp.time = other.time) : timestamp = other := by
  cases timestamp
  cases other
  simp only [date, CivilDate.mk.injEq, Int.natCast_inj] at sameDate sameTime
  obtain ⟨year, month, day⟩ := sameDate
  rw [Bounded.ext year, Bounded.ext month, Bounded.ext day, sameTime]

def MovesTo (timestamp next : Timestamp) (date : CivilDate) : Prop :=
  next.date = date ∧ next.time = timestamp.time

theorem MovesTo.inYears {timestamp next : Timestamp} {date : CivilDate}
    (moves : timestamp.MovesTo next date) : date.InYears := by
  rw [← moves.1]
  exact ⟨Int.ofNat_le.mpr next.year.least_le, Int.ofNat_le.mpr next.year.le_greatest⟩

theorem MovesTo.unique {timestamp next other : Timestamp} {date : CivilDate}
    (moves : timestamp.MovesTo next date) (otherMoves : timestamp.MovesTo other date) :
    next = other :=
  eq_of_date_eq (moves.1.trans otherMoves.1.symm) (moves.2.trans otherMoves.2.symm)

theorem set_month_of_mem (timestamp : Timestamp) {value : Nat} (lower : 1 ≤ value)
    (upper : value ≤ 12) :
    ∃ next, timestamp.set .month value = .ok next ∧ next.time = timestamp.time ∧
      next.date = { year := timestamp.year.val, month := value,
                    day := min timestamp.day.val (monthLength timestamp.year.val value) } := by
  obtain ⟨month, checked, same⟩ := Month.check_of_mem value (by omega) (by omega)
  have monthEq : month.val = value := by omega
  refine ⟨{ timestamp with month, day := timestamp.day.clamp timestamp.year.val month },
    ?_, rfl, ?_⟩
  · simp only [set, checked]
    rfl
  · simp only [date, Day.clamp_val, monthEq]

theorem set_month_of_not_mem (timestamp : Timestamp) {value : Nat}
    (outside : ¬(1 ≤ value ∧ value ≤ 12)) :
    timestamp.set .month value = .error { field := .month, value, min := 1, max := 12 } := by
  have refused := Month.check_of_not_mem value (by omega)
  simp only [set, refused]
  rfl

theorem set_day_of_mem (timestamp : Timestamp) {value : Nat} (lower : 1 ≤ value)
    (upper : value ≤ timestamp.date.civilMonth.length) :
    ∃ next, timestamp.set .day value = .ok next ∧ next.time = timestamp.time ∧
      next.date = { timestamp.date with day := value } := by
  obtain ⟨day, checked, same⟩ :=
    Day.checkIn_of_mem timestamp.year.val timestamp.month value (by omega) (Int.ofNat_le.mpr upper)
  have dayEq : day.val = value := by omega
  refine ⟨{ timestamp with day }, ?_, rfl, ?_⟩
  · simp only [set, checked]
    rfl
  · simp only [date, dayEq]

theorem set_day_of_not_mem (timestamp : Timestamp) {value : Nat}
    (outside : ¬(1 ≤ value ∧ value ≤ timestamp.date.civilMonth.length)) :
    timestamp.set .day value =
      .error { field := .day, value, min := 1, max := timestamp.date.civilMonth.length } := by
  have refused := Day.checkIn_of_not_mem timestamp.year.val timestamp.month value
    (fun inside => outside ⟨by omega, Int.ofNat_le.mp inside.2⟩)
  simp only [set, refused]
  rfl

theorem addMonths_of_allows (timestamp : Timestamp) {amount : Int}
    (allowed : (ShiftRange.months timestamp.year.val timestamp.month.val).Allows amount) :
    ∃ next, timestamp.addMonths amount = .ok next ∧ next.time = timestamp.time ∧
      next.date = timestamp.date.monthsAway amount := by
  have away := CivilMonth.away_eq _ timestamp.civilMonth_valid amount
  have inside := (ShiftRange.months_allows_iff _ timestamp.civilMonth_valid amount).mp allowed
  rw [away] at inside
  simp only [CivilMonth.index, CivilDate.civilMonth, date] at away inside
  obtain ⟨year, yearChecked, yearEq⟩ := Year.check_of_mem _ inside.1 inside.2
  obtain ⟨month, monthChecked, monthEq⟩ :=
    Month.check_of_mem ((monthIndex timestamp.year.val timestamp.month.val + amount) % 12 + 1)
      (by omega) (by omega)
  have monthNat : month.val =
      ((monthIndex timestamp.year.val timestamp.month.val + amount) % 12).toNat + 1 := by
    omega
  refine ⟨{ timestamp with year, month, day := timestamp.day.clamp year.val month }, ?_, rfl, ?_⟩
  · simp only [addMonths, ShiftRange.check_of_allows allowed, yearChecked, monthChecked]
    rfl
  · simp only [CivilDate.monthsAway, CivilDate.civilMonth, CivilMonth.length, CivilMonth.date, date,
      away, Day.clamp_val, yearEq, monthNat]

theorem addMonths_of_not_allows (timestamp : Timestamp) {amount : Int}
    (forbidden : ¬(ShiftRange.months timestamp.year.val timestamp.month.val).Allows amount) :
    timestamp.addMonths amount =
      .error ((ShiftRange.months timestamp.year.val timestamp.month.val).rejected amount) := by
  simp only [addMonths, ShiftRange.check_of_not_allows forbidden]
  rfl

theorem addMonths_shiftsInto (timestamp : Timestamp) :
    ShiftsInto .month timestamp.date.monthsAway timestamp.MovesTo timestamp.addMonths
      (ShiftRange.months timestamp.year.val timestamp.month.val).least
      (ShiftRange.months timestamp.year.val timestamp.month.val).greatest := by
  refine (ShiftRange.months timestamp.year.val timestamp.month.val).shiftsInto ?_ ?_ ?_
  · intro amount
    exact ShiftRange.months_allows_iff timestamp.date.civilMonth timestamp.civilMonth_valid amount
  · intro amount allowed
    obtain ⟨next, accepted, sameTime, newDate⟩ := timestamp.addMonths_of_allows allowed
    exact ⟨next, accepted, newDate, sameTime⟩
  · intro amount forbidden
    exact timestamp.addMonths_of_not_allows forbidden

theorem addMonths_eq_ok_iff {timestamp next : Timestamp} {amount : Int} :
    timestamp.addMonths amount = .ok next ↔
      timestamp.MovesTo next (timestamp.date.monthsAway amount) :=
  timestamp.addMonths_shiftsInto.eq_ok_iff MovesTo.inYears fun _ => MovesTo.unique

theorem addDays_of_allows (timestamp : Timestamp) {amount : Int}
    (allowed : (ShiftRange.days timestamp.date).Allows amount) :
    ∃ next, timestamp.addDays amount = .ok next ∧ next.time = timestamp.time ∧
      next.date = CivilDate.ofDayNumber (timestamp.date.dayNumber + amount) := by
  have inside := (ShiftRange.days_allows_iff timestamp.date amount).mp allowed
  have valid := (CivilDate.ofDayNumber_spec (timestamp.date.dayNumber + amount)).1
  generalize targetEq : CivilDate.ofDayNumber (timestamp.date.dayNumber + amount) = target at *
  obtain ⟨year, yearChecked, yearEq⟩ := Year.check_of_mem _ inside.1 inside.2
  obtain ⟨month, monthChecked, monthEq⟩ :=
    Month.check_of_mem _ (Int.ofNat_le.mpr valid.1) (Int.ofNat_le.mpr valid.2.1)
  have monthNat : month.val = target.month := Int.ofNat.inj monthEq
  obtain ⟨day, dayChecked, dayEq⟩ :=
    Day.checkIn_of_mem year.val month _ (Int.ofNat_le.mpr valid.2.2.1) (by
      simp only [Day.lastOf, yearEq, monthNat]
      exact Int.ofNat_le.mpr valid.2.2.2)
  refine ⟨{ timestamp with year, month, day }, ?_, rfl, ?_⟩
  · simp only [addDays, ShiftRange.check_of_allows allowed, targetEq, yearChecked, monthChecked,
      bind, Except.bind, dayChecked]
    rfl
  · simp only [date, yearEq, monthNat, Int.ofNat.inj dayEq]

theorem addDays_of_not_allows (timestamp : Timestamp) {amount : Int}
    (forbidden : ¬(ShiftRange.days timestamp.date).Allows amount) :
    timestamp.addDays amount = .error ((ShiftRange.days timestamp.date).rejected amount) := by
  simp only [addDays, ShiftRange.check_of_not_allows forbidden]
  rfl

theorem addDays_shiftsInto (timestamp : Timestamp) :
    ShiftsInto .day (fun amount => CivilDate.ofDayNumber (timestamp.date.dayNumber + amount))
      timestamp.MovesTo timestamp.addDays
      (ShiftRange.days timestamp.date).least (ShiftRange.days timestamp.date).greatest := by
  refine (ShiftRange.days timestamp.date).shiftsInto ?_ ?_ ?_
  · intro amount
    exact ShiftRange.days_allows_iff timestamp.date amount
  · intro amount allowed
    obtain ⟨next, accepted, sameTime, newDate⟩ := timestamp.addDays_of_allows allowed
    exact ⟨next, accepted, newDate, sameTime⟩
  · intro amount forbidden
    exact timestamp.addDays_of_not_allows forbidden

theorem addDays_eq_ok_iff {timestamp next : Timestamp} {amount : Int} :
    timestamp.addDays amount = .ok next ↔
      timestamp.MovesTo next (CivilDate.ofDayNumber (timestamp.date.dayNumber + amount)) :=
  timestamp.addDays_shiftsInto.eq_ok_iff MovesTo.inYears fun _ => MovesTo.unique

end Timestamp

end DateAdjust
