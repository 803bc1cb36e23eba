import DateAdjust.Proofs.Atomicity
import DateAdjust.Proofs.Moment.Operations

/-! Over an exact engine, working on whole moments is working on their dates: a whole number of days
later is the same time on a later date. -/

namespace DateAdjust

namespace FineTime

theorem number_lt (time : FineTime) : (time.number : Int) < nanosecondsPerDay := by
  have hour := time.hour.le_greatest
  have minute := time.minute.le_greatest
  have second := time.second.le_greatest
  have nanosecond := time.nanosecond.le_greatest
  simp only [number, nanosecondsPerDay]
  omega

theorem ofNumber_number (time : FineTime) : ofNumber time.number = time := by
  cases time with
  | mk hour minute second nanosecond =>
      have hourBound := hour.le_greatest
      have minuteBound := minute.le_greatest
      have secondBound := second.le_greatest
      have nanosecondBound := nanosecond.le_greatest
      simp only [number, ofNumber, FineTime.mk.injEq]
      exact ⟨Bounded.ext (by dsimp only; omega), Bounded.ext (by dsimp only; omega),
        Bounded.ext (by dsimp only; omega), Bounded.ext (by dsimp only; omega)⟩

theorem eq_of_number_eq {first second : FineTime} (same : first.number = second.number) :
    first = second := by
  rw [← ofNumber_number first, same, ofNumber_number]

theorem number_ofNumber {number : Nat} (within : (number : Int) < nanosecondsPerDay) :
    (ofNumber number).number = number := by
  simp only [nanosecondsPerDay] at within
  simp only [ofNumber, FineTime.number]
  omega

end FineTime

namespace Moment

theorem instant_eq_iff (moment : Moment) (day : Int) (time : FineTime) :
    moment.instant = day * nanosecondsPerDay + time.number ↔
      moment.date.civil.dayNumber = day ∧ moment.time = time := by
  have within := moment.time.number_lt
  have otherWithin := time.number_lt
  simp only [instant]
  constructor
  · intro same
    simp only [nanosecondsPerDay] at *
    exact ⟨by omega, FineTime.eq_of_number_eq (by omega)⟩
  · rintro ⟨rfl, rfl⟩
    rfl

theorem instant_daysAfter_iff (moment found : Moment) (amount : Int) :
    found.instant = moment.instant + amount * nanosecondsPerDay ↔
      found.date.civil = moment.date.civil.daysAway amount ∧ found.time = moment.time := by
  have shifted : moment.instant + amount * nanosecondsPerDay =
      (moment.date.civil.dayNumber + amount) * nanosecondsPerDay + moment.time.number := by
    simp only [instant, nanosecondsPerDay]
    omega
  rw [shifted, instant_eq_iff, ← CivilDate.daysAway_eq_iff moment.date.valid found.date.valid,
    @eq_comm _ found.date.civil]

theorem ofInstant?_eq_some_iff {instant : Int} {found : Moment} :
    ofInstant? instant = some found ↔ found.instant = instant := by
  obtain ⟨valid, number⟩ := CivilDate.ofDayNumber_spec (instant / nanosecondsPerDay)
  have within : ((instant % nanosecondsPerDay).toNat : Int) < nanosecondsPerDay := by
    simp only [nanosecondsPerDay]
    omega
  have parts : instant = instant / nanosecondsPerDay * nanosecondsPerDay
      + (FineTime.ofNumber (instant % nanosecondsPerDay).toNat).number := by
    rw [FineTime.number_ofNumber within]
    simp only [nanosecondsPerDay]
    omega
  have sameDay : ∀ date : WideDate, date.civil.dayNumber = instant / nanosecondsPerDay ↔
      date.civil = CivilDate.ofDayNumber (instant / nanosecondsPerDay) := by
    intro date
    constructor
    · intro same
      exact CivilDate.eq_of_dayNumber_eq date.valid valid (same.trans number.symm)
    · intro same
      rw [same, number]
  conv =>
    rhs
    rw [parts, instant_eq_iff, sameDay]
  simp only [ofInstant?, Option.bind_eq_bind, Option.bind_eq_some_iff,
    WideDate.ofCivil?_eq_some_iff, Option.pure_def, Option.some.injEq]
  constructor
  · rintro ⟨date, found, rfl⟩
    exact ⟨found, rfl⟩
  · rintro ⟨sameDate, sameTime⟩
    refine ⟨found.date, sameDate, ?_⟩
    rw [← sameTime]

def GoesTo (moment : Moment) (result : Option Moment) (target : CivilDate) : Prop :=
  ∀ found, result = some found ↔ found.date.civil = target ∧ found.time = moment.time

theorem goesTo_map {moment : Moment} {date? : Option WideDate} {target : CivilDate}
    (finds : ∀ date, date? = some date ↔ date.civil = target) :
    moment.GoesTo (date?.map fun date => { moment with date }) target := by
  intro found
  simp only [Option.map_eq_some_iff, finds]
  constructor
  · rintro ⟨date, sameDate, rfl⟩
    exact ⟨sameDate, rfl⟩
  · rintro ⟨sameDate, sameTime⟩
    refine ⟨found.date, sameDate, ?_⟩
    rw [← sameTime]

theorem GoesTo.eq_map {moment : Moment} {result : Option Moment} {target : CivilDate}
    (goes : moment.GoesTo result target) {date? : Option WideDate}
    (finds : ∀ date, date? = some date ↔ date.civil = target) :
    result = date?.map fun date => { moment with date } := by
  apply Option.ext
  intro found
  rw [goes found, goesTo_map finds found]

end Moment

namespace WideDate

theorem dayNumber_bounds (date : WideDate) :
    -100000000 ≤ date.civil.dayNumber ∧ date.civil.dayNumber ≤ 100000000 := by
  have lower := (CivilDate.le_year_iff date.civil date.valid (-262143)).mp date.first_le
  have upper := (CivilDate.year_le_iff date.civil date.valid 262142).mp date.le_last
  exact ⟨Int.le_trans (by decide) lower, Int.le_trans upper (by decide)⟩

end WideDate

namespace MomentEngine

/-- Changes of the date find the date that the calendar gives, at the same time of day. Adding a
duration finds the moment of the instant that far away. -/
structure Exact (engine : MomentEngine Moment) : Prop where
  dates : engine.dates.Exact
  date : ∀ moment, engine.date moment = moment.date
  atTime : ∀ moment time, engine.atTime moment time = moment.withTime time
  withDay : ∀ (moment : Moment) day,
    moment.GoesTo (engine.withDay? moment day) { moment.date.civil with day }
  withMonth : ∀ (moment : Moment) month,
    moment.GoesTo (engine.withMonth? moment month) { moment.date.civil with month }
  monthsAfter : ∀ (moment : Moment) count,
    moment.GoesTo (engine.monthsAfter? moment count) (moment.date.civil.monthsAway count)
  monthsBefore : ∀ (moment : Moment) count,
    moment.GoesTo (engine.monthsBefore? moment count) (moment.date.civil.monthsAway (-count))
  daysDuration : ∀ days : Int, days.natAbs ≤ daysLimit →
    engine.daysDuration? days = some (days * nanosecondsPerDay)
  add : ∀ (moment : Moment) duration (found : Moment),
    engine.add? moment duration = some found ↔ found.instant = moment.instant + duration

theorem gregorian_exact : gregorian.Exact where
  dates := DateEngine.gregorian_exact
  date _ := rfl
  atTime _ _ := rfl
  withDay moment day := Moment.goesTo_map (DateEngine.gregorian_exact.withDay moment.date day)
  withMonth moment month :=
    Moment.goesTo_map (DateEngine.gregorian_exact.withMonth moment.date month)
  monthsAfter moment count :=
    Moment.goesTo_map (DateEngine.gregorian_exact.monthsAfter moment.date count)
  monthsBefore moment count :=
    Moment.goesTo_map (DateEngine.gregorian_exact.monthsBefore moment.date count)
  daysDuration _ within := if_pos within
  add _ _ _ := Moment.ofInstant?_eq_some_iff

variable {engine : MomentEngine Moment}

theorem get_eq (exact : engine.Exact) (moment : Moment) (unit : TimeUnit) :
    engine.get moment unit = moment.get unit := by
  cases unit with
  | month => simp only [get, Moment.get, exact.date]
  | day => simp only [get, Moment.get, exact.date]

theorem maximum_eq (exact : engine.Exact) (moment : Moment) (unit : TimeUnit) :
    engine.maximum moment unit = moment.maximum engine.dates unit := by
  cases unit with
  | month => rfl
  | day => simp only [maximum, Moment.maximum, exact.date]

theorem withDay?_eq (exact : engine.Exact) (moment : Moment) (day : Nat) :
    engine.withDay? moment day =
      (engine.dates.withDay? moment.date day).map fun date => { moment with date } :=
  (exact.withDay moment day).eq_map (exact.dates.withDay moment.date day)

theorem withMonth?_eq (exact : engine.Exact) (moment : Moment) (month : Nat) :
    engine.withMonth? moment month =
      (engine.dates.withMonth? moment.date month).map fun date => { moment with date } :=
  (exact.withMonth moment month).eq_map (exact.dates.withMonth moment.date month)

theorem withUnit?_eq (exact : engine.Exact) (moment : Moment) (unit : TimeUnit) (value : Nat) :
    engine.withUnit? moment unit value =
      (engine.dates.withUnit? moment.date unit value).map fun date => { moment with date } := by
  cases unit with
  | day => exact withDay?_eq exact moment value
  | month =>
      simp only [withUnit?, DateEngine.withUnit?, exact.date, withDay?_eq exact,
        withMonth?_eq exact,
        Option.bind_eq_bind]
      cases engine.dates.withDay? moment.date 1 with
      | none => rfl
      | some first =>
          simp only [Option.map_some, Option.bind_some]
          cases engine.dates.withMonth? first value with
          | none => rfl
          | some moved => rfl

theorem addMonths?_eq (exact : engine.Exact) (moment : Moment) (amount : Int) :
    engine.addMonths? moment amount =
      (engine.dates.addMonths? moment.date amount).map fun date => { moment with date } := by
  simp only [addMonths?, DateEngine.addMonths?]
  split
  · rfl
  · split
    · exact (exact.monthsBefore moment _).eq_map (exact.dates.monthsBefore moment.date _)
    · exact (exact.monthsAfter moment _).eq_map (exact.dates.monthsAfter moment.date _)

theorem natAbs_le_daysLimit (date : WideDate) {amount : Int}
    (allowed : (ShiftRange.days date.civil).Allows amount) : amount.natAbs ≤ daysLimit := by
  have inside := (ShiftRange.days_allows_iff date.civil amount).mp allowed
  obtain ⟨valid, number⟩ := CivilDate.ofDayNumber_spec (date.civil.dayNumber + amount)
  obtain ⟨target, targetEq⟩ := WideDate.exists_of_inYears valid inside
  have start := date.dayNumber_bounds
  have reached := target.dayNumber_bounds
  rw [targetEq, number] at reached
  simp only [daysLimit]
  omega

theorem addDays?_eq (exact : engine.Exact) (moment : Moment) {amount : Int}
    (allowed : (ShiftRange.days moment.date.civil).Allows amount) :
    engine.addDays? moment amount =
      (engine.dates.addDays? moment.date amount).map fun date => { moment with date } := by
  have duration := exact.daysDuration amount (natAbs_le_daysLimit moment.date allowed)
  simp only [addDays?, duration, Option.bind_eq_bind, Option.bind_some]
  have goes : moment.GoesTo (engine.add? moment (amount * nanosecondsPerDay))
      (moment.date.civil.daysAway amount) := by
    intro found
    rw [exact.add, Moment.instant_daysAfter_iff]
  exact goes.eq_map (exact.dates.addDays moment.date amount)

theorem replace_map_leadsTo (moment : Moment) (date? : Option WideDate) (report : FieldError) :
    (replace (date?.map fun date => { moment with date }) report).LeadsTo moment
      (match date? with
      | some date => .ok { moment with date }
      | none => .error report) := by
  cases date? with
  | some date => rfl
  | none => rfl

theorem setInPlace_leadsTo (exact : engine.Exact) (moment : Moment) (unit : TimeUnit)
    (value : Nat) : (engine.setInPlace unit value).LeadsTo moment
      (moment.set engine.dates unit value) := by
  apply InPlace.LeadsTo.read
  rw [withUnit?_eq exact, maximum_eq exact]
  exact replace_map_leadsTo moment _ _

theorem addMonthsInPlace_leadsTo (exact : engine.Exact) (moment : Moment) (amount : Int) :
    (engine.addMonthsInPlace amount).LeadsTo moment (moment.addMonths engine.dates amount) := by
  apply InPlace.LeadsTo.read
  simp only [exact.date, addMonths?_eq exact]
  apply InPlace.LeadsTo.check
  intro allowed
  exact replace_map_leadsTo moment _ _

theorem addDaysInPlace_leadsTo (exact : engine.Exact) (moment : Moment) (amount : Int) :
    (engine.addDaysInPlace amount).LeadsTo moment (moment.addDays engine.dates amount) := by
  apply InPlace.LeadsTo.read
  simp only [exact.date]
  by_cases allowed : (ShiftRange.days moment.date.civil).Allows amount
  · rw [addDays?_eq exact moment allowed]
    apply InPlace.LeadsTo.check
    intro checked
    exact replace_map_leadsTo moment _ _
  · simp only [Moment.addDays, ShiftRange.check_of_not_allows allowed]
    rfl

theorem inPlace_calendar (exact : engine.Exact) :
    engine.inPlace.calendar = Moment.calendar engine.dates := by
  apply Calendar.ext
  case get =>
    funext moment unit
    exact get_eq exact moment unit
  case maximum =>
    funext moment unit
    exact maximum_eq exact moment unit
  case set =>
    funext moment unit value
    exact (setInPlace_leadsTo exact moment unit value).onCopy_eq
  case addMonths =>
    funext moment amount
    exact (addMonthsInPlace_leadsTo exact moment amount).onCopy_eq
  case addDays =>
    funext moment amount
    exact (addDaysInPlace_leadsTo exact moment amount).onCopy_eq
  case withTime =>
    funext moment time
    exact exact.atTime moment time

theorem runInPlace_eq_run (exact : engine.Exact) (session : Session) (moment : Moment) :
    @Session.runInPlace Moment engine.inPlace moment session =
      @Session.run Moment (Moment.calendar engine.dates) moment session := by
  rw [session.runInPlace_eq engine.inPlace_atomic, inPlace_calendar exact]

end MomentEngine

end DateAdjust
