import DateAdjust.Moment.Calendar
import DateAdjust.Proofs.Moment.Engine
import DateAdjust.Proofs.Timestamp.Operations

/-! What the operations on moments come to over an exact engine, for moments of the whole span. -/

namespace DateAdjust

namespace DateEngine

variable {engine : DateEngine}

theorem withUnit?_month_of_mem (exact : engine.Exact) (date : WideDate) {value : Nat}
    (lower : 1 ≤ value) (upper : value ≤ 12) :
    ∃ found, engine.withUnit? date .month value = some found ∧
      found.civil =
        { year := date.civil.year, month := value,
          day := min date.civil.day
            (CivilMonth.lengthInSpan { year := date.civil.year, month := value }) } := by
  have valid := date.civil.civilMonth_valid date.valid
  have dayPos := (date.civil.day_bounds date.valid).1
  have targetValid : CivilMonth.Valid { year := date.civil.year, month := value } := ⟨lower, upper⟩
  have targetLong := CivilMonth.length_pos _ targetValid
  have limitPos := CivilMonth.lengthInSpan_pos _ targetValid
  have limitLe := CivilMonth.lengthInSpan_le_length _ targetValid
  obtain ⟨first, firstEq⟩ := date.exists_day (Nat.le_refl 1) (CivilMonth.length_pos _ valid)
  obtain ⟨moved, movedEq⟩ := WideDate.exists_civil (CivilMonth.date_valid _ targetValid
    (Nat.le_refl 1) targetLong) date.first_le date.le_last
  obtain ⟨found, foundEq⟩ := WideDate.exists_civil (CivilMonth.date_valid _ targetValid
    (Nat.le_min.mpr ⟨dayPos, limitPos⟩)
    (Nat.le_trans (Nat.min_le_right date.civil.day _) limitLe)) date.first_le date.le_last
  have movedLast : engine.lastDay moved =
      CivilMonth.lengthInSpan { year := date.civil.year, month := value } := by
    rw [lastDay_eq_lengthInSpan exact moved, movedEq]
    rfl
  have firstFound : engine.withDay? date 1 = some first := (exact.withDay _ _ _).mpr firstEq
  have movedFound : engine.withMonth? first value = some moved := by
    rw [exact.withMonth, movedEq, firstEq]
    rfl
  refine ⟨found, ?_, foundEq⟩
  simp only [withUnit?]
  simp only [firstFound, Option.bind_eq_bind, Option.bind_some, movedFound, movedLast]
  rw [exact.withDay, foundEq, movedEq]
  rfl

theorem withUnit?_month_of_not_mem (exact : engine.Exact) (date : WideDate) {value : Nat}
    (outside : ¬(1 ≤ value ∧ value ≤ 12)) : engine.withUnit? date .month value = none := by
  simp only [withUnit?]
  cases engine.withDay? date 1 with
  | none => rfl
  | some first =>
      have missing := eq_none_of_iff (exact.withMonth first value) (fun inside =>
        outside ⟨inside.1.1, inside.1.2.1⟩)
      simp only [Option.bind_eq_bind, Option.bind_some, missing, Option.bind_none]

theorem withUnit?_day_of_mem (exact : engine.Exact) (date : WideDate) {value : Nat}
    (lower : 1 ≤ value) (upper : value ≤ date.civil.civilMonth.length) :
    ∃ found, engine.withUnit? date .day value = some found ∧
      found.civil = { date.civil with day := value } := by
  obtain ⟨found, foundEq⟩ := date.exists_day lower upper
  exact ⟨found, (exact.withDay _ _ _).mpr foundEq, foundEq⟩

theorem withUnit?_day_of_not_mem (exact : engine.Exact) (date : WideDate) {value : Nat}
    (outside : ¬(1 ≤ value ∧ value ≤ date.civil.civilMonth.length)) :
    engine.withUnit? date .day value = none :=
  eq_none_of_iff (exact.withDay date value) fun inside => outside inside.1.2.2

end DateEngine

namespace WideDate

theorem exists_of_inYears {civil : CivilDate} (valid : civil.Valid) (inYears : civil.InYears) :
    ∃ date : WideDate, date.civil = civil :=
  exists_civil valid (Int.le_trans (by decide) inYears.1) (Int.le_trans inYears.2 (by decide))

theorem natAbs_lt_of_months_allows (date : WideDate) {amount : Int}
    (allowed : (ShiftRange.months date.civil.year date.civil.month).Allows amount) :
    amount.natAbs < UInt32.size := by
  have size : UInt32.size = 4294967296 := rfl
  have lower := date.first_le
  have upper := date.le_last
  have month := date.valid
  simp only [CivilDate.Valid] at month
  simp only [ShiftRange.Allows, ShiftRange.months, monthIndex, Year.first, Year.last,
    Month.january, Month.december] at allowed
  omega

end WideDate

namespace Moment

variable {engine : DateEngine}

theorem addMonths_of_allows (exact : engine.Exact) (moment : Moment) {amount : Int}
    (allowed : (ShiftRange.months moment.date.civil.year moment.date.civil.month).Allows amount) :
    ∃ next, moment.addMonths engine amount = .ok next ∧ next.time = moment.time ∧
      next.date.civil = moment.date.civil.monthsAway amount := by
  have valid := moment.date.civil.civilMonth_valid moment.date.valid
  have inside := (ShiftRange.months_allows_iff moment.date.civil.civilMonth valid amount).mp allowed
  have dayPos := (moment.date.civil.day_bounds moment.date.valid).1
  have movedValid := moment.date.civil.monthsAway_valid valid dayPos amount
  obtain ⟨found, foundEq⟩ := WideDate.exists_of_inYears movedValid inside
  have short := moment.date.natAbs_lt_of_months_allows allowed
  have shifted := (DateEngine.addMonths?_eq_some_iff exact moment.date found short).mpr foundEq
  refine ⟨{ moment with date := found }, ?_, rfl, foundEq⟩
  simp only [addMonths, ShiftRange.check_of_allows allowed, shifted]
  rfl

theorem addMonths_of_not_allows (moment : Moment) {amount : Int}
    (forbidden :
      ¬(ShiftRange.months moment.date.civil.year moment.date.civil.month).Allows amount) :
    moment.addMonths engine amount =
      .error
        ((ShiftRange.months moment.date.civil.year moment.date.civil.month).rejected amount) := by
  simp only [addMonths, ShiftRange.check_of_not_allows forbidden]
  rfl

theorem addDays_of_allows (exact : engine.Exact) (moment : Moment) {amount : Int}
    (allowed : (ShiftRange.days moment.date.civil).Allows amount) :
    ∃ next, moment.addDays engine amount = .ok next ∧ next.time = moment.time ∧
      next.date.civil = moment.date.civil.daysAway amount := by
  have inside := (ShiftRange.days_allows_iff moment.date.civil amount).mp allowed
  rw [CivilDate.ofDayNumber_add _ moment.date.valid] at inside
  obtain ⟨found, foundEq⟩ := WideDate.exists_of_inYears
    (CivilDate.numbered.stepBy_valid moment.date.valid amount) inside
  have shifted : engine.addDays? moment.date amount = some found :=
    (exact.addDays _ _ _).mpr foundEq
  refine ⟨{ moment with date := found }, ?_, rfl, foundEq⟩
  simp only [addDays, ShiftRange.check_of_allows allowed, shifted]
  rfl

theorem addDays_of_not_allows (moment : Moment) {amount : Int}
    (forbidden : ¬(ShiftRange.days moment.date.civil).Allows amount) :
    moment.addDays engine amount =
      .error ((ShiftRange.days moment.date.civil).rejected amount) := by
  simp only [addDays, ShiftRange.check_of_not_allows forbidden]
  rfl

theorem set_of_some (moment : Moment) {unit : TimeUnit} {value : Nat} {date : WideDate}
    (found : engine.withUnit? moment.date unit value = some date) :
    moment.set engine unit value = .ok { moment with date } := by
  simp only [set, found]

theorem set_of_none (moment : Moment) {unit : TimeUnit} {value : Nat}
    (missing : engine.withUnit? moment.date unit value = none) :
    moment.set engine unit value =
      .error { field := unit.field, value, min := 1, max := moment.maximum engine unit } := by
  simp only [set, missing]

end Moment

end DateAdjust
