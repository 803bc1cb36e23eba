import DateAdjust.Proofs.Moment.Operations
import DateAdjust.Proofs.Simulation

/-! A moment of the years 1 to 9999 and the timestamp that shows it, to the millisecond, go through
every spec together. -/

namespace DateAdjust

namespace Moment

/-- A timestamp shows a moment when it has the same date and, to the millisecond, the same time. -/
def ShownBy (moment : Moment) (timestamp : Timestamp) : Prop :=
  timestamp.date = moment.date.civil ∧ timestamp.time = moment.time.toTimeOfDay

instance (moment : Moment) (timestamp : Timestamp) : Decidable (moment.ShownBy timestamp) :=
  inferInstanceAs (Decidable (_ ∧ _))

def timestamp (moment : Moment) (lower : 1 ≤ moment.date.civil.year)
    (upper : moment.date.civil.year ≤ 9999) : Timestamp where
  year := ⟨moment.date.civil.year.toNat, by omega, by omega⟩
  month := ⟨moment.date.civil.month, moment.date.valid.1, moment.date.valid.2.1⟩
  day := ⟨moment.date.civil.day, moment.date.valid.2.2.1,
    Nat.le_trans moment.date.valid.2.2.2 (monthLength_le _ _)⟩
  time := moment.time.toTimeOfDay

theorem shownBy_timestamp (moment : Moment) (lower : 1 ≤ moment.date.civil.year)
    (upper : moment.date.civil.year ≤ 9999) : moment.ShownBy (moment.timestamp lower upper) := by
  refine ⟨?_, rfl⟩
  simp only [Timestamp.date, timestamp]
  rw [Int.toNat_of_nonneg (by omega)]

section Simulation

variable {engine : DateEngine} {moment : Moment} {timestamp : Timestamp}

theorem year_lt_of_shownBy (shown : moment.ShownBy timestamp) :
    moment.date.civil.year < 262142 := by
  have upper := timestamp.year.le_greatest
  rw [← shown.1]
  simp only [Timestamp.date]
  omega

theorem maximum_agree (exact : engine.Exact) (shown : moment.ShownBy timestamp) (unit : TimeUnit) :
    moment.maximum engine unit = timestamp.maximum unit := by
  cases unit with
  | month => rfl
  | day =>
      have last := DateEngine.lastDay_eq_lengthInSpan exact moment.date
      rw [CivilMonth.lengthInSpan_of_year_lt (year_lt_of_shownBy shown), ← shown.1] at last
      exact last

theorem set_agree (exact : engine.Exact) (shown : moment.ShownBy timestamp) (unit : TimeUnit)
    (value : Nat) : Agree ShownBy (moment.set engine unit value) (timestamp.set unit value) := by
  have year := year_lt_of_shownBy shown
  obtain ⟨sameDate, sameTime⟩ := shown
  cases unit with
  | month =>
      by_cases inside : 1 ≤ value ∧ value ≤ 12
      · obtain ⟨date, found, dateEq⟩ :=
          DateEngine.withUnit?_month_of_mem exact moment.date inside.1 inside.2
        obtain ⟨next, accepted, nextTime, nextDate⟩ :=
          timestamp.set_month_of_mem inside.1 inside.2
        rw [set_of_some moment found, accepted]
        refine .ok ⟨?_, nextTime.trans sameTime⟩
        rw [CivilMonth.lengthInSpan_of_year_lt year] at dateEq
        rw [nextDate, dateEq, ← sameDate]
        rfl
      · rw [set_of_none moment (DateEngine.withUnit?_month_of_not_mem exact moment.date inside),
          timestamp.set_month_of_not_mem inside]
        exact .error _
  | day =>
      by_cases inside : 1 ≤ value ∧ value ≤ timestamp.date.civilMonth.length
      · obtain ⟨next, accepted, nextTime, nextDate⟩ := timestamp.set_day_of_mem inside.1 inside.2
        rw [sameDate] at inside
        obtain ⟨date, found, dateEq⟩ :=
          DateEngine.withUnit?_day_of_mem exact moment.date inside.1 inside.2
        rw [set_of_some moment found, accepted]
        refine .ok ⟨?_, nextTime.trans sameTime⟩
        rw [nextDate, dateEq, sameDate]
      · rw [timestamp.set_day_of_not_mem inside]
        have maximum := maximum_agree exact ⟨sameDate, sameTime⟩ .day
        rw [sameDate] at inside
        rw [set_of_none moment (DateEngine.withUnit?_day_of_not_mem exact moment.date inside),
          maximum]
        exact .error _

theorem addMonths_agree (exact : engine.Exact) (shown : moment.ShownBy timestamp) (amount : Int) :
    Agree ShownBy (moment.addMonths engine amount) (timestamp.addMonths amount) := by
  obtain ⟨sameDate, sameTime⟩ := shown
  have sameRange : ShiftRange.months moment.date.civil.year moment.date.civil.month =
      ShiftRange.months timestamp.year.val timestamp.month.val := by
    rw [← sameDate]
    rfl
  by_cases allowed :
      (ShiftRange.months moment.date.civil.year moment.date.civil.month).Allows amount
  · obtain ⟨moved, movedOk, movedTime, movedDate⟩ := addMonths_of_allows exact moment allowed
    rw [sameRange] at allowed
    obtain ⟨next, nextOk, nextTime, nextDate⟩ := timestamp.addMonths_of_allows allowed
    rw [movedOk, nextOk]
    refine .ok ⟨?_, ?_⟩
    · rw [nextDate, movedDate, sameDate]
    · rw [nextTime, movedTime, sameTime]
  · rw [addMonths_of_not_allows moment allowed, sameRange]
    rw [sameRange] at allowed
    rw [timestamp.addMonths_of_not_allows allowed]
    exact .error _

theorem addDays_agree (exact : engine.Exact) (shown : moment.ShownBy timestamp) (amount : Int) :
    Agree ShownBy (moment.addDays engine amount) (timestamp.addDays amount) := by
  obtain ⟨sameDate, sameTime⟩ := shown
  by_cases allowed : (ShiftRange.days moment.date.civil).Allows amount
  · obtain ⟨moved, movedOk, movedTime, movedDate⟩ := addDays_of_allows exact moment allowed
    rw [← sameDate] at allowed
    obtain ⟨next, nextOk, nextTime, nextDate⟩ := timestamp.addDays_of_allows allowed
    rw [movedOk, nextOk]
    refine .ok ⟨?_, ?_⟩
    · rw [nextDate, movedDate, sameDate, CivilDate.ofDayNumber_add _ moment.date.valid]
    · rw [nextTime, movedTime, sameTime]
  · rw [addDays_of_not_allows moment allowed, ← sameDate]
    rw [← sameDate] at allowed
    rw [timestamp.addDays_of_not_allows allowed]
    exact .error _

theorem toTimeOfDay_ofTimeOfDay (time : TimeOfDay) :
    (FineTime.ofTimeOfDay time).toTimeOfDay = time := by
  simp only [FineTime.ofTimeOfDay, FineTime.toTimeOfDay]
  simp

theorem simulates_timestamp (exact : engine.Exact) :
    (calendar engine).Simulates (inferInstanceAs (Calendar Timestamp)) ShownBy where
  maximum _ _ shown := maximum_agree exact shown
  set _ _ shown := set_agree exact shown
  addMonths _ _ shown := addMonths_agree exact shown
  addDays _ _ shown := addDays_agree exact shown
  withTime _ _ shown time := ⟨shown.1, (toTimeOfDay_ofTimeOfDay time).symm⟩

end Simulation

/-- A moment of the years 1 to 9999 and the timestamp that shows it agree on every spec: both fail
with the same error or both succeed, and the new timestamp shows the new moment. -/
theorem evaluate_agrees_timestamp (engine : DateEngine) (exact : engine.Exact) (moment : Moment)
    (lower : 1 ≤ moment.date.civil.year) (upper : moment.date.civil.year ≤ 9999) (text : String)
    (strictness : Strictness) :
    moment.ShownBy (moment.timestamp lower upper) ∧
      Agree ShownBy (@evaluate Moment (calendar engine) moment text strictness)
        (evaluate (moment.timestamp lower upper) text strictness) := by
  have shown := moment.shownBy_timestamp lower upper
  exact ⟨shown, (simulates_timestamp exact).evaluate shown text strictness⟩

def leapMarch : Moment where
  date := ⟨{ year := 2012, month := 3, day := 31 }, by decide, by decide, by decide⟩
  time :=
    { hour := ⟨15, by decide, by decide⟩
      minute := ⟨45, by decide, by decide⟩
      second := ⟨54, by decide, by decide⟩
      nanosecond := ⟨123999999, by decide, by decide⟩ }

theorem evaluate_agrees_timestamp_leapMarch :
    DateEngine.gregorian.Exact ∧ 1 ≤ leapMarch.date.civil.year ∧
      leapMarch.date.civil.year ≤ 9999 ∧
      leapMarch.ShownBy (leapMarch.timestamp (by decide) (by decide)) ∧
      Agree ShownBy (@evaluate Moment (calendar .gregorian) leapMarch "-1M=LD+3000000M" .strict)
        (evaluate (leapMarch.timestamp (by decide) (by decide)) "-1M=LD+3000000M" .strict) :=
  ⟨DateEngine.gregorian_exact, by decide, by decide,
    evaluate_agrees_timestamp .gregorian DateEngine.gregorian_exact leapMarch (by decide)
      (by decide)
      "-1M=LD+3000000M" .strict⟩

end Moment

end DateAdjust
