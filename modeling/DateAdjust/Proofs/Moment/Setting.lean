import DateAdjust.Proofs.Moment.Operations

/-! Setting the month or the day of a moment goes by the lengths of the calendar up to the last
month of the span, whose own length is not found: 28 is the greatest day reported there. -/

namespace DateAdjust.Moment

/-- Setting a unit of a moment to a value goes by the given last days of the months. The last day
of the month is the greatest day that is reported, and a day too great for a new month becomes its
last day. Every day that the month has can be set. -/
structure SetsBy (engine : DateEngine) (lastDay : CivilMonth → Nat) (moment : Moment)
    (value : Nat) : Prop where
  maximum_day : moment.maximum engine .day = lastDay moment.date.civil.civilMonth
  day_accepted : 1 ≤ value → value ≤ moment.date.civil.civilMonth.length →
    ∃ date, moment.set engine .day value = .ok { moment with date } ∧
      date.civil = { moment.date.civil with day := value }
  day_refused : ¬(1 ≤ value ∧ value ≤ moment.date.civil.civilMonth.length) →
    moment.set engine .day value = .error
      { field := .day, value, min := 1, max := lastDay moment.date.civil.civilMonth }
  month_accepted : 1 ≤ value → value ≤ 12 →
    ∃ date, moment.set engine .month value = .ok { moment with date } ∧
      date.civil =
        { year := moment.date.civil.year, month := value,
          day := min moment.date.civil.day
            (lastDay { year := moment.date.civil.year, month := value }) }
  month_refused : ¬(1 ≤ value ∧ value ≤ 12) →
    moment.set engine .month value = .error { field := .month, value, min := 1, max := 12 }

variable {engine : DateEngine} {moment : Moment} {value : Nat}

theorem setsBy_lengthInSpan (exact : engine.Exact) (moment : Moment) (value : Nat) :
    moment.SetsBy engine CivilMonth.lengthInSpan value where
  maximum_day := DateEngine.lastDay_eq_lengthInSpan exact moment.date
  day_accepted lower upper := by
    obtain ⟨date, found, dateEq⟩ :=
      DateEngine.withUnit?_day_of_mem exact moment.date lower upper
    exact ⟨date, set_of_some moment found, dateEq⟩
  day_refused outside := by
    rw [set_of_none moment (DateEngine.withUnit?_day_of_not_mem exact moment.date outside)]
    simp only [maximum, DateEngine.lastDay_eq_lengthInSpan exact]
    rfl
  month_accepted lower upper := by
    obtain ⟨date, found, dateEq⟩ :=
      DateEngine.withUnit?_month_of_mem exact moment.date lower upper
    exact ⟨date, set_of_some moment found, dateEq⟩
  month_refused outside := by
    rw [set_of_none moment (DateEngine.withUnit?_month_of_not_mem exact moment.date outside)]
    rfl

theorem SetsBy.iff_same {lastDay otherDay : CivilMonth → Nat}
    (sets : moment.SetsBy engine lastDay value) :
    moment.SetsBy engine otherDay value ↔
      lastDay moment.date.civil.civilMonth = otherDay moment.date.civil.civilMonth ∧
      (1 ≤ value → value ≤ 12 →
        min moment.date.civil.day (lastDay { year := moment.date.civil.year, month := value }) =
        min moment.date.civil.day
          (otherDay { year := moment.date.civil.year, month := value })) := by
  constructor
  · intro others
    refine ⟨sets.maximum_day.symm.trans others.maximum_day, ?_⟩
    intro lower upper
    obtain ⟨date, accepted, dateEq⟩ := sets.month_accepted lower upper
    obtain ⟨other, otherAccepted, otherEq⟩ := others.month_accepted lower upper
    rw [accepted] at otherAccepted
    cases otherAccepted
    rw [dateEq] at otherEq
    exact congrArg CivilDate.day otherEq
  · rintro ⟨sameMaximum, sameDay⟩
    exact {
      maximum_day := sets.maximum_day.trans sameMaximum
      day_accepted := sets.day_accepted
      day_refused := fun outside => by rw [sets.day_refused outside, sameMaximum]
      month_accepted := fun lower upper => by
        rw [← sameDay lower upper]
        exact sets.month_accepted lower upper
      month_refused := sets.month_refused }

theorem lengthInSpan_eq_length_iff (month : CivilMonth) :
    month.lengthInSpan = month.length ↔ month ≠ CivilMonth.lastInSpan := by
  constructor
  · rintro same rfl
    exact absurd same (by decide)
  · intro notLast
    rw [CivilMonth.lengthInSpan, if_neg notLast]

theorem min_lengthInSpan_eq_iff {day : Nat} (short : day ≤ 31) (month : CivilMonth) :
    min day month.lengthInSpan = min day month.length ↔
      ¬(month = CivilMonth.lastInSpan ∧ 28 < day) := by
  by_cases isLast : month = CivilMonth.lastInSpan
  · have found : CivilMonth.lastInSpan.lengthInSpan = 28 := rfl
    have long : CivilMonth.lastInSpan.length = 31 := by decide
    rw [isLast, found, long, Nat.min_eq_left short]
    simp only [true_and]
    omega
  · rw [(lengthInSpan_eq_length_iff month).mpr isLast]
    simp [isLast]

/-- Setting goes by the lengths that the span shows. It goes by the lengths of the calendar unless
it starts in December of the year 262142, or leads there from a day past the 28th. -/
theorem setsBy_length_iff (engine : DateEngine) (exact : engine.Exact) (moment : Moment)
    (value : Nat) :
    moment.SetsBy engine CivilMonth.lengthInSpan value ∧
      (moment.SetsBy engine CivilMonth.length value ↔
        ¬(moment.date.civil.year = 262142 ∧
          (moment.date.civil.month = 12 ∨ value = 12 ∧ 28 < moment.date.civil.day))) := by
  have sets := setsBy_lengthInSpan exact moment value
  have short : moment.date.civil.day ≤ 31 :=
    Nat.le_trans moment.date.valid.2.2.2 (monthLength_le _ _)
  refine ⟨sets, ?_⟩
  rw [sets.iff_same, lengthInSpan_eq_length_iff, min_lengthInSpan_eq_iff short]
  simp only [CivilDate.civilMonth, CivilMonth.lastInSpan, ne_eq, CivilMonth.mk.injEq]
  omega

def novemberEnd : Moment where
  date := ⟨{ year := 262142, month := 11, day := 30 }, by decide, by decide, by decide⟩
  time := FineTime.ofTimeOfDay TimeOfDay.endOfDay

theorem setsBy_length_iff_novemberEnd :
    DateEngine.gregorian.Exact ∧ novemberEnd.SetsBy .gregorian CivilMonth.length 2 ∧
      ¬novemberEnd.SetsBy .gregorian CivilMonth.length 12 := by
  refine ⟨DateEngine.gregorian_exact, ?_, ?_⟩
  · exact (setsBy_length_iff .gregorian DateEngine.gregorian_exact novemberEnd 2).2.mpr (by decide)
  · exact mt (setsBy_length_iff .gregorian DateEngine.gregorian_exact novemberEnd 12).2.mp
      (by decide)

def spanEnd : Moment where
  date := ⟨{ year := 262142, month := 12, day := 31 }, by decide, by decide, by decide⟩
  time := FineTime.ofTimeOfDay TimeOfDay.midnight

/-- On the last day of the span a day is set that is past the greatest one reported. -/
theorem not_setsBy_length_spanEnd :
    spanEnd.maximum .gregorian .day = 28 ∧ spanEnd.set .gregorian .day 31 = .ok spanEnd ∧
      ¬spanEnd.SetsBy .gregorian CivilMonth.length 31 := by
  have maximum : spanEnd.maximum .gregorian .day = 28 :=
    DateEngine.lastDay_eq_lengthInSpan DateEngine.gregorian_exact spanEnd.date
  refine ⟨maximum, rfl, ?_⟩
  intro sets
  exact absurd (maximum.symm.trans sets.maximum_day) (by decide)

end DateAdjust.Moment
