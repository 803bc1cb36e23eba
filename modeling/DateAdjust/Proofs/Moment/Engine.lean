import DateAdjust.Moment.Date
import DateAdjust.Proofs.Gregorian.DayNumber

/-! Engines for wide dates that are exact: every operation finds the date that the calendar gives,
as long as that date exists and lies in the span. -/

namespace DateAdjust

/-- No wide date is found for a date that does not exist or lies outside the span, since every wide
date exists and lies within it. -/
structure DateEngine.Exact (engine : DateEngine) : Prop where
  withDay : ∀ date day found,
    engine.withDay? date day = some found ↔ found.civil = { date.civil with day }
  withMonth : ∀ date month found,
    engine.withMonth? date month = some found ↔ found.civil = { date.civil with month }
  monthsAfter : ∀ date count found,
    engine.monthsAfter? date count = some found ↔ found.civil = date.civil.monthsAway count
  monthsBefore : ∀ date count found,
    engine.monthsBefore? date count = some found ↔ found.civil = date.civil.monthsAway (-count)
  dayBefore : ∀ date found, engine.dayBefore? date = some found ↔ found.civil = date.civil.previous
  addDays : ∀ date amount found,
    engine.addDays? date amount = some found ↔ found.civil = date.civil.daysAway amount

namespace CivilMonth

def lastInSpan : CivilMonth where
  year := 262142
  month := 12

/-- The days of a month as far as they can be counted back from the month that follows it. None
follows the last month of the span, and it counts as the shortest one. -/
def lengthInSpan (month : CivilMonth) : Nat :=
  if month = lastInSpan then 28 else month.length

theorem next_year_le_of_ne_lastInSpan {month : CivilMonth} (valid : month.Valid)
    (within : month.year ≤ 262142) (notLast : month ≠ lastInSpan) : month.next.year ≤ 262142 := by
  have upper := valid.2
  simp only [ne_eq, CivilMonth.ext_iff, lastInSpan] at notLast
  simp only [next]
  split <;> dsimp only <;> omega

theorem lengthInSpan_of_year_lt {month : CivilMonth} (within : month.year < 262142) :
    month.lengthInSpan = month.length := by
  have notLast : month ≠ lastInSpan := by
    rintro rfl
    exact absurd within (by decide)
  rw [lengthInSpan, if_neg notLast]

theorem lengthInSpan_le_length (month : CivilMonth) (valid : month.Valid) :
    month.lengthInSpan ≤ month.length := by
  simp only [lengthInSpan]
  split
  · exact monthLength_ge month.year month.month valid.1 valid.2
  · exact Nat.le_refl _

theorem lengthInSpan_pos (month : CivilMonth) (valid : month.Valid) : 0 < month.lengthInSpan := by
  have long := month.length_pos valid
  simp only [lengthInSpan]
  split <;> omega

end CivilMonth

namespace WideDate

theorem ofCivil?_eq_some_iff {civil : CivilDate} {found : WideDate} :
    ofCivil? civil = some found ↔ found.civil = civil := by
  simp only [ofCivil?]
  constructor
  · intro result
    split at result
    · cases result
      rfl
    · cases result
  · rintro rfl
    rw [dif_pos ⟨found.valid, found.first_le, found.le_last⟩]

theorem exists_civil {civil : CivilDate} (valid : civil.Valid) (lower : -262143 ≤ civil.year)
    (upper : civil.year ≤ 262142) : ∃ date : WideDate, date.civil = civil :=
  ⟨⟨civil, valid, lower, upper⟩, rfl⟩

theorem exists_day (date : WideDate) {day : Nat} (lower : 1 ≤ day)
    (upper : day ≤ date.civil.civilMonth.length) :
    ∃ found : WideDate, found.civil = date.civil.civilMonth.date day :=
  exists_civil
    (date.civil.civilMonth.date_valid (date.civil.civilMonth_valid date.valid) lower upper)
    date.first_le date.le_last

theorem addMonths?_eq_some_iff {date found : WideDate} {amount : Int} :
    date.addMonths? amount = some found ↔ found.civil = date.civil.monthsAway amount := by
  have away := CivilMonth.away_eq _ (date.civil.civilMonth_valid date.valid) amount
  simp only [addMonths?, CivilDate.monthsAway, CivilMonth.length]
  rw [ofCivil?_eq_some_iff, away]
  rfl

theorem addDays?_eq_some_iff {date found : WideDate} {amount : Int} :
    date.addDays? amount = some found ↔ found.civil = date.civil.daysAway amount := by
  simp only [addDays?]
  rw [ofCivil?_eq_some_iff, CivilDate.ofDayNumber_add _ date.valid]

end WideDate

namespace DateEngine

theorem gregorian_exact : gregorian.Exact where
  withDay _ _ _ := WideDate.ofCivil?_eq_some_iff
  withMonth _ _ _ := WideDate.ofCivil?_eq_some_iff
  monthsAfter _ _ _ := WideDate.addMonths?_eq_some_iff
  monthsBefore _ _ _ := WideDate.addMonths?_eq_some_iff
  dayBefore _ _ := WideDate.addDays?_eq_some_iff
  addDays _ _ _ := WideDate.addDays?_eq_some_iff

variable {engine : DateEngine}

theorem addMonths?_eq_some_iff (exact : engine.Exact) (date found : WideDate) {amount : Int}
    (short : amount.natAbs < UInt32.size) :
    engine.addMonths? date amount = some found ↔ found.civil = date.civil.monthsAway amount := by
  simp only [addMonths?]
  rw [if_neg (by omega)]
  split
  next negative =>
    rw [exact.monthsBefore, show -(amount.natAbs : Int) = amount by omega]
  next notNegative =>
    rw [exact.monthsAfter, show (amount.natAbs : Int) = amount by omega]

theorem lastDay_eq (exact : engine.Exact) (date : WideDate)
    (within : date.civil.civilMonth.next.year ≤ 262142) :
    engine.lastDay date = date.civil.civilMonth.length := by
  have valid := date.civil.civilMonth_valid date.valid
  have nextValid := CivilMonth.numbered.valid_forward _ valid
  have long := CivilMonth.length_pos _ valid
  have nextLong := CivilMonth.length_pos _ nextValid
  have later := date.civil.civilMonth.next_year_bounds.1
  obtain ⟨first, firstEq⟩ := date.exists_day (Nat.le_refl 1) long
  obtain ⟨next, nextEq⟩ := WideDate.exists_civil (date.civil.civilMonth.next.date_valid nextValid
    (Nat.le_refl 1) nextLong) (Int.le_trans date.first_le later) within
  obtain ⟨last, lastEq⟩ := date.exists_day long (Nat.le_refl _)
  have firstFound : engine.withDay? date 1 = some first := (exact.withDay _ _ _).mpr firstEq
  have nextFound : engine.monthsAfter? first 1 = some next := by
    rw [exact.monthsAfter, nextEq, firstEq]
    change _ = date.civil.civilMonth.next.date (min 1 date.civil.civilMonth.next.length)
    rw [Nat.min_eq_left nextLong]
  have lastFound : engine.dayBefore? next = some last := by
    rw [exact.dayBefore, lastEq, nextEq]
    change _ = date.civil.civilMonth.next.previous.date date.civil.civilMonth.next.previous.length
    rw [CivilMonth.previous_next _ valid]
  simp only [lastDay]
  simp only [firstFound, Option.bind_eq_bind, Option.bind_some, nextFound, lastFound, lastEq]
  rfl

theorem eq_none_of_iff {result : Option WideDate} {target : CivilDate}
    (finds : ∀ found, result = some found ↔ found.civil = target)
    (missing : ¬(target.Valid ∧ target.year ≤ 262142)) : result = none := by
  cases result with
  | none => rfl
  | some found =>
      have same := (finds found).mp rfl
      rw [← same] at missing
      exact absurd ⟨found.valid, found.le_last⟩ missing

theorem lastDay_eq_lengthInSpan (exact : engine.Exact) (date : WideDate) :
    engine.lastDay date = date.civil.civilMonth.lengthInSpan := by
  by_cases isLast : date.civil.civilMonth = CivilMonth.lastInSpan
  · obtain ⟨first, firstEq⟩ := date.exists_day (Nat.le_refl 1)
      (CivilMonth.length_pos _ (date.civil.civilMonth_valid date.valid))
    have firstFound : engine.withDay? date 1 = some first := (exact.withDay _ _ _).mpr firstEq
    have nextMissing : engine.monthsAfter? first 1 = none := by
      refine eq_none_of_iff (exact.monthsAfter first 1) ?_
      rintro ⟨_, within⟩
      rw [firstEq] at within
      change date.civil.civilMonth.next.year ≤ 262142 at within
      rw [isLast] at within
      exact absurd within (by decide)
    rw [CivilMonth.lengthInSpan, if_pos isLast]
    simp only [lastDay]
    simp only [firstFound, Option.bind_eq_bind, Option.bind_some, nextMissing, Option.bind_none]
    rfl
  · rw [CivilMonth.lengthInSpan, if_neg isLast]
    exact lastDay_eq exact date (CivilMonth.next_year_le_of_ne_lastInSpan
      (date.civil.civilMonth_valid date.valid) date.le_last isLast)

end DateEngine

end DateAdjust
