import DateAdjust.Proofs.Comparison
import DateAdjust.Proofs.Gregorian.DayNumber

/-! The order of dates, by year, month and day, is that of their day numbers, and shifting by months
keeps it, though two dates may come to the same last day of a month. -/

namespace DateAdjust.CivilDate

instance : Ord CivilDate where
  compare first second :=
    (compare first.year second.year).then <|
    (compare first.month second.month).then <|
    compare first.day second.day

theorem compare_eq (first second : CivilDate) :
    compare first second =
      (compare first.year second.year).then
        ((compare first.month second.month).then (compare first.day second.day)) :=
  rfl

theorem compare_eq_lt_iff {first second : CivilDate} :
    compare first second = .lt ↔ first.Before second := by
  rw [compare_eq, Ordering.then_eq_lt, Ordering.then_eq_lt, Int.compare_eq_lt, Nat.compare_eq_lt,
    Nat.compare_eq_lt, Int.compare_eq_eq, Nat.compare_eq_eq]
  rfl

theorem compare_eq_gt_iff {first second : CivilDate} :
    compare first second = .gt ↔ second.Before first := by
  rw [compare_eq, Ordering.then_eq_gt, Ordering.then_eq_gt, Int.compare_eq_gt, Nat.compare_eq_gt,
    Nat.compare_eq_gt, Int.compare_eq_eq, Nat.compare_eq_eq, eq_comm, @eq_comm _ first.month]
  rfl

theorem compare_eq_eq_iff {first second : CivilDate} :
    compare first second = .eq ↔ first = second := by
  rw [compare_eq, Ordering.then_eq_eq, Ordering.then_eq_eq, Int.compare_eq_eq, Nat.compare_eq_eq,
    Nat.compare_eq_eq, CivilDate.mk.injEq]

theorem isLE_compare_iff {first second : CivilDate} :
    (compare first second).isLE ↔ ¬second.Before first := by
  rw [← compare_eq_gt_iff]
  cases compare first second <;> decide

theorem compare_dayNumber {first second : CivilDate} (firstValid : first.Valid)
    (secondValid : second.Valid) :
    compare first.dayNumber second.dayNumber = compare first second := by
  rcases before_trichotomy first second with before | rfl | after
  · have less := dayNumber_lt_of_before firstValid secondValid before
    rw [compare_eq_lt_iff.mpr before, Int.compare_eq_lt.mpr less]
  · rw [compare_eq_eq_iff.mpr rfl, Int.compare_eq_eq.mpr rfl]
  · have greater := dayNumber_lt_of_before secondValid firstValid after
    rw [compare_eq_gt_iff.mpr after, Int.compare_eq_gt.mpr greater]

section Months

variable {first second : CivilDate} (firstValid : first.civilMonth.Valid)
  (secondValid : second.civilMonth.Valid)

include firstValid secondValid

theorem before_iff_index :
    first.Before second ↔ first.civilMonth.index < second.civilMonth.index ∨
      first.civilMonth = second.civilMonth ∧ first.day < second.day := by
  simp only [CivilMonth.Valid, civilMonth] at firstValid secondValid
  simp only [Before, civilMonth, CivilMonth.index, monthIndex, CivilMonth.mk.injEq]
  omega

theorem monthsAway_in_order (amount : Int) (inOrder : ¬second.Before first) :
    ¬(second.monthsAway amount).Before (first.monthsAway amount) := by
  have firstTarget : (first.monthsAway amount).civilMonth.Valid :=
    first.civilMonth.away_valid firstValid amount
  have secondTarget : (second.monthsAway amount).civilMonth.Valid :=
    second.civilMonth.away_valid secondValid amount
  have firstIndex : (first.monthsAway amount).civilMonth.index =
      first.civilMonth.index + amount := first.civilMonth.index_away firstValid amount
  have secondIndex : (second.monthsAway amount).civilMonth.index =
      second.civilMonth.index + amount := second.civilMonth.index_away secondValid amount
  rw [before_iff_index secondValid firstValid] at inOrder
  rw [before_iff_index secondTarget firstTarget]
  rintro (laterMonth | ⟨sameMonth, laterDay⟩)
  · exact inOrder (.inl (by omega))
  · have sameStart : second.civilMonth = first.civilMonth := by
      apply CivilMonth.eq_of_index_eq secondValid firstValid
      have sameIndex := congrArg CivilMonth.index sameMonth
      omega
    refine inOrder (.inr ⟨sameStart, ?_⟩)
    simp only [monthsAway, CivilMonth.date, sameStart] at laterDay
    omega

end Months

end DateAdjust.CivilDate
