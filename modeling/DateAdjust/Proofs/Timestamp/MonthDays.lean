import DateAdjust.Proofs.Timestamp.Operations
import Mathlib.Algebra.BigOperators.Group.List.Basic

/-! Whole months counted in days. A shift by months from the first of a month is a shift by days,
and both stop at the same ends of the calendar. -/

namespace DateAdjust

namespace CivilMonth

/-- The days of as many months as the amount says, from this one on, or the days of as many months
before it, counted negative. Every month has the days up to its `Day.lastOf`. -/
def daysAcross (month : CivilMonth) : Int → Int
  | .ofNat count => ((List.iterate next month count).map length).sum
  | .negSucc count => -((List.iterate previous month.previous (count + 1)).map length).sum

theorem firstDay_next_iterate (month : CivilMonth) (valid : month.Valid) (count : Nat) :
    (next^[count] month).firstDay =
      month.firstDay + ((List.iterate next month count).map length).sum := by
  induction count generalizing month with
  | zero => simp
  | succ count ih =>
      have later := ih month.next (numbered.valid_forward month valid)
      have begins := month.firstDay_next valid
      simp only [Function.iterate_succ_apply, List.iterate, List.map_cons, List.sum_cons]
      omega

theorem firstDay_previous_iterate (month : CivilMonth) (valid : month.Valid) (count : Nat) :
    (previous^[count] month).firstDay =
      month.firstDay - ((List.iterate previous month.previous count).map length).sum := by
  induction count generalizing month with
  | zero => simp
  | succ count ih =>
      have previousValid := numbered.valid_backward month valid
      have earlier := ih month.previous previousValid
      have begins := month.previous.firstDay_next previousValid
      rw [next_previous month valid] at begins
      simp only [Function.iterate_succ_apply, List.iterate, List.map_cons, List.sum_cons]
      omega

theorem firstDay_away (month : CivilMonth) (valid : month.Valid) (amount : Int) :
    (month.away amount).firstDay = month.firstDay + month.daysAcross amount := by
  cases amount with
  | ofNat count => exact firstDay_next_iterate month valid count
  | negSucc count =>
      have begins := firstDay_previous_iterate month valid (count + 1)
      simp only [away, stepBy, daysAcross]
      omega

theorem monthsAway_first (month : CivilMonth) (valid : month.Valid) (amount : Int) :
    (month.date 1).monthsAway amount =
      CivilDate.ofDayNumber ((month.date 1).dayNumber + month.daysAcross amount) := by
  have targetValid := month.away_valid valid amount
  have positive := length_pos _ targetValid
  have firstValid := date_valid _ targetValid (Nat.le_refl 1) positive
  have stays : (month.date 1).monthsAway amount = (month.away amount).date 1 := by
    change (month.away amount).date (min 1 (month.away amount).length) = _
    rw [Nat.min_eq_left positive]
  rw [stays, ← CivilDate.ofDayNumber_dayNumber _ firstValid]
  exact congrArg CivilDate.ofDayNumber (month.firstDay_away valid amount)

end CivilMonth

namespace Timestamp

/-- From the first of a month, a shift by months and the shift by all days of these months lead to
the same timestamp, or nowhere both. -/
theorem addMonths_iff_addDays (timestamp : Timestamp) (amount : Int) :
    ∃ first, timestamp.set .day 1 = .ok first ∧
      ∀ next, first.addMonths amount = .ok next ↔
        first.addDays (timestamp.date.civilMonth.daysAcross amount) = .ok next := by
  have monthValid := timestamp.civilMonth_valid
  obtain ⟨first, accepted, -, firstDate⟩ :=
    timestamp.set_day_of_mem (Nat.le_refl 1) (CivilMonth.length_pos _ monthValid)
  have isFirst : first.date = timestamp.date.civilMonth.date 1 := firstDate
  refine ⟨first, accepted, fun next => ?_⟩
  rw [addMonths_eq_ok_iff, addDays_eq_ok_iff, isFirst,
    CivilMonth.monthsAway_first _ monthValid]

example : CivilMonth.daysAcross { year := 2012, month := 1 } 2 = 31 + 29 ∧
    CivilMonth.daysAcross { year := 2012, month := 3 } (-2) = -(29 + 31) := by
  decide

end Timestamp

end DateAdjust
