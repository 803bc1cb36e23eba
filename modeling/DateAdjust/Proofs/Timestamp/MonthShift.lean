import DateAdjust.Proofs.Timestamp.Operations

/-! Shifting a timestamp by months is stepping through the calendar month by month, with the day cut
back to the length of the month that is reached. -/

namespace DateAdjust

namespace CivilMonth

def earliest : CivilMonth where
  year := 1
  month := 1

def latest : CivilMonth where
  year := 9999
  month := 12

theorem away_sub (month : CivilMonth) (valid : month.Valid) {target : CivilMonth}
    (targetValid : target.Valid) : month.away (target.index - month.index) = target := by
  apply eq_of_index_eq (month.away_valid valid _) targetValid
  rw [index_away month valid]
  omega

end CivilMonth

namespace Timestamp

variable (timestamp : Timestamp)

theorem addMonths_reaches {target : CivilMonth} (valid : target.Valid) (lower : 1 ≤ target.year)
    (upper : target.year ≤ 9999) :
    ∃ next, timestamp.addMonths (target.index - timestamp.date.civilMonth.index) = .ok next ∧
      next.date.civilMonth = target := by
  have reached := timestamp.date.civilMonth.away_sub timestamp.civilMonth_valid valid
  have inYears : (timestamp.date.monthsAway
      (target.index - timestamp.date.civilMonth.index)).InYears := by
    rw [CivilDate.monthsAway, reached]
    exact ⟨lower, upper⟩
  obtain ⟨next, accepted, newDate, _⟩ := timestamp.addMonths_shiftsInto.lands _ inYears
  refine ⟨next, accepted, ?_⟩
  rw [newDate, CivilDate.monthsAway, reached]
  rfl

/-- Adding months to a timestamp is going through the calendar by single months, for every amount.
The least amount leads to the first month of the years 1 to 9999 and the greatest to the last. -/
theorem addMonths_steps : ∃ least greatest,
    ShiftsInto .month timestamp.date.monthsAway timestamp.MovesTo timestamp.addMonths
      least greatest ∧
    (∃ next, timestamp.addMonths least = .ok next ∧
      next.date.civilMonth = CivilMonth.earliest) ∧
    ∃ next, timestamp.addMonths greatest = .ok next ∧
      next.date.civilMonth = CivilMonth.latest := by
  refine ⟨CivilMonth.earliest.index - timestamp.date.civilMonth.index,
    CivilMonth.latest.index - timestamp.date.civilMonth.index, ?_, ?_, ?_⟩
  · exact timestamp.addMonths_shiftsInto
  · exact timestamp.addMonths_reaches (by decide) (by decide) (by decide)
  · exact timestamp.addMonths_reaches (by decide) (by decide) (by decide)

end Timestamp

end DateAdjust
