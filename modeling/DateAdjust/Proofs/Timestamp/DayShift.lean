import DateAdjust.Proofs.Timestamp.Operations

/-! Shifting a timestamp by days is stepping through the calendar day by day. The amounts that lead
to a date of the years 1 to 9999 lie without a gap between the first and the last of these dates. -/

namespace DateAdjust

namespace CivilDate

def earliest : CivilDate where
  year := 1
  month := 1
  day := 1

def latest : CivilDate where
  year := 9999
  month := 12
  day := 31

theorem earliest_valid : earliest.Valid :=
  first_valid 1

theorem latest_valid : latest.Valid :=
  last_valid 9999

/-- The dates from 1 January of year 1 to 31 December of year 9999. -/
def Supported (date : CivilDate) : Prop :=
  ¬date.Before earliest ∧ ¬latest.Before date

theorem supported_iff {date : CivilDate} (valid : date.Valid) :
    date.Supported ↔
      earliest.dayNumber ≤ date.dayNumber ∧ date.dayNumber ≤ latest.dayNumber := by
  rw [Supported, ← dayNumber_lt_iff valid earliest_valid, ← dayNumber_lt_iff latest_valid valid,
    Int.not_lt, Int.not_lt]

section Shifted

variable (date : CivilDate) (monthValid : date.civilMonth.Valid)

include monthValid

theorem daysFrom_valid (amount : Int) : (date.daysFrom amount).Valid := by
  rw [daysFrom_eq date monthValid]
  exact (ofDayNumber_spec _).1

theorem dayNumber_daysFrom (amount : Int) :
    (date.daysFrom amount).dayNumber = date.dayNumber + amount := by
  rw [daysFrom_eq date monthValid]
  exact (ofDayNumber_spec _).2

theorem daysFrom_sub {target : CivilDate} (valid : target.Valid) :
    date.daysFrom (target.dayNumber - date.dayNumber) = target := by
  apply eq_of_dayNumber_eq (daysFrom_valid date monthValid _) valid
  rw [dayNumber_daysFrom date monthValid]
  omega

theorem days_allows_iff_supported (amount : Int) :
    (ShiftRange.days date).Allows amount ↔ (date.daysFrom amount).Supported := by
  rw [supported_iff (daysFrom_valid date monthValid amount), dayNumber_daysFrom date monthValid]
  change earliest.dayNumber - date.dayNumber ≤ amount ∧
    amount ≤ latest.dayNumber - date.dayNumber ↔ _
  omega

end Shifted

end CivilDate

namespace Timestamp

variable (timestamp : Timestamp)

theorem addDays_of_supported {amount : Int}
    (supported : (timestamp.date.daysFrom amount).Supported) :
    ∃ next, timestamp.addDays amount = .ok next ∧
      next.date = timestamp.date.daysFrom amount ∧ next.time = timestamp.time := by
  have allowed :=
    (timestamp.date.days_allows_iff_supported timestamp.civilMonth_valid amount).mpr supported
  obtain ⟨next, accepted, sameTime, newDate⟩ := timestamp.addDays_of_allows allowed
  rw [← timestamp.date.daysFrom_eq timestamp.civilMonth_valid] at newDate
  exact ⟨next, accepted, newDate, sameTime⟩

theorem addDays_of_not_supported {amount : Int}
    (unsupported : ¬(timestamp.date.daysFrom amount).Supported) :
    timestamp.addDays amount = .error ((ShiftRange.days timestamp.date).rejected amount) := by
  rw [← timestamp.date.days_allows_iff_supported timestamp.civilMonth_valid] at unsupported
  exact timestamp.addDays_of_not_allows unsupported

theorem addDays_succeeds_iff (amount : Int) :
    (∃ next, timestamp.addDays amount = .ok next) ↔
      (ShiftRange.days timestamp.date).Allows amount :=
  timestamp.addDays_shiftsInto.succeeds_iff amount

theorem addDays_reaches {target : CivilDate} (valid : target.Valid) (supported : target.Supported) :
    ∃ next, timestamp.addDays (target.dayNumber - timestamp.date.dayNumber) = .ok next ∧
      next.date = target := by
  have reached := timestamp.date.daysFrom_sub timestamp.civilMonth_valid valid
  rw [← reached] at supported
  obtain ⟨next, accepted, newDate, _⟩ := timestamp.addDays_of_supported supported
  exact ⟨next, accepted, newDate.trans reached⟩

/-- What shifting by days does, with the least and the greatest amount that it does it for. A day
past the end of its month counts on into the months behind. -/
structure ShiftsDays (timestamp : Timestamp) (least greatest : Int) : Prop where
  lands : ∀ amount, (timestamp.date.daysFrom amount).Supported →
    ∃ next, timestamp.addDays amount = .ok next ∧
      next.date = timestamp.date.daysFrom amount ∧ next.time = timestamp.time
  refused : ∀ amount, ¬(timestamp.date.daysFrom amount).Supported →
    timestamp.addDays amount =
      .error { field := .day, value := amount, min := least, max := greatest }
  succeeds_iff : ∀ amount,
    (∃ next, timestamp.addDays amount = .ok next) ↔ least ≤ amount ∧ amount ≤ greatest
  least_lands : ∃ next, timestamp.addDays least = .ok next ∧ next.date = CivilDate.earliest
  greatest_lands : ∃ next, timestamp.addDays greatest = .ok next ∧ next.date = CivilDate.latest

/-- Adding days to a timestamp is going through the calendar by single days, for every amount. -/
theorem addDays_steps : ∃ least greatest, timestamp.ShiftsDays least greatest := by
  refine ⟨(ShiftRange.days timestamp.date).least, (ShiftRange.days timestamp.date).greatest, ?_⟩
  have earliestSupported : CivilDate.earliest.Supported := by
    rw [CivilDate.supported_iff CivilDate.earliest_valid]
    decide
  have latestSupported : CivilDate.latest.Supported := by
    rw [CivilDate.supported_iff CivilDate.latest_valid]
    decide
  exact {
    lands := fun amount => timestamp.addDays_of_supported
    refused := fun amount => timestamp.addDays_of_not_supported
    succeeds_iff := timestamp.addDays_succeeds_iff
    least_lands := timestamp.addDays_reaches CivilDate.earliest_valid earliestSupported
    greatest_lands := timestamp.addDays_reaches CivilDate.latest_valid latestSupported }

end Timestamp

end DateAdjust
