import DateAdjust.Calendar
import DateAdjust.Proofs.Gregorian.DayNumber

/-! Ranges of shifts allow the amounts that lead into the years 1 to 9999. What remains of a range
after a shift is the same range less that shift. -/

namespace DateAdjust

/-- A date of the years 1 to 9999, though it need not exist. -/
def CivilDate.InYears (date : CivilDate) : Prop :=
  1 ≤ date.year ∧ date.year ≤ 9999

instance (date : CivilDate) : Decidable date.InYears :=
  inferInstanceAs (Decidable (_ ∧ _))

/-- What shifting by any amount comes to, with the least and the greatest amount that is accepted.
An amount is accepted when its target lies in the years 1 to 9999, and leads there. Any other amount
is reported with those two. -/
structure ShiftsInto {State : Type} (unit : TimeUnit) (target : Int → CivilDate)
    (Reaches : State → CivilDate → Prop) (shift : Int → Except FieldError State)
    (least greatest : Int) : Prop where
  lands : ∀ amount, (target amount).InYears →
    ∃ next, shift amount = .ok next ∧ Reaches next (target amount)
  refused : ∀ amount, ¬(target amount).InYears →
    shift amount = .error { field := unit.field, value := amount, min := least, max := greatest }
  succeeds_iff : ∀ amount,
    (∃ next, shift amount = .ok next) ↔ least ≤ amount ∧ amount ≤ greatest

theorem ShiftsInto.eq_ok_iff {State : Type} {unit : TimeUnit} {target : Int → CivilDate}
    {Reaches : State → CivilDate → Prop} {shift : Int → Except FieldError State}
    {least greatest amount : Int} {next : State}
    (into : ShiftsInto unit target Reaches shift least greatest)
    (inYears : Reaches next (target amount) → (target amount).InYears)
    (unique : ∀ other, Reaches other (target amount) → Reaches next (target amount) →
      other = next) :
    shift amount = .ok next ↔ Reaches next (target amount) := by
  constructor
  · intro accepted
    by_cases inside : (target amount).InYears
    · obtain ⟨found, foundOk, reached⟩ := into.lands amount inside
      rw [accepted] at foundOk
      cases foundOk
      exact reached
    · rw [into.refused amount inside] at accepted
      cases accepted
  · intro reached
    obtain ⟨found, foundOk, foundReached⟩ := into.lands amount (inYears reached)
    rw [foundOk, unique found foundReached reached]

def FieldError.less (error : FieldError) (amount : Int) : FieldError :=
  { error with
    value := error.value - amount
    min := error.min - amount
    max := error.max - amount }

namespace ShiftRange

theorem months_allows_iff (month : CivilMonth) (valid : month.Valid) (amount : Int) :
    (months month.year month.month).Allows amount ↔
      1 ≤ (month.away amount).year ∧ (month.away amount).year ≤ 9999 := by
  rw [CivilMonth.away_eq month valid]
  simp only [Allows, months, CivilMonth.index, monthIndex, Year.first, Year.last, Month.january,
    Month.december]
  omega

theorem days_allows_iff (date : CivilDate) (amount : Int) :
    (days date).Allows amount ↔
      1 ≤ (CivilDate.ofDayNumber (date.dayNumber + amount)).year ∧
      (CivilDate.ofDayNumber (date.dayNumber + amount)).year ≤ 9999 := by
  obtain ⟨valid, number⟩ := CivilDate.ofDayNumber_spec (date.dayNumber + amount)
  rw [CivilDate.le_year_iff _ valid, CivilDate.year_le_iff _ valid, number]
  change CivilDate.dayNumber { year := 1, month := 1, day := 1 } - date.dayNumber ≤ amount ∧
    amount ≤ CivilDate.dayNumber { year := 9999, month := 12, day := 31 } - date.dayNumber ↔ _
  omega

theorem shiftsInto {State : Type} (range : ShiftRange) {target : Int → CivilDate}
    {Reaches : State → CivilDate → Prop} {shift : Int → Except FieldError State}
    (allows_iff : ∀ amount, range.Allows amount ↔ (target amount).InYears)
    (accepts : ∀ amount, range.Allows amount →
      ∃ next, shift amount = .ok next ∧ Reaches next (target amount))
    (refuses : ∀ amount, ¬range.Allows amount → shift amount = .error (range.rejected amount)) :
    ShiftsInto range.unit target Reaches shift range.least range.greatest where
  lands amount inYears := accepts amount ((allows_iff amount).mpr inYears)
  refused amount outside := refuses amount (mt (allows_iff amount).mp outside)
  succeeds_iff amount := by
    constructor
    · rintro ⟨next, succeeds⟩
      by_contra forbidden
      rw [refuses amount forbidden] at succeeds
      cases succeeds
    · intro allowed
      obtain ⟨next, succeeds, _⟩ := accepts amount allowed
      exact ⟨next, succeeds⟩

def after (range : ShiftRange) (amount : Int) : ShiftRange :=
  { range with
    least := range.least - amount
    greatest := range.greatest - amount }

theorem months_after (month next : CivilMonth) {amount : Int}
    (moved : next.index = month.index + amount) :
    months next.year next.month = (months month.year month.month).after amount := by
  simp only [CivilMonth.index] at moved
  simp only [months, after, moved, ShiftRange.mk.injEq, true_and]
  omega

theorem days_after (date next : CivilDate) {amount : Int}
    (moved : next.dayNumber = date.dayNumber + amount) :
    days next = (days date).after amount := by
  simp only [days, after, moved, ShiftRange.mk.injEq, true_and]
  omega

theorem after_allows_iff (range : ShiftRange) (first second : Int) :
    (range.after first).Allows second ↔ range.Allows (first + second) := by
  simp only [Allows, after]
  omega

theorem after_rejected (range : ShiftRange) (first second : Int) :
    (range.after first).rejected second = (range.rejected (first + second)).less first := by
  simp only [rejected, after, FieldError.less, FieldError.mk.injEq, and_self, and_true, true_and]
  omega

end ShiftRange

end DateAdjust
