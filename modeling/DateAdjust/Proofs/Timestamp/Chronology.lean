import DateAdjust.Proofs.Gregorian.DateOrder
import DateAdjust.Proofs.Timestamp.ShiftSum
import DateAdjust.Proofs.Timestamp.Validity

/-! The order of timestamps is the order in time, when days are counted one by one. Shifts by days
keep it as it is, and shifts by months keep the dates in order. -/

namespace DateAdjust

def millisecondsPerDay : Int := 86400000

namespace TimeOfDay

def sinceMidnight (time : TimeOfDay) : Nat :=
  ((time.hour.val * 60 + time.minute.val) * 60 + time.second.val) * 1000 + time.millisecond.val

theorem sinceMidnight_lt (time : TimeOfDay) : (time.sinceMidnight : Int) < millisecondsPerDay := by
  have hour := time.hour.le_greatest
  have minute := time.minute.le_greatest
  have second := time.second.le_greatest
  have millisecond := time.millisecond.le_greatest
  simp only [sinceMidnight, millisecondsPerDay]
  omega

theorem compare_sinceMidnight (first second : TimeOfDay) :
    compare first.sinceMidnight second.sinceMidnight = compare first second := by
  have below : ∀ {greatest : Nat} (part : Bounded 0 greatest), part.val < greatest + 1 :=
    fun part => Nat.lt_succ_of_le part.le_greatest
  simp only [sinceMidnight]
  rw [compare_mul_add_nat _ _ (below _) (below _), compare_mul_add_nat _ _ (below _) (below _),
    compare_mul_add_nat _ _ (below _) (below _), Ordering.then_assoc, Ordering.then_assoc]
  rfl

end TimeOfDay

namespace Timestamp

theorem compare_eq (first second : Timestamp) :
    compare first second =
      (compare first.date second.date).then (compare first.time second.time) := by
  rw [CivilDate.compare_eq, Ordering.then_assoc, Ordering.then_assoc]
  simp only [date, compare_natCast]
  rfl

/-- The timestamp is that many milliseconds after the midnight that begins a fixed date: those of
its time, and those of the days from the fixed date to its own, counted one by one. -/
def InstantFrom (fixed : CivilDate) (timestamp : Timestamp) (instant : Int) : Prop :=
  ∃ days, fixed.daysAway days = timestamp.date ∧
    instant = days * millisecondsPerDay + timestamp.time.sinceMidnight

variable {first second : Timestamp}

section Instants

variable {fixed : CivilDate} (fixedValid : fixed.Valid)

include fixedValid

theorem instantFrom_iff {timestamp : Timestamp} (valid : timestamp.Valid) (instant : Int) :
    timestamp.InstantFrom fixed instant ↔
      instant = (timestamp.date.dayNumber - fixed.dayNumber) * millisecondsPerDay
        + timestamp.time.sinceMidnight := by
  have counted := CivilDate.daysAway_eq_iff fixedValid valid
  constructor
  · rintro ⟨days, reached, rfl⟩
    have distance := (counted days).mp reached
    rw [show days = timestamp.date.dayNumber - fixed.dayNumber by omega]
  · intro same
    exact ⟨_, (counted _).mpr (by omega), same⟩

theorem compare_of_instantFrom (firstValid : first.Valid) (secondValid : second.Valid)
    {firstInstant secondInstant : Int} (firstAt : first.InstantFrom fixed firstInstant)
    (secondAt : second.InstantFrom fixed secondInstant) :
    compare first second = compare firstInstant secondInstant := by
  rw [(instantFrom_iff fixedValid firstValid _).mp firstAt,
    (instantFrom_iff fixedValid secondValid _).mp secondAt,
    compare_mul_add (Int.natCast_nonneg _) first.time.sinceMidnight_lt (Int.natCast_nonneg _)
      second.time.sinceMidnight_lt,
    Int.sub_eq_add_neg, Int.sub_eq_add_neg, compare_add_right,
    CivilDate.compare_dayNumber firstValid secondValid, compare_natCast,
    TimeOfDay.compare_sinceMidnight, ← compare_eq]

end Instants

theorem compare_of_addDays (firstValid : first.Valid) (secondValid : second.Valid) {amount : Int}
    {firstLater secondLater : Timestamp} (firstShifted : first.addDays amount = .ok firstLater)
    (secondShifted : second.addDays amount = .ok secondLater) :
    compare firstLater secondLater = compare first second := by
  have sameTime := (addDays_eq_ok_iff.mp firstShifted).2
  have sameOtherTime := (addDays_eq_ok_iff.mp secondShifted).2
  rw [compare_eq, compare_eq first, sameTime, sameOtherTime,
    ← CivilDate.compare_dayNumber (valid_of_addDays firstShifted) (valid_of_addDays secondShifted),
    dayNumber_of_addDays firstShifted, dayNumber_of_addDays secondShifted, compare_add_right,
    CivilDate.compare_dayNumber firstValid secondValid]

theorem isLE_compare_of_addMonths {amount : Int} {firstLater secondLater : Timestamp}
    (firstShifted : first.addMonths amount = .ok firstLater)
    (secondShifted : second.addMonths amount = .ok secondLater)
    (inOrder : (compare first.date second.date).isLE) :
    (compare firstLater.date secondLater.date).isLE := by
  rw [CivilDate.isLE_compare_iff] at inOrder ⊢
  rw [(addMonths_eq_ok_iff.mp firstShifted).1, (addMonths_eq_ok_iff.mp secondShifted).1]
  exact CivilDate.monthsAway_in_order first.civilMonth_valid second.civilMonth_valid amount inOrder

/-- Two timestamps compare as they follow each other in time, and go on to do so after a shift of
both by the same days. After a shift of both by the same months their dates still do. -/
structure OrderedInTime (first second : Timestamp) : Prop where
  instants : ∀ fixed : CivilDate, fixed.Valid → ∃ firstInstant secondInstant,
    (∀ instant, first.InstantFrom fixed instant ↔ instant = firstInstant) ∧
    (∀ instant, second.InstantFrom fixed instant ↔ instant = secondInstant) ∧
    compare first second = compare firstInstant secondInstant
  days : ∀ amount firstLater secondLater, first.addDays amount = .ok firstLater →
    second.addDays amount = .ok secondLater →
    compare firstLater secondLater = compare first second
  months : ∀ amount firstLater secondLater, first.addMonths amount = .ok firstLater →
    second.addMonths amount = .ok secondLater → (compare first.date second.date).isLE →
    (compare firstLater.date secondLater.date).isLE

theorem orderedInTime (firstValid : first.Valid) (secondValid : second.Valid) :
    first.OrderedInTime second where
  instants fixed fixedValid := by
    have firstAt := instantFrom_iff fixedValid firstValid
    have secondAt := instantFrom_iff fixedValid secondValid
    exact ⟨_, _, firstAt, secondAt, compare_of_instantFrom fixedValid firstValid secondValid
      ((firstAt _).mpr rfl) ((secondAt _).mpr rfl)⟩
  days _ _ _ firstShifted secondShifted :=
    compare_of_addDays firstValid secondValid firstShifted secondShifted
  months _ _ _ firstShifted secondShifted inOrder :=
    isLE_compare_of_addMonths firstShifted secondShifted inOrder

theorem orderedInTime_januaryEnd :
    let first := { januaryEnd with day := ⟨30, by decide, by decide⟩ }
    let second := januaryEnd.withTime .midnight
    first.Valid ∧ second.Valid ∧
    (first.InstantFrom januaryEnd.date (-1) ∧ second.InstantFrom januaryEnd.date 0 ∧
      compare first second = compare (-1 : Int) 0) ∧
    (∃ firstLater secondLater, first.addDays 1 = .ok firstLater ∧
      second.addDays 1 = .ok secondLater ∧ compare firstLater secondLater = compare first second) ∧
    ∃ firstLater secondLater, first.addMonths 1 = .ok firstLater ∧
      second.addMonths 1 = .ok secondLater ∧ (compare first.date second.date).isLE ∧
      (compare firstLater.date secondLater.date).isLE ∧ compare firstLater secondLater = .gt := by
  intro first second
  have firstValid : first.Valid := by decide
  have secondValid : second.Valid := by decide
  have ordered := orderedInTime firstValid secondValid
  have firstAt : first.InstantFrom januaryEnd.date (-1) := ⟨-1, by decide, by decide⟩
  have secondAt : second.InstantFrom januaryEnd.date 0 := ⟨0, by decide, by decide⟩
  obtain ⟨_, _, firstOnly, secondOnly, compared⟩ := ordered.instants januaryEnd.date (by decide)
  rw [← (firstOnly _).mp firstAt, ← (secondOnly _).mp secondAt] at compared
  let february (time : TimeOfDay) : Timestamp :=
    { januaryEnd with month := Month.february, day := ⟨28, by decide, by decide⟩, time }
  have firstDay : first.addDays 1 = .ok januaryEnd := by decide +kernel
  have secondDay : second.addDays 1 =
      .ok { second with month := Month.february, day := Day.first } := by decide +kernel
  have firstMonth : first.addMonths 1 = .ok (february .endOfDay) := by decide +kernel
  have secondMonth : second.addMonths 1 = .ok (february .midnight) := by decide +kernel
  have inOrder : (compare first.date second.date).isLE := by decide
  exact ⟨firstValid, secondValid, ⟨firstAt, secondAt, compared⟩,
    ⟨_, _, firstDay, secondDay, ordered.days _ _ _ firstDay secondDay⟩,
    _, _, firstMonth, secondMonth, inOrder, ordered.months _ _ _ firstMonth secondMonth inOrder,
    by decide⟩

end Timestamp

end DateAdjust
