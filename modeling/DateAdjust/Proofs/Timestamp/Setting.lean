import DateAdjust.Proofs.Spec.Saturation
import DateAdjust.Proofs.Timestamp.Validity
import DateAdjust.Timestamp.Words

/-! Setting the month or the day of a timestamp accepts the values from 1 to the maximum that the
timestamp shows for the unit, and reports every other value with these two ends. -/

namespace DateAdjust

namespace CivilDate

variable (date : CivilDate) (value : Nat) (unit : TimeUnit)

theorem largest_withUnit : (date.withUnit value unit).largest unit = date.largest unit := by
  cases unit with
  | month => rfl
  | day => rfl

theorem withUnit_withUnit : (date.withUnit value unit).withUnit value unit =
    date.withUnit value unit := by
  cases unit with
  | month => simp only [withUnit, Nat.min_assoc, Nat.min_self]
  | day => rfl

end CivilDate

namespace Timestamp

variable {timestamp next : Timestamp} {unit : TimeUnit} {value : Nat}

theorem MovesTo.of_civilTime {date : CivilDate}
    (reached : next.civilTime = { date, time := timestamp.time }) : timestamp.MovesTo next date :=
  ⟨congrArg CivilTime.date reached, congrArg CivilTime.time reached⟩

theorem set_eq_ok_iff :
    timestamp.set unit value = .ok next ↔
      (1 ≤ value ∧ value ≤ timestamp.maximum unit) ∧
        timestamp.MovesTo next (timestamp.date.withUnit value unit) := by
  rw [maximum_eq_largest]
  by_cases allowed : timestamp.civilTime.Allows (.setTo unit value)
  · obtain ⟨found, accepted, reached⟩ := timestamp.set_of_allows allowed
    have moves : timestamp.MovesTo found (timestamp.date.withUnit value unit) :=
      .of_civilTime reached
    rw [accepted]
    constructor
    · intro same
      cases same
      exact ⟨allowed, moves⟩
    · rintro ⟨_, otherMoves⟩
      rw [moves.unique otherMoves]
  · rw [timestamp.set_of_not_allows allowed]
    constructor
    · intro same
      cases same
    · rintro ⟨inside, _⟩
      exact absurd inside allowed

theorem set_succeeds_iff :
    (∃ next, timestamp.set unit value = .ok next) ↔
      1 ≤ value ∧ value ≤ timestamp.maximum unit := by
  constructor
  · rintro ⟨next, accepted⟩
    exact (set_eq_ok_iff.mp accepted).1
  · intro inside
    rw [maximum_eq_largest] at inside
    obtain ⟨next, accepted, _⟩ := timestamp.set_of_allows inside
    exact ⟨next, accepted⟩

theorem eq_of_set_eq_error {error : FieldError}
    (refused : timestamp.set unit value = .error error) :
    error = { field := unit.field, value, min := 1, max := timestamp.maximum unit } := by
  by_cases allowed : timestamp.civilTime.Allows (.setTo unit value)
  · obtain ⟨found, accepted, _⟩ := timestamp.set_of_allows allowed
    rw [accepted] at refused
    cases refused
  · rw [timestamp.set_of_not_allows allowed, ← maximum_eq_largest] at refused
    cases refused
    rfl

section Accepted

variable (accepted : timestamp.set unit value = .ok next)

include accepted

theorem get_of_set : next.get unit = value := by
  have newDate := (set_eq_ok_iff.mp accepted).2.1
  cases unit with
  | month => exact congrArg CivilDate.month newDate
  | day => exact congrArg CivilDate.day newDate

theorem year_of_set : next.year = timestamp.year := by
  have newDate := (set_eq_ok_iff.mp accepted).2.1
  apply Bounded.ext
  cases unit with
  | month => exact Int.ofNat.inj (congrArg CivilDate.year newDate)
  | day => exact Int.ofNat.inj (congrArg CivilDate.year newDate)

theorem maximum_of_set : next.maximum unit = timestamp.maximum unit := by
  rw [maximum_eq_largest, maximum_eq_largest, (set_eq_ok_iff.mp accepted).2.1]
  exact timestamp.date.largest_withUnit value unit

theorem set_again : next.set unit value = .ok next := by
  obtain ⟨inside, newDate, _⟩ := set_eq_ok_iff.mp accepted
  refine set_eq_ok_iff.mpr ⟨?_, ?_, rfl⟩
  · rw [maximum_of_set accepted]
    exact inside
  · rw [newDate, CivilDate.withUnit_withUnit]

end Accepted

theorem month_of_set_day (accepted : timestamp.set .day value = .ok next) :
    next.month = timestamp.month :=
  Bounded.ext (congrArg CivilDate.month (set_eq_ok_iff.mp accepted).2.1)

theorem day_of_set_month (accepted : timestamp.set .month value = .ok next) :
    next.day.val = min timestamp.day.val (Day.lastOf next.year.val next.month).val := by
  have newDate := (set_eq_ok_iff.mp accepted).2.1
  have length : (Day.lastOf next.year.val next.month).val =
      monthLength timestamp.date.year value := by
    change monthLength next.date.year next.date.month = _
    rw [newDate]
    rfl
  rw [length]
  exact congrArg CivilDate.day newDate

theorem setLast_succeeds (timestamp : Timestamp) (unit : TimeUnit) :
    ∃ next, timestamp.set unit (timestamp.maximum unit) = .ok next := by
  rw [set_succeeds_iff, maximum_eq_largest]
  exact timestamp.allows_largest unit

theorem set_token_again {value : SetValue}
    (applied : (Token.set unit value).apply timestamp = .ok next) :
    (Token.set unit value).apply next = .ok next := by
  cases value with
  | last =>
      change next.set unit (next.maximum unit) = .ok next
      rw [maximum_of_set applied]
      exact set_again applied
  | cardinal value => exact set_again applied

/-- Setting a unit to a word. It succeeds from 1 to the maximum of the unit, and any other word is
reported as it is, whether it would fit in a byte or not. -/
structure SetsInRange (timestamp : Timestamp) (unit : TimeUnit) (word : UInt32) : Prop where
  inNumbers : timestamp.setWord unit word = timestamp.set unit word.toNat
  succeeds_iff : (∃ next, timestamp.setWord unit word = .ok next) ↔
    1 ≤ word.toNat ∧ word.toNat ≤ timestamp.maximum unit
  accepted : ∀ next, timestamp.setWord unit word = .ok next →
    next.get unit = word.toNat ∧ next.year = timestamp.year ∧ next.time = timestamp.time ∧
    (unit = .day → next.month = timestamp.month) ∧
    (unit = .month →
      next.day.val = min timestamp.day.val (Day.lastOf next.year.val next.month).val)
  refused : ∀ error, timestamp.setWord unit word = .error error →
    error = { field := unit.field, value := word.toNat, min := 1, max := timestamp.maximum unit }

/-- A field is set exactly within its range, whatever day the timestamp has. The last value of a
unit can therefore always be set, and a token that sets a field has no effect the second time. -/
theorem setsInRange (timestamp : Timestamp) :
    (∀ unit word, timestamp.SetsInRange unit word) ∧
    (∀ unit, ∃ next, (Token.set unit .last).apply timestamp = .ok next) ∧
    ∀ unit value next, (Token.set unit value).apply timestamp = .ok next →
      (Token.set unit value).apply next = .ok next := by
  refine ⟨fun unit word => ?_, timestamp.setLast_succeeds, fun _ _ _ => set_token_again⟩
  have inNumbers := timestamp.setWord_eq unit word
  constructor
  case inNumbers => exact inNumbers
  case succeeds_iff => rw [inNumbers, set_succeeds_iff]
  case refused =>
    intro error refused
    rw [inNumbers] at refused
    exact eq_of_set_eq_error refused
  case accepted =>
    intro next accepted
    rw [inNumbers] at accepted
    refine ⟨get_of_set accepted, year_of_set accepted, (set_eq_ok_iff.mp accepted).2.2, ?_, ?_⟩
    · rintro rfl
      exact month_of_set_day accepted
    · rintro rfl
      exact day_of_set_month accepted

theorem setsInRange_february31 :
    (february31.SetsInRange .day 259 ∧ february31.setWord .day 259 =
      .error { field := .day, value := 259, min := 1, max := 28 }) ∧
    (∃ last, (Token.set .day .last).apply february31 = .ok last) ∧
    ∃ april, (Token.set .month (.cardinal 4)).apply february31 = .ok april ∧ april.day.val = 30 ∧
      (Token.set .month (.cardinal 4)).apply april = .ok april := by
  let april : Timestamp :=
    { february31 with month := ⟨4, by decide, by decide⟩, day := ⟨30, by decide, by decide⟩ }
  have applied : (Token.set .month (.cardinal 4)).apply february31 = .ok april := by decide +kernel
  obtain ⟨sets, last, again⟩ := setsInRange february31
  exact ⟨⟨sets .day 259, by decide +kernel⟩, last .day, april, applied, rfl, again _ _ _ applied⟩

end Timestamp

end DateAdjust
