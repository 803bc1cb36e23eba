import DateAdjust.Moment.Checked
import DateAdjust.Proofs.Gregorian.Checked
import DateAdjust.Proofs.Moment.Shifting
import DateAdjust.Proofs.Timestamp.DayShift
import DateAdjust.Timestamp.Checked

/-! Calendar arithmetic in words never faults: every number on the way has room in its word, and
once a range has allowed an amount nothing is missing or out of range any more. -/

namespace DateAdjust

namespace Attempt

variable {α β : Type}

/-- The computation has no fault, and comes to the value or the report. -/
def ComesTo (attempt : Attempt α) (outcome : Except FieldError α) : Prop :=
  attempt.run = .ok outcome

namespace ComesTo

theorem step {computed : Checked α} {value : α} {next : α → Attempt β}
    {outcome : Except FieldError β} (known : computed = .ok value)
    (later : (next value).ComesTo outcome) : (liftM computed >>= next).ComesTo outcome := by
  rw [known]
  exact later

theorem settle (outcome : Except FieldError α) : (liftM outcome : Attempt α).ComesTo outcome := by
  cases outcome with
  | error error => rfl
  | ok value => rfl

theorem bind {first : Attempt α} {outcome : Except FieldError α} {next : α → Attempt β}
    {rest : α → Except FieldError β} (comes : first.ComesTo outcome)
    (later : ∀ value, outcome = .ok value → (next value).ComesTo (rest value)) :
    (first >>= next).ComesTo (outcome >>= rest) := by
  simp only [ComesTo, ExceptT.run_bind] at comes ⊢
  rw [comes]
  cases outcome with
  | error error => rfl
  | ok value => exact later value rfl

theorem check {checked : Except FieldError α} {next : α → Attempt β}
    {rest : α → Except FieldError β}
    (later : ∀ value, checked = .ok value → (next value).ComesTo (rest value)) :
    (liftM checked >>= next).ComesTo (checked >>= rest) := by
  cases checked with
  | error error => rfl
  | ok value => exact later value rfl

end ComesTo

end Attempt

theorem present_eq {α : Type} {found : Option α} {value : α} (same : found = some value) :
    present found = .ok value := by
  rw [same]
  rfl

theorem narrowTo_toNat {size : Nat} {number : Int} (lower : 0 ≤ number) (fits : number < size) :
    narrowTo size number = .ok number.toNat :=
  narrowTo_eq (Int.toNat_of_nonneg lower).symm (by omega)

theorem Month.ofWord_toNat {number : Int} (lower : 0 ≤ number) (upper : number < UInt32.size) :
    ofWord (.ofNat number.toNat) = check number := by
  rw [ofWord_eq, UInt32.toNat_ofNat_of_lt' (by omega), Int.toNat_of_nonneg lower]

theorem Month.ofByte_ofNat {number : Nat} (upper : number < UInt8.size) :
    ofByte (.ofNat number) = check number := by
  rw [ofByte_eq, UInt8.toNat_ofNat_of_lt' upper]

theorem Day.ofByte_ofNat (year : Year) (month : Month) {number : Nat}
    (upper : number < UInt8.size) : ofByte (.ofNat year.val) (.ofNat month.val) (.ofNat number) =
      checkIn year.val month number := by
  rw [ofByte_eq, UInt8.toNat_ofNat_of_lt' upper,
    UInt8.toNat_ofNat_of_lt' (Nat.lt_of_le_of_lt month.le_greatest (by decide)),
    UInt16.toNat_ofNat_of_lt' (Nat.lt_of_le_of_lt year.le_greatest (by decide)), checkInMonth,
    Month.check, Bounded.check_val]
  rfl

theorem CivilDate.Valid.fits {date : CivilDate} (valid : date.Valid) :
    date.month < UInt8.size ∧ date.day < UInt8.size := by
  have size : UInt8.size = 256 := rfl
  have long := monthLength_le date.year date.month
  obtain ⟨_, month, _, day⟩ := valid
  omega

theorem monthLengthChecked_eq (year : Int) {month : Nat} (lower : 1 ≤ month) (upper : month ≤ 12) :
    monthLengthChecked year month = .ok (monthLength year month) :=
  if_pos ⟨lower, upper⟩

/-- Dates that words of 64 bits have ample room for. They need not exist. -/
structure CivilDate.Reckonable (date : CivilDate) : Prop where
  month : date.civilMonth.Valid
  year : date.year.natAbs ≤ 262143
  day : date.day ≤ 31

instance (date : CivilDate) : Decidable date.Reckonable :=
  decidable_of_iff (date.civilMonth.Valid ∧ date.year.natAbs ≤ 262143 ∧ date.day ≤ 31)
    ⟨fun ⟨month, year, day⟩ => ⟨month, year, day⟩, fun ⟨month, year, day⟩ => ⟨month, year, day⟩⟩

namespace Width

variable {date : CivilDate}

theorem long_monthIndex_eq (reckonable : date.Reckonable) :
    long.monthIndex date.year date.month = .ok (DateAdjust.monthIndex date.year date.month) := by
  have month := reckonable.month.2
  have year := reckonable.year
  simp only [CivilDate.civilMonth] at month
  exact Spans.monthIndex_eq _ _ (long_spans (by omega))

theorem long_dayNumber_eq (reckonable : date.Reckonable) :
    long.dayNumber date = .ok date.dayNumber := by
  have year := reckonable.year
  have day := reckonable.day
  exact Spans.dayNumber_eq date reckonable.month (long_spans (by omega))

theorem long_hold_eq {number : Int} (small : number.natAbs ≤ 200000000) :
    long.hold number = .ok number :=
  (long_spans (by omega)).hold_eq rfl small

theorem long_ofDayNumber_eq {number : Int} (small : number.natAbs ≤ 200000000) :
    long.ofDayNumber number = .ok (CivilDate.ofDayNumber number) :=
  Spans.ofDayNumber_eq number (long_spans (by omega))

theorem long_hold_sub {first second : Int} (firstSmall : first.natAbs ≤ 100000000)
    (secondSmall : second.natAbs ≤ 100000000) : long.hold (first - second) = .ok (first - second) :=
  long_hold_eq (by omega)

end Width

namespace CivilDate.Reckonable

variable {date : CivilDate} (reckonable : date.Reckonable)

include reckonable

theorem monthIndex_bound : (monthIndex date.year date.month).natAbs ≤ 100000000 := by
  have month := reckonable.month.2
  have year := reckonable.year
  simp only [civilMonth] at month
  simp only [monthIndex]
  omega

theorem dayNumber_bound : date.dayNumber.natAbs ≤ 100000000 := by
  obtain ⟨month, year, day⟩ := reckonable
  simp only [CivilMonth.Valid, civilMonth] at month
  rw [dayNumber_eq]
  simp only [marchStart, daysBeforeMonth]
  split <;> omega

end CivilDate.Reckonable

namespace ShiftRange

section Reckonable

variable {date : CivilDate} (reckonable : date.Reckonable)

include reckonable

theorem monthsChecked_eq :
    monthsChecked date.year date.month = .ok (months date.year date.month) := by
  have first : CivilDate.earliest.Reckonable := by decide
  have last : CivilDate.latest.Reckonable := by decide
  have bound := reckonable.monthIndex_bound
  refine Checked.step (Width.long_monthIndex_eq reckonable) ?_
  refine Checked.step (Width.long_monthIndex_eq first) ?_
  refine Checked.step (Width.long_hold_sub first.monthIndex_bound bound) ?_
  refine Checked.step (Width.long_monthIndex_eq last) ?_
  exact Checked.step (Width.long_hold_sub last.monthIndex_bound bound) rfl

theorem daysChecked_eq : daysChecked date = .ok (days date) := by
  have first : CivilDate.earliest.Reckonable := by decide
  have last : CivilDate.latest.Reckonable := by decide
  have bound := reckonable.dayNumber_bound
  refine Checked.step (Width.long_dayNumber_eq reckonable) ?_
  refine Checked.step (monthLengthChecked_eq _ (by decide) (by decide)) ?_
  refine Checked.step (Width.long_dayNumber_eq first) ?_
  refine Checked.step (Width.long_hold_sub first.dayNumber_bound bound) ?_
  refine Checked.step (Width.long_dayNumber_eq last) ?_
  exact Checked.step (Width.long_hold_sub last.dayNumber_bound bound) rfl

end Reckonable

theorem months_target_bounds {date : CivilDate} {amount : Int}
    (allowed : (months date.year date.month).Allows amount) :
    12 ≤ monthIndex date.year date.month + amount ∧
      monthIndex date.year date.month + amount ≤ 119999 := by
  simp only [Allows, months, monthIndex, Year.first, Year.last, Month.january,
    Month.december] at allowed
  simp only [monthIndex]
  omega

theorem days_target_bounds {date : CivilDate} {amount : Int} (allowed : (days date).Allows amount) :
    -719162 ≤ date.dayNumber + amount ∧ date.dayNumber + amount ≤ 2932896 := by
  change -719162 - date.dayNumber ≤ amount ∧ amount ≤ 2932896 - date.dayNumber at allowed
  omega

theorem check_eq_ok_iff {range : ShiftRange} {amount : Int} :
    range.check amount = .ok () ↔ range.Allows amount := by
  simp [check]

end ShiftRange

namespace Day

theorem lastOfChecked_eq (year : Int) (month : Month) :
    lastOfChecked year month = .ok (lastOf year month) := by
  refine Checked.step (monthLengthChecked_eq year month.least_le month.le_greatest) ?_
  exact present_eq (Bounded.ofInt?_eq_some_iff.mpr rfl)

theorem clampChecked_eq (day : Day) (year : Int) (month : Month) :
    day.clampChecked year month = .ok (day.clamp year month) :=
  Checked.step (lastOfChecked_eq year month) rfl

theorem ofByteChecked_comesTo (year : UInt16) (month byte : UInt8) :
    (ofByteChecked year month byte).ComesTo (ofByte year month byte) := by
  refine .check fun month _ => ?_
  refine .step (lastOfChecked_eq year.toNat month) ?_
  exact .settle _

theorem ofWordChecked_comesTo (year : UInt16) {month : UInt8}
    (inside : 1 ≤ month.toNat ∧ month.toNat ≤ 12) (word : UInt32) :
    (ofWordChecked year month word).ComesTo (ofWord year month word) := by
  simp only [ofWordChecked, ofWord]
  cases narrow? word with
  | some byte => exact ofByteChecked_comesTo year month byte
  | none => exact .step (monthLengthChecked_eq _ inside.1 inside.2) rfl

end Day

namespace Timestamp

variable (timestamp : Timestamp)

theorem reckonable : timestamp.date.Reckonable where
  month := timestamp.civilMonth_valid
  year := by
    have year := timestamp.year.le_greatest
    simp only [date]
    omega
  day := timestamp.day.le_greatest

theorem maximumChecked_eq (unit : TimeUnit) :
    timestamp.maximumChecked unit = .ok (timestamp.maximum unit) := by
  cases unit with
  | month => rfl
  | day => exact Checked.step (Day.lastOfChecked_eq _ _) rfl

theorem setChecked_comesTo (unit : TimeUnit) (word : UInt32) :
    (timestamp.setChecked unit word).ComesTo (timestamp.setWord unit word) := by
  cases unit with
  | month =>
      refine .check fun month _ => ?_
      exact .step (Day.clampChecked_eq _ _ month) rfl
  | day =>
      have month : (UInt8.ofNat timestamp.month.val).toNat = timestamp.month.val :=
        UInt8.toNat_ofNat_of_lt (Nat.lt_of_le_of_lt timestamp.month.le_greatest (by decide))
      have inside : 1 ≤ (UInt8.ofNat timestamp.month.val).toNat ∧
          (UInt8.ofNat timestamp.month.val).toNat ≤ 12 := by
        rw [month]
        exact timestamp.civilMonth_valid
      refine .bind (Day.ofWordChecked_comesTo _ inside word) fun day _ => ?_
      rfl

theorem addMonthsChecked_comesTo (amount : Int64) :
    (timestamp.addMonthsChecked amount).ComesTo (timestamp.addMonths amount.toInt) := by
  have reckonable := timestamp.reckonable
  have bound := reckonable.monthIndex_bound
  refine .step (ShiftRange.monthsChecked_eq reckonable) ?_
  refine .check fun _ checked => ?_
  have size : UInt32.size = 4294967296 := rfl
  have target := ShiftRange.months_target_bounds (ShiftRange.check_eq_ok_iff.mp checked)
  refine .step (Width.long_monthIndex_eq reckonable) ?_
  refine .step (Width.long_hold_eq (by omega)) ?_
  refine .step (Width.long_hold_eq (by omega)) ?_
  rw [Year.ofNumber_eq]
  refine .check fun year _ => ?_
  refine .step (Width.long_hold_eq (by omega)) ?_
  refine .step (Width.long_hold_eq (by omega)) ?_
  refine .step (narrowTo_toNat (by omega) (by omega)) ?_
  rw [Month.ofWord_toNat (by omega) (by omega)]
  refine .check fun month _ => ?_
  exact .step (Day.clampChecked_eq _ _ month) rfl

theorem addDaysChecked_comesTo (amount : Int64) :
    (timestamp.addDaysChecked amount).ComesTo (timestamp.addDays amount.toInt) := by
  have reckonable := timestamp.reckonable
  have bound := reckonable.dayNumber_bound
  refine .step (ShiftRange.daysChecked_eq reckonable) ?_
  refine .check fun _ checked => ?_
  have target := ShiftRange.days_target_bounds (ShiftRange.check_eq_ok_iff.mp checked)
  refine .step (Width.long_dayNumber_eq reckonable) ?_
  refine .step (Width.long_hold_eq (by omega)) ?_
  refine .step (Width.long_ofDayNumber_eq (by omega)) ?_
  obtain ⟨monthFits, dayFits⟩ :=
    (CivilDate.ofDayNumber_spec (timestamp.date.dayNumber + amount.toInt)).1.fits
  rw [Year.ofNumber_eq]
  refine .check fun year _ => ?_
  rw [Month.ofByte_ofNat monthFits]
  refine .check fun month _ => ?_
  rw [← Day.ofByte_ofNat year month dayFits]
  exact .bind (Day.ofByteChecked_comesTo _ _ _) fun day _ => rfl

end Timestamp

theorem WideDate.reckonable (date : WideDate) : date.civil.Reckonable where
  month := date.civil.civilMonth_valid date.valid
  year := by
    have lower := date.first_le
    have upper := date.le_last
    omega
  day := Nat.le_trans date.valid.2.2.2 (monthLength_le _ _)

/-- A shift that has no fault for any amount of 64 bits. Every amount that its range allows leads
somewhere, and every other one is reported with the range. -/
structure FaultlessShift {State : Type} (range : ShiftRange) (inWords : Int64 → Attempt State)
    (shift : Int → Except FieldError State) : Prop where
  comes : ∀ amount, (inWords amount).ComesTo (shift amount.toInt)
  accepted : ∀ amount, range.Allows amount → ∃ next, shift amount = .ok next
  refused : ∀ amount, ¬range.Allows amount → shift amount = .error (range.rejected amount)

theorem ShiftsInto.faultless {State : Type} {range : ShiftRange} {target : Int → CivilDate}
    {Reaches : State → CivilDate → Prop} {inWords : Int64 → Attempt State}
    {shift : Int → Except FieldError State}
    (into : ShiftsInto range.unit target Reaches shift range.least range.greatest)
    (comes : ∀ amount, (inWords amount).ComesTo (shift amount.toInt)) :
    FaultlessShift range inWords shift where
  comes := comes
  accepted amount allowed := (into.succeeds_iff amount).mpr allowed
  refused amount forbidden := by
    apply into.refused
    intro inYears
    obtain ⟨next, accepted, _⟩ := into.lands amount inYears
    exact forbidden ((into.succeeds_iff amount).mp ⟨next, accepted⟩)

namespace MomentEngine

variable {Value : Type}

/-- A shift to a date of the years 1 to 9999 finds some moment, of whatever date and time. -/
structure FindsShifts (engine : MomentEngine Value) : Prop where
  monthsAfter : ∀ moment (count : Nat), ((engine.date moment).civil.monthsAway count).InYears →
    ∃ next, engine.monthsAfter? moment count = some next
  monthsBefore : ∀ moment (count : Nat), ((engine.date moment).civil.monthsAway (-count)).InYears →
    ∃ next, engine.monthsBefore? moment count = some next
  daysDuration : ∀ days : Int, days.natAbs ≤ daysLimit →
    engine.daysDuration? days = some (days * nanosecondsPerDay)
  add : ∀ moment (days : Int), ((engine.date moment).civil.daysAway days).InYears →
    ∃ next, engine.add? moment (days * nanosecondsPerDay) = some next

theorem Finds.of_valid {Time : Type} {engine : MomentEngine Value} {time : Value → Time}
    {moment : Value} {found : Option Value} {target : CivilDate}
    (finds : engine.Finds time moment found target) (valid : target.Valid)
    (inYears : target.InYears) : ∃ next, found = some next := by
  obtain ⟨date, dateEq⟩ := WideDate.exists_of_inYears valid inYears
  obtain ⟨next, foundNext, _⟩ := finds date dateEq
  exact ⟨next, foundNext⟩

theorem ExactShifts.findsShifts {Time : Type} {engine : MomentEngine Value} {time : Value → Time}
    (exact : engine.ExactShifts time) : engine.FindsShifts := by
  have monthsValid : ∀ moment amount, ((engine.date moment).civil.monthsAway amount).Valid := by
    intro moment amount
    have valid := (engine.date moment).valid
    exact (engine.date moment).civil.monthsAway_valid ((engine.date moment).civil.civilMonth_valid
      valid) ((engine.date moment).civil.day_bounds valid).1 amount
  constructor
  case monthsAfter =>
    exact fun moment count => (exact.monthsAfter moment count).of_valid (monthsValid moment count)
  case monthsBefore =>
    exact fun moment count =>
      (exact.monthsBefore moment count).of_valid (monthsValid moment (-count))
  case daysDuration => exact exact.daysDuration
  case add =>
    exact fun moment days => (exact.add moment days).of_valid
      (CivilDate.numbered.stepBy_valid (engine.date moment).valid days)

variable {engine : MomentEngine Value}

theorem FindsShifts.addMonths? (finds : engine.FindsShifts) {moment : Value} {amount : Int}
    (allowed : (ShiftRange.months (engine.date moment).civil.year
      (engine.date moment).civil.month).Allows amount) :
    ∃ next, engine.addMonths? moment amount = some next := by
  have short := (engine.date moment).natAbs_lt_of_months_allows allowed
  have inYears := (ShiftRange.months_allows_iff (engine.date moment).civil.civilMonth
    ((engine.date moment).civil.civilMonth_valid (engine.date moment).valid) amount).mp allowed
  rcases engine.addMonths?_cases moment short with ⟨count, rfl, same⟩ | ⟨count, rfl, same⟩
  · rw [same]
    exact finds.monthsBefore moment count inYears
  · rw [same]
    exact finds.monthsAfter moment count inYears

theorem FindsShifts.addDays? (finds : engine.FindsShifts) {moment : Value} {amount : Int}
    (allowed : (ShiftRange.days (engine.date moment).civil).Allows amount) :
    ∃ next, engine.addDays? moment amount = some next := by
  have short := natAbs_le_daysLimit (engine.date moment) allowed
  have inYears := (ShiftRange.days_allows_iff (engine.date moment).civil amount).mp allowed
  rw [CivilDate.ofDayNumber_add _ (engine.date moment).valid] at inYears
  simp only [MomentEngine.addDays?, finds.daysDuration amount short, Option.bind_eq_bind,
    Option.bind_some]
  exact finds.add moment amount inYears

theorem monthsAwayChecked_eq {moment next : Value} {amount : Int64}
    (short : amount.toInt.natAbs < UInt32.size)
    (found : engine.addMonths? moment amount.toInt = some next) :
    engine.monthsAwayChecked moment amount = .ok next := by
  simp only [MomentEngine.addMonths?] at found
  rw [if_neg (by omega)] at found
  exact Checked.step (narrowTo_eq rfl short) (present_eq found)

theorem daysAwayChecked_eq {moment next : Value} {amount : Int64}
    (found : engine.addDays? moment amount.toInt = some next) :
    engine.daysAwayChecked moment amount = .ok next := by
  obtain ⟨duration, durationFound, added⟩ := Option.bind_eq_some_iff.mp found
  exact Checked.step (present_eq durationFound) (present_eq added)

theorem checkedShift_comesTo {range : ShiftRange} {amount : Int} {moment : Value}
    {found : Option Value} {shifted : Checked Value}
    (finds : range.Allows amount → ∃ next, found = some next ∧ shifted = .ok next) :
    Attempt.ComesTo (do range.check amount; shifted)
      ((checkedShift range amount found).onCopy moment) := by
  by_cases allowed : range.Allows amount
  · obtain ⟨next, foundNext, shiftedNext⟩ := finds allowed
    rw [checkedShift, ShiftRange.check_of_allows allowed, foundNext, shiftedNext]
    rfl
  · rw [checkedShift, ShiftRange.check_of_not_allows allowed]
    rfl

theorem faultlessShift_of_checked {moment : Value} {range : ShiftRange}
    {inWords : Int64 → Attempt Value} {shift : Int → InPlace Value FieldError Unit}
    (found : Int → Option Value)
    (checked : ∀ amount, (shift amount).onCopy moment =
      (checkedShift range amount (found amount)).onCopy moment)
    (finds : ∀ amount, range.Allows amount → ∃ next, found amount = some next)
    (comes : ∀ amount : Int64, (inWords amount).ComesTo ((shift amount.toInt).onCopy moment)) :
    FaultlessShift range inWords fun amount => (shift amount).onCopy moment where
  comes := comes
  accepted amount allowed := by
    obtain ⟨next, foundNext⟩ := finds amount allowed
    rw [checked, checkedShift, ShiftRange.check_of_allows allowed, foundNext]
    exact ⟨next, rfl⟩
  refused amount forbidden := by
    rw [checked, checkedShift, ShiftRange.check_of_not_allows forbidden]
    rfl

theorem addMonths_faultless (finds : engine.FindsShifts) (moment : Value) :
    FaultlessShift (.months (engine.date moment).civil.year (engine.date moment).civil.month)
      (engine.addMonthsChecked moment)
      fun amount => (engine.addMonthsInPlace amount).onCopy moment := by
  refine faultlessShift_of_checked (engine.addMonths? moment) (fun _ => rfl)
    (fun _ => finds.addMonths?) fun amount => ?_
  refine .step (ShiftRange.monthsChecked_eq (engine.date moment).reckonable) ?_
  apply checkedShift_comesTo
  intro allowed
  obtain ⟨next, found⟩ := finds.addMonths? allowed
  have short := (engine.date moment).natAbs_lt_of_months_allows allowed
  exact ⟨next, found, monthsAwayChecked_eq short found⟩

theorem addDays_faultless (finds : engine.FindsShifts) (moment : Value) :
    FaultlessShift (.days (engine.date moment).civil) (engine.addDaysChecked moment)
      fun amount => (engine.addDaysInPlace amount).onCopy moment := by
  refine faultlessShift_of_checked (engine.addDays? moment) (fun _ => rfl)
    (fun _ => finds.addDays?) fun amount => ?_
  refine .step (ShiftRange.daysChecked_eq (engine.date moment).reckonable) ?_
  apply checkedShift_comesTo
  intro allowed
  obtain ⟨next, found⟩ := finds.addDays? allowed
  exact ⟨next, found, daysAwayChecked_eq found⟩

end MomentEngine

structure Timestamp.Faultless (timestamp : Timestamp) : Prop where
  addMonths : FaultlessShift (.months timestamp.year.val timestamp.month.val)
    timestamp.addMonthsChecked timestamp.addMonths
  addDays : FaultlessShift (.days timestamp.date) timestamp.addDaysChecked timestamp.addDays
  maximum : ∀ unit, timestamp.maximumChecked unit = .ok (timestamp.maximum unit)
  set : ∀ unit word, (timestamp.setChecked unit word).ComesTo (timestamp.set unit word.toNat)

structure MomentEngine.Faultless {Value : Type} (engine : MomentEngine Value) (moment : Value) :
    Prop where
  addMonths : FaultlessShift
    (.months (engine.date moment).civil.year (engine.date moment).civil.month)
    (engine.addMonthsChecked moment) fun amount => (engine.addMonthsInPlace amount).onCopy moment
  addDays : FaultlessShift (.days (engine.date moment).civil)
    (engine.addDaysChecked moment) fun amount => (engine.addDaysInPlace amount).onCopy moment

/-- The arithmetic of both calendars has no fault, from any timestamp, whether its date exists or
not, and from any moment of the span. -/
theorem arithmetic_faultless :
    (∀ timestamp : Timestamp, timestamp.Faultless) ∧
    (∀ year month byte, (Day.ofByteChecked year month byte).ComesTo (Day.ofByte year month byte)) ∧
    ∀ (Value : Type) (engine : MomentEngine Value), engine.FindsShifts →
      ∀ moment, engine.Faultless moment := by
  refine ⟨?_, Day.ofByteChecked_comesTo, ?_⟩
  · intro timestamp
    constructor
    case addMonths =>
      exact timestamp.addMonths_shiftsInto.faultless timestamp.addMonthsChecked_comesTo
    case addDays => exact timestamp.addDays_shiftsInto.faultless timestamp.addDaysChecked_comesTo
    case maximum => exact timestamp.maximumChecked_eq
    case set =>
      intro unit word
      rw [← timestamp.setWord_eq]
      exact timestamp.setChecked_comesTo unit word
  · intro Value engine finds moment
    exact ⟨MomentEngine.addMonths_faultless finds moment,
      MomentEngine.addDays_faultless finds moment⟩

/-- From the first January of the span, to a shorter month and by the least amount of 64 bits. -/
theorem arithmetic_faultless_spanJanuary :
    MomentEngine.gregorian.FindsShifts ∧
    (MomentEngine.gregorian.addMonthsChecked MomentEngine.spanJanuary 3145729).ComesTo
      (.ok { MomentEngine.spanJanuary with
        date := ⟨{ year := 1, month := 2, day := 28 }, by decide, by decide, by decide⟩ }) ∧
    (MomentEngine.gregorian.addDaysChecked MomentEngine.spanJanuary Int64.minValue).ComesTo
      (.error
        { field := .day, value := -9223372036854775808, min := 95746100, max := 99398158 }) := by
  have finds : MomentEngine.gregorian.FindsShifts :=
    MomentEngine.gregorian_exact.exactShifts.findsShifts
  obtain ⟨_, _, moments⟩ := arithmetic_faultless
  have faultless := moments Moment MomentEngine.gregorian finds MomentEngine.spanJanuary
  have months := faultless.addMonths.comes 3145729
  have days := faultless.addDays.comes Int64.minValue
  refine ⟨finds, ?_, ?_⟩
  · convert months
    decide +kernel
  · convert days
    decide +kernel

end DateAdjust
