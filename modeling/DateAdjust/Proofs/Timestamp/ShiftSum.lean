import DateAdjust.Proofs.Result
import DateAdjust.Proofs.Timestamp.Operations
import Mathlib.Algebra.BigOperators.Group.List.Basic
import Mathlib.Algebra.Group.Int.Defs

/-! Shifts one after another. Days add up; months add up as far as the day was not cut back in a
month on the way. -/

namespace DateAdjust.Timestamp

variable {timestamp middle final direct : Timestamp} {first second : Int}

section Days

theorem dayNumber_of_addDays (shifted : timestamp.addDays first = .ok middle) :
    middle.date.dayNumber = timestamp.date.dayNumber + first := by
  rw [(addDays_eq_ok_iff.mp shifted).1]
  exact (CivilDate.ofDayNumber_spec _).2

theorem addDays_addDays (shifted : timestamp.addDays first = .ok middle) (second : Int) :
    middle.addDays second = (timestamp.addDays (first + second)).mapError (·.less first) := by
  have number := dayNumber_of_addDays shifted
  have range := ShiftRange.days_after timestamp.date middle.date number
  by_cases allowed : (ShiftRange.days timestamp.date).Allows (first + second)
  · obtain ⟨final, accepted, sameTime, newDate⟩ := timestamp.addDays_of_allows allowed
    rw [accepted]
    refine addDays_eq_ok_iff.mpr ⟨?_, sameTime.trans (addDays_eq_ok_iff.mp shifted).2.symm⟩
    rw [newDate, number, Int.add_assoc]
  · have forbidden : ¬(ShiftRange.days middle.date).Allows second := by
      rwa [range, ShiftRange.after_allows_iff]
    rw [timestamp.addDays_of_not_allows allowed, middle.addDays_of_not_allows forbidden, range,
      ShiftRange.after_rejected]
    rfl

theorem addDays_of_run {later : List Int} (shifted : timestamp.addDays first = .ok middle)
    (run : later.foldlM addDays middle = .ok final) :
    timestamp.addDays (first + later.sum) = .ok final := by
  -- The shift made so far takes in the next one, so it must stay general.
  induction later generalizing first middle with
  | nil =>
      cases run
      rwa [List.sum_nil, Int.add_zero]
  | cons second later ih =>
      obtain ⟨next, stepped, run⟩ := Result.bind_eq_ok_iff.mp run
      rw [addDays_addDays shifted, Result.mapError_eq_ok_iff] at stepped
      rw [List.sum_cons, ← Int.add_assoc]
      exact ih stepped run

theorem addDays_zero (valid : timestamp.Valid) : timestamp.addDays 0 = .ok timestamp := by
  refine addDays_eq_ok_iff.mpr ⟨?_, rfl⟩
  rw [CivilDate.ofDayNumber_add _ valid]
  rfl

theorem addDays_sum_of_run {amounts : List Int} (nonempty : amounts ≠ [])
    (run : amounts.foldlM addDays timestamp = .ok final) :
    timestamp.addDays amounts.sum = .ok final := by
  cases amounts with
  | nil => exact absurd rfl nonempty
  | cons first later =>
      obtain ⟨middle, shifted, run⟩ := Result.bind_eq_ok_iff.mp run
      rw [List.sum_cons]
      exact addDays_of_run shifted run

theorem eq_of_reordered_run {amounts reordered : List Int} {other : Timestamp}
    (perm : amounts.Perm reordered) (run : amounts.foldlM addDays timestamp = .ok final)
    (otherRun : reordered.foldlM addDays timestamp = .ok other) : final = other := by
  by_cases empty : amounts = []
  · subst empty
    obtain rfl := perm.nil_eq
    exact Except.ok.inj (run.symm.trans otherRun)
  · have otherNonempty : reordered ≠ [] := fun otherEmpty => empty (otherEmpty ▸ perm).eq_nil
    have otherDirect := addDays_sum_of_run otherNonempty otherRun
    rw [← perm.sum_eq] at otherDirect
    exact Except.ok.inj ((addDays_sum_of_run empty run).symm.trans otherDirect)

/-- Shifts by days act as their sums do. A run of them starts with one at least, since the first
shift counts a day past the end of its month into the next one. -/
structure DaysAddUp (timestamp : Timestamp) : Prop where
  twice : ∀ first second middle, timestamp.addDays first = .ok middle →
    middle.addDays second = (timestamp.addDays (first + second)).mapError (·.less first)
  run : ∀ (amounts : List Int) final, amounts ≠ [] → amounts.foldlM addDays timestamp = .ok final →
    timestamp.addDays amounts.sum = .ok final
  order : ∀ (amounts reordered : List Int) final other, amounts.Perm reordered →
    amounts.foldlM addDays timestamp = .ok final →
    reordered.foldlM addDays timestamp = .ok other → final = other
  back : timestamp.Valid → ∀ amount next, timestamp.addDays amount = .ok next →
    next.addDays (-amount) = .ok timestamp

/-- Any shifts by days come to the shift by their sum, in whatever order they succeed, and a shift
by an amount is undone by the shift by its opposite. -/
theorem daysAddUp (timestamp : Timestamp) : timestamp.DaysAddUp where
  twice _ second _ shifted := addDays_addDays shifted second
  run _ _ nonempty run := addDays_sum_of_run nonempty run
  order _ _ _ _ perm run otherRun := eq_of_reordered_run perm run otherRun
  back valid amount next shifted := by
    rw [addDays_addDays shifted, Int.add_right_neg, addDays_zero valid]
    rfl

def februaryOver : Timestamp where
  year := ⟨2013, by decide, by decide⟩
  month := Month.february
  day := Day.lastOf 2013 Month.january
  time := TimeOfDay.midnight

theorem daysAddUp_februaryOver :
    ∃ march : Timestamp, march.date = { year := 2013, month := 3, day := 3 } ∧
      [1, -31, 30].foldlM addDays februaryOver = .ok march ∧
      [-31, 30, 1].foldlM addDays februaryOver = .ok march ∧
      februaryOver.addDays [1, -31, 30].sum = .ok march := by
  let march : Timestamp :=
    { februaryOver with month := ⟨3, by decide, by decide⟩, day := ⟨3, by decide, by decide⟩ }
  have run : [1, -31, 30].foldlM addDays februaryOver = .ok march := by decide +kernel
  have reordered : [-31, 30, 1].foldlM addDays februaryOver = .ok march := by decide +kernel
  exact ⟨march, rfl, run, reordered, februaryOver.daysAddUp.run _ march (by decide) run⟩

end Days

section Months

theorem index_of_addMonths (shifted : timestamp.addMonths first = .ok middle) :
    middle.date.civilMonth.index = timestamp.date.civilMonth.index + first := by
  rw [(addMonths_eq_ok_iff.mp shifted).1]
  exact timestamp.date.civilMonth.index_away timestamp.civilMonth_valid first

theorem months_of_addMonths (shifted : timestamp.addMonths first = .ok middle) :
    ShiftRange.months middle.year.val middle.month.val =
      (ShiftRange.months timestamp.year.val timestamp.month.val).after first :=
  ShiftRange.months_after timestamp.date.civilMonth middle.date.civilMonth
    (index_of_addMonths shifted)

theorem addMonths_allows_iff (shifted : timestamp.addMonths first = .ok middle) (second : Int) :
    (ShiftRange.months middle.year.val middle.month.val).Allows second ↔
      (ShiftRange.months timestamp.year.val timestamp.month.val).Allows (first + second) := by
  rw [months_of_addMonths shifted, ShiftRange.after_allows_iff]

theorem refused_of_addMonths {error : FieldError}
    (shifted : timestamp.addMonths first = .ok middle)
    (refused : middle.addMonths second = .error error) :
    ∃ whole, timestamp.addMonths (first + second) = .error whole ∧ error = whole.less first := by
  have forbidden : ¬(ShiftRange.months middle.year.val middle.month.val).Allows second := by
    intro allowed
    obtain ⟨final, accepted, _⟩ := middle.addMonths_of_allows allowed
    rw [refused] at accepted
    cases accepted
  rw [middle.addMonths_of_not_allows forbidden] at refused
  cases refused
  rw [addMonths_allows_iff shifted] at forbidden
  refine ⟨_, timestamp.addMonths_of_not_allows forbidden, ?_⟩
  rw [months_of_addMonths shifted, ShiftRange.after_rejected]

theorem date_of_addMonths_addMonths (shifted : timestamp.addMonths first = .ok middle)
    (shiftedAgain : middle.addMonths second = .ok final) :
    final.date = (timestamp.date.civilMonth.away (first + second)).date
      (min (min timestamp.day.val middle.date.civilMonth.length)
        (timestamp.date.civilMonth.away (first + second)).length) := by
  have middleDate := (addMonths_eq_ok_iff.mp shifted).1
  rw [(addMonths_eq_ok_iff.mp shiftedAgain).1, middleDate,
    timestamp.date.monthsAway_monthsAway timestamp.civilMonth_valid]
  rfl

theorem addMonths_twice (shifted : timestamp.addMonths first = .ok middle)
    (shiftedAgain : middle.addMonths second = .ok final)
    (once : timestamp.addMonths (first + second) = .ok direct) :
    final.date.civilMonth = direct.date.civilMonth ∧ final.time = direct.time ∧
    final.day.val =
      min (min timestamp.day.val middle.date.civilMonth.length) final.date.civilMonth.length ∧
    direct.day.val = min timestamp.day.val final.date.civilMonth.length := by
  have finalDate := date_of_addMonths_addMonths shifted shiftedAgain
  obtain ⟨directDate, directTime⟩ := addMonths_eq_ok_iff.mp once
  have length : final.date.civilMonth.length =
      (timestamp.date.civilMonth.away (first + second)).length := by
    rw [finalDate]
    rfl
  refine ⟨?_, ?_, ?_, ?_⟩
  · rw [finalDate, directDate]
    rfl
  · rw [directTime, (addMonths_eq_ok_iff.mp shiftedAgain).2, (addMonths_eq_ok_iff.mp shifted).2]
  · rw [length]
    exact congrArg CivilDate.day finalDate
  · rw [length]
    exact congrArg CivilDate.day directDate

theorem eq_of_parts_eq (sameMonth : final.date.civilMonth = direct.date.civilMonth)
    (sameDay : final.day.val = direct.day.val) (sameTime : final.time = direct.time) :
    final = direct :=
  eq_of_date_eq (congrArg₂ CivilMonth.date sameMonth sameDay) sameTime

theorem allows_zero_months (timestamp : Timestamp) :
    (ShiftRange.months timestamp.year.val timestamp.month.val).Allows 0 :=
  (ShiftRange.months_allows_iff timestamp.date.civilMonth timestamp.civilMonth_valid 0).mpr
    ⟨Int.ofNat_le.mpr timestamp.year.least_le, Int.ofNat_le.mpr timestamp.year.le_greatest⟩

theorem addMonths_back (shifted : timestamp.addMonths first = .ok middle) :
    ∃ back, middle.addMonths (-first) = .ok back ∧
      back.date = timestamp.date.civilMonth.date
        (min (min timestamp.day.val middle.date.civilMonth.length)
          timestamp.date.civilMonth.length) ∧
      back.time = timestamp.time := by
  have allowed : (ShiftRange.months middle.year.val middle.month.val).Allows (-first) := by
    rw [addMonths_allows_iff shifted, Int.add_right_neg]
    exact timestamp.allows_zero_months
  obtain ⟨back, accepted, sameTime, _⟩ := middle.addMonths_of_allows allowed
  have backDate := date_of_addMonths_addMonths shifted accepted
  rw [Int.add_right_neg] at backDate
  exact ⟨back, accepted, backDate, sameTime.trans (addMonths_eq_ok_iff.mp shifted).2⟩

/-- What shifts by months come to after a first one, beside the shift by the sum. The day is cut
back to the length of every month that is reached, so they differ if only the first month is too
short for it. -/
structure MonthsAddUp (timestamp middle : Timestamp) (first : Int) : Prop where
  succeeds_iff : ∀ second, (∃ final, middle.addMonths second = .ok final) ↔
    ∃ direct, timestamp.addMonths (first + second) = .ok direct
  refused : ∀ second error, middle.addMonths second = .error error →
    ∃ whole, timestamp.addMonths (first + second) = .error whole ∧ error = whole.less first
  lands : ∀ second final direct, middle.addMonths second = .ok final →
    timestamp.addMonths (first + second) = .ok direct →
    final.year = direct.year ∧ final.month = direct.month ∧ final.time = direct.time ∧
    final.day.val =
      min (min timestamp.day.val middle.date.civilMonth.length) final.date.civilMonth.length ∧
    direct.day.val = min timestamp.day.val final.date.civilMonth.length ∧
    (final = direct ↔
      min timestamp.day.val final.date.civilMonth.length ≤ middle.date.civilMonth.length)
  back : ∃ back, middle.addMonths (-first) = .ok back ∧
    back.year = timestamp.year ∧ back.month = timestamp.month ∧
    (timestamp.Valid → timestamp.day.val ≤ middle.date.civilMonth.length → back = timestamp)

/-- Shifts by months act as their sums do up to the cutting back of the day, and always on the
month, the year and the time. -/
theorem monthsAddUp (shifted : timestamp.addMonths first = .ok middle) :
    timestamp.MonthsAddUp middle first where
  succeeds_iff second :=
    (middle.addMonths_shiftsInto.succeeds_iff second).trans
      ((addMonths_allows_iff shifted second).trans
        (timestamp.addMonths_shiftsInto.succeeds_iff (first + second)).symm)
  refused _ _ refused := refused_of_addMonths shifted refused
  lands second final direct shiftedAgain once := by
    obtain ⟨sameMonth, sameTime, finalDay, directDay⟩ := addMonths_twice shifted shiftedAgain once
    refine ⟨Bounded.ext (Int.ofNat.inj (congrArg CivilMonth.year sameMonth)),
      Bounded.ext (congrArg CivilMonth.month sameMonth), sameTime, finalDay, directDay, ?_⟩
    constructor
    · rintro rfl
      omega
    · intro fits
      exact eq_of_parts_eq sameMonth (by omega) sameTime
  back := by
    obtain ⟨back, accepted, backDate, sameTime⟩ := addMonths_back shifted
    refine ⟨back, accepted, Bounded.ext (Int.ofNat.inj (congrArg CivilDate.year backDate)),
      Bounded.ext (congrArg CivilDate.month backDate), ?_⟩
    intro valid fits
    have upper : timestamp.day.val ≤ timestamp.date.civilMonth.length :=
      (timestamp.date.day_bounds valid).2
    rw [Nat.min_eq_left fits, Nat.min_eq_left upper] at backDate
    exact eq_of_date_eq backDate sameTime

def januaryEnd : Timestamp where
  year := ⟨2013, by decide, by decide⟩
  month := Month.january
  day := Day.lastOf 2013 Month.january
  time := TimeOfDay.endOfDay

theorem monthsAddUp_januaryEnd :
    ∃ february march : Timestamp, januaryEnd.addMonths 1 = .ok february ∧
      januaryEnd.MonthsAddUp february 1 ∧ february.addMonths 1 = .ok march ∧
      march.day.val = 28 ∧ januaryEnd.addMonths 2 ≠ .ok march := by
  let february : Timestamp :=
    { januaryEnd with month := Month.february, day := ⟨28, by decide, by decide⟩ }
  let march : Timestamp := { february with month := ⟨3, by decide, by decide⟩ }
  have shifted : januaryEnd.addMonths 1 = .ok february := by decide +kernel
  have shiftedAgain : february.addMonths 1 = .ok march := by decide +kernel
  exact ⟨february, march, shifted, monthsAddUp shifted, shiftedAgain, rfl, by decide +kernel⟩

end Months

end DateAdjust.Timestamp
