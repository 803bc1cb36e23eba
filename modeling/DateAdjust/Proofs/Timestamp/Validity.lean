import DateAdjust.Proofs.Invariant
import DateAdjust.Proofs.Timestamp.Operations
import DateAdjust.Timestamp.Reader

/-! Timestamps of dates that exist. They stay so under every operation, and a day past the end of
its month lasts no longer than to the first step of the date. -/

namespace DateAdjust.Timestamp

theorem valid_of_ofDate {year month day : Int} {timestamp : Timestamp}
    (built : ofDate year month day = .ok timestamp) : timestamp.Valid := by
  simp only [ofDate] at built
  obtain ⟨checkedYear, _, built⟩ := Result.bind_eq_ok_iff.mp built
  obtain ⟨checkedMonth, _, built⟩ := Result.bind_eq_ok_iff.mp built
  obtain ⟨checkedDay, dayChecked, built⟩ := Result.bind_eq_ok_iff.mp built
  cases built
  exact ⟨checkedMonth.least_le, checkedMonth.le_greatest, checkedDay.least_le,
    (Day.checkIn_eq_ok_iff.mp dayChecked).2⟩

theorem valid_of_check {year month day hour minute second millisecond : Int}
    {timestamp : Timestamp}
    (built : check year month day hour minute second millisecond = .ok timestamp) :
    timestamp.Valid := by
  simp only [check] at built
  obtain ⟨time, _, built⟩ := Result.bind_eq_ok_iff.mp built
  obtain ⟨midnight, dated, built⟩ := Result.bind_eq_ok_iff.mp built
  have valid := valid_of_ofDate dated
  cases built
  exact valid

theorem valid_of_ofString {text : String} {timestamp : Timestamp}
    (built : ofString text = .ok timestamp) : timestamp.Valid := by
  obtain ⟨numbers, _, checked⟩ := Result.bind_eq_ok_iff.mp built
  rw [Result.mapError_eq_ok_iff, ofNumbers_eq_check] at checked
  exact valid_of_check checked

section Operations

variable {timestamp next : Timestamp}

theorem valid_of_set {unit : TimeUnit} {value : Nat}
    (accepted : timestamp.set unit value = .ok next) : next.Valid := by
  have dayPos := timestamp.day.least_le
  cases unit with
  | month =>
      by_cases inside : 1 ≤ value ∧ value ≤ 12
      · obtain ⟨found, foundOk, _, foundDate⟩ := timestamp.set_month_of_mem inside.1 inside.2
        rw [accepted] at foundOk
        cases foundOk
        have monthValid : CivilMonth.Valid { year := timestamp.year.val, month := value } := inside
        rw [Valid, foundDate]
        exact CivilMonth.date_valid _ monthValid
          (Nat.le_min.mpr ⟨dayPos, CivilMonth.length_pos _ monthValid⟩) (Nat.min_le_right _ _)
      · rw [timestamp.set_month_of_not_mem inside] at accepted
        cases accepted
  | day =>
      by_cases inside : 1 ≤ value ∧ value ≤ timestamp.date.civilMonth.length
      · obtain ⟨found, foundOk, _, foundDate⟩ := timestamp.set_day_of_mem inside.1 inside.2
        rw [accepted] at foundOk
        cases foundOk
        rw [Valid, foundDate]
        exact CivilMonth.date_valid _ timestamp.civilMonth_valid inside.1 inside.2
      · rw [timestamp.set_day_of_not_mem inside] at accepted
        cases accepted

theorem valid_of_addMonths {amount : Int} (accepted : timestamp.addMonths amount = .ok next) :
    next.Valid := by
  rw [Valid, (addMonths_eq_ok_iff.mp accepted).1]
  exact timestamp.date.monthsAway_valid timestamp.civilMonth_valid timestamp.day.least_le amount

theorem valid_of_addDays {amount : Int} (accepted : timestamp.addDays amount = .ok next) :
    next.Valid := by
  rw [Valid, (addDays_eq_ok_iff.mp accepted).1]
  exact (CivilDate.ofDayNumber_spec _).1

theorem valid_of_applyToken {token : Token} (isDateStep : token ≠ .zeroTime)
    (applied : token.apply timestamp = .ok next) : next.Valid := by
  cases token with
  | zeroTime => exact absurd rfl isDateStep
  | shift unit amount =>
      cases unit with
      | month => exact valid_of_addMonths applied
      | day => exact valid_of_addDays applied
  | set unit value =>
      cases value with
      | last => exact valid_of_set applied
      | cardinal value => exact valid_of_set applied

end Operations

theorem keeps_valid : Calendar.Keeps (inferInstanceAs (Calendar Timestamp)) Valid where
  set _ _ _ _ _ accepted := valid_of_set accepted
  addMonths _ _ _ _ accepted := valid_of_addMonths accepted
  addDays _ _ _ _ accepted := valid_of_addDays accepted
  withTime _ _ valid := valid

theorem valid_of_applySpec {origin final : Timestamp} {spec : Spec}
    (applied : spec.apply origin = .ok final)
    (hasDateStep : ∃ token ∈ spec.tokens, token ≠ .zeroTime) : final.Valid := by
  obtain ⟨token, member, isDateStep⟩ := hasDateStep
  obtain ⟨before, after, split⟩ := List.append_of_mem member
  simp only [Spec.apply, split, List.foldlM_append, List.foldlM_cons] at applied
  obtain ⟨reached, _, applied⟩ := Result.bind_eq_ok_iff.mp applied
  obtain ⟨repaired, stepped, applied⟩ := Result.bind_eq_ok_iff.mp applied
  exact Result.foldlM_keeps keeps_valid.applyToken (valid_of_applyToken isDateStep stepped) applied

/-- Timestamps are of dates that exist when they are built from numbers or text, as long as a
session runs that started from such a date, and, whatever the origin, behind every spec with a
step other than midnight. -/
theorem valid_of_reached :
    (∀ year month day hour minute second millisecond timestamp,
      check year month day hour minute second millisecond = .ok timestamp → timestamp.Valid) ∧
    (∀ year month day timestamp, ofDate year month day = .ok timestamp → timestamp.Valid) ∧
    (∀ text timestamp, ofString text = .ok timestamp → timestamp.Valid) ∧
    (∀ origin : Timestamp, origin.Valid →
      ∀ session : Session, ∀ entry ∈ session.run origin, entry.state.Valid) ∧
    ∀ (origin final : Timestamp) (spec : Spec), spec.apply origin = .ok final →
      (∃ token ∈ spec.tokens, token ≠ .zeroTime) → final.Valid := by
  refine ⟨?_, ?_, ?_, ?_, ?_⟩
  · intro year month day hour minute second millisecond timestamp built
    exact valid_of_check built
  · intro year month day timestamp built
    exact valid_of_ofDate built
  · intro text timestamp built
    exact valid_of_ofString built
  · intro origin valid session
    exact keeps_valid.run session valid
  · intro origin final spec applied hasDateStep
    exact valid_of_applySpec applied hasDateStep

def february31 : Timestamp where
  year := ⟨2011, by decide, by decide⟩
  month := Month.february
  day := Day.lastOf 2011 Month.january
  time := TimeOfDay.endOfDay

def march31 : Timestamp where
  year := ⟨2011, by decide, by decide⟩
  month := ⟨3, by decide, by decide⟩
  day := Day.lastOf 2011 Month.january
  time := TimeOfDay.endOfDay

theorem valid_of_reached_february31 :
    (check 2011 3 31 23 59 59 999 = .ok march31 ∧ march31.Valid) ∧
    (ofDate 2011 3 31 = .ok (march31.withTime .midnight) ∧ (march31.withTime .midnight).Valid) ∧
    (ofString "2011-03-31 23:59:59.999" = .ok march31 ∧ march31.Valid) ∧
    (Action.attempt march31 (.token (.shift .month (-1))) ∈
        Session.run march31 [.token (.shift .month (-1)), .evaluate "=LD+1D" .strict] ∧
      (Action.attempt march31 (.token (.shift .month (-1)))).state.Valid) ∧
    ¬february31.Valid ∧
    Spec.apply february31 { tokens := [.zeroTime, .shift .month 1] } =
      .ok (march31.withTime .midnight) ∧
    (march31.withTime .midnight).Valid := by
  have built : check 2011 3 31 23 59 59 999 = .ok march31 := rfl
  have dated : ofDate 2011 3 31 = .ok (march31.withTime .midnight) := rfl
  have read : ofString "2011-03-31 23:59:59.999" = .ok march31 := by decide +kernel
  have member : Action.attempt march31 (.token (.shift .month (-1))) ∈
      Session.run march31 [.token (.shift .month (-1)), .evaluate "=LD+1D" .strict] :=
    List.mem_cons_self
  have applied : Spec.apply february31 { tokens := [.zeroTime, .shift .month 1] } =
      .ok (march31.withTime .midnight) := rfl
  exact ⟨⟨built, valid_of_reached.1 _ _ _ _ _ _ _ _ built⟩,
    ⟨dated, valid_of_reached.2.1 _ _ _ _ dated⟩,
    ⟨read, valid_of_reached.2.2.1 _ _ read⟩,
    ⟨member, valid_of_reached.2.2.2.1 march31 (by decide) _ _ member⟩,
    by decide, applied,
    valid_of_reached.2.2.2.2 _ _ _ applied ⟨.shift .month 1, by simp, by decide⟩⟩

end DateAdjust.Timestamp
