import DateAdjust.Proofs.Spec.RoundTrip
import DateAdjust.Proofs.Timestamp.Operations
import DateAdjust.Proofs.Token.Occurrence

/-! Steps with exact numbers of any size, taken in the calendar. The ranges of all steps lie well
inside of what a token can hold, so tokens lead to the same outcome. -/

namespace DateAdjust

namespace CivilDate

def shifted (date : CivilDate) (amount : Int) : TimeUnit → CivilDate
  | .month => date.monthsAway amount
  | .day => date.daysFrom amount

def largest (date : CivilDate) : TimeUnit → Nat
  | .month => 12
  | .day => date.civilMonth.length

def withUnit (date : CivilDate) (value : Nat) : TimeUnit → CivilDate
  | .month => { date with month := value, day := min date.day (monthLength date.year value) }
  | .day => { date with day := value }

end CivilDate

/-- A date and a time of day. The date need not exist, and its year can be any. -/
structure CivilTime where
  date : CivilDate
  time : TimeOfDay
  deriving DecidableEq, Repr

namespace CivilTime

def after (state : CivilTime) : Step → CivilTime
  | .zeroTime => { state with time := TimeOfDay.midnight }
  | .shift unit amount => { state with date := state.date.shifted amount unit }
  | .setLast unit => { state with date := state.date.withUnit (state.date.largest unit) unit }
  | .setTo unit value => { state with date := state.date.withUnit value unit }

def Allows (state : CivilTime) : Step → Prop
  | .zeroTime => True
  | .shift unit amount =>
    1 ≤ (state.date.shifted amount unit).year ∧ (state.date.shifted amount unit).year ≤ 9999
  | .setLast _ => True
  | .setTo unit value => 1 ≤ value ∧ value ≤ state.date.largest unit

instance (state : CivilTime) : (step : Step) → Decidable (state.Allows step)
  | .zeroTime => inferInstanceAs (Decidable True)
  | .shift _ _ => inferInstanceAs (Decidable (_ ∧ _))
  | .setLast _ => inferInstanceAs (Decidable True)
  | .setTo _ _ => inferInstanceAs (Decidable (_ ∧ _))

structure Refusal where
  state : CivilTime
  step : Step
  later : List Step

def run (state : CivilTime) : List Step → Except Refusal CivilTime
  | [] => .ok state
  | step :: later =>
    if state.Allows step then (state.after step).run later else .error { state, step, later }

/-- The report of a step that is not allowed: its unit, its number, and the range of the numbers
that are allowed there. -/
inductive Reports (state : CivilTime) : Step → FieldError → Prop
  | shift {unit : TimeUnit} {amount least greatest : Int} :
      (∀ number, least ≤ number ∧ number ≤ greatest ↔ state.Allows (.shift unit number)) →
      Reports state (.shift unit amount)
        { field := unit.field, value := amount, min := least, max := greatest }
  | setTo {unit : TimeUnit} {value : Nat} :
      Reports state (.setTo unit value)
        { field := unit.field, value, min := 1, max := state.date.largest unit }

end CivilTime

/-- The step with the number nearest to its own among those of 64 bits with a sign, for a shift,
and of 32 bits without, for a set value. -/
def Step.nearest : Step → Step
  | zeroTime => .zeroTime
  | shift unit amount => .shift unit (max (-2 ^ 63) (min amount (2 ^ 63 - 1)))
  | setLast unit => .setLast unit
  | setTo unit value => .setTo unit (min value (2 ^ 32 - 1))

theorem Step.step_token (step : Step) : step.token.step = step.nearest := by
  have held := step.token_holds
  cases step with
  | zeroTime => rfl
  | setLast unit => rfl
  | setTo unit value =>
      cases held with
      | setTo _ nearest => exact congrArg (Step.setTo unit) nearest
  | shift unit amount =>
      cases held with
      | shift _ nearest =>
          rw [Int64.toInt_minValue, Int64.toInt_maxValue] at nearest
          exact congrArg (Step.shift unit) nearest

namespace Timestamp

def civilTime (timestamp : Timestamp) : CivilTime where
  date := timestamp.date
  time := timestamp.time

variable (timestamp : Timestamp)

theorem set_of_allows {unit : TimeUnit} {value : Nat}
    (allowed : timestamp.civilTime.Allows (.setTo unit value)) :
    ∃ next, timestamp.set unit value = .ok next ∧
      next.civilTime = timestamp.civilTime.after (.setTo unit value) := by
  cases unit with
  | month =>
      obtain ⟨next, accepted, sameTime, newDate⟩ := timestamp.set_month_of_mem allowed.1 allowed.2
      exact ⟨next, accepted, congrArg₂ CivilTime.mk newDate sameTime⟩
  | day =>
      obtain ⟨next, accepted, sameTime, newDate⟩ := timestamp.set_day_of_mem allowed.1 allowed.2
      exact ⟨next, accepted, congrArg₂ CivilTime.mk newDate sameTime⟩

theorem set_of_not_allows {unit : TimeUnit} {value : Nat}
    (forbidden : ¬timestamp.civilTime.Allows (.setTo unit value)) :
    timestamp.set unit value = .error
      { field := unit.field, value, min := 1, max := timestamp.date.largest unit } := by
  cases unit with
  | month => exact timestamp.set_month_of_not_mem forbidden
  | day => exact timestamp.set_day_of_not_mem forbidden

theorem maximum_eq_largest (unit : TimeUnit) :
    timestamp.maximum unit = timestamp.date.largest unit := by
  cases unit <;> rfl

theorem allows_largest (unit : TimeUnit) :
    timestamp.civilTime.Allows (.setTo unit (timestamp.date.largest unit)) := by
  cases unit with
  | month => exact ⟨Nat.succ_pos 11, Nat.le_refl 12⟩
  | day => exact ⟨CivilMonth.length_pos _ timestamp.civilMonth_valid, Nat.le_refl _⟩

def shiftRange : TimeUnit → ShiftRange
  | .month => .months timestamp.year.val timestamp.month.val
  | .day => .days timestamp.date

theorem allows_shift_iff (unit : TimeUnit) (amount : Int) :
    timestamp.civilTime.Allows (.shift unit amount) ↔
      (timestamp.shiftRange unit).Allows amount := by
  cases unit with
  | month => exact (ShiftRange.months_allows_iff _ timestamp.civilMonth_valid amount).symm
  | day =>
      have target := timestamp.date.daysFrom_eq timestamp.civilMonth_valid amount
      simp only [CivilTime.Allows, CivilDate.shifted, civilTime, target]
      exact (ShiftRange.days_allows_iff timestamp.date amount).symm

theorem shift_of_allows {unit : TimeUnit} {amount : Int}
    (allowed : timestamp.civilTime.Allows (.shift unit amount)) :
    ∃ next, (Step.shift unit amount).apply timestamp = .ok next ∧
      next.civilTime = timestamp.civilTime.after (.shift unit amount) := by
  have inside := (timestamp.allows_shift_iff unit amount).mp allowed
  cases unit with
  | month =>
      obtain ⟨next, accepted, sameTime, newDate⟩ := timestamp.addMonths_of_allows inside
      exact ⟨next, accepted, congrArg₂ CivilTime.mk newDate sameTime⟩
  | day =>
      obtain ⟨next, accepted, sameTime, newDate⟩ := timestamp.addDays_of_allows inside
      rw [← timestamp.date.daysFrom_eq timestamp.civilMonth_valid] at newDate
      exact ⟨next, accepted, congrArg₂ CivilTime.mk newDate sameTime⟩

theorem shift_of_not_allows {unit : TimeUnit} {amount : Int}
    (forbidden : ¬timestamp.civilTime.Allows (.shift unit amount)) :
    (Step.shift unit amount).apply timestamp =
      .error ((timestamp.shiftRange unit).rejected amount) := by
  rw [allows_shift_iff] at forbidden
  cases unit with
  | month => exact timestamp.addMonths_of_not_allows forbidden
  | day => exact timestamp.addDays_of_not_allows forbidden

theorem apply_of_allows {step : Step} (allowed : timestamp.civilTime.Allows step) :
    ∃ next, step.apply timestamp = .ok next ∧
      next.civilTime = timestamp.civilTime.after step := by
  cases step with
  | zeroTime => exact ⟨_, rfl, rfl⟩
  | shift unit amount => exact timestamp.shift_of_allows allowed
  | setLast unit =>
      have accepted := timestamp.set_of_allows (timestamp.allows_largest unit)
      rw [← maximum_eq_largest] at accepted
      obtain ⟨next, accepted, reached⟩ := accepted
      refine ⟨next, accepted, ?_⟩
      rw [reached, maximum_eq_largest]
      rfl
  | setTo unit value => exact timestamp.set_of_allows allowed

theorem apply_of_not_allows {step : Step} (forbidden : ¬timestamp.civilTime.Allows step) :
    ∃ error, step.apply timestamp = .error error ∧ timestamp.civilTime.Reports step error := by
  cases step with
  | zeroTime => exact absurd trivial forbidden
  | shift unit amount =>
      refine ⟨_, timestamp.shift_of_not_allows forbidden, ?_⟩
      have sameField : (timestamp.shiftRange unit).unit = unit := by cases unit <;> rfl
      rw [ShiftRange.rejected, sameField]
      exact .shift fun number => (timestamp.allows_shift_iff unit number).symm
  | setLast unit => exact absurd trivial forbidden
  | setTo unit value => exact ⟨_, timestamp.set_of_not_allows forbidden, .setTo⟩

theorem dayNumber_bounds :
    -719162 ≤ timestamp.date.dayNumber ∧ timestamp.date.dayNumber ≤ 2932896 := by
  have yearPos : 1 ≤ timestamp.date.year := Int.ofNat_le.mpr timestamp.year.least_le
  have year : timestamp.date.year ≤ 9999 := Int.ofNat_le.mpr timestamp.year.le_greatest
  have month : timestamp.date.month ≤ 12 := timestamp.month.le_greatest
  have monthPos : 1 ≤ timestamp.date.month := timestamp.month.least_le
  have dayPos : 1 ≤ timestamp.date.day := timestamp.day.least_le
  have day : timestamp.date.day ≤ 31 := timestamp.day.le_greatest
  rw [dayNumber_eq]
  simp only [marchStart, daysBeforeMonth]
  split <;> omega

theorem shift_bounds {unit : TimeUnit} {amount : Int}
    (allowed : timestamp.civilTime.Allows (.shift unit amount)) :
    -4000000 ≤ amount ∧ amount ≤ 4000000 := by
  have inside := (timestamp.allows_shift_iff unit amount).mp allowed
  cases unit with
  | month =>
      have yearPos := timestamp.year.least_le
      have year := timestamp.year.le_greatest
      have month := timestamp.month.le_greatest
      simp only [shiftRange, ShiftRange.Allows, ShiftRange.months, monthIndex, Year.first,
        Year.last, Month.january, Month.december] at inside
      omega
  | day =>
      have number := timestamp.dayNumber_bounds
      change -719162 - timestamp.date.dayNumber ≤ amount ∧
        amount ≤ 2932896 - timestamp.date.dayNumber at inside
      omega

theorem set_bound {unit : TimeUnit} {value : Nat}
    (allowed : timestamp.civilTime.Allows (.setTo unit value)) : value ≤ 31 := by
  refine Nat.le_trans allowed.2 ?_
  cases unit with
  | month => exact (by decide : 12 ≤ 31)
  | day => exact monthLength_le _ _

theorem nearest_eq_of_allows {step : Step}
    (allowed : timestamp.civilTime.Allows step ∨ timestamp.civilTime.Allows step.nearest) :
    step.nearest = step := by
  -- The ends of 64 and 32 bits are far out of every range, so an end is never what is allowed.
  cases step with
  | zeroTime => rfl
  | shift unit amount =>
      have bounds := allowed.imp timestamp.shift_bounds timestamp.shift_bounds
      exact congrArg (Step.shift unit) (by omega)
  | setLast unit => rfl
  | setTo unit value =>
      have bound := allowed.imp timestamp.set_bound timestamp.set_bound
      exact congrArg (Step.setTo unit) (by omega)

theorem applyToken_of_allows {step : Step} (allowed : timestamp.civilTime.Allows step) :
    ∃ next, step.token.apply timestamp = .ok next ∧
      next.civilTime = timestamp.civilTime.after step := by
  rw [Token.apply, step.step_token, timestamp.nearest_eq_of_allows (.inl allowed)]
  exact timestamp.apply_of_allows allowed

theorem applyToken_of_not_allows {step : Step} (forbidden : ¬timestamp.civilTime.Allows step) :
    ∃ error, step.token.apply timestamp = .error error ∧
      timestamp.civilTime.Reports step.nearest error := by
  rw [Token.apply, step.step_token]
  refine timestamp.apply_of_not_allows ?_
  intro allowed
  rw [timestamp.nearest_eq_of_allows (.inr allowed)] at allowed
  exact forbidden allowed

/-- The tokens of some steps fail where the exact steps are refused: the tokens in front lead to
the same state, and the refused one reports its own number there. -/
def FailsAt (steps : List Step) (refusal : CivilTime.Refusal) (error : FieldError) : Prop :=
  ∃ before reached,
    steps = before ++ refusal.step :: refusal.later ∧
    Spec.apply timestamp { tokens := before.map Step.token } = .ok reached ∧
    reached.civilTime = refusal.state ∧
    refusal.step.token.apply reached = .error error ∧
    refusal.state.Reports refusal.step.nearest error

theorem applySpec_cons (step : Step) (later : List Step) :
    Spec.apply timestamp { tokens := (step :: later).map Step.token } =
      step.token.apply timestamp >>= fun next =>
        Spec.apply next { tokens := later.map Step.token } :=
  List.foldlM_cons

variable {timestamp}

theorem FailsAt.cons {next : Timestamp} {step : Step} {later : List Step}
    {refusal : CivilTime.Refusal} {error : FieldError}
    (applied : step.token.apply timestamp = .ok next) (fails : next.FailsAt later refusal error) :
    timestamp.FailsAt (step :: later) refusal error := by
  obtain ⟨before, reached, rfl, led, rest⟩ := fails
  refine ⟨step :: before, reached, rfl, ?_, rest⟩
  rw [applySpec_cons, applied]
  exact led

theorem applySpec_exact (timestamp : Timestamp) (steps : List Step) :
    match timestamp.civilTime.run steps with
    | .ok final => ∃ result,
        Spec.apply timestamp { tokens := steps.map Step.token } = .ok result ∧
        result.civilTime = final
    | .error refusal => ∃ error,
        Spec.apply timestamp { tokens := steps.map Step.token } = .error error ∧
        timestamp.FailsAt steps refusal error := by
  induction steps generalizing timestamp with
  | nil => exact ⟨timestamp, rfl, rfl⟩
  | cons step later ih =>
      rw [CivilTime.run, applySpec_cons]
      by_cases allowed : timestamp.civilTime.Allows step
      · obtain ⟨next, applied, reached⟩ := timestamp.applyToken_of_allows allowed
        have outcome := ih next
        rw [if_pos allowed, applied, ← reached]
        split at outcome
        next => exact outcome
        next =>
          obtain ⟨error, failed, fails⟩ := outcome
          exact ⟨error, failed, fails.cons applied⟩
      · obtain ⟨error, failed, reports⟩ := timestamp.applyToken_of_not_allows allowed
        rw [if_neg allowed, failed]
        exact ⟨error, rfl, [], timestamp, rfl, rfl, rfl, failed, reports⟩

end Timestamp

/-- A lenient evaluation comes to what the exact steps of its text come to. It ends in the same
state, or fails at the same step, where the number is reported that the token held for the exact
one, with the range of the exact numbers. -/
theorem evaluate_exact (origin : Timestamp) (text : String) :
    ∃ found : List Occurrence,
      (∀ others, LeftmostMatches 0 text.toList others ↔ others = found) ∧
      match origin.civilTime.run (found.map Occurrence.step) with
      | .ok final => ∃ result, evaluate origin text = .ok result ∧ result.civilTime = final
      | .error refusal => ∃ error, evaluate origin text = .error (.invalidField error) ∧
          origin.FailsAt (found.map Occurrence.step) refusal error := by
  obtain ⟨found, leftmost, sameSteps⟩ := exists_leftmostMatches 0 text.toList
  refine ⟨found, fun others => ⟨leftmost.unique, fun same => same ▸ leftmost⟩, ?_⟩
  have outcome := origin.applySpec_exact (Spec.steps text.toList)
  rw [sameSteps, evaluate_of_accepted origin (Spec.read_lenient text.toList)]
  split at outcome
  next =>
    obtain ⟨result, applied, reached⟩ := outcome
    rw [applied]
    exact ⟨result, rfl, reached⟩
  next =>
    obtain ⟨error, failed, fails⟩ := outcome
    rw [failed]
    exact ⟨error, rfl, fails⟩

end DateAdjust
