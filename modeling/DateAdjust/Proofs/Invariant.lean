import DateAdjust.Proofs.Result
import DateAdjust.Session

/-! Invariants of a calendar. What every operation keeps holds of all states of a session. -/

namespace DateAdjust

structure Calendar.Keeps {State : Type} (calendar : Calendar State) (Holds : State → Prop) :
    Prop where
  set : ∀ state unit value next, Holds state →
    calendar.set state unit value = .ok next → Holds next
  addMonths : ∀ state amount next, Holds state →
    calendar.addMonths state amount = .ok next → Holds next
  addDays : ∀ state amount next, Holds state →
    calendar.addDays state amount = .ok next → Holds next
  withTime : ∀ state time, Holds state → Holds (calendar.withTime state time)

namespace Calendar.Keeps

variable {State : Type} {calendar : Calendar State} {Holds : State → Prop}

theorem applyToken (keeps : calendar.Keeps Holds) (state : State) (token : Token) (next : State)
    (holds : Holds state) (applied : token.apply state = .ok next) : Holds next := by
  simp only [Token.apply] at applied
  cases step : token.step with
  | zeroTime =>
      rw [step] at applied
      cases applied
      exact keeps.withTime state _ holds
  | shift unit amount =>
      rw [step] at applied
      cases unit with
      | month => exact keeps.addMonths state amount next holds applied
      | day => exact keeps.addDays state amount next holds applied
  | setLast unit =>
      rw [step] at applied
      exact keeps.set state unit _ next holds applied
  | setTo unit value =>
      rw [step] at applied
      exact keeps.set state unit value next holds applied

theorem applySpec (keeps : calendar.Keeps Holds) {state final : State} (spec : Spec)
    (holds : Holds state) (applied : spec.apply state = .ok final) : Holds final :=
  Result.foldlM_keeps keeps.applyToken holds applied

theorem evaluate (keeps : calendar.Keeps Holds) {state final : State} {text : String}
    {strictness : Strictness} (holds : Holds state)
    (evaluated : DateAdjust.evaluate state text strictness = .ok final) : Holds final := by
  simp only [DateAdjust.evaluate] at evaluated
  split at evaluated
  · cases evaluated
    exact holds
  · obtain ⟨spec, _, applied⟩ := Result.bind_eq_ok_iff.mp evaluated
    exact keeps.applySpec spec holds (Result.mapError_eq_ok_iff.mp applied)

theorem attempt (keeps : calendar.Keeps Holds) {state : State} (holds : Holds state)
    (action : Action) : Holds (action.attempt state).state := by
  have changed : ∀ result : Except FieldError State,
      (∀ next, result = .ok next → Holds next) →
      ∀ answer next, Action.perform.changed result = .ok (answer, next) → Holds next := by
    intro result kept answer next succeeds
    cases result with
    | error error => cases succeeds
    | ok state =>
        cases succeeds
        exact kept next rfl
  -- An action that fails leaves the state as it was, so only success is left to look at.
  have performed : ∀ answer next, action.perform state = .ok (answer, next) → Holds next := by
    intro answer next succeeds
    cases action with
    | get unit =>
        cases succeeds
        exact holds
    | maximum unit =>
        cases succeeds
        exact holds
    | set unit value =>
        exact changed _ (fun next => keeps.set state unit value next holds) answer next succeeds
    | addMonths amount =>
        exact changed _ (fun next => keeps.addMonths state amount next holds) answer next succeeds
    | addDays amount =>
        exact changed _ (fun next => keeps.addDays state amount next holds) answer next succeeds
    | zeroTime =>
        cases succeeds
        exact keeps.withTime state _ holds
    | withTime hour minute second millisecond =>
        simp only [Action.perform] at succeeds
        split at succeeds
        · cases succeeds
          exact keeps.withTime state _ holds
        · cases succeeds
    | token token =>
        exact changed _ (fun next => keeps.applyToken state token next holds) answer next succeeds
    | evaluate text strictness =>
        simp only [Action.perform] at succeeds
        split at succeeds
        next evaluated =>
          cases succeeds
          exact keeps.evaluate holds evaluated
        next => cases succeeds
  simp only [Action.attempt]
  split
  next succeeds => exact performed _ _ succeeds
  next => exact holds

theorem run (keeps : calendar.Keeps Holds) (session : Session) {state : State}
    (holds : Holds state) : ∀ entry ∈ session.run state, Holds entry.state := by
  induction session generalizing state with
  | nil =>
      intro entry member
      cases member
  | cons action later ih =>
      have kept := keeps.attempt holds action
      intro entry member
      rcases List.mem_cons.mp member with rfl | behind
      · exact kept
      · exact ih kept entry behind

end Calendar.Keeps

end DateAdjust
