/-! Results that are a value or an error, and what a computation with a value went through. -/

namespace DateAdjust.Result

variable {ε α β : Type}

theorem bind_eq_ok_iff {result : Except ε α} {next : α → Except ε β} {value : β} :
    result >>= next = .ok value ↔ ∃ middle, result = .ok middle ∧ next middle = .ok value := by
  constructor
  · intro succeeds
    cases result with
    | error error => cases succeeds
    | ok middle => exact ⟨middle, rfl, succeeds⟩
  · rintro ⟨middle, rfl, succeeds⟩
    exact succeeds

theorem mapError_eq_ok_iff {ε' : Type} {result : Except ε α} {wrap : ε → ε'} {value : α} :
    result.mapError wrap = .ok value ↔ result = .ok value := by
  cases result with
  | error error =>
      constructor
      · intro succeeds
        cases succeeds
      · intro succeeds
        cases succeeds
  | ok middle =>
      constructor
      · intro succeeds
        cases succeeds
        rfl
      · intro succeeds
        cases succeeds
        rfl

theorem mapError_eq_error_iff {ε' : Type} {result : Except ε α} {wrap : ε → ε'} {error : ε'} :
    result.mapError wrap = .error error ↔
      ∃ reason, result = .error reason ∧ error = wrap reason := by
  cases result with
  | error reason =>
      constructor
      · intro fails
        cases fails
        exact ⟨reason, rfl, rfl⟩
      · rintro ⟨_, same, rfl⟩
        cases same
        rfl
  | ok value =>
      constructor
      · intro fails
        cases fails
      · rintro ⟨_, same, _⟩
        cases same

theorem mapError_bind {ε' : Type} (result : Except ε α) (next : α → Except ε β) (wrap : ε → ε') :
    (result >>= next).mapError wrap = result.mapError wrap >>= fun value =>
      (next value).mapError wrap := by
  cases result with
  | error error => rfl
  | ok value => rfl

theorem foldlM_keeps {State Item : Type} {apply : State → Item → Except ε State}
    {Holds : State → Prop}
    (keeps : ∀ state item next, Holds state → apply state item = .ok next → Holds next)
    {items : List Item} {state final : State} (holds : Holds state)
    (succeeds : items.foldlM apply state = .ok final) : Holds final := by
  induction items generalizing state with
  | nil =>
      cases succeeds
      exact holds
  | cons item items ih =>
      rw [List.foldlM_cons] at succeeds
      obtain ⟨next, applied, later⟩ := bind_eq_ok_iff.mp succeeds
      exact ih (keeps state item next holds applied) later

end DateAdjust.Result
