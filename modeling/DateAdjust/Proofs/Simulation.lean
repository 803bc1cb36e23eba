import DateAdjust.Evaluate

/-! Related states that stay related under every operation of two calendars, with the same errors,
stay related under every spec and every text. -/

namespace DateAdjust

inductive Agree {ε First Second : Type} (Related : First → Second → Prop) :
    Except ε First → Except ε Second → Prop
  | error (error : ε) : Agree Related (.error error) (.error error)
  | ok {first : First} {second : Second} : Related first second →
      Agree Related (.ok first) (.ok second)

namespace Agree

variable {ε First Second : Type} {Related : First → Second → Prop}

theorem bind {NextFirst NextSecond : Type} {NextRelated : NextFirst → NextSecond → Prop}
    {first : Except ε First} {second : Except ε Second}
    {nextFirst : First → Except ε NextFirst} {nextSecond : Second → Except ε NextSecond}
    (agree : Agree Related first second)
    (next : ∀ first second, Related first second →
      Agree NextRelated (nextFirst first) (nextSecond second)) :
    Agree NextRelated (first >>= nextFirst) (second >>= nextSecond) := by
  cases agree with
  | error error => exact .error error
  | ok related => exact next _ _ related

theorem mapError {ε' : Type} {first : Except ε First} {second : Except ε Second}
    (agree : Agree Related first second) (wrap : ε → ε') :
    Agree Related (first.mapError wrap) (second.mapError wrap) := by
  cases agree with
  | error error => exact .error (wrap error)
  | ok related => exact .ok related

theorem foldlM {Item : Type} {nextFirst : First → Item → Except ε First}
    {nextSecond : Second → Item → Except ε Second}
    (next : ∀ first second item, Related first second →
      Agree Related (nextFirst first item) (nextSecond second item))
    (items : List Item) {first : First} {second : Second} (related : Related first second) :
    Agree Related (items.foldlM nextFirst first) (items.foldlM nextSecond second) := by
  induction items generalizing first second with
  | nil => exact .ok related
  | cons item items ih =>
      simp only [List.foldlM_cons]
      exact (next first second item related).bind fun _ _ related => ih related

end Agree

/-- Related states answer alike and stay related, or fail with the same error. -/
structure Calendar.Simulates {First Second : Type} (first : Calendar First)
    (second : Calendar Second) (Related : First → Second → Prop) : Prop where
  maximum : ∀ state other, Related state other →
    ∀ unit, first.maximum state unit = second.maximum other unit
  set : ∀ state other, Related state other →
    ∀ unit value, Agree Related (first.set state unit value) (second.set other unit value)
  addMonths : ∀ state other, Related state other →
    ∀ amount, Agree Related (first.addMonths state amount) (second.addMonths other amount)
  addDays : ∀ state other, Related state other →
    ∀ amount, Agree Related (first.addDays state amount) (second.addDays other amount)
  withTime : ∀ state other, Related state other →
    ∀ time, Related (first.withTime state time) (second.withTime other time)

namespace Calendar.Simulates

variable {First Second : Type} {first : Calendar First} {second : Calendar Second}
  {Related : First → Second → Prop}

theorem applyToken (simulates : first.Simulates second Related) {state : First} {other : Second}
    (related : Related state other) (token : Token) :
    Agree Related (token.apply state) (token.apply other) := by
  simp only [Token.apply]
  cases token.step with
  | zeroTime => exact .ok (simulates.withTime state other related _)
  | shift unit amount =>
      cases unit with
      | month => exact simulates.addMonths state other related amount
      | day => exact simulates.addDays state other related amount
  | setLast unit =>
      simp only [Step.apply, simulates.maximum state other related unit]
      exact simulates.set state other related unit _
  | setTo unit value => exact simulates.set state other related unit value

theorem applySpec (simulates : first.Simulates second Related) {state : First} {other : Second}
    (related : Related state other) (spec : Spec) :
    Agree Related (spec.apply state) (spec.apply other) :=
  Agree.foldlM (fun _ _ token related => simulates.applyToken related token) spec.tokens related

theorem evaluate (simulates : first.Simulates second Related) {state : First} {other : Second}
    (related : Related state other) (text : String) (strictness : Strictness) :
    Agree Related (DateAdjust.evaluate state text strictness)
      (DateAdjust.evaluate other text strictness) := by
  simp only [DateAdjust.evaluate]
  split
  · exact .ok related
  · cases Spec.ofString text strictness with
    | error error => exact .error error
    | ok spec => exact (simulates.applySpec related spec).mapError AdjustError.invalidField

end Calendar.Simulates

end DateAdjust
