import DateAdjust.Calendar
import DateAdjust.Spec

/-! Steps, tokens and specs applied to a date and time, from left to right and up to the first
failure. -/

namespace DateAdjust

variable {State : Type} [Calendar State]

def Step.apply (state : State) : Step → Except FieldError State
  | zeroTime => .ok (Calendar.zeroTime state)
  | shift .month amount => Calendar.addMonths state amount
  | shift .day amount => Calendar.addDays state amount
  | setLast unit => Calendar.set state unit (Calendar.maximum state unit)
  | setTo unit value => Calendar.set state unit value

def Token.apply (state : State) (token : Token) : Except FieldError State :=
  token.step.apply state

def Spec.apply (state : State) (spec : Spec) : Except FieldError State :=
  spec.tokens.foldlM Token.apply state

/-- Reads a spec and applies it. The empty text leaves the origin as it is. -/
def evaluate (origin : State) (text : String) (strictness : Strictness := .lenient) :
    Except AdjustError State :=
  if text.isEmpty then .ok origin
  else do
    let spec ← Spec.ofString text strictness
    (spec.apply origin).mapError .invalidField

end DateAdjust
