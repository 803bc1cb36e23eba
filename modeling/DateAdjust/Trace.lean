import DateAdjust.Evaluate

/-! The course of a run: what every token led to, and the events that a log of the run shows. -/

namespace DateAdjust

variable {State : Type} [Calendar State]

def traceTokens (state : State) : List Token → List (Token × Except FieldError State)
  | [] => []
  | token :: later =>
    match token.apply state with
    | .ok next => (token, .ok next) :: traceTokens next later
    | .error error => [(token, .error error)]

def Spec.trace (origin : State) (spec : Spec) : List (Token × Except FieldError State) :=
  traceTokens origin spec.tokens

inductive Event where
  | adjusting (origin spec : String)
  | stepApplied (step result : String)
  deriving DecidableEq, Repr

namespace Event

def level (_ : Event) : String := "DEBUG"

def message : Event → String
  | adjusting _ _ => "adjusting"
  | stepApplied _ _ => "step applied"

def fields : Event → List (String × String)
  | adjusting origin spec => [("origin", origin), ("spec", spec)]
  | stepApplied step result => [("step", step), ("result", result)]

end Event

variable [ToString State]

def Spec.events (origin : State) (spec : Spec) : List Event :=
  .adjusting (toString origin) (toString spec) ::
    (spec.trace origin).filterMap fun (token, result) =>
      match result with
      | .ok state => some (.stepApplied (toString token) (toString state))
      | .error _ => none

def evaluateEvents (origin : State) (text : String) (strictness : Strictness := .lenient) :
    List Event :=
  if text.isEmpty then []
  else
    match Spec.ofString text strictness with
    | .ok spec => spec.events origin
    | .error _ => []

end DateAdjust
