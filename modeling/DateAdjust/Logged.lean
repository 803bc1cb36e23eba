import DateAdjust.InPlace
import DateAdjust.Trace

/-! Evaluation that writes its log as it goes. A later failure does not take an event back. -/

namespace DateAdjust

abbrev Logged (ε : Type) := InPlace (List Event) ε

def Logged.emit {ε : Type} (event : Event) : Logged ε Unit :=
  modify fun log => log ++ [event]

variable {State : Type} [Calendar State] [ToString State]

def Token.applyLogged (state : State) (token : Token) : Logged FieldError State := do
  let next ← token.apply state
  Logged.emit (.stepApplied (toString token) (toString next))
  return next

def Spec.applyLogged (origin : State) (spec : Spec) : Logged FieldError State := do
  Logged.emit (.adjusting (toString origin) (toString spec))
  spec.tokens.foldlM Token.applyLogged origin

/-- As `evaluate`, with its log. Nothing is written before the whole text has been read. -/
def evaluateLogged (origin : State) (text : String) (strictness : Strictness := .lenient) :
    Logged AdjustError State :=
  if text.isEmpty then return origin
  else do
    let spec ← Spec.ofString text strictness
    (spec.applyLogged origin).adapt .invalidField

end DateAdjust
