import DateAdjust.Evaluate

/-! Sessions: actions on one date and time, one after another. An action that fails leaves the state
as it was, and the session goes on. -/

namespace DateAdjust

inductive Action where
  | get (unit : TimeUnit)
  | maximum (unit : TimeUnit)
  | set (unit : TimeUnit) (value : Nat)
  | addMonths (amount : Int)
  | addDays (amount : Int)
  | zeroTime
  | withTime (hour minute second millisecond : Int)
  | token (token : Token)
  | evaluate (text : String) (strictness : Strictness)
  deriving DecidableEq, Repr

inductive ActionError where
  | adjust (error : AdjustError)
  | time (error : FieldError)
  deriving DecidableEq, Repr

abbrev Session := List Action

structure Entry (State : Type) where
  answer : Except ActionError (Option Nat)
  state : State

variable {State : Type} [Calendar State]

def Action.perform (state : State) : Action → Except ActionError (Option Nat × State)
  | get unit => .ok (some (Calendar.get state unit), state)
  | maximum unit => .ok (some (Calendar.maximum state unit), state)
  | set unit value => changed (Calendar.set state unit value)
  | addMonths amount => changed (Calendar.addMonths state amount)
  | addDays amount => changed (Calendar.addDays state amount)
  | zeroTime => .ok (none, Calendar.zeroTime state)
  | withTime hour minute second millisecond =>
    match TimeOfDay.check hour minute second millisecond with
    | .ok time => .ok (none, Calendar.withTime state time)
    | .error error => .error (.time error)
  | token step => changed (step.apply state)
  | evaluate text strictness =>
    match DateAdjust.evaluate state text strictness with
    | .ok state => .ok (none, state)
    | .error error => .error (.adjust error)
where
  changed : Except FieldError State → Except ActionError (Option Nat × State)
    | .ok state => .ok (none, state)
    | .error error => .error (.adjust (.invalidField error))

def Action.attempt (state : State) (action : Action) : Entry State :=
  match action.perform state with
  | .ok (value, state) => { answer := .ok value, state }
  | .error error => { answer := .error error, state }

def Session.run (state : State) : Session → List (Entry State)
  | [] => []
  | action :: later =>
    let entry := action.attempt state
    entry :: run entry.state later

end DateAdjust
