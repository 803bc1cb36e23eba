import DateAdjust.Session

/-! Calendars that change a state where it stands. What an operation assigned before a failure stays
assigned: that a failure leaves nothing behind is not built in here. -/

namespace DateAdjust

/-- A program that changes a state in place, up to its first failure. -/
abbrev InPlace (State ε : Type) := ExceptT ε (StateM State)

namespace InPlace

variable {State ε α : Type}

def execute (program : InPlace State ε α) (state : State) : Except ε α × State :=
  program.run.run state

/-- The program works on a copy of the state, which is dropped if the program fails. -/
def onCopy (program : InPlace State ε Unit) (state : State) : Except ε State :=
  match program.execute state with
  | (.ok _, next) => .ok next
  | (.error error, _) => .error error

def assign (operation : State → Except ε (α × State)) : InPlace State ε α := do
  let (value, next) ← operation (← get)
  set next
  return value

end InPlace

class InPlaceCalendar (State : Type) where
  get : State → TimeUnit → Nat
  maximum : State → TimeUnit → Nat
  set : TimeUnit → Nat → InPlace State FieldError Unit
  addMonths : Int → InPlace State FieldError Unit
  addDays : Int → InPlace State FieldError Unit
  setTime : TimeOfDay → StateM State Unit

@[reducible]
def InPlaceCalendar.calendar {State : Type} (inPlace : InPlaceCalendar State) : Calendar State where
  get := inPlace.get
  maximum := inPlace.maximum
  set state unit value := (inPlace.set unit value).onCopy state
  addMonths state amount := (inPlace.addMonths amount).onCopy state
  addDays state amount := (inPlace.addDays amount).onCopy state
  withTime state time := ((inPlace.setTime time).run state).2

variable {State : Type} [inPlace : InPlaceCalendar State]

def Action.performInPlace : Action → InPlace State ActionError (Option Nat)
  | set unit value => changing (inPlace.set unit value)
  | addMonths amount => changing (inPlace.addMonths amount)
  | addDays amount => changing (inPlace.addDays amount)
  | zeroTime => do
    inPlace.setTime TimeOfDay.midnight
    return none
  | action => InPlace.assign fun state => @action.perform State inPlace.calendar state
where
  changing (program : InPlace State FieldError Unit) : InPlace State ActionError (Option Nat) := do
    program.adapt fun error => .adjust (.invalidField error)
    return none

def Action.attemptInPlace (state : State) (action : Action) : Entry State :=
  let (answer, state) := action.performInPlace.execute state
  { answer, state }

def Session.runInPlace (state : State) : Session → List (Entry State)
  | [] => []
  | action :: later =>
    let entry := action.attemptInPlace state
    entry :: runInPlace entry.state later

end DateAdjust
