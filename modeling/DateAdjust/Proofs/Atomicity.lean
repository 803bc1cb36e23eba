import DateAdjust.Moment.Timeline
import DateAdjust.Timestamp.InPlace

/-! Failures leave nothing behind. Every operation in place leads to its result or leaves the state
as it was, so the actions that failed in a session can be left out without a trace. -/

namespace DateAdjust

namespace InPlace

variable {State ε α : Type} {state : State}

/-- The program ends with the result as its state, or fails with the state as it was where there is
no result. -/
def LeadsTo (program : InPlace State ε Unit) (state : State) (result : Except ε State) : Prop :=
  program.execute state =
    match result with
    | .ok next => (.ok (), next)
    | .error error => (.error error, state)

namespace LeadsTo

theorem read {next : State → InPlace State ε Unit} {result : Except ε State}
    (later : LeadsTo (next state) state result) :
    LeadsTo (getThe State >>= next) state result :=
  later

theorem check {checked : Except ε α} {next : α → InPlace State ε Unit}
    {result : α → Except ε State} (later : ∀ value, LeadsTo (next value) state (result value)) :
    LeadsTo (liftM checked >>= next) state (checked >>= result) := by
  cases checked with
  | error error => rfl
  | ok value => exact later value

theorem assigned {program : InPlace State ε Unit} {next : State}
    (assigns : program.execute state = (.ok (), next)) : LeadsTo program state (.ok next) :=
  assigns

variable {program : InPlace State ε Unit} {result : Except ε State}

theorem onCopy_eq (leads : LeadsTo program state result) : program.onCopy state = result := by
  rw [onCopy, leads]
  cases result with
  | error error => rfl
  | ok next => rfl

end LeadsTo

def Atomic (program : InPlace State ε Unit) : Prop :=
  ∀ state, ∃ result, program.LeadsTo state result

theorem Atomic.leadsTo_onCopy {program : InPlace State ε Unit} (atomic : program.Atomic)
    (state : State) : program.LeadsTo state (program.onCopy state) := by
  obtain ⟨result, leads⟩ := atomic state
  rw [leads.onCopy_eq]
  exact leads

end InPlace

/-- Every operation of the calendar either succeeds or leaves the state as it was. Setting the time
cannot fail. -/
structure InPlaceCalendar.Atomic {State : Type} (inPlace : InPlaceCalendar State) : Prop where
  set : ∀ unit value, (inPlace.set unit value).Atomic
  addMonths : ∀ amount, (inPlace.addMonths amount).Atomic
  addDays : ∀ amount, (inPlace.addDays amount).Atomic

attribute [ext] Calendar

namespace Timestamp

theorem setInPlace_leadsTo (timestamp : Timestamp) (unit : TimeUnit) (value : Nat) :
    (setInPlace unit value).LeadsTo timestamp (timestamp.set unit value) := by
  apply InPlace.LeadsTo.read
  cases unit with
  | month => exact .check fun month => .assigned rfl
  | day => exact .check fun day => .assigned rfl

theorem addMonthsInPlace_leadsTo (timestamp : Timestamp) (amount : Int) :
    (addMonthsInPlace amount).LeadsTo timestamp (timestamp.addMonths amount) := by
  apply InPlace.LeadsTo.read
  apply InPlace.LeadsTo.check
  intro allowed
  exact .check fun year => .check fun month => .assigned rfl

theorem addDaysInPlace_leadsTo (timestamp : Timestamp) (amount : Int) :
    (addDaysInPlace amount).LeadsTo timestamp (timestamp.addDays amount) := by
  apply InPlace.LeadsTo.read
  apply InPlace.LeadsTo.check
  intro allowed
  exact .check fun year => .check fun month => .check fun day => .assigned rfl

theorem inPlace_atomic : Timestamp.inPlace.Atomic where
  set unit value timestamp := ⟨_, timestamp.setInPlace_leadsTo unit value⟩
  addMonths amount timestamp := ⟨_, timestamp.addMonthsInPlace_leadsTo amount⟩
  addDays amount timestamp := ⟨_, timestamp.addDaysInPlace_leadsTo amount⟩

theorem inPlace_calendar : Timestamp.inPlace.calendar = (inferInstance : Calendar Timestamp) := by
  apply Calendar.ext
  case get => rfl
  case maximum => rfl
  case set =>
    funext timestamp unit value
    exact (timestamp.setInPlace_leadsTo unit value).onCopy_eq
  case addMonths =>
    funext timestamp amount
    exact (timestamp.addMonthsInPlace_leadsTo amount).onCopy_eq
  case addDays =>
    funext timestamp amount
    exact (timestamp.addDaysInPlace_leadsTo amount).onCopy_eq
  case withTime => rfl

end Timestamp

namespace MomentEngine

variable {Value : Type} (engine : MomentEngine Value)

theorem replace_leadsTo (moment : Value) (found : Option Value) (report : FieldError) :
    (replace found report).LeadsTo moment
      (match found with
      | some next => .ok next
      | none => .error report) := by
  cases found with
  | some next => rfl
  | none => rfl

theorem inPlace_atomic : engine.inPlace.Atomic where
  set _ _ moment := ⟨_, .read (replace_leadsTo moment _ _)⟩
  addMonths _ moment := ⟨_, .read (.check fun _ => replace_leadsTo moment _ _)⟩
  addDays _ moment := ⟨_, .read (.check fun _ => replace_leadsTo moment _ _)⟩

end MomentEngine

namespace InPlace

variable {State ε α : Type}

def settled (state : State) : Except ε (α × State) → Except ε α × State
  | .ok (value, next) => (.ok value, next)
  | .error error => (.error error, state)

theorem execute_adapt {ε' : Type} (program : InPlace State ε α) (wrap : ε → ε') (state : State) :
    InPlace.execute (program.adapt wrap) state =
      ((program.execute state).1.mapError wrap, (program.execute state).2) :=
  rfl

theorem execute_bind {β : Type} (program : InPlace State ε α) (next : α → InPlace State ε β)
    (state : State) :
    InPlace.execute (program >>= next) state =
      match program.execute state with
      | (.ok value, middle) => (next value).execute middle
      | (.error error, middle) => (.error error, middle) := by
  simp only [execute, ExceptT.run_bind, StateT.run_bind]
  cases StateT.run (ExceptT.run program) state with
  | mk outcome middle =>
    cases outcome with
    | ok value => rfl
    | error error => rfl

theorem execute_assign (operation : State → Except ε (α × State)) (state : State) :
    (assign operation).execute state = settled state (operation state) := by
  have copied : (assign operation).execute state =
      execute (liftM (operation state) >>= fun result => set result.2 *> pure result.1) state := rfl
  rw [copied]
  cases operation state with
  | error error => rfl
  | ok result => rfl

end InPlace

section Sessions

variable {State : Type} {inPlace : InPlaceCalendar State}

theorem Action.execute_changing {program : InPlace State FieldError Unit} {state : State}
    {result : Except FieldError State} (leads : program.LeadsTo state result) :
    (performInPlace.changing program).execute state =
      InPlace.settled state (perform.changed result) := by
  rw [performInPlace.changing, InPlace.execute_bind, InPlace.execute_adapt, leads]
  cases result with
  | error error => rfl
  | ok next => rfl

theorem Action.execute_performInPlace (atomic : inPlace.Atomic) (state : State) (action : Action) :
    action.performInPlace.execute state =
      InPlace.settled state (@perform State inPlace.calendar state action) := by
  cases action with
  | set unit value => exact execute_changing ((atomic.set unit value).leadsTo_onCopy state)
  | addMonths amount => exact execute_changing ((atomic.addMonths amount).leadsTo_onCopy state)
  | addDays amount => exact execute_changing ((atomic.addDays amount).leadsTo_onCopy state)
  | zeroTime => rfl
  -- All others change a copy, which takes the place of the state at the end.
  | _ => exact InPlace.execute_assign (fun state => @perform State inPlace.calendar state _) state

theorem Action.attemptInPlace_eq (atomic : inPlace.Atomic) (state : State) (action : Action) :
    action.attemptInPlace state = @attempt State inPlace.calendar state action := by
  simp only [attemptInPlace, execute_performInPlace atomic, attempt]
  cases @perform State inPlace.calendar state action with
  | error error => rfl
  | ok result => rfl

theorem Session.runInPlace_eq (atomic : inPlace.Atomic) (session : Session) (state : State) :
    session.runInPlace state = @run State inPlace.calendar state session := by
  induction session generalizing state with
  | nil => rfl
  | cons action later ih =>
      simp only [runInPlace, run]
      rw [action.attemptInPlace_eq atomic, ih]

theorem Timestamp.runInPlace_eq_run (session : Session) (timestamp : Timestamp) :
    session.runInPlace timestamp = session.run timestamp := by
  rw [session.runInPlace_eq Timestamp.inPlace_atomic, Timestamp.inPlace_calendar]

theorem Action.state_attempt_of_error [Calendar State] {state : State} {action : Action}
    {error : ActionError} (fails : (action.attempt state).answer = .error error) :
    (action.attempt state).state = state := by
  simp only [attempt] at fails ⊢
  cases performed : action.perform state with
  | error error => rfl
  | ok result =>
      rw [performed] at fails
      cases fails

theorem Action.state_attemptInPlace_of_error (atomic : inPlace.Atomic) {state : State}
    {action : Action} {error : ActionError}
    (fails : (action.attemptInPlace state).answer = .error error) :
    (action.attemptInPlace state).state = state := by
  rw [action.attemptInPlace_eq atomic] at fails ⊢
  exact @state_attempt_of_error State inPlace.calendar state action error fails

namespace Session

variable [InPlaceCalendar State]

def succeeding (state : State) (session : Session) : Session :=
  ((session.zip (session.runInPlace state)).filter fun (_, entry) => entry.answer.isOk).map Prod.fst

def endState (state : State) (session : Session) : State :=
  ((session.runInPlace state).getLast?.map Entry.state).getD state

variable {state : State} {action : Action}

theorem succeeding_cons_of_ok {value : Option Nat} (later : Session)
    (answered : (action.attemptInPlace state).answer = .ok value) :
    succeeding state (action :: later) =
      action :: succeeding (action.attemptInPlace state).state later := by
  simp only [succeeding, runInPlace, List.zip_cons_cons]
  rw [List.filter_cons_of_pos (by rw [answered]; rfl)]
  rfl

theorem succeeding_cons_of_error {error : ActionError} (later : Session)
    (answered : (action.attemptInPlace state).answer = .error error) :
    succeeding state (action :: later) =
      succeeding (action.attemptInPlace state).state later := by
  simp only [succeeding, runInPlace, List.zip_cons_cons]
  rw [List.filter_cons_of_neg (by rw [answered]; exact Bool.false_ne_true)]

theorem endState_cons (state : State) (action : Action) (later : Session) :
    endState state (action :: later) = endState (action.attemptInPlace state).state later := by
  simp only [endState, runInPlace, List.getLast?_cons]
  cases (later.runInPlace (action.attemptInPlace state).state).getLast? with
  | none => rfl
  | some entry => rfl

end Session

theorem Session.runInPlace_succeeding (atomic : inPlace.Atomic) (session : Session)
    (state : State) :
    (session.succeeding state).runInPlace state =
      (session.runInPlace state).filter fun entry => entry.answer.isOk := by
  induction session generalizing state with
  | nil => rfl
  | cons action later ih =>
      cases answered : (action.attemptInPlace state).answer with
      | ok value =>
          rw [succeeding_cons_of_ok later answered]
          simp only [runInPlace]
          rw [List.filter_cons_of_pos (by rw [answered]; rfl), ih]
      | error error =>
          have unchanged := Action.state_attemptInPlace_of_error atomic answered
          rw [succeeding_cons_of_error later answered, runInPlace,
            List.filter_cons_of_neg (by rw [answered]; exact Bool.false_ne_true), unchanged, ih]

theorem Session.endState_succeeding (atomic : inPlace.Atomic) (session : Session)
    (state : State) : (session.succeeding state).endState state = session.endState state := by
  induction session generalizing state with
  | nil => rfl
  | cons action later ih =>
      cases answered : (action.attemptInPlace state).answer with
      | ok value => rw [succeeding_cons_of_ok later answered, endState_cons, endState_cons, ih]
      | error error =>
          have unchanged := Action.state_attemptInPlace_of_error atomic answered
          rw [succeeding_cons_of_error later answered, endState_cons, unchanged, ih]

/-- An action that fails leaves the state as it was, and a session without the actions that fail in
it has the same entries for all others and the same end. -/
structure InPlaceCalendar.FailsCleanly (inPlace : InPlaceCalendar State) : Prop where
  unchanged : ∀ (state : State) (action : Action) (error : ActionError),
    (action.attemptInPlace state).answer = .error error →
      (action.attemptInPlace state).state = state
  dropped : ∀ (state : State) (session : Session),
    (session.succeeding state).runInPlace state =
      (session.runInPlace state).filter fun entry => entry.answer.isOk
  ended : ∀ (state : State) (session : Session),
    (session.succeeding state).endState state = session.endState state

theorem InPlaceCalendar.Atomic.failsCleanly (atomic : inPlace.Atomic) : inPlace.FailsCleanly where
  unchanged _ _ _ fails := Action.state_attemptInPlace_of_error atomic fails
  dropped state session := session.runInPlace_succeeding atomic state
  ended state session := session.endState_succeeding atomic state

/-- Failures are atomic on every timestamp, and on whatever values stand for moments under every
engine for them. -/
theorem Session.fails_cleanly :
    Timestamp.inPlace.FailsCleanly ∧
      ∀ {Value : Type} (engine : MomentEngine Value), engine.inPlace.FailsCleanly :=
  ⟨Timestamp.inPlace_atomic.failsCleanly, fun engine => engine.inPlace_atomic.failsCleanly⟩

end Sessions

end DateAdjust
