import DateAdjust.Logged
import DateAdjust.Proofs.Atomicity
import DateAdjust.Proofs.Spec.Concatenation
import DateAdjust.Proofs.Timestamp.RoundTrip

/-! The log of an evaluation tells its whole course. Its texts read back, so the run can be followed
from the log alone, up to its result or to the token that failed. -/

namespace DateAdjust

def Event.stateText : Event → String
  | adjusting origin _ => origin
  | stepApplied _ result => result

namespace Spec

section Runs

variable {State : Type} [Calendar State]

/-- The tokens of a run that apply, the state that they lead to, and the tokens that are left when
the next one fails. -/
structure StopsAt (origin : State) (done rest : List Token) (reached : State) : Prop where
  applied : Spec.apply origin { tokens := done } = .ok reached
  fails : ∀ token later, rest = token :: later → ∃ error, token.apply reached = .error error

/-- So many tokens apply one after another, and with any more of them the run fails. -/
structure AppliesUpTo (origin : State) (tokens : List Token) (count : Nat) : Prop where
  count_le : count ≤ tokens.length
  applied : ∃ reached, Spec.apply origin { tokens := tokens.take count } = .ok reached
  fails : ∀ more, count < more → more ≤ tokens.length →
    ∃ error, Spec.apply origin { tokens := tokens.take more } = .error error

theorem apply_singleton (state : State) (token : Token) :
    Spec.apply state { tokens := [token] } = token.apply state := by
  simp only [Spec.apply, List.foldlM_cons, List.foldlM_nil, bind_pure]

theorem exists_stopsAt (origin : State) (tokens : List Token) :
    ∃ done rest reached, tokens = done ++ rest ∧ StopsAt origin done rest reached := by
  induction tokens generalizing origin with
  | nil => exact ⟨[], [], origin, rfl, rfl, by simp⟩
  | cons token later ih =>
      cases stepped : token.apply origin with
      | error error =>
          refine ⟨[], token :: later, origin, rfl, rfl, ?_⟩
          rintro first behind ⟨⟩
          exact ⟨error, stepped⟩
      | ok next =>
          obtain ⟨done, rest, reached, rfl, stops⟩ := ih next
          refine ⟨token :: done, rest, reached, rfl, ?_, stops.fails⟩
          exact Result.bind_eq_ok_iff.mpr ⟨next, stepped, stops.applied⟩

namespace StopsAt

variable {origin reached : State} {done rest : List Token}

theorem apply_of_nil (stops : StopsAt origin done [] reached) :
    Spec.apply origin { tokens := done ++ [] } = .ok reached := by
  rw [List.append_nil]
  exact stops.applied

theorem apply_of_cons {token : Token} {later : List Token}
    (stops : StopsAt origin done (token :: later) reached) :
    ∃ error, token.apply reached = .error error ∧
      Spec.apply origin { tokens := done ++ token :: later } = .error error := by
  obtain ⟨error, failed⟩ := stops.fails token later rfl
  have failedThere : Spec.apply reached { tokens := token :: later } = .error error := by
    simp only [Spec.apply, List.foldlM_cons, failed]
    rfl
  refine ⟨error, failed, ?_⟩
  rw [apply_append, stops.applied]
  exact failedThere

theorem appliesUpTo (stops : StopsAt origin done rest reached) :
    AppliesUpTo origin (done ++ rest) done.length where
  count_le := by simp
  applied := ⟨reached, by rw [List.take_left]; exact stops.applied⟩
  fails more longer inside := by
    rw [List.length_append] at inside
    obtain ⟨extra, rfl⟩ := Nat.exists_eq_add_of_lt longer
    cases rest with
    | nil =>
        rw [List.length_nil] at inside
        omega
    | cons token later =>
        have shorter : StopsAt origin done (token :: later.take extra) reached := by
          refine ⟨stops.applied, ?_⟩
          rintro first behind ⟨⟩
          exact stops.fails token later rfl
        obtain ⟨error, _, failed⟩ := shorter.apply_of_cons
        refine ⟨error, ?_⟩
        rwa [Nat.add_assoc, List.take_length_add_append, List.take_succ_cons]

end StopsAt

end Runs

section Events

variable {State : Type} [Calendar State] [ToString State]

def stepEvents (state : State) (tokens : List Token) : List Event :=
  (traceTokens state tokens).filterMap fun (token, result) =>
    match result with
    | .ok next => some (.stepApplied (toString token) (toString next))
    | .error _ => none

theorem events_eq (origin : State) (spec : Spec) :
    spec.events origin =
      .adjusting (toString origin) (toString spec) :: stepEvents origin spec.tokens :=
  rfl

variable {state : State} {token : Token}

theorem stepEvents_of_ok {next : State} (later : List Token)
    (applied : token.apply state = .ok next) :
    stepEvents state (token :: later) =
      .stepApplied (toString token) (toString next) :: stepEvents next later := by
  simp only [stepEvents, traceTokens, applied]
  rfl

theorem stepEvents_of_error {error : FieldError} (later : List Token)
    (failed : token.apply state = .error error) : stepEvents state (token :: later) = [] := by
  simp only [stepEvents, traceTokens, failed]
  rfl

theorem stepEvents_append {reached : State} {front : List Token} (back : List Token)
    (applied : Spec.apply state { tokens := front } = .ok reached) :
    stepEvents state (front ++ back) = stepEvents state front ++ stepEvents reached back := by
  induction front generalizing state with
  | nil =>
      cases applied
      rfl
  | cons token later ih =>
      obtain ⟨next, stepped, applied⟩ := Result.bind_eq_ok_iff.mp applied
      rw [List.cons_append, stepEvents_of_ok _ stepped, stepEvents_of_ok _ stepped, ih applied,
        List.cons_append]

theorem length_stepEvents {reached : State} {tokens : List Token}
    (applied : Spec.apply state { tokens } = .ok reached) :
    (stepEvents state tokens).length = tokens.length := by
  induction tokens generalizing state with
  | nil => rfl
  | cons token later ih =>
      obtain ⟨next, stepped, applied⟩ := Result.bind_eq_ok_iff.mp applied
      rw [stepEvents_of_ok _ stepped, List.length_cons, List.length_cons, ih applied]

theorem exists_stepEvent {reached : State} {tokens : List Token}
    (applied : Spec.apply state { tokens } = .ok reached) {index : Nat}
    (inside : index < tokens.length) :
    ∃ token next, tokens[index]? = some token ∧
      Spec.apply state { tokens := tokens.take (index + 1) } = .ok next ∧
      (stepEvents state tokens)[index]? =
        some (.stepApplied (toString token) (toString next)) := by
  obtain ⟨front, token, back, rfl, rfl⟩ : ∃ front token back,
      tokens = front ++ token :: back ∧ front.length = index := by
    refine ⟨tokens.take index, tokens[index], tokens.drop (index + 1), ?_, ?_⟩
    · rw [← List.drop_eq_getElem_cons inside, List.take_append_drop]
    · exact List.length_take_of_le (Nat.le_of_lt inside)
  rw [apply_append] at applied
  obtain ⟨before, frontApplied, applied⟩ := Result.bind_eq_ok_iff.mp applied
  obtain ⟨next, stepped, _⟩ := Result.bind_eq_ok_iff.mp applied
  refine ⟨token, next, by simp, ?_, ?_⟩
  · rw [List.take_length_add_append, List.take_succ_cons, List.take_zero, apply_append,
      frontApplied]
    exact (apply_singleton before token).trans stepped
  · rw [stepEvents_append _ frontApplied, stepEvents_of_ok _ stepped,
      ← length_stepEvents frontApplied]
    simp

theorem exists_lastEvent {reached : State} {tokens : List Token}
    (applied : Spec.apply state { tokens } = .ok reached) (specText : String) :
    ∃ last,
      (Event.adjusting (toString state) specText :: stepEvents state tokens).getLast? =
        some last ∧ last.stateText = toString reached := by
  rcases List.eq_nil_or_concat tokens with rfl | ⟨front, token, rfl⟩
  · cases applied
    exact ⟨_, rfl, rfl⟩
  · rw [List.concat_eq_append] at applied ⊢
    rw [apply_append] at applied
    obtain ⟨before, frontApplied, applied⟩ := Result.bind_eq_ok_iff.mp applied
    rw [apply_singleton] at applied
    refine ⟨.stepApplied (toString token) (toString reached), ?_, rfl⟩
    rw [stepEvents_append _ frontApplied, stepEvents_of_ok _ applied, ← List.cons_append]
    exact List.getLast?_concat

theorem StopsAt.stepEvents_eq {reached : State} {done rest : List Token}
    (stops : StopsAt state done rest reached) :
    stepEvents state (done ++ rest) = stepEvents state done := by
  rw [stepEvents_append rest stops.applied]
  cases rest with
  | nil => exact List.append_nil _
  | cons token later =>
      obtain ⟨error, failed⟩ := stops.fails token later rfl
      rw [stepEvents_of_error later failed, List.append_nil]

end Events

section Logs

variable {State : Type} [Calendar State] [ToString State]

theorem execute_applyToken (state : State) (token : Token) (log : List Event) :
    InPlace.execute (token.applyLogged state) log =
      (token.apply state,
        match token.apply state with
        | .ok next => log ++ [.stepApplied (toString token) (toString next)]
        | .error _ => log) := by
  simp only [Token.applyLogged]
  cases token.apply state with
  | error error => rfl
  | ok next => rfl

theorem execute_applyTokens (tokens : List Token) (state : State) (log : List Event) :
    InPlace.execute (tokens.foldlM Token.applyLogged state) log =
      (Spec.apply state { tokens }, log ++ stepEvents state tokens) := by
  induction tokens generalizing state log with
  | nil => exact congrArg _ (List.append_nil log).symm
  | cons token later ih =>
      rw [List.foldlM_cons, InPlace.execute_bind, execute_applyToken]
      cases stepped : token.apply state with
      | error error =>
          rw [stepEvents_of_error later stepped, List.append_nil]
          simp only [Spec.apply, List.foldlM_cons, stepped]
          rfl
      | ok next =>
          rw [stepEvents_of_ok later stepped]
          simp only [ih, List.append_assoc, List.singleton_append]
          simp only [Spec.apply, List.foldlM_cons, stepped]
          rfl

theorem execute_applyLogged (origin : State) (spec : Spec) (log : List Event) :
    InPlace.execute (spec.applyLogged origin) log =
      (spec.apply origin, log ++ spec.events origin) := by
  have started : InPlace.execute (spec.applyLogged origin) log =
      InPlace.execute (spec.tokens.foldlM Token.applyLogged origin)
        (log ++ [.adjusting (toString origin) (toString spec)]) := rfl
  rw [started, execute_applyTokens, events_eq, List.append_assoc, List.singleton_append]

end Logs

end Spec

theorem execute_evaluateLogged {State : Type} [Calendar State] [ToString State] (origin : State)
    (text : String) (strictness : Strictness) (log : List Event) :
    InPlace.execute (evaluateLogged origin text strictness) log =
      (evaluate origin text strictness, log ++ evaluateEvents origin text strictness) := by
  simp only [evaluateLogged, evaluate, evaluateEvents]
  split
  · exact congrArg _ (List.append_nil log).symm
  · cases Spec.ofString text strictness with
    | error error => exact congrArg _ (List.append_nil log).symm
    | ok spec =>
        have adapted :
            InPlace.execute ((spec.applyLogged origin).adapt AdjustError.invalidField) log =
            ((spec.apply origin).mapError .invalidField, log ++ spec.events origin) := by
          rw [InPlace.execute_adapt, Spec.execute_applyLogged]
        exact adapted

/-- The events tell the course of a run in which the first tokens apply, as many as counted: where
it starts and with which spec, then each of these tokens with the state that it leads to. The run
ends in the state of the last event, or with the error of the next token on that state. -/
structure Spec.Replays (origin : Timestamp) (tokens : List Token) (count : Nat)
    (outcome : Except AdjustError Timestamp) (events : List Event) : Prop where
  length_eq : events.length = 1 + count
  start : ∃ originText specText, events[0]? = some (.adjusting originText specText) ∧
    Spec.ofString specText .strict = .ok { tokens } ∧
    Timestamp.ofString originText = .ok origin
  step : ∀ index < count, ∃ stepText resultText token state,
    events[index + 1]? = some (.stepApplied stepText resultText) ∧
    tokens[index]? = some token ∧
    Spec.ofString stepText .strict = .ok { tokens := [token] } ∧
    Timestamp.ofString resultText = .ok state ∧
    Spec.apply origin { tokens := tokens.take (index + 1) } = .ok state
  completes : count = tokens.length → ∃ last final, events.getLast? = some last ∧
    outcome = .ok final ∧ toString final = last.stateText
  fails : count < tokens.length → ∃ last state token error, events.getLast? = some last ∧
    Timestamp.ofString last.stateText = .ok state ∧ tokens[count]? = some token ∧
    token.apply state = .error error ∧ outcome = .error (.invalidField error)

theorem Spec.exists_replays {origin : Timestamp} (valid : origin.Valid) (tokens : List Token) :
    ∃ count, AppliesUpTo origin tokens count ∧
      Replays origin tokens count
        ((Spec.apply origin { tokens }).mapError .invalidField)
        (Spec.events origin { tokens }) := by
  obtain ⟨done, rest, reached, rfl, stops⟩ := exists_stopsAt origin tokens
  refine ⟨done.length, stops.appliesUpTo, ?_⟩
  have validAfter : ∀ {front : List Token} {next : Timestamp},
      Spec.apply origin { tokens := front } = .ok next → next.Valid :=
    fun applied => Timestamp.keeps_valid.applySpec _ valid applied
  obtain ⟨last, isLast, lastText⟩ :=
    exists_lastEvent stops.applied (toString ({ tokens := done ++ rest } : Spec))
  -- The token that fails leaves no event, so the log is that of the tokens before it.
  rw [events_eq, stops.stepEvents_eq]
  exact {
    length_eq := by
      rw [List.length_cons, length_stepEvents stops.applied, Nat.add_comm]
    start := ⟨_, _, rfl, (spaced_toString (done ++ rest)).read .strict, valid.ofString_text⟩
    step := by
      intro index inside
      obtain ⟨token, next, found, applied, shown⟩ := exists_stepEvent stops.applied inside
      refine ⟨_, _, token, next, shown, ?_, token.spaced_toString.read .strict,
        (validAfter applied).ofString_text, ?_⟩
      · rwa [List.getElem?_append_left inside]
      · rwa [List.take_append_of_le_length inside]
    completes := by
      intro complete
      rw [List.length_append, Nat.left_eq_add, List.length_eq_zero_iff] at complete
      subst complete
      refine ⟨last, reached, isLast, ?_, lastText.symm⟩
      rw [stops.apply_of_nil]
      rfl
    fails := by
      intro incomplete
      cases rest with
      | nil =>
          rw [List.append_nil] at incomplete
          exact absurd incomplete (Nat.lt_irrefl _)
      | cons token later =>
          obtain ⟨error, failed, outcome⟩ := stops.apply_of_cons
          refine ⟨last, reached, token, error, isLast, ?_, by simp, failed, ?_⟩
          · rw [lastText]
            exact (validAfter stops.applied).ofString_text
          · rw [outcome]
            rfl }

/-- An evaluation adds to its log what replays it, and nothing if there is no text or a text that is
rejected. -/
theorem evaluateLogged_replays (origin : Timestamp) (valid : origin.Valid) (text : String)
    (strictness : Strictness) :
    ∃ events : List Event,
      (∀ log, (evaluateLogged origin text strictness).execute log =
        (evaluate origin text strictness, log ++ events)) ∧
      ((text = "" ∨ ∃ error, Spec.ofString text strictness = .error error) → events = []) ∧
      ∀ spec, text ≠ "" → Spec.ofString text strictness = .ok spec →
        ∃ count, Spec.AppliesUpTo origin spec.tokens count ∧
          Spec.Replays origin spec.tokens count (evaluate origin text strictness) events := by
  refine ⟨evaluateEvents origin text strictness,
    execute_evaluateLogged origin text strictness, ?_, ?_⟩
  · rintro (rfl | ⟨error, rejected⟩)
    · rfl
    · simp only [evaluateEvents, rejected, ite_self]
  · intro spec notEmpty accepted
    have written : evaluateEvents origin text strictness = spec.events origin := by
      simp only [evaluateEvents, String.isEmpty_iff, if_neg notEmpty, accepted]
    rw [written, evaluate_of_accepted origin accepted]
    exact Spec.exists_replays valid spec.tokens

theorem evaluateLogged_replays_april31 :
    let tokens : List Token := [.shift .month 1, .set .day (.cardinal 31), .shift .month (-1)]
    let outcome : Except AdjustError Timestamp :=
      .error (.invalidField { field := .day, value := 31, min := 1, max := 30 })
    let events : List Event := [.adjusting "2011-03-31T23:59:59.999" "+1M=31D-1M",
      .stepApplied "+1M" "2011-04-30T23:59:59.999"]
    Timestamp.march31.Valid ∧ Spec.ofString "+1M=31D-1M" .strict = .ok { tokens } ∧
      (evaluateLogged Timestamp.march31 "+1M=31D-1M" .strict).execute [] = (outcome, events) ∧
      Spec.AppliesUpTo Timestamp.march31 tokens 1 ∧
      Spec.Replays Timestamp.march31 tokens 1 outcome events := by
  intro tokens outcome events
  have valid : Timestamp.march31.Valid := by decide
  have accepted : Spec.ofString "+1M=31D-1M" .strict = .ok { tokens } := by decide +kernel
  have executed : (evaluateLogged Timestamp.march31 "+1M=31D-1M" .strict).execute [] =
      (outcome, events) := by
    decide +kernel
  obtain ⟨written, writes, _, replays⟩ :=
    evaluateLogged_replays Timestamp.march31 valid "+1M=31D-1M" .strict
  obtain ⟨count, appliesUpTo, replays⟩ := replays _ (by decide) accepted
  rw [writes, List.nil_append, Prod.mk.injEq] at executed
  obtain ⟨sameOutcome, rfl⟩ := executed
  have two : 1 + 1 = 1 + count := replays.length_eq
  obtain rfl : count = 1 := by omega
  rw [sameOutcome] at replays
  rw [writes, sameOutcome]
  exact ⟨valid, accepted, rfl, appliesUpTo, replays⟩

end DateAdjust
