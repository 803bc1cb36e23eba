import DateAdjust.Proofs.Moment.Agreement
import DateAdjust.Proofs.Moment.Timeline

/-! Dates and times of day never meet: a state given another time goes through every operation on
its date as before. The zero times of a spec can be made up for on the final state. -/

namespace DateAdjust

/-- Every operation on dates commutes with a change of the time. A state is its date and time. -/
structure Calendar.Separates {State Date Time : Type} (calendar : Calendar State)
    (date : State → Date) (time : State → Time) (midnight : Time)
    (retime : State → Time → State) : Prop where
  date_retime : ∀ state new, date (retime state new) = date state
  time_retime : ∀ state new, time (retime state new) = new
  retime_of_same_date : ∀ state other, date state = date other → retime state (time other) = other
  maximum : ∀ state new unit,
    calendar.maximum (retime state new) unit = calendar.maximum state unit
  set : ∀ state new unit value, calendar.set (retime state new) unit value =
    (fun next => retime next new) <$> calendar.set state unit value
  addMonths : ∀ state new amount, calendar.addMonths (retime state new) amount =
    (fun next => retime next new) <$> calendar.addMonths state amount
  addDays : ∀ state new amount, calendar.addDays (retime state new) amount =
    (fun next => retime next new) <$> calendar.addDays state amount
  zeroTime : ∀ state, calendar.withTime state TimeOfDay.midnight = retime state midnight

/-- Date and time of day do not reach each other in any spec. Its zero times alone decide the time,
and the rest of it decides the date and the errors. -/
structure Calendar.KeepsApart {State Date Time : Type} (calendar : Calendar State)
    (date : State → Date) (time : State → Time) (midnight : Time) : Prop where
  sameDate : ∀ (tokens : List Token) (first second : State), date first = date second →
    Agree (fun next other => date next = date other) (Spec.apply first { tokens })
      (Spec.apply second { tokens := tokens.filter (· ≠ .zeroTime) })
  timeDecided : ∀ (tokens : List Token) (origin final : State),
    Spec.apply origin { tokens } = .ok final →
      time final = if .zeroTime ∈ tokens then midnight else time origin
  zeroTimeMoved : ∀ (front back otherFront otherBack : List Token) (origin : State),
    front ++ back = otherFront ++ otherBack →
      Spec.apply origin { tokens := front ++ .zeroTime :: back } =
        Spec.apply origin { tokens := otherFront ++ .zeroTime :: otherBack }

theorem Token.zeroTime_not_mem_filter (tokens : List Token) :
    Token.zeroTime ∉ tokens.filter (· ≠ .zeroTime) := by
  simp

namespace Calendar.Separates

variable {State Date Time : Type} {calendar : Calendar State} {date : State → Date}
  {time : State → Time} {midnight : Time} {retime : State → Time → State}

theorem retime_time (separates : calendar.Separates date time midnight retime) (state : State) :
    retime state (time state) = state :=
  separates.retime_of_same_date state state rfl

theorem retime_retime (separates : calendar.Separates date time midnight retime) (state : State)
    (first second : Time) : retime (retime state first) second = retime state second := by
  have sameDate : date (retime state first) = date (retime state second) := by
    rw [separates.date_retime, separates.date_retime]
  have same := separates.retime_of_same_date _ _ sameDate
  rwa [separates.time_retime] at same

theorem applyToken_retime (separates : calendar.Separates date time midnight retime)
    (state : State) (new : Time) {token : Token} (dates : token ≠ .zeroTime) :
    token.apply (retime state new) = (fun next => retime next new) <$> token.apply state := by
  cases token with
  | zeroTime => exact absurd rfl dates
  | shift unit amount =>
      cases unit with
      | month => exact separates.addMonths state new amount.toInt
      | day => exact separates.addDays state new amount.toInt
  | set unit value =>
      cases value with
      | last =>
          simp only [Token.apply, Token.step, Step.apply, separates.maximum]
          exact separates.set state new unit _
      | cardinal value => exact separates.set state new unit value.toNat

theorem applySpec_retime (separates : calendar.Separates date time midnight retime)
    {tokens : List Token} (dates : .zeroTime ∉ tokens) (state : State) (new : Time) :
    Spec.apply (retime state new) { tokens } =
      (fun next => retime next new) <$> Spec.apply state { tokens } := by
  simp only [Spec.apply]
  induction tokens generalizing state with
  | nil => rfl
  | cons token later ih =>
      have tokenDates : token ≠ .zeroTime := fun isZero => dates (isZero ▸ List.mem_cons_self)
      have laterDates : .zeroTime ∉ later := fun member => dates (List.mem_cons_of_mem _ member)
      simp only [List.foldlM_cons, separates.applyToken_retime state new tokenDates, bind_map_left,
        map_bind, ih laterDates]

theorem applySpec_eq (separates : calendar.Separates date time midnight retime) (state : State)
    (tokens : List Token) :
    Spec.apply state { tokens } =
      (fun final => if .zeroTime ∈ tokens then retime final midnight else final) <$>
        Spec.apply state { tokens := tokens.filter (· ≠ .zeroTime) } := by
  induction tokens generalizing state with
  | nil => rfl
  | cons token later ih =>
      by_cases isZero : token = .zeroTime
      · subst token
        have midnightFirst : Spec.apply state { tokens := .zeroTime :: later } =
            Spec.apply (retime state midnight) { tokens := later } := by
          rw [← separates.zeroTime]
          rfl
        have dates := Token.zeroTime_not_mem_filter later
        have settled : ∀ final,
            (if .zeroTime ∈ later then retime (retime final midnight) midnight
              else retime final midnight) = retime final midnight := by
          intro final
          rw [separates.retime_retime, ite_self]
        rw [midnightFirst, ih, separates.applySpec_retime dates, Functor.map_map]
        simp only [settled, List.mem_cons_self, if_true]
        rfl
      · have tokenFirst : ∀ rest, Spec.apply state { tokens := token :: rest } =
            token.apply state >>= fun next => Spec.apply next { tokens := rest } :=
          fun rest => List.foldlM_cons
        have kept : (token :: later).filter (· ≠ .zeroTime) =
            token :: later.filter (· ≠ .zeroTime) :=
          List.filter_cons_of_pos (decide_eq_true isZero)
        have sameZeros : (Token.zeroTime ∈ token :: later) ↔ .zeroTime ∈ later := by
          rw [List.mem_cons, or_iff_right (Ne.symm isZero)]
        simp only [kept, tokenFirst, ih, map_bind, sameZeros]

theorem applySpec_of_same_dates (separates : calendar.Separates date time midnight retime)
    {tokens others : List Token}
    (sameDates : tokens.filter (· ≠ .zeroTime) = others.filter (· ≠ .zeroTime))
    (sameZeros : .zeroTime ∈ tokens ↔ .zeroTime ∈ others) (state : State) :
    Spec.apply state { tokens } = Spec.apply state { tokens := others } := by
  rw [separates.applySpec_eq, separates.applySpec_eq state others]
  simp only [sameDates, sameZeros]

theorem sameDate (separates : calendar.Separates date time midnight retime) (tokens : List Token)
    {first second : State} (same : date first = date second) :
    Agree (fun next other => date next = date other) (Spec.apply first { tokens })
      (Spec.apply second { tokens := tokens.filter (· ≠ .zeroTime) }) := by
  have dates := Token.zeroTime_not_mem_filter tokens
  rw [← separates.retime_of_same_date first second same, separates.applySpec_retime dates,
    separates.applySpec_eq]
  cases Spec.apply first { tokens := tokens.filter (· ≠ .zeroTime) } with
  | error error => exact .error error
  | ok final =>
      refine .ok ?_
      rw [separates.date_retime]
      split
      · exact separates.date_retime final midnight
      · rfl

theorem time_of_not_mem (separates : calendar.Separates date time midnight retime)
    {tokens : List Token} (dates : .zeroTime ∉ tokens) {origin final : State}
    (applied : Spec.apply origin { tokens } = .ok final) : time final = time origin := by
  have retimed := separates.applySpec_retime dates origin (time origin)
  rw [separates.retime_time, applied] at retimed
  have same : final = retime final (time origin) := Except.ok.inj retimed
  rw [same, separates.time_retime]

theorem timeDecided (separates : calendar.Separates date time midnight retime)
    (tokens : List Token) {origin final : State}
    (applied : Spec.apply origin { tokens } = .ok final) :
    time final = if .zeroTime ∈ tokens then midnight else time origin := by
  have dates := Token.zeroTime_not_mem_filter tokens
  rw [separates.applySpec_eq] at applied
  cases reached : Spec.apply origin { tokens := tokens.filter (· ≠ .zeroTime) } with
  | error error =>
      rw [reached] at applied
      cases applied
  | ok before =>
      rw [reached] at applied
      cases applied
      split
      · exact separates.time_retime before midnight
      · exact separates.time_of_not_mem dates reached

theorem keepsApart (separates : calendar.Separates date time midnight retime) :
    calendar.KeepsApart date time midnight where
  sameDate tokens _ _ same := separates.sameDate tokens same
  timeDecided tokens _ _ applied := separates.timeDecided tokens applied
  zeroTimeMoved front back otherFront otherBack origin same := by
    have sameDates := congrArg (List.filter (· ≠ Token.zeroTime)) same
    apply separates.applySpec_of_same_dates
    case sameDates => simpa using sameDates
    case sameZeros => simp

end Calendar.Separates

namespace Timestamp

variable (timestamp : Timestamp) (time : TimeOfDay)

theorem set_withTime (unit : TimeUnit) (value : Nat) :
    (timestamp.withTime time).set unit value =
      (fun next => next.withTime time) <$> timestamp.set unit value := by
  cases unit with
  | month =>
      simp only [set, map_bind]
      rfl
  | day =>
      simp only [set, map_bind]
      rfl

theorem addMonths_withTime (amount : Int) :
    (timestamp.withTime time).addMonths amount =
      (fun next => next.withTime time) <$> timestamp.addMonths amount := by
  simp only [addMonths, map_bind]
  rfl

theorem addDays_withTime (amount : Int) :
    (timestamp.withTime time).addDays amount =
      (fun next => next.withTime time) <$> timestamp.addDays amount := by
  simp only [addDays, map_bind]
  rfl

theorem withTime_of_same_date {first second : Timestamp} (same : first.date = second.date) :
    first.withTime second.time = second := by
  cases first
  cases second
  simp only [date, CivilDate.mk.injEq, Int.natCast_inj] at same
  obtain ⟨year, month, day⟩ := same
  simp only [withTime, Timestamp.mk.injEq]
  exact ⟨Bounded.ext year, Bounded.ext month, Bounded.ext day, trivial⟩

theorem separates : (inferInstance : Calendar Timestamp).Separates Timestamp.date
    Timestamp.time TimeOfDay.midnight Timestamp.withTime where
  date_retime _ _ := rfl
  time_retime _ _ := rfl
  retime_of_same_date _ _ same := withTime_of_same_date same
  maximum _ _ unit := by
    cases unit with
    | month => rfl
    | day => rfl
  set := set_withTime
  addMonths := addMonths_withTime
  addDays := addDays_withTime
  zeroTime _ := rfl

end Timestamp

namespace Moment

variable (engine : DateEngine) (moment : Moment)

def withFineTime (moment : Moment) (time : FineTime) : Moment :=
  { moment with time }

theorem maximum_withFineTime (time : FineTime) (unit : TimeUnit) :
    (moment.withFineTime time).maximum engine unit = moment.maximum engine unit := by
  cases unit with
  | month => rfl
  | day => rfl

theorem set_withFineTime (time : FineTime) (unit : TimeUnit) (value : Nat) :
    (moment.withFineTime time).set engine unit value =
      (fun next => next.withFineTime time) <$> moment.set engine unit value := by
  simp only [set, maximum_withFineTime]
  simp only [withFineTime]
  cases engine.withUnit? moment.date unit value with
  | none => rfl
  | some date => rfl

theorem addMonths_withFineTime (time : FineTime) (amount : Int) :
    (moment.withFineTime time).addMonths engine amount =
      (fun next => next.withFineTime time) <$> moment.addMonths engine amount := by
  simp only [addMonths, map_bind]
  simp only [withFineTime]
  cases engine.addMonths? moment.date amount with
  | none => rfl
  | some date => rfl

theorem addDays_withFineTime (time : FineTime) (amount : Int) :
    (moment.withFineTime time).addDays engine amount =
      (fun next => next.withFineTime time) <$> moment.addDays engine amount := by
  simp only [addDays, map_bind]
  simp only [withFineTime]
  cases engine.addDays? moment.date amount with
  | none => rfl
  | some date => rfl

theorem withFineTime_of_same_date {first second : Moment} (same : first.date = second.date) :
    first.withFineTime second.time = second := by
  rw [withFineTime, same]

theorem separates : (calendar engine).Separates Moment.date Moment.time
    (FineTime.ofTimeOfDay TimeOfDay.midnight) Moment.withFineTime where
  date_retime _ _ := rfl
  time_retime _ _ := rfl
  retime_of_same_date _ _ same := withFineTime_of_same_date same
  maximum := maximum_withFineTime engine
  set := set_withFineTime engine
  addMonths := addMonths_withFineTime engine
  addDays := addDays_withFineTime engine
  zeroTime _ := rfl

end Moment

/-- Date and time of day do not reach each other in any spec, neither on timestamps nor on moments
over an exact engine, where days are added to a moment as a whole. -/
theorem Spec.date_time_apart (engine : MomentEngine Moment) (exact : engine.Exact) :
    (inferInstance : Calendar Timestamp).KeepsApart Timestamp.date Timestamp.time
        TimeOfDay.midnight ∧
      engine.inPlace.calendar.KeepsApart Moment.date Moment.time
        (FineTime.ofTimeOfDay TimeOfDay.midnight) := by
  refine ⟨Timestamp.separates.keepsApart, ?_⟩
  rw [MomentEngine.inPlace_calendar exact]
  exact (Moment.separates engine.dates).keepsApart

theorem Spec.date_time_apart_leapMarch :
    MomentEngine.gregorian.Exact ∧
      @Spec.apply Moment MomentEngine.gregorian.inPlace.calendar Moment.leapMarch
          { tokens := [.shift .month (-1), .set .day .last, .zeroTime] } =
        @Spec.apply Moment MomentEngine.gregorian.inPlace.calendar Moment.leapMarch
          { tokens := [.zeroTime, .shift .month (-1), .set .day .last] } :=
  ⟨MomentEngine.gregorian_exact,
    (Spec.date_time_apart MomentEngine.gregorian MomentEngine.gregorian_exact).2.zeroTimeMoved
      [.shift .month (-1), .set .day .last] [] [] [.shift .month (-1), .set .day .last]
      Moment.leapMarch rfl⟩

end DateAdjust
