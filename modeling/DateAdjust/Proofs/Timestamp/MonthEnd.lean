import DateAdjust.Proofs.Simulation
import DateAdjust.Proofs.Timestamp.MonthShift
import DateAdjust.Proofs.Timestamp.Setting
import DateAdjust.Proofs.Timestamp.ShiftSum

/-! Specs of two steps around the end of a month. The last day of a month and a shift by months do
not commute if a longer month is reached. -/

namespace DateAdjust

namespace CivilMonth

def first (month : CivilMonth) : CivilDate :=
  month.date 1

def last (month : CivilMonth) : CivilDate :=
  month.date month.length

variable (month : CivilMonth) (valid : month.Valid)

include valid

theorem first_valid : month.first.Valid :=
  month.date_valid valid (Nat.le_refl 1) (month.length_pos valid)

theorem last_valid : month.last.Valid :=
  month.date_valid valid (month.length_pos valid) (Nat.le_refl _)

theorem last_dayLater : month.last.shifted 1 .day = month.next.first := by
  have after : month.last.next = month.next.first := if_neg (Nat.lt_irrefl _)
  exact (month.last.daysFrom_of_valid (month.last_valid valid) 1).trans after

theorem first_dayEarlier : month.first.shifted (-1) .day = month.previous.last := by
  have before : month.first.previous = month.previous.last := if_neg (Nat.lt_irrefl _)
  exact (month.first.daysFrom_of_valid (month.first_valid valid) (-1)).trans before

theorem first_monthLater : month.first.shifted 1 .month = month.next.first := by
  have nextLong := month.next.length_pos (numbered.valid_forward month valid)
  change month.next.date (min 1 month.next.length) = month.next.date 1
  rw [Nat.min_eq_left nextLong]

variable (lower : 1 ≤ month.year) (upper : month.year ≤ 9999)

include lower upper

theorem next_inYears_iff : month.next.first.InYears ↔ month ≠ latest := by
  obtain ⟨year, month⟩ := month
  simp only [Valid] at valid lower upper
  simp only [CivilDate.InYears, first, date, next, latest, ne_eq, CivilMonth.mk.injEq]
  split <;> dsimp only <;> omega

theorem previous_inYears_iff : month.previous.last.InYears ↔ month ≠ earliest := by
  obtain ⟨year, month⟩ := month
  simp only [Valid] at valid lower upper
  simp only [CivilDate.InYears, last, date, previous, earliest, ne_eq, CivilMonth.mk.injEq]
  split <;> dsimp only <;> omega

end CivilMonth

theorem Spec.apply_pair {State : Type} [Calendar State] (state : State) (first second : Token) :
    Spec.apply state { tokens := [first, second] } =
      first.apply state >>= fun next => second.apply next := by
  simp only [Spec.apply, List.foldlM_cons, List.foldlM_nil, bind_pure]

namespace Timestamp

/-- A spec leads to a date, with the time as it was, if that is a date of the years 1 to 9999, and
fails with the report otherwise. -/
structure LeadsTo (timestamp : Timestamp) (tokens : List Token) (target : CivilDate)
    (report : FieldError) : Prop where
  lands : target.InYears →
    ∃ next, Spec.apply timestamp { tokens } = .ok next ∧ timestamp.MovesTo next target
  fails : ¬target.InYears → Spec.apply timestamp { tokens } = .error report

theorem MovesTo.trans {timestamp middle next : Timestamp} {date nextDate : CivilDate}
    (moves : timestamp.MovesTo middle date) (movesOn : middle.MovesTo next nextDate) :
    timestamp.MovesTo next nextDate :=
  ⟨movesOn.1, movesOn.2.trans moves.2⟩

variable {timestamp : Timestamp} {unit : TimeUnit} {amount : Int64} {set : Token}

theorem leadsTo_set_shift {middle : Timestamp} {date : CivilDate}
    (applied : set.apply timestamp = .ok middle) (moves : timestamp.MovesTo middle date) :
    timestamp.LeadsTo [set, .shift unit amount] (date.shifted amount.toInt unit)
      ((middle.shiftRange unit).rejected amount.toInt) := by
  have sameDate := moves.1
  subst sameDate
  have stepped : Spec.apply timestamp { tokens := [set, .shift unit amount] } =
      (Step.shift unit amount.toInt).apply middle := by
    rw [Spec.apply_pair, applied]
    rfl
  constructor
  case lands =>
    intro inYears
    obtain ⟨next, shifted, reached⟩ := middle.shift_of_allows inYears
    exact ⟨next, stepped.trans shifted, moves.trans (.of_civilTime reached)⟩
  case fails =>
    intro outside
    exact stepped.trans (middle.shift_of_not_allows outside)

theorem leadsTo_shift_set {target : CivilDate}
    (sets : ∀ middle : Timestamp, middle.date = timestamp.date.shifted amount.toInt unit →
      ∃ next, set.apply middle = .ok next ∧ middle.MovesTo next target)
    (sameYear : target.year = (timestamp.date.shifted amount.toInt unit).year) :
    timestamp.LeadsTo [.shift unit amount, set] target
      ((timestamp.shiftRange unit).rejected amount.toInt) := by
  have stepped : Spec.apply timestamp { tokens := [.shift unit amount, set] } =
      (Step.shift unit amount.toInt).apply timestamp >>= fun next => set.apply next :=
    Spec.apply_pair timestamp _ _
  constructor
  case lands =>
    intro inYears
    simp only [CivilDate.InYears, sameYear] at inYears
    obtain ⟨middle, shifted, reached⟩ := timestamp.shift_of_allows inYears
    have moves := MovesTo.of_civilTime reached
    obtain ⟨next, applied, movesOn⟩ := sets middle moves.1
    refine ⟨next, ?_, moves.trans movesOn⟩
    rw [stepped, shifted]
    exact applied
  case fails =>
    intro outside
    simp only [CivilDate.InYears, sameYear] at outside
    rw [stepped, timestamp.shift_of_not_allows outside]
    rfl

theorem set_day_moves (timestamp : Timestamp) {value : Nat} (lower : 1 ≤ value)
    (upper : value ≤ timestamp.date.civilMonth.length) :
    ∃ next, timestamp.set .day value = .ok next ∧
      timestamp.MovesTo next (timestamp.date.civilMonth.date value) := by
  obtain ⟨next, accepted⟩ : ∃ next, timestamp.set .day value = .ok next :=
    set_succeeds_iff.mpr ⟨lower, upper⟩
  exact ⟨next, accepted, (set_eq_ok_iff.mp accepted).2⟩

theorem setFirst_moves (timestamp : Timestamp) :
    ∃ next, (Token.set .day (.cardinal 1)).apply timestamp = .ok next ∧
      timestamp.MovesTo next timestamp.date.civilMonth.first :=
  timestamp.set_day_moves (Nat.le_refl 1) (CivilMonth.length_pos _ timestamp.civilMonth_valid)

theorem setLast_moves (timestamp : Timestamp) :
    ∃ next, (Token.set .day .last).apply timestamp = .ok next ∧
      timestamp.MovesTo next timestamp.date.civilMonth.last :=
  timestamp.set_day_moves (CivilMonth.length_pos _ timestamp.civilMonth_valid) (Nat.le_refl _)

section MonthShifts

/-- The last day taken before a shift by months (`early`), beside the last day taken after it
(`late`). Both are in the month that is reached, and they are one if the first month is not the
shorter one. -/
structure LastDayAround (timestamp : Timestamp) (amount : Int) (early late : Timestamp) : Prop where
  reached : late.date.civilMonth = timestamp.date.civilMonth.away amount
  sameYear : early.year = late.year
  sameMonth : early.month = late.month
  sameTime : early.time = late.time
  earlyDay : early.day.val =
    min timestamp.date.civilMonth.length late.date.civilMonth.length
  lateDay : late.day.val = late.date.civilMonth.length
  same_iff : early = late ↔ late.date.civilMonth.length ≤ timestamp.date.civilMonth.length

theorem lastDayAround_of_moves {early late : Timestamp} (amount : Int)
    (earlyMoves : timestamp.MovesTo early (timestamp.date.civilMonth.last.monthsAway amount))
    (lateMoves : timestamp.MovesTo late (timestamp.date.civilMonth.away amount).last) :
    timestamp.LastDayAround amount early late := by
  have earlyMonth : early.date.civilMonth = timestamp.date.civilMonth.away amount :=
    congrArg CivilDate.civilMonth earlyMoves.1
  have lateMonth : late.date.civilMonth = timestamp.date.civilMonth.away amount :=
    congrArg CivilDate.civilMonth lateMoves.1
  have sameMonth := earlyMonth.trans lateMonth.symm
  have sameTime := earlyMoves.2.trans lateMoves.2.symm
  have earlyDay : early.day.val =
      min timestamp.date.civilMonth.length late.date.civilMonth.length := by
    rw [lateMonth]
    exact congrArg CivilDate.day earlyMoves.1
  have lateDay : late.day.val = late.date.civilMonth.length := by
    rw [lateMonth]
    exact congrArg CivilDate.day lateMoves.1
  refine ⟨lateMonth, Bounded.ext (Int.ofNat.inj (congrArg CivilMonth.year sameMonth)),
    Bounded.ext (congrArg CivilMonth.month sameMonth), sameTime, earlyDay, lateDay, ?_⟩
  constructor
  · rintro rfl
    omega
  · intro long
    exact eq_of_parts_eq sameMonth (by omega) sameTime

/-- The last day of the month and a shift by months, taken in both orders, fail with one error or
reach one month, where they agree if that month is not the longer one. -/
theorem lastDay_around_months (timestamp : Timestamp) (amount : Int64) :
    Agree (timestamp.LastDayAround amount.toInt)
      (Spec.apply timestamp { tokens := [.set .day .last, .shift .month amount] })
      (Spec.apply timestamp { tokens := [.shift .month amount, .set .day .last] }) ∧
    ((∃ early, Spec.apply timestamp { tokens := [.set .day .last, .shift .month amount] } =
        .ok early) ↔
      1 ≤ (timestamp.date.civilMonth.away amount.toInt).year ∧
        (timestamp.date.civilMonth.away amount.toInt).year ≤ 9999) := by
  obtain ⟨last, applied, moves⟩ := timestamp.setLast_moves
  have sameMonth : last.date.civilMonth = timestamp.date.civilMonth := by
    rw [moves.1]
    rfl
  have sameRange : last.shiftRange .month = timestamp.shiftRange .month :=
    congrArg (fun month : CivilMonth => ShiftRange.months month.year month.month) sameMonth
  have early : timestamp.LeadsTo [.set .day .last, .shift .month amount]
      (timestamp.date.civilMonth.last.monthsAway amount.toInt)
      ((last.shiftRange .month).rejected amount.toInt) := leadsTo_set_shift applied moves
  have late : timestamp.LeadsTo [.shift .month amount, .set .day .last]
      (timestamp.date.civilMonth.away amount.toInt).last
      ((timestamp.shiftRange .month).rejected amount.toInt) := by
    refine leadsTo_shift_set (fun middle date => ?_) rfl
    have sets := middle.setLast_moves
    rw [date] at sets
    exact sets
  -- The two orders reach dates of one year, so neither fails without the other.
  by_cases inYears : (timestamp.date.civilMonth.last.monthsAway amount.toInt).InYears
  · obtain ⟨earlyNext, earlyApplied, earlyMoves⟩ := early.lands inYears
    obtain ⟨lateNext, lateApplied, lateMoves⟩ := late.lands inYears
    rw [earlyApplied, lateApplied]
    exact ⟨.ok (lastDayAround_of_moves _ earlyMoves lateMoves), fun _ => inYears,
      fun _ => ⟨earlyNext, rfl⟩⟩
  · rw [early.fails inYears, late.fails inYears, sameRange]
    refine ⟨.error _, ?_, fun inside => absurd inside inYears⟩
    rintro ⟨_, succeeds⟩
    cases succeeds

example :
    let april : Timestamp :=
      { march31 with month := ⟨4, by decide, by decide⟩, day := ⟨15, by decide, by decide⟩ }
    (Spec.apply april { tokens := [.set .day .last, .shift .month (-1)] }).map (·.day.val) =
        .ok 30 ∧
      Spec.apply april { tokens := [.shift .month (-1), .set .day .last] } = .ok march31 := by
  decide +kernel

end MonthShifts

section Idioms

theorem evaluate_of_written {tokens : List Token} {text : String}
    (written : toString ({ tokens } : Spec) = text) (strictness : Strictness) :
    evaluate timestamp text strictness =
      (Spec.apply timestamp { tokens }).mapError .invalidField := by
  subst written
  exact evaluate_of_accepted timestamp ((Spec.spaced_toString tokens).read strictness)

/-- Evaluating any of the texts, leniently or strictly, leads to the same timestamp, on the given
date with the time as it was. From one month alone none of them leads anywhere. -/
structure Coincide (timestamp : Timestamp) (texts : List String) (target : CivilDate)
    (blocked : CivilMonth) : Prop where
  lands : timestamp.date.civilMonth ≠ blocked → ∃ next, timestamp.MovesTo next target ∧
    ∀ text ∈ texts, ∀ strictness, evaluate timestamp text strictness = .ok next
  fails : timestamp.date.civilMonth = blocked →
    ∀ text ∈ texts, ∀ strictness, ∃ report,
      evaluate timestamp text strictness = .error (.invalidField report)

theorem coincide_of_leadsTo {text : String} {others : List String} {target : CivilDate}
    {blocked : CivilMonth} (inYears_iff : target.InYears ↔ timestamp.date.civilMonth ≠ blocked)
    (leads : ∀ spec ∈ text :: others, ∃ tokens report,
      toString ({ tokens } : Spec) = spec ∧ timestamp.LeadsTo tokens target report) :
    timestamp.Coincide (text :: others) target blocked := by
  have lands : target.InYears → ∀ spec ∈ text :: others, ∃ next, timestamp.MovesTo next target ∧
      ∀ strictness, evaluate timestamp spec strictness = .ok next := by
    intro inYears spec member
    obtain ⟨tokens, report, written, leads⟩ := leads spec member
    obtain ⟨next, applied, moves⟩ := leads.lands inYears
    refine ⟨next, moves, fun strictness => ?_⟩
    rw [evaluate_of_written written, applied]
    rfl
  constructor
  case lands =>
    intro free
    have inYears := inYears_iff.mpr free
    obtain ⟨next, moves, _⟩ := lands inYears text List.mem_cons_self
    refine ⟨next, moves, fun spec member strictness => ?_⟩
    obtain ⟨other, otherMoves, evaluated⟩ := lands inYears spec member
    rw [evaluated, otherMoves.unique moves]
  case fails =>
    intro stuck spec member strictness
    obtain ⟨tokens, report, written, leads⟩ := leads spec member
    have outside : ¬target.InYears := fun inYears => inYears_iff.mp inYears stuck
    refine ⟨report, ?_⟩
    rw [evaluate_of_written written, leads.fails outside]
    rfl

theorem nextFirst_leads (timestamp : Timestamp) :
    (∃ report, timestamp.LeadsTo [.set .day .last, .shift .day 1]
      timestamp.date.civilMonth.next.first report) ∧
    (∃ report, timestamp.LeadsTo [.set .day (.cardinal 1), .shift .month 1]
      timestamp.date.civilMonth.next.first report) ∧
    ∃ report, timestamp.LeadsTo [.shift .month 1, .set .day (.cardinal 1)]
      timestamp.date.civilMonth.next.first report := by
  have valid := timestamp.civilMonth_valid
  obtain ⟨first, setFirst, firstMoves⟩ := timestamp.setFirst_moves
  obtain ⟨last, setLast, lastMoves⟩ := timestamp.setLast_moves
  refine ⟨?_, ?_, ?_⟩
  · rw [← CivilMonth.last_dayLater _ valid]
    exact ⟨_, leadsTo_set_shift setLast lastMoves⟩
  · rw [← CivilMonth.first_monthLater _ valid]
    exact ⟨_, leadsTo_set_shift setFirst firstMoves⟩
  · refine ⟨_, leadsTo_shift_set (fun middle date => ?_) rfl⟩
    have sets := middle.setFirst_moves
    rw [date] at sets
    exact sets

theorem previousLast_leads (timestamp : Timestamp) :
    (∃ report, timestamp.LeadsTo [.set .day (.cardinal 1), .shift .day (-1)]
      timestamp.date.civilMonth.previous.last report) ∧
    ∃ report, timestamp.LeadsTo [.shift .month (-1), .set .day .last]
      timestamp.date.civilMonth.previous.last report := by
  have valid := timestamp.civilMonth_valid
  obtain ⟨first, setFirst, firstMoves⟩ := timestamp.setFirst_moves
  constructor
  · rw [← CivilMonth.first_dayEarlier _ valid]
    exact ⟨_, leadsTo_set_shift setFirst firstMoves⟩
  · refine ⟨_, leadsTo_shift_set (fun middle date => ?_) rfl⟩
    have sets := middle.setLast_moves
    rw [date] at sets
    exact sets

/-- The texts for the first day of the next month come to the same from everywhere, and so do those
for the last day of the previous one. They stop at the last and at the first month of all. -/
theorem monthEnd_idioms (timestamp : Timestamp) :
    timestamp.Coincide ["=LD+1D", "=1D+1M", "+1M=1D"] timestamp.date.civilMonth.next.first
      CivilMonth.latest ∧
    timestamp.Coincide ["=1D-1D", "-1M=LD"] timestamp.date.civilMonth.previous.last
      CivilMonth.earliest := by
  have valid := timestamp.civilMonth_valid
  have lower : 1 ≤ timestamp.date.civilMonth.year := Int.ofNat_le.mpr timestamp.year.least_le
  have upper : timestamp.date.civilMonth.year ≤ 9999 := Int.ofNat_le.mpr timestamp.year.le_greatest
  constructor
  · obtain ⟨⟨_, byDay⟩, ⟨_, byMonth⟩, _, monthBefore⟩ := timestamp.nextFirst_leads
    apply coincide_of_leadsTo (CivilMonth.next_inYears_iff _ valid lower upper)
    intro spec member
    simp only [List.mem_cons, List.not_mem_nil, or_false] at member
    rcases member with rfl | rfl | rfl
    · exact ⟨_, _, rfl, byDay⟩
    · exact ⟨_, _, rfl, byMonth⟩
    · exact ⟨_, _, rfl, monthBefore⟩
  · obtain ⟨⟨_, byDay⟩, _, monthBefore⟩ := timestamp.previousLast_leads
    apply coincide_of_leadsTo (CivilMonth.previous_inYears_iff _ valid lower upper)
    intro spec member
    simp only [List.mem_cons, List.not_mem_nil, or_false] at member
    rcases member with rfl | rfl
    · exact ⟨_, _, rfl, byDay⟩
    · exact ⟨_, _, rfl, monthBefore⟩

end Idioms

end Timestamp

end DateAdjust
