import DateAdjust.Proofs.Timestamp.Grammar

/-! What reading a timestamp comes to, for every text. The numbers of a text are held against their
ranges, the time before the date, and the first one out of range is reported. -/

namespace DateAdjust

def FieldError.Violated (report : FieldError) : Prop :=
  ¬(report.min ≤ report.value ∧ report.value ≤ report.max)

instance (report : FieldError) : Decidable report.Violated :=
  inferInstanceAs (Decidable ¬(_ ∧ _))

def firstViolated (reports : List FieldError) : Option FieldError :=
  reports.find? fun report => report.Violated

/-- A result of checks in the order of their reports: the first one that is violated, or a value
with the property if none is. -/
def Checks {α : Type} (reports : List FieldError) (result : Except FieldError α)
    (Holds : α → Prop) : Prop :=
  match firstViolated reports with
  | some report => result = .error report
  | none => ∃ value, result = .ok value ∧ Holds value

namespace Checks

variable {α β : Type}

theorem pure {Holds : α → Prop} {value : α} (holds : Holds value) :
    Checks [] (.ok value) Holds :=
  ⟨value, rfl, holds⟩

theorem bind {reports later : List FieldError} {result : Except FieldError α}
    {next : α → Except FieldError β} {Holds : α → Prop} {HoldsLater : β → Prop}
    (checks : Checks reports result Holds)
    (checksLater : ∀ value, Holds value → Checks later (next value) HoldsLater) :
    Checks (reports ++ later) (result >>= next) HoldsLater := by
  simp only [Checks, firstViolated, List.find?_append] at *
  split at checks
  next report found =>
    rw [found, checks]
    rfl
  next missing =>
    obtain ⟨value, rfl, holds⟩ := checks
    rw [missing]
    exact checksLater value holds

theorem single {report : FieldError} {result : Except FieldError α} {Holds : α → Prop}
    (accepts : report.min ≤ report.value → report.value ≤ report.max →
      ∃ value, result = .ok value ∧ Holds value)
    (refuses : ¬(report.min ≤ report.value ∧ report.value ≤ report.max) →
      result = .error report) : Checks [report] result Holds := by
  by_cases inside : report.min ≤ report.value ∧ report.value ≤ report.max
  · have kept : firstViolated [report] = none := by
      simp [firstViolated, FieldError.Violated, inside]
    rw [Checks, kept]
    exact accepts inside.1 inside.2
  · have found : firstViolated [report] = some report := by
      simp [firstViolated, FieldError.Violated, inside]
    rw [Checks, found]
    exact refuses inside

theorem eq_error_iff {reports : List FieldError} {result : Except FieldError α} {Holds : α → Prop}
    (checks : Checks reports result Holds) (report : FieldError) :
    result = .error report ↔ firstViolated reports = some report := by
  rw [Checks] at checks
  split at checks
  next found same => rw [same, checks, Except.error.injEq, Option.some.injEq]
  next missing =>
    obtain ⟨value, rfl, _⟩ := checks
    simp [missing]

theorem holds {reports : List FieldError} {result : Except FieldError α} {Holds : α → Prop}
    (checks : Checks reports result Holds) {value : α} (succeeds : result = .ok value) :
    Holds value := by
  rw [Checks] at checks
  split at checks
  next => cases checks.symm.trans succeeds
  next =>
    obtain ⟨other, found, holds⟩ := checks
    cases found.symm.trans succeeds
    exact holds

end Checks

theorem Bounded.check_checks {least greatest : Nat} (field : Field) (value : Int) :
    Checks [{ field, value, min := least, max := greatest }]
      (check field value : Except FieldError (Bounded least greatest))
      fun number => (number.val : Int) = value :=
  .single (check_of_mem field value) (check_of_not_mem field value)

theorem Day.checkIn_checks (year : Int) (month : Month) (value : Int) :
    Checks [{ field := .day, value, min := 1, max := monthLength year month.val }]
      (checkIn year month value) fun day => (day.val : Int) = value :=
  .single (checkIn_of_mem year month value) (checkIn_of_not_mem year month value)

theorem TimeOfDay.check_checks (hour minute second : Int) {millisecond : Int}
    (lower : 0 ≤ millisecond) (upper : millisecond ≤ 999) :
    Checks
      [{ field := .hour, value := hour, min := 0, max := 23 },
        { field := .minute, value := minute, min := 0, max := 59 },
        { field := .second, value := second, min := 0, max := 59 }]
      (check hour minute second millisecond) fun time =>
        (time.hour.val : Int) = hour ∧ (time.minute.val : Int) = minute ∧
        (time.second.val : Int) = second ∧ (time.millisecond.val : Int) = millisecond := by
  obtain ⟨checkedMillisecond, checked, millisecondEq⟩ :
      ∃ number : Bounded 0 999, Bounded.check .millisecond millisecond = .ok number ∧
        (number.val : Int) = millisecond :=
    Bounded.check_of_mem .millisecond millisecond lower upper
  refine (Bounded.check_checks .hour hour).bind fun checkedHour hourEq =>
    (Bounded.check_checks .minute minute).bind fun checkedMinute minuteEq =>
    (Bounded.check_checks .second second).bind fun checkedSecond secondEq => ?_
  rw [checked]
  exact .pure ⟨hourEq, minuteEq, secondEq, millisecondEq⟩

namespace Timestamp

theorem ofDate_checks (year month day : Nat) :
    Checks
      [{ field := .year, value := year, min := 1, max := 9999 },
        { field := .month, value := month, min := 1, max := 12 },
        { field := .day, value := day, min := 1, max := monthLength year month }]
      (ofDate year month day) fun timestamp =>
        timestamp.year.val = year ∧ timestamp.month.val = month ∧ timestamp.day.val = day := by
  refine (Bounded.check_checks .year year).bind fun checkedYear yearEq =>
    (Bounded.check_checks .month month).bind fun checkedMonth monthEq => ?_
  have dayChecks := Day.checkIn_checks checkedYear.val checkedMonth day
  rw [yearEq, Int.ofNat.inj monthEq] at dayChecks
  rw [yearEq]
  exact dayChecks.bind fun checkedDay dayEq =>
    .pure ⟨Int.ofNat.inj yearEq, Int.ofNat.inj monthEq, Int.ofNat.inj dayEq⟩

def numbers (timestamp : Timestamp) : Numbers where
  year := timestamp.year.val
  month := timestamp.month.val
  day := timestamp.day.val
  hour := timestamp.time.hour.val
  minute := timestamp.time.minute.val
  second := timestamp.time.second.val
  millisecond := timestamp.time.millisecond.val

/-- The ranges of the numbers in the order of the checks. The three digits of a fraction, or fewer,
are never out of range. -/
def Numbers.ranges (numbers : Numbers) : List FieldError :=
  [{ field := .hour, value := numbers.hour, min := 0, max := 23 },
    { field := .minute, value := numbers.minute, min := 0, max := 59 },
    { field := .second, value := numbers.second, min := 0, max := 59 },
    { field := .year, value := numbers.year, min := 1, max := 9999 },
    { field := .month, value := numbers.month, min := 1, max := 12 },
    { field := .day, value := numbers.day, min := 1,
      max := monthLength numbers.year numbers.month }]

def Numbers.violation? (numbers : Numbers) : Option FieldError :=
  firstViolated numbers.ranges

theorem ofNumbers_checks {numbers : Numbers} (fits : numbers.millisecond ≤ 999) :
    Checks numbers.ranges (ofNumbers numbers) fun timestamp => timestamp.numbers = numbers := by
  rw [ofNumbers_eq_check]
  refine (TimeOfDay.check_checks numbers.hour numbers.minute numbers.second
    (Int.natCast_nonneg _) (Int.ofNat_le.mpr fits)).bind fun time timeEq =>
    (ofDate_checks numbers.year numbers.month numbers.day).bind fun timestamp dateEq => .pure ?_
  obtain ⟨hourEq, minuteEq, secondEq, millisecondEq⟩ := timeEq
  obtain ⟨yearEq, monthEq, dayEq⟩ := dateEq
  simp only [Timestamp.numbers, withTime, yearEq, monthEq, dayEq, Int.ofNat.inj hourEq,
    Int.ofNat.inj minuteEq, Int.ofNat.inj secondEq, Int.ofNat.inj millisecondEq]

theorem FractionForm.le {text : List Char} {millisecond : Nat}
    (isFraction : FractionForm text millisecond) : millisecond ≤ 999 := by
  cases isFraction with
  | @digits number denotes short =>
      have power : 10 ^ text.length * 10 ^ (3 - text.length) = 10 ^ 3 := by
        rw [← Nat.pow_add, Nat.add_sub_of_le short]
      have bound := Nat.mul_lt_mul_of_pos_right denotes.lt_pow
        (Nat.pow_pos (by decide : 0 < 10) : 0 < 10 ^ (3 - text.length))
      omega

theorem Form.millisecond_le {text : List Char} {numbers : Numbers} (isForm : Form text numbers) :
    numbers.millisecond ≤ 999 := by
  cases isForm with
  | date _ => exact Nat.zero_le _
  | dateTime _ _ _ isTime =>
      cases isTime with
      | minutes _ _ => exact Nat.zero_le _
      | seconds _ _ isSecond =>
          cases isSecond with
          | whole _ => exact Nat.zero_le _
          | fraction _ isFraction => exact isFraction.le

theorem not_form_nil (numbers : Numbers) : ¬Form [] numbers := by
  intro isForm
  generalize empty : ([] : List Char) = text at isForm
  cases isForm with
  | date isDate =>
      cases isDate with
      | numbers => simp at empty
  | dateTime => simp at empty

/-- Every text is trimmed to one core, and read by its form: the empty one is reported as such and
one without a form as malformed. One that has a form stands for its numbers if none of them is out
of range, and is reported with the first that is otherwise. -/
theorem ofString_iff (text : String) :
    ∃ core, (∀ other, Text.TrimsTo text.toList other ↔ other = core) ∧
      (ofString text = .error .emptyInput ↔ core = []) ∧
      ((∃ detail, ofString text = .error (.invalidFormat detail)) ↔
        core ≠ [] ∧ ¬∃ numbers, Form core numbers) ∧
      (∀ error, ofString text = .error (.invalidField error) ↔
        ∃ numbers, Form core numbers ∧ numbers.violation? = some error) ∧
      ∀ numbers, (∃ timestamp, ofString text = .ok timestamp ∧ timestamp.numbers = numbers) ↔
        Form core numbers ∧ numbers.violation? = none := by
  refine ⟨Text.trim text.toList, fun other => Text.trimsTo_iff, ?_⟩
  have unfolded : ofString text = readNumbers text.toList >>= fun numbers =>
      (ofNumbers numbers).mapError .invalidField := rfl
  by_cases blank : Text.trim text.toList = []
  · have result : ofString text = .error .emptyInput := by
      rw [unfolded, readNumbers_of_blank blank]
      rfl
    simp [result, blank, not_form_nil]
  have reads := readNumbers_reads blank
  cases found : readNumbers text.toList with
  | error error =>
      obtain ⟨detail, rfl⟩ := reads.malformed error found
      have result : ofString text = .error (.invalidFormat detail) := by
        rw [unfolded, found]
        rfl
      have noForm : ∀ numbers, ¬Form (Text.trim text.toList) numbers := by
        intro numbers isForm
        rw [(reads.eq_ok_iff numbers).mpr isForm] at found
        cases found
      simp [result, blank, noForm]
  | ok numbers =>
      have isForm := (reads.eq_ok_iff numbers).mp found
      have only : ∀ others, Form (Text.trim text.toList) others ↔ numbers = others := by
        intro others
        rw [← reads.eq_ok_iff others, found, Except.ok.injEq]
      have checks := ofNumbers_checks isForm.millisecond_le
      rw [Checks, ← Numbers.violation?] at checks
      split at checks
      next report violated =>
        have result : ofString text = .error (.invalidField report) := by
          rw [unfolded, found]
          exact congrArg (Except.mapError ReadError.invalidField) checks
        simp [result, blank, only, violated]
      next fits =>
        obtain ⟨timestamp, built, numbersEq⟩ := checks
        have result : ofString text = .ok timestamp := by
          rw [unfolded, found]
          exact congrArg (Except.mapError ReadError.invalidField) built
        simp [result, blank, only, fits, numbersEq]

end Timestamp

end DateAdjust
