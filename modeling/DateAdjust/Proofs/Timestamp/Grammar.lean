import DateAdjust.Proofs.Result
import DateAdjust.Proofs.Text.Cutting
import DateAdjust.Proofs.Token.Grammar
import DateAdjust.Timestamp.Reader
import Mathlib.Algebra.Group.Nat.Defs

/-! The grammar of timestamps: which texts have the form of one and the numbers they stand for. The
reader reports a bad format where there are none. -/

namespace DateAdjust

theorem Decimal.Denotes.not_mem {digits : List Char} {number : Nat}
    (denotes : Decimal.Denotes digits number) {char : Char} (noDigit : char.isDigit = false) :
    char ∉ digits := by
  intro member
  rw [denotes.isDigit char member] at noDigit
  cases noDigit

theorem Decimal.isDigit_bounds {char : Char} (isDigit : char.isDigit) :
    48 ≤ char.toNat ∧ char.toNat ≤ 57 := by
  simp only [Char.isDigit, Bool.and_eq_true, decide_eq_true_eq] at isDigit
  exact isDigit

theorem Decimal.ofDigitChars_lt {digits : List Char} (isDigit : ∀ char ∈ digits, char.isDigit)
    (front : Nat) : Nat.ofDigitChars 10 digits front < (front + 1) * 10 ^ digits.length := by
  induction digits generalizing front with
  | nil => simp
  | cons char digits ih =>
      have later := ih (fun char member => isDigit char (List.mem_cons_of_mem _ member))
        (10 * front + (char.toNat - '0'.toNat))
      have small : char.toNat - '0'.toNat ≤ 9 := by
        have upper := (isDigit_bounds (isDigit char List.mem_cons_self)).2
        change char.toNat - 48 ≤ 9
        omega
      rw [Nat.ofDigitChars_cons, List.length_cons, Nat.pow_succ']
      refine Nat.lt_of_lt_of_le later ?_
      rw [← Nat.mul_assoc]
      exact Nat.mul_le_mul_right _ (by omega)

theorem Decimal.Denotes.lt_pow {digits : List Char} {number : Nat}
    (denotes : Decimal.Denotes digits number) : number < 10 ^ digits.length := by
  have bound := Decimal.ofDigitChars_lt denotes.isDigit 0
  rwa [denotes.value, Nat.zero_add, Nat.one_mul] at bound

theorem Text.byteLength_digits {digits : List Char} (isDigit : ∀ char ∈ digits, char.isDigit) :
    byteLength digits = digits.length := by
  induction digits with
  | nil => rfl
  | cons char digits ih =>
      have later := ih fun char member => isDigit char (List.mem_cons_of_mem _ member)
      have upper := (Decimal.isDigit_bounds (isDigit char List.mem_cons_self)).2
      have single : char.utf8Size = 1 := by
        rw [Char.utf8Size, if_pos]
        exact UInt32.le_iff_toNat_le.mpr (Nat.le_trans upper (by decide))
      rw [byteLength_cons, later, single, List.length_cons, Nat.add_comm]

namespace Timestamp

def NumberForm (limit : Nat) (text : List Char) (number : Nat) : Prop :=
  Decimal.Denotes text number ∧ number ≤ limit

/-- One to three digits behind the point, in thousandths. -/
inductive FractionForm : List Char → Nat → Prop
  | digits {text : List Char} {number : Nat} : Decimal.Denotes text number → text.length ≤ 3 →
      FractionForm text (number * 10 ^ (3 - text.length))

inductive SecondForm : List Char → Nat × Nat → Prop
  | whole {text : List Char} {second : Nat} : NumberForm 255 text second →
      SecondForm text (second, 0)
  | fraction {whole digits : List Char} {second millisecond : Nat} :
      NumberForm 255 whole second → FractionForm digits millisecond →
      SecondForm (whole ++ '.' :: digits) (second, millisecond)

inductive DateForm : List Char → Nat × Nat × Nat → Prop
  | numbers {yearText monthText dayText : List Char} {year month day : Nat} :
      NumberForm 65535 yearText year → NumberForm 255 monthText month →
      NumberForm 255 dayText day →
      DateForm (yearText ++ '-' :: (monthText ++ '-' :: dayText)) (year, month, day)

inductive TimeForm : List Char → Nat × Nat × Nat × Nat → Prop
  | minutes {hourText minuteText : List Char} {hour minute : Nat} :
      NumberForm 255 hourText hour → NumberForm 255 minuteText minute →
      TimeForm (hourText ++ ':' :: minuteText) (hour, minute, 0, 0)
  | seconds {hourText minuteText secondText : List Char} {hour minute second millisecond : Nat} :
      NumberForm 255 hourText hour → NumberForm 255 minuteText minute →
      SecondForm secondText (second, millisecond) →
      TimeForm (hourText ++ ':' :: (minuteText ++ ':' :: secondText))
        (hour, minute, second, millisecond)

/-- A date alone, which stands for its midnight, or a date and a time between which there is a T or
a space. Neither of the two is in a date, so this is the first one of the text. -/
inductive Form : List Char → Numbers → Prop
  | date {text : List Char} {year month day : Nat} : DateForm text (year, month, day) →
      Form text { year, month, day, hour := 0, minute := 0, second := 0, millisecond := 0 }
  | dateTime {dateText rest timeText : List Char} {separator : Char}
      {year month day hour minute second millisecond : Nat} :
      DateForm dateText (year, month, day) → separator = 'T' ∨ separator = ' ' →
      Text.TrimsTo rest timeText → TimeForm timeText (hour, minute, second, millisecond) →
      Form (dateText ++ separator :: rest)
        { year, month, day, hour, minute, second, millisecond }

/-- A result that has a value exactly if the value is meant, and has no value because of the format
alone. -/
structure Reads {α : Type} (result : Except ReadError α) (Means : α → Prop) : Prop where
  eq_ok_iff : ∀ value, result = .ok value ↔ Means value
  malformed : ∀ error, result = .error error → ∃ detail, error = .invalidFormat detail

namespace Reads

variable {α β : Type}

theorem pure (value : α) : Reads (.ok value) (· = value) where
  eq_ok_iff other := by
    rw [Except.ok.injEq]
    exact eq_comm
  malformed error fails := nomatch fails

theorem invalidFormat {Means : α → Prop} (detail : String) (meaningless : ∀ value, ¬Means value) :
    Reads (.error (.invalidFormat detail)) Means where
  eq_ok_iff value := by
    constructor
    · intro succeeds
      cases succeeds
    · intro means
      exact absurd means (meaningless value)
  malformed error fails := by
    cases fails
    exact ⟨detail, rfl⟩

theorem bind {result : Except ReadError α} {next : α → Except ReadError β} {First : α → Prop}
    {Later : α → β → Prop} (first : Reads result First)
    (later : ∀ value, Reads (next value) (Later value)) :
    Reads (result >>= next) fun final => ∃ value, First value ∧ Later value final where
  eq_ok_iff final := by
    rw [Result.bind_eq_ok_iff]
    constructor
    · rintro ⟨value, found, succeeds⟩
      exact ⟨value, (first.eq_ok_iff value).mp found, ((later value).eq_ok_iff final).mp succeeds⟩
    · rintro ⟨value, means, meansLater⟩
      exact ⟨value, (first.eq_ok_iff value).mpr means,
        ((later value).eq_ok_iff final).mpr meansLater⟩
  malformed error fails := by
    cases found : result with
    | error reason =>
        rw [found] at fails
        cases fails
        exact first.malformed error found
    | ok value =>
        rw [found] at fails
        exact (later value).malformed error fails

theorem congr {result : Except ReadError α} {Means Other : α → Prop} (reads : Reads result Means)
    (same : ∀ value, Other value ↔ Means value) : Reads result Other where
  eq_ok_iff value := (reads.eq_ok_iff value).trans (same value).symm
  malformed := reads.malformed

end Reads

theorem readNumber_reads (limit : Nat) (text : List Char) :
    Reads (readNumber limit text) (NumberForm limit text) := by
  simp only [readNumber]
  split
  next number found =>
    have denotes := Decimal.read?_eq_some_iff.mp found
    split
    next small =>
      refine (Reads.pure number).congr ?_
      intro other
      constructor
      · rintro ⟨alsoDenotes, _⟩
        exact alsoDenotes.value.symm.trans denotes.value
      · rintro rfl
        exact ⟨denotes, small⟩
    next large =>
      refine .invalidFormat _ ?_
      rintro other ⟨alsoDenotes, small⟩
      rw [alsoDenotes.value.symm.trans denotes.value] at small
      exact large small
  next missing =>
    refine .invalidFormat _ ?_
    rintro number ⟨denotes, _⟩
    rw [Decimal.read?_eq_some_iff.mpr denotes] at missing
    cases missing

theorem readFraction_reads (text : List Char) : Reads (readFraction text) (FractionForm text) := by
  simp only [readFraction]
  split
  next long =>
    refine .invalidFormat _ ?_
    rintro value ⟨denotes, short⟩
    rw [Text.byteLength_digits denotes.isDigit, fractionDigits] at long
    omega
  next short =>
    refine ((readNumber_reads 999 text).bind fun number => .pure _).congr ?_
    intro value
    constructor
    · rintro ⟨denotes, fits⟩
      refine ⟨_, ⟨denotes, ?_⟩, rfl⟩
      have bound := Nat.lt_of_lt_of_le denotes.lt_pow (Nat.pow_le_pow_right (by decide) fits)
      omega
    · rintro ⟨number, ⟨denotes, _⟩, rfl⟩
      rw [Text.byteLength_digits denotes.isDigit, fractionDigits] at short
      exact .digits denotes (by omega)

section Separators

variable {text : List Char} {char : Char}

theorem NumberForm.not_mem {limit number : Nat} (isNumber : NumberForm limit text number)
    (noDigit : char.isDigit = false) : char ∉ text :=
  isNumber.1.not_mem noDigit

theorem SecondForm.not_mem {value : Nat × Nat} (isSecond : SecondForm text value)
    (noDigit : char.isDigit = false) (noPoint : char ≠ '.') : char ∉ text := by
  cases isSecond with
  | whole isNumber => exact isNumber.not_mem noDigit
  | fraction isNumber isFraction =>
      cases isFraction with
      | digits denotes _ =>
          rw [List.mem_append, List.mem_cons]
          rintro (inWhole | rfl | inDigits)
          · exact isNumber.not_mem noDigit inWhole
          · exact noPoint rfl
          · exact denotes.not_mem noDigit inDigits

theorem DateForm.not_mem {value : Nat × Nat × Nat} (isDate : DateForm text value)
    (noDigit : char.isDigit = false) (noDash : char ≠ '-') : char ∉ text := by
  cases isDate with
  | numbers isYear isMonth isDay =>
      simp only [List.mem_append, List.mem_cons]
      rintro (inYear | rfl | inMonth | rfl | inDay)
      · exact isYear.not_mem noDigit inYear
      · exact noDash rfl
      · exact isMonth.not_mem noDigit inMonth
      · exact noDash rfl
      · exact isDay.not_mem noDigit inDay

end Separators

theorem readSeconds_reads (text : List Char) : Reads (readSeconds text) (SecondForm text) := by
  -- No digits hold the point, so the form has a fraction exactly where the point cuts the text.
  have noPoint : ∀ {digits : List Char} {number : Nat}, NumberForm 255 digits number →
      ∀ char ∈ digits, (char == fractionSeparator) = false := by
    intro digits number isNumber char member
    rw [beq_eq_false_iff_ne]
    rintro rfl
    exact isNumber.not_mem (by decide) member
  have point : ('.' == fractionSeparator) = true := by decide
  simp only [readSeconds]
  split
  next whole cut =>
    refine ((readNumber_reads 255 whole).bind fun second => .pure (second, 0)).congr ?_
    intro value
    constructor
    · intro isSecond
      cases isSecond with
      | whole isNumber =>
          rw [Text.splitOnce_of_not_mem (noPoint isNumber)] at cut
          cases cut
          exact ⟨_, isNumber, rfl⟩
      | fraction isNumber _ =>
          rw [Text.splitOnce_append (noPoint isNumber) point] at cut
          cases cut
    · rintro ⟨second, isNumber, rfl⟩
      rw [Text.eq_of_splitOnce_none cut]
      exact .whole isNumber
  next whole digits cut =>
    refine ((readNumber_reads 255 whole).bind fun second => (readFraction_reads digits).bind
      fun millisecond => .pure (second, millisecond)).congr ?_
    intro value
    constructor
    · intro isSecond
      cases isSecond with
      | whole isNumber =>
          rw [Text.splitOnce_of_not_mem (noPoint isNumber)] at cut
          cases cut
      | fraction isNumber isFraction =>
          rw [Text.splitOnce_append (noPoint isNumber) point] at cut
          cases cut
          exact ⟨_, isNumber, _, isFraction, rfl⟩
    · rintro ⟨second, isNumber, millisecond, isFraction, rfl⟩
      obtain ⟨separator, separates, rfl⟩ := Text.eq_of_splitOnce_some cut
      rw [beq_iff_eq.mp separates]
      exact .fraction isNumber isFraction

theorem readDate_reads (text : List Char) : Reads (readDate text) (DateForm text) := by
  have numbersCut : ∀ {yearText monthText dayText : List Char} {year month day : Nat},
      NumberForm 65535 yearText year → NumberForm 255 monthText month →
      NumberForm 255 dayText day →
      (yearText ++ '-' :: (monthText ++ '-' :: dayText)).splitOn dateSeparator =
        [yearText, monthText, dayText] := by
    intro yearText monthText dayText year month day isYear isMonth isDay
    exact Text.splitOn_of_three (isYear.not_mem (by decide)) (isMonth.not_mem (by decide))
      (isDay.not_mem (by decide))
  simp only [readDate]
  split
  next yearText monthText dayText cut =>
    refine ((readNumber_reads yearLimit yearText).bind fun year =>
      (readNumber_reads fieldLimit monthText).bind fun month =>
      (readNumber_reads fieldLimit dayText).bind fun day => .pure (year, month, day)).congr ?_
    intro value
    constructor
    · intro isDate
      cases isDate with
      | numbers isYear isMonth isDay =>
          rw [numbersCut isYear isMonth isDay] at cut
          cases cut
          exact ⟨_, isYear, _, isMonth, _, isDay, rfl⟩
    · rintro ⟨year, isYear, month, isMonth, day, isDay, rfl⟩
      rw [Text.eq_of_splitOn_three cut]
      exact .numbers isYear isMonth isDay
  next other =>
    refine .invalidFormat _ ?_
    intro value isDate
    cases isDate with
    | numbers isYear isMonth isDay => exact other _ _ _ (numbersCut isYear isMonth isDay)

theorem readTime_reads (text : List Char) : Reads (readTime text) (TimeForm text) := by
  have minutesCut : ∀ {hourText minuteText : List Char} {hour minute : Nat},
      NumberForm 255 hourText hour → NumberForm 255 minuteText minute →
      (hourText ++ ':' :: minuteText).splitOn timeSeparator = [hourText, minuteText] := by
    intro hourText minuteText hour minute isHour isMinute
    exact Text.splitOn_of_two (isHour.not_mem (by decide)) (isMinute.not_mem (by decide))
  have secondsCut : ∀ {hourText minuteText secondText : List Char} {hour minute : Nat}
      {second : Nat × Nat}, NumberForm 255 hourText hour → NumberForm 255 minuteText minute →
      SecondForm secondText second →
      (hourText ++ ':' :: (minuteText ++ ':' :: secondText)).splitOn timeSeparator =
        [hourText, minuteText, secondText] := by
    intro hourText minuteText secondText hour minute second isHour isMinute isSecond
    exact Text.splitOn_of_three (isHour.not_mem (by decide)) (isMinute.not_mem (by decide))
      (isSecond.not_mem (by decide) (by decide))
  simp only [readTime]
  split
  next hourText minuteText cut =>
    refine ((readNumber_reads fieldLimit hourText).bind fun hour =>
      (readNumber_reads fieldLimit minuteText).bind fun minute =>
        .pure (hour, minute, 0, 0)).congr ?_
    intro value
    constructor
    · intro isTime
      cases isTime with
      | minutes isHour isMinute =>
          rw [minutesCut isHour isMinute] at cut
          cases cut
          exact ⟨_, isHour, _, isMinute, rfl⟩
      | seconds isHour isMinute isSecond =>
          rw [secondsCut isHour isMinute isSecond] at cut
          cases cut
    · rintro ⟨hour, isHour, minute, isMinute, rfl⟩
      rw [Text.eq_of_splitOn_two cut]
      exact .minutes isHour isMinute
  next hourText minuteText secondText cut =>
    refine ((readSeconds_reads secondText).bind fun second =>
      (readNumber_reads fieldLimit hourText).bind fun hour =>
      (readNumber_reads fieldLimit minuteText).bind fun minute =>
        .pure (hour, minute, second)).congr ?_
    intro value
    constructor
    · intro isTime
      cases isTime with
      | minutes isHour isMinute =>
          rw [minutesCut isHour isMinute] at cut
          cases cut
      | seconds isHour isMinute isSecond =>
          rw [secondsCut isHour isMinute isSecond] at cut
          cases cut
          exact ⟨_, isSecond, _, isHour, _, isMinute, rfl⟩
    · rintro ⟨second, isSecond, hour, isHour, minute, isMinute, rfl⟩
      rw [Text.eq_of_splitOn_three cut]
      exact .seconds isHour isMinute isSecond
  next noMinutes noSeconds =>
    refine .invalidFormat _ ?_
    intro value isTime
    cases isTime with
    | minutes isHour isMinute => exact noMinutes _ _ (minutesCut isHour isMinute)
    | seconds isHour isMinute isSecond =>
        exact noSeconds _ _ _ (secondsCut isHour isMinute isSecond)

theorem readNumbers_of_blank {text : List Char} (blank : Text.trim text = []) :
    readNumbers text = .error .emptyInput := by
  rw [readNumbers, if_pos blank]

theorem readNumbers_reads {text : List Char} (visible : Text.trim text ≠ []) :
    Reads (readNumbers text) (Form (Text.trim text)) := by
  have noSeparator : ∀ {dateText : List Char} {date : Nat × Nat × Nat}, DateForm dateText date →
      ∀ char ∈ dateText, (char == dateTimeSeparator || char == ' ') = false := by
    intro dateText date isDate char member
    rw [Bool.or_eq_false_iff, beq_eq_false_iff_ne, beq_eq_false_iff_ne]
    constructor
    · rintro rfl
      exact isDate.not_mem (by decide) (by decide) member
    · rintro rfl
      exact isDate.not_mem (by decide) (by decide) member
  have separates : ∀ separator : Char, (separator == dateTimeSeparator || separator == ' ') = true ↔
      separator = 'T' ∨ separator = ' ' := by
    intro separator
    simp [dateTimeSeparator]
  rw [readNumbers, if_neg visible]
  generalize Text.trim text = core
  split
  next dateText cut =>
    refine ((readDate_reads dateText).bind fun date => .pure
      ({ year := date.1, month := date.2.1, day := date.2.2,
         hour := 0, minute := 0, second := 0, millisecond := 0 } : Numbers)).congr ?_
    intro numbers
    constructor
    · intro isForm
      cases isForm with
      | date isDate =>
          rw [Text.splitOnce_of_not_mem (noSeparator isDate)] at cut
          cases cut
          exact ⟨_, isDate, rfl⟩
      | dateTime isDate isSeparator _ _ =>
          rw [Text.splitOnce_append (noSeparator isDate) ((separates _).mpr isSeparator)] at cut
          cases cut
    · rintro ⟨date, isDate, rfl⟩
      rw [Text.eq_of_splitOnce_none cut]
      exact .date isDate
  next dateText rest cut =>
    refine ((readDate_reads dateText).bind fun date => (readTime_reads (Text.trim rest)).bind
      fun time => .pure
      ({ year := date.1, month := date.2.1, day := date.2.2,
         hour := time.1, minute := time.2.1, second := time.2.2.1,
         millisecond := time.2.2.2 } : Numbers)).congr ?_
    intro numbers
    constructor
    · intro isForm
      cases isForm with
      | date isDate =>
          rw [Text.splitOnce_of_not_mem (noSeparator isDate)] at cut
          cases cut
      | dateTime isDate isSeparator trims isTime =>
          rw [Text.splitOnce_append (noSeparator isDate) ((separates _).mpr isSeparator)] at cut
          cases cut
          rw [trims.eq_trim] at isTime
          exact ⟨_, isDate, _, isTime, rfl⟩
    · rintro ⟨date, isDate, time, isTime, rfl⟩
      obtain ⟨separator, isSeparator, rfl⟩ := Text.eq_of_splitOnce_some cut
      exact .dateTime isDate ((separates separator).mp isSeparator) (Text.trimsTo_trim rest) isTime

end Timestamp

end DateAdjust
