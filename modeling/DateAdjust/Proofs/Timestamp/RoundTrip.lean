import DateAdjust.Proofs.Timestamp.Reading
import DateAdjust.Proofs.Timestamp.Validity

/-! Written timestamps read back, with blanks around them and with a space in place of the T as
well. Of their numbers only the day can be out of range, past the end of its month. -/

namespace DateAdjust

theorem Decimal.denotes_writePadded (width number : Nat) :
    Denotes (writePadded width number) number where
  ne_nil := by
    rw [writePadded, List.leftpad, ne_eq, List.append_eq_nil_iff]
    exact fun empty => write_ne_nil number empty.2
  isDigit := by
    intro char member
    rcases List.mem_append.mp member with isZero | written
    · rw [List.eq_of_mem_replicate isZero]
      decide
    · exact isDigit_of_mem_write written
  value := by
    rw [writePadded, List.leftpad, Nat.ofDigitChars_append, Nat.ofDigitChars_replicate_zero,
      Nat.mul_zero, write, Nat.ofDigitChars_ten_toDigits]

theorem Decimal.length_writePadded {width number : Nat} (positive : 0 < width)
    (fits : number < 10 ^ width) : (writePadded width number).length = width := by
  have short : (write number).length ≤ width :=
    (Nat.length_toDigits_le_iff (by decide) positive).mpr fits
  rw [writePadded, List.length_leftpad, Nat.max_eq_left short]

theorem Text.isDigit_of_isBlank {char : Char} (blank : isBlank char) : char.isDigit = false := by
  rw [Bool.eq_false_iff]
  intro isDigit
  have bounds := Decimal.isDigit_bounds isDigit
  simp only [isBlank, blankRanges, List.any_cons, List.any_nil, Bool.or_eq_true, Bool.and_eq_true,
    decide_eq_true_eq, Bool.or_false] at blank
  omega

theorem Text.trimsTo_self {text : List Char} (visible : ∀ char ∈ text, isBlank char = false) :
    TrimsTo text text := by
  refine ⟨[], [], by simp, by simp, by simp, ?_, ?_⟩
  · exact fun char first => visible char (List.mem_of_head? first)
  · exact fun char last => visible char (List.mem_of_getLast? last)

theorem Text.trimsTo_of_visible_ends {front back blanksBefore blanksAfter : List Char}
    (between : Char) (frontNotEmpty : front ≠ []) (backNotEmpty : back ≠ [])
    (frontVisible : ∀ char ∈ front, isBlank char = false)
    (backVisible : ∀ char ∈ back, isBlank char = false)
    (blankBefore : ∀ char ∈ blanksBefore, isBlank char)
    (blankAfter : ∀ char ∈ blanksAfter, isBlank char) :
    TrimsTo (blanksBefore ++ ((front ++ between :: back) ++ blanksAfter))
      (front ++ between :: back) := by
  refine ⟨blanksBefore, blanksAfter, rfl, blankBefore, blankAfter, ?_, ?_⟩
  · intro char isFirst
    obtain ⟨first, rest, rfl⟩ := List.exists_cons_of_ne_nil frontNotEmpty
    rw [List.cons_append, List.head?_cons, Option.mem_some_iff] at isFirst
    exact frontVisible char (isFirst ▸ List.mem_cons_self)
  · intro char isLast
    obtain ⟨rest, last, rfl⟩ := (List.eq_nil_or_concat back).resolve_left backNotEmpty
    have same : last = char := by simpa [List.getLast?_cons, List.getLast?_append] using isLast
    exact backVisible char (by simp [same])

namespace Timestamp

theorem TimeForm.not_mem {text : List Char} {value : Nat × Nat × Nat × Nat} {char : Char}
    (isTime : TimeForm text value) (noDigit : char.isDigit = false) (noColon : char ≠ ':')
    (noPoint : char ≠ '.') : char ∉ text := by
  cases isTime with
  | minutes isHour isMinute =>
      simp only [List.mem_append, List.mem_cons]
      rintro (inHour | rfl | inMinute)
      · exact isHour.not_mem noDigit inHour
      · exact noColon rfl
      · exact isMinute.not_mem noDigit inMinute
  | seconds isHour isMinute isSecond =>
      simp only [List.mem_append, List.mem_cons]
      rintro (inHour | rfl | inMinute | rfl | inSecond)
      · exact isHour.not_mem noDigit inHour
      · exact noColon rfl
      · exact isMinute.not_mem noDigit inMinute
      · exact noColon rfl
      · exact isSecond.not_mem noDigit noPoint inSecond

section Visible

variable {text : List Char} {char : Char}

theorem DateForm.visible {value : Nat × Nat × Nat} (isDate : DateForm text value)
    (member : char ∈ text) : Text.isBlank char = false := by
  rw [Bool.eq_false_iff]
  intro blank
  refine isDate.not_mem (Text.isDigit_of_isBlank blank) ?_ member
  rintro rfl
  exact absurd blank (by decide)

theorem TimeForm.visible {value : Nat × Nat × Nat × Nat} (isTime : TimeForm text value)
    (member : char ∈ text) : Text.isBlank char = false := by
  rw [Bool.eq_false_iff]
  intro blank
  refine isTime.not_mem (Text.isDigit_of_isBlank blank) ?_ ?_ member
  · rintro rfl
    exact absurd blank (by decide)
  · rintro rfl
    exact absurd blank (by decide)

end Visible

theorem DateForm.ne_nil {text : List Char} {value : Nat × Nat × Nat}
    (isDate : DateForm text value) : text ≠ [] := by
  cases isDate with
  | numbers => simp

theorem TimeForm.ne_nil {text : List Char} {value : Nat × Nat × Nat × Nat}
    (isTime : TimeForm text value) : text ≠ [] := by
  cases isTime with
  | minutes => simp
  | seconds => simp

theorem Form.spaced {dateText timeText front back : List Char} {separator : Char}
    {year month day hour minute second millisecond : Nat}
    (isDate : DateForm dateText (year, month, day))
    (isTime : TimeForm timeText (hour, minute, second, millisecond))
    (isSeparator : separator = 'T' ∨ separator = ' ')
    (blankBefore : ∀ char ∈ front, Text.isBlank char)
    (blankAfter : ∀ char ∈ back, Text.isBlank char) :
    Form (Text.trim (front ++ ((dateText ++ separator :: timeText) ++ back)))
      { year, month, day, hour, minute, second, millisecond } := by
  have trims := Text.trimsTo_of_visible_ends separator isDate.ne_nil isTime.ne_nil
    (fun char => isDate.visible) (fun char => isTime.visible) blankBefore blankAfter
  rw [← trims.eq_trim]
  exact .dateTime isDate isSeparator (Text.trimsTo_self fun char => isTime.visible) isTime

def dateText (timestamp : Timestamp) : List Char :=
  Decimal.writePadded 4 timestamp.year.val ++ dateSeparator ::
    (Decimal.writePadded 2 timestamp.month.val ++ dateSeparator ::
      Decimal.writePadded 2 timestamp.day.val)

theorem text_eq (timestamp : Timestamp) :
    timestamp.text = timestamp.dateText ++ dateTimeSeparator :: timestamp.time.text := by
  simp [text, dateText]

theorem dateForm_padded {year month day : Nat} (yearBound : year ≤ 65535) (monthBound : month ≤ 255)
    (dayBound : day ≤ 255) :
    DateForm (Decimal.writePadded 4 year ++ dateSeparator ::
      (Decimal.writePadded 2 month ++ dateSeparator :: Decimal.writePadded 2 day))
      (year, month, day) :=
  .numbers ⟨Decimal.denotes_writePadded 4 year, yearBound⟩
    ⟨Decimal.denotes_writePadded 2 month, monthBound⟩ ⟨Decimal.denotes_writePadded 2 day, dayBound⟩

theorem dateText_form (timestamp : Timestamp) :
    DateForm timestamp.dateText
      (timestamp.year.val, timestamp.month.val, timestamp.day.val) := by
  have year := timestamp.year.le_greatest
  have month := timestamp.month.le_greatest
  have day := timestamp.day.le_greatest
  exact dateForm_padded (by omega) (by omega) (by omega)

theorem timeForm_padded {hour minute second millisecond : Nat} (hourBound : hour ≤ 255)
    (minuteBound : minute ≤ 255) (secondBound : second ≤ 255) (fits : millisecond ≤ 999) :
    TimeForm (Decimal.writePadded 2 hour ++ timeSeparator ::
      (Decimal.writePadded 2 minute ++ timeSeparator ::
        (Decimal.writePadded 2 second ++ fractionSeparator ::
          Decimal.writePadded 3 millisecond)))
      (hour, minute, second, millisecond) := by
  have threeDigits : (Decimal.writePadded 3 millisecond).length = 3 :=
    Decimal.length_writePadded (by decide) (by omega)
  have isFraction : FractionForm (Decimal.writePadded 3 millisecond) millisecond := by
    have digits := FractionForm.digits (Decimal.denotes_writePadded 3 millisecond)
      (Nat.le_of_eq threeDigits)
    rwa [threeDigits, Nat.sub_self, Nat.pow_zero, Nat.mul_one] at digits
  exact .seconds ⟨Decimal.denotes_writePadded 2 hour, hourBound⟩
    ⟨Decimal.denotes_writePadded 2 minute, minuteBound⟩
    (.fraction ⟨Decimal.denotes_writePadded 2 second, secondBound⟩ isFraction)

theorem time_text_form (time : TimeOfDay) :
    TimeForm time.text
      (time.hour.val, time.minute.val, time.second.val, time.millisecond.val) := by
  have hour := time.hour.le_greatest
  have minute := time.minute.le_greatest
  have second := time.second.le_greatest
  have isTime : TimeForm _
      (time.hour.val, time.minute.val, time.second.val, time.millisecond.val) :=
    timeForm_padded (by omega) (by omega) (by omega) time.millisecond.le_greatest
  simpa [TimeOfDay.text] using isTime

/-- The text of a timestamp, with a space in place of the T perhaps and with any blanks around. -/
inductive Written (timestamp : Timestamp) : List Char → Prop
  | intro {front back : List Char} {separator : Char} :
      (∀ char ∈ front, Text.isBlank char) → separator = 'T' ∨ separator = ' ' →
      (∀ char ∈ back, Text.isBlank char) →
      Written timestamp
        (front ++ ((timestamp.dateText ++ separator :: timestamp.time.text) ++ back))

theorem written_text (timestamp : Timestamp) : timestamp.Written timestamp.text := by
  have written : timestamp.Written
      ([] ++ ((timestamp.dateText ++ dateTimeSeparator :: timestamp.time.text) ++ [])) :=
    .intro (by simp) (.inl rfl) (by simp)
  rwa [List.nil_append, List.append_nil, ← text_eq] at written

theorem Written.form {timestamp : Timestamp} {text : List Char}
    (written : timestamp.Written text) : Form (Text.trim text) timestamp.numbers := by
  cases written with
  | intro blankBefore isSeparator blankAfter =>
      exact .spaced timestamp.dateText_form (time_text_form timestamp.time) isSeparator blankBefore
        blankAfter

theorem eq_of_numbers_eq {timestamp other : Timestamp} (same : timestamp.numbers = other.numbers) :
    timestamp = other := by
  obtain ⟨year, month, day, hour, minute, second, millisecond⟩ := timestamp
  obtain ⟨otherYear, otherMonth, otherDay, otherHour, otherMinute, otherSecond, otherMillisecond⟩ :=
    other
  simp only [numbers, Numbers.mk.injEq] at same
  obtain ⟨sameYear, sameMonth, sameDay, sameHour, sameMinute, sameSecond, sameMillisecond⟩ := same
  rw [Bounded.ext sameYear, Bounded.ext sameMonth, Bounded.ext sameDay, Bounded.ext sameHour,
    Bounded.ext sameMinute, Bounded.ext sameSecond, Bounded.ext sameMillisecond]

theorem violation?_numbers (timestamp : Timestamp) :
    timestamp.numbers.violation? =
      if timestamp.day.val ≤ monthLength timestamp.year.val timestamp.month.val then none
      else some { field := .day, value := timestamp.day.val, min := 1,
                  max := monthLength timestamp.year.val timestamp.month.val } := by
  have passes : ∀ {least greatest : Nat} (field : Field) (number : Bounded least greatest)
      (later : List FieldError), firstViolated
        ({ field, value := number.val, min := least, max := greatest } :: later) =
          firstViolated later := by
    intro least greatest field number later
    refine List.find?_cons_of_neg ?_
    rw [decide_eq_true_iff]
    exact fun outside =>
      outside ⟨Int.ofNat_le.mpr number.least_le, Int.ofNat_le.mpr number.le_greatest⟩
  have onlyDay : timestamp.numbers.violation? = firstViolated
      [{ field := .day, value := timestamp.day.val, min := 1,
         max := monthLength timestamp.year.val timestamp.month.val }] :=
    (passes .hour timestamp.time.hour _).trans <| (passes .minute timestamp.time.minute _).trans <|
    (passes .second timestamp.time.second _).trans <| (passes .year timestamp.year _).trans <|
    passes .month timestamp.month _
  have dayPos := timestamp.day.least_le
  rw [onlyDay]
  split
  next fits => exact List.find?_cons_of_neg (by simp [FieldError.Violated]; omega)
  next long => exact List.find?_cons_of_pos (by simp [FieldError.Violated]; omega)

theorem ofString_of_form {text : String} {numbers : Numbers}
    (isForm : Form (Text.trim text.toList) numbers) :
    ofString text = (ofNumbers numbers).mapError .invalidField := by
  have visible : Text.trim text.toList ≠ [] := by
    intro blank
    rw [blank] at isForm
    exact not_form_nil _ isForm
  have found : readNumbers text.toList = .ok numbers :=
    ((readNumbers_reads visible).eq_ok_iff _).mpr isForm
  simp only [ofString, read, found]
  rfl

theorem ofString_of_written {timestamp : Timestamp} {text : String}
    (written : timestamp.Written text.toList) :
    ofString text =
      if timestamp.day.val ≤ monthLength timestamp.year.val timestamp.month.val then .ok timestamp
      else .error (.invalidField
        { field := .day, value := timestamp.day.val, min := 1,
          max := monthLength timestamp.year.val timestamp.month.val }) := by
  have checks := ofNumbers_checks written.form.millisecond_le
  rw [Checks, ← Numbers.violation?, violation?_numbers] at checks
  rw [ofString_of_form written.form]
  split
  next fits =>
    rw [if_pos fits] at checks
    obtain ⟨other, built, sameNumbers⟩ := checks
    rw [built, eq_of_numbers_eq sameNumbers]
    rfl
  next long =>
    rw [if_neg long] at checks
    rw [checks]
    rfl

theorem written_toString (timestamp : Timestamp) :
    timestamp.Written (toString timestamp).toList := by
  change timestamp.Written (String.ofList timestamp.text).toList
  rw [String.toList_ofList]
  exact timestamp.written_text

theorem Valid.ofString_text {timestamp : Timestamp} (valid : timestamp.Valid) :
    ofString (toString timestamp) = .ok timestamp :=
  (ofString_of_written timestamp.written_toString).trans (if_pos valid.2.2.2)

/-- A timestamp is read back from its text, however that is written, if its day is one of its month,
and otherwise that day is reported. What was read from any text is therefore read again from the
text it is written as. -/
theorem ofString_written :
    (∀ (timestamp : Timestamp) (text : String), timestamp.Written text.toList →
      ofString text =
        if timestamp.day.val ≤ monthLength timestamp.year.val timestamp.month.val then
          .ok timestamp
        else .error (.invalidField
          { field := .day, value := timestamp.day.val, min := 1,
            max := monthLength timestamp.year.val timestamp.month.val })) ∧
    (∀ timestamp : Timestamp, timestamp.Written (toString timestamp).toList) ∧
    ∀ (text : String) (timestamp : Timestamp), ofString text = .ok timestamp →
      ofString (toString timestamp) = .ok timestamp := by
  refine ⟨fun timestamp text => ofString_of_written, written_toString, ?_⟩
  intro text timestamp accepted
  exact (valid_of_ofString accepted).ofString_text

theorem ofString_written_march31 :
    march31.Written " 2011-03-31 23:59:59.999\u3000".toList ∧
      ofString " 2011-03-31 23:59:59.999\u3000" = .ok march31 ∧
    february31.Written (toString february31).toList ∧
      ofString (toString february31) =
        .error (.invalidField { field := .day, value := 31, min := 1, max := 28 }) ∧
    ofString "2011-3-31 23:59:59.999" = .ok march31 ∧
      ofString (toString march31) = .ok march31 := by
  have spaced : march31.Written " 2011-03-31 23:59:59.999\u3000".toList :=
    @Written.intro march31 [' '] ['\u3000'] ' '
      (List.forall_mem_singleton.mpr (by decide)) (.inr rfl)
      (List.forall_mem_singleton.mpr (by decide))
  have written := ofString_written.2.1 february31
  have short : ofString "2011-3-31 23:59:59.999" = .ok march31 := by decide +kernel
  exact ⟨spaced, (ofString_written.1 march31 _ spaced).trans (if_pos (by decide)),
    written, (ofString_written.1 february31 _ written).trans (if_neg (by decide)),
    short, ofString_written.2.2 _ march31 short⟩

end Timestamp

end DateAdjust
