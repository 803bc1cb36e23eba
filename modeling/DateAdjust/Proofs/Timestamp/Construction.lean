import DateAdjust.Proofs.Timestamp.RoundTrip

/-! Timestamps built from numbers and from the text of these numbers: both ways accept the same
numbers and refuse the others with the same report. -/

namespace DateAdjust.Timestamp

namespace Numbers

/-- The numbers in the layout of a timestamp, a number that is wider than its field in all its
digits. -/
def text (numbers : Numbers) : List Char :=
  Decimal.writePadded 4 numbers.year ++ [dateSeparator] ++
  Decimal.writePadded 2 numbers.month ++ [dateSeparator] ++
  Decimal.writePadded 2 numbers.day ++ [dateTimeSeparator] ++
  Decimal.writePadded 2 numbers.hour ++ [timeSeparator] ++
  Decimal.writePadded 2 numbers.minute ++ [timeSeparator] ++
  Decimal.writePadded 2 numbers.second ++ [fractionSeparator] ++
  Decimal.writePadded 3 numbers.millisecond

instance : ToString Numbers where
  toString numbers := String.ofList numbers.text

end Numbers

theorem text_numbers (timestamp : Timestamp) : timestamp.numbers.text = timestamp.text := by
  simp [Numbers.text, text, TimeOfDay.text, numbers]

/-- What is built from numbers, beside what is read from their text. -/
structure BuiltAsRead (numbers : Numbers) (built : Except FieldError Timestamp) : Prop where
  accepted : ∀ timestamp, ofString (toString numbers) = .ok timestamp ↔ built = .ok timestamp
  refused : ∀ error, ofString (toString numbers) = .error error ↔
    ∃ report, built = .error report ∧ error = .invalidField report
  first_violation : ∀ report, built = .error report ↔ numbers.violation? = some report
  printed : ∀ timestamp, built = .ok timestamp → toString timestamp = toString numbers

theorem builtAsRead_of_form {numbers : Numbers} (isForm : Form (Text.trim numbers.text) numbers) :
    BuiltAsRead numbers (check numbers.year numbers.month numbers.day
      numbers.hour numbers.minute numbers.second numbers.millisecond) := by
  rw [← ofNumbers_eq_check]
  have checks := ofNumbers_checks isForm.millisecond_le
  have read : ofString (toString numbers) = (ofNumbers numbers).mapError .invalidField := by
    apply ofString_of_form
    change Form (Text.trim (String.ofList numbers.text).toList) numbers
    rwa [String.toList_ofList]
  refine ⟨?_, ?_, checks.eq_error_iff, ?_⟩
  · intro timestamp
    rw [read, Result.mapError_eq_ok_iff]
  · intro error
    rw [read, Result.mapError_eq_error_iff]
  · intro timestamp built
    change String.ofList timestamp.text = String.ofList numbers.text
    rw [← text_numbers, checks.holds built]

section Words

variable (year : UInt16) (month day hour minute second : UInt8) (millisecond : Bounded 0 999)

/-- Numbers of the widths in which the fields of a timestamp are asked for. -/
def Numbers.ofWords : Numbers where
  year := year.toNat
  month := month.toNat
  day := day.toNat
  hour := hour.toNat
  minute := minute.toNat
  second := second.toNat
  millisecond := millisecond.val

theorem form_ofWords :
    Form (Text.trim (Numbers.ofWords year month day hour minute second millisecond).text)
      (.ofWords year month day hour minute second millisecond) := by
  have byte : ∀ word : UInt8, word.toNat ≤ 255 := fun word => Nat.le_of_lt_succ word.toNat_lt
  have isDate := dateForm_padded (Nat.le_of_lt_succ year.toNat_lt) (byte month) (byte day)
  have isTime := timeForm_padded (byte hour) (byte minute) (byte second) millisecond.le_greatest
  have isForm := Form.spaced isDate isTime (.inl rfl) (List.forall_mem_nil _)
    (List.forall_mem_nil _)
  simpa [Numbers.text, Numbers.ofWords, dateTimeSeparator] using isForm

/-- Whatever numbers a timestamp is asked for, their text is read as the timestamp that is built
from them, or refused with the same report. -/
theorem builtAsRead :
    BuiltAsRead (.ofWords year month day hour minute second millisecond)
      (check year.toNat month.toNat day.toNat hour.toNat minute.toNat second.toNat
        millisecond.val) :=
  builtAsRead_of_form (form_ofWords year month day hour minute second millisecond)

end Words

example : ofString "65535-13-255T23:60:99.999" =
    .error (.invalidField { field := .minute, value := 60, min := 0, max := 59 }) := by
  decide +kernel

end DateAdjust.Timestamp
