import DateAdjust.Text.Blank
import DateAdjust.Text.Parts
import DateAdjust.Timestamp.Printer

/-! Reading a timestamp from text: a date, and perhaps a time behind a T or a space. The whole form
is read before any number is held against its range. -/

namespace DateAdjust

inductive ReadError where
  | invalidFormat (detail : String)
  | invalidField (error : FieldError)
  | emptyInput
  deriving DecidableEq, Repr

def ReadError.message : ReadError → String
  | invalidFormat detail => s!"Invalid timestamp format: {detail}"
  | invalidField error => error.message
  | emptyInput => "Empty timestamp string"

namespace Timestamp

structure Numbers where
  year : Nat
  month : Nat
  day : Nat
  hour : Nat
  minute : Nat
  second : Nat
  millisecond : Nat
  deriving DecidableEq, Repr

/-- Years are read up to this number, and a larger one is no year at all. -/
def yearLimit : Nat := 65535

def fieldLimit : Nat := 255

def fractionDigits : Nat := 3

def readNumber (limit : Nat) (text : List Char) : Except ReadError Nat :=
  match Decimal.read? text with
  | some number =>
    if number ≤ limit then .ok number else .error (.invalidFormat (String.ofList text))
  | none => .error (.invalidFormat (String.ofList text))

def readFraction (text : List Char) : Except ReadError Nat :=
  if fractionDigits < Text.byteLength text then
    .error (.invalidFormat
      s!"At most {fractionDigits} fraction digits supported, found {String.ofList text}")
  else do
    let number ← readNumber 999 text
    return number * Nat.pow 10 (fractionDigits - text.length)

def readSeconds (text : List Char) : Except ReadError (Nat × Nat) :=
  match Text.splitOnce (· == fractionSeparator) text with
  | (whole, none) => do return (← readNumber fieldLimit whole, 0)
  | (whole, some fraction) => do
    return (← readNumber fieldLimit whole, ← readFraction fraction)

def readDate (text : List Char) : Except ReadError (Nat × Nat × Nat) :=
  match text.splitOn dateSeparator with
  | [year, month, day] => do
    return (← readNumber yearLimit year, ← readNumber fieldLimit month,
      ← readNumber fieldLimit day)
  | _ => .error (.invalidFormat s!"Expected YYYY-MM-DD, found {String.ofList text}")

def readTime (text : List Char) : Except ReadError (Nat × Nat × Nat × Nat) :=
  match text.splitOn timeSeparator with
  | [hour, minute] => do
    return (← readNumber fieldLimit hour, ← readNumber fieldLimit minute, 0, 0)
  | [hour, minute, seconds] => do
    let (second, millisecond) ← readSeconds seconds
    return (← readNumber fieldLimit hour, ← readNumber fieldLimit minute, second, millisecond)
  | _ => .error (.invalidFormat s!"Expected HH:MM[:SS[.fff]], found {String.ofList text}")

def readNumbers (text : List Char) : Except ReadError Numbers :=
  if Text.trim text = [] then .error .emptyInput
  else
    match Text.splitOnce (fun char => char == dateTimeSeparator || char == ' ')
      (Text.trim text) with
    | (date, none) => do
      let (year, month, day) ← readDate date
      return { year, month, day, hour := 0, minute := 0, second := 0, millisecond := 0 }
    | (date, some time) => do
      let (year, month, day) ← readDate date
      let (hour, minute, second, millisecond) ← readTime (Text.trim time)
      return { year, month, day, hour, minute, second, millisecond }

/-- Checks the time, which is read as a whole, and then the parts of the date. -/
def ofNumbers (numbers : Numbers) : Except FieldError Timestamp := do
  let time ← TimeOfDay.check numbers.hour numbers.minute numbers.second numbers.millisecond
  let year ← Year.check numbers.year
  let month ← Month.check numbers.month
  let day ← Day.checkIn year.val month numbers.day
  return { year, month, day, time }

theorem ofNumbers_eq_check (numbers : Numbers) :
    ofNumbers numbers = check numbers.year numbers.month numbers.day
      numbers.hour numbers.minute numbers.second numbers.millisecond := by
  simp only [ofNumbers, check, ofDate, bind_assoc, pure_bind]
  rfl

def read (text : List Char) : Except ReadError Timestamp := do
  let numbers ← readNumbers text
  (ofNumbers numbers).mapError .invalidField

def ofString (text : String) : Except ReadError Timestamp :=
  read text.toList

end Timestamp

end DateAdjust
